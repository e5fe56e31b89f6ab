import Mathlib.Data.List.Forall2
import Rehearsal.Proofs.Json.Decoding
import Rehearsal.Proofs.Text.Lines
import Rehearsal.Proofs.Trail.Identifier
import Rehearsal.Proofs.Trail.Instant
import Rehearsal.Trail.Entry
/-!
# Trails in writing

A trail is written with one line for each entry, and each line is read as that entry.
-/

set_option autoImplicit false

namespace Rehearsal

open Json (Value Source memberDocs)

/-! ## Actions -/

namespace Action

/-- How the argument of an action is written. -/
def argument : String ⊕ Option String → Value
  | .inl text => .string text
  | .inr text => .ofText? text

def arguments (action : Action) : List (String × Value) :=
  action.members.map fun (label, value) => (label, argument value)

theorem toJson_eq (action : Action) :
    action.toJson = .object ((Json.tagName, .string action.kind) :: action.arguments) := by
  cases action <;> rfl

theorem textShape_decode (kind label : String) (action : String → Action) (text : String) :
    (textShape kind label action).decode .held (Value.object [(label, .string text)]).doc =
      .ok (action text) := by
  have taken : (textShape kind label action).member .held none label (Value.string text).doc =
      .ok (some text) :=
    (if_pos rfl).trans (Json.once_none label (Json.text_doc .held text))
  exact (textShape kind label action).decode_object rfl (Json.foldMembers_cons taken [])

theorem pairShape_decode (kind : String) {label extra : String} (apart : label ≠ extra)
    (action : String → Option String → Action) (text : String) (other : Option String) :
    (pairShape kind label extra action).decode .held
        (Value.object [(label, .string text), (extra, .ofText? other)]).doc =
      .ok (action text other) := by
  have first : (pairShape kind label extra action).member .held ⟨none, none⟩ label
      (Value.string text).doc = .ok ⟨some text, none⟩ := by
    refine (if_pos rfl).trans ?_
    rw [Json.once_none label (Json.text_doc .held text)]
    rfl
  have second : (pairShape kind label extra action).member .held ⟨some text, none⟩ extra
      (Value.ofText? other).doc = .ok ⟨some text, some other⟩ := by
    refine ((if_neg apart.symm).trans (if_pos rfl)).trans ?_
    rw [Json.once_none extra (Json.optional_text_doc .held other)]
    rfl
  exact (pairShape kind label extra action).decode_object rfl
    ((Json.foldMembers_cons first _).trans (Json.foldMembers_cons second []))

theorem variant_kind (action : Action) :
    variant action.kind .held (Value.object action.arguments).doc = .ok action := by
  cases action with
  | launch app file => exact pairShape_decode "Launch" (by decide) .launch app file
  | click name role => exact pairShape_decode "Click" (by decide) .click name role
  | focusFrame name => exact textShape_decode "FocusFrame" "name" .focusFrame name
  | focusDialog name => exact textShape_decode "FocusDialog" "name" .focusDialog name
  | focusWidget name => exact textShape_decode "FocusWidget" "name" .focusWidget name
  | setText text => exact textShape_decode "SetText" "text" .setText text
  | activate => rfl
  | typeText text => exact textShape_decode "TypeText" "text" .typeText text
  | keyCombo combo => exact textShape_decode "KeyCombo" "combo" .keyCombo combo
  | waitForNot name role => exact pairShape_decode "WaitForNot" (by decide) .waitForNot name role
  | assertText expected => exact textShape_decode "AssertText" "expected" .assertText expected

theorem kind_mem_kinds (action : Action) : action.kind ∈ kinds := by
  cases action <;> simp [kind, kinds]

theorem flat_argument (value : String ⊕ Option String) :
    (argument value).InRange ∧ (argument value).nesting = 0 := by
  rcases value with text | (_ | text) <;> exact ⟨trivial, rfl⟩

theorem arguments_held (action : Action) :
    Json.MembersInRange action.arguments ∧ Json.memberNesting action.arguments ≤ 0 := by
  constructor
  · rw [Json.membersInRange_iff]
    intro member present
    obtain ⟨entry, -, rfl⟩ := List.mem_map.mp present
    exact (flat_argument entry.2).1
  · apply Json.memberNesting_le
    intro member present
    obtain ⟨entry, -, rfl⟩ := List.mem_map.mp present
    exact Nat.le_of_eq (flat_argument entry.2).2

theorem tagName_not_mem_arguments (action : Action) :
    ∀ member ∈ action.arguments, member.1 ≠ Json.tagName := by
  cases action <;> simp [arguments, members, Json.tagName]

theorem decoder_toJson (action : Action) (room : Nat) :
    decoder (.text (room + 1)) action.toJson.doc = .ok action := by
  obtain ⟨inRange, flat⟩ := action.arguments_held
  rw [toJson_eq, decoder]
  exact (Json.tagged_of_front action.kind_mem_kinds action.tagName_not_mem_arguments inRange
    (Nat.le_trans flat (Nat.zero_le room))).trans action.variant_kind

end Action

theorem Outcome.decoder_toJson (outcome : Outcome) (room : Nat) :
    decoder (.text (room + 1)) outcome.toJson.doc = .ok outcome := by
  cases outcome <;> rfl

/-! ## Entries -/

namespace Entry

/-- Whether the parts of an entry are of the widths that it holds. -/
@[mk_iff]
structure IsSound (entry : Entry) : Prop where
  identifier : entry.identifier.IsSound
  time : entry.time.IsSound
  duration : ∀ duration ∈ entry.duration, duration < Text.bound64

instance (entry : Entry) : Decidable entry.IsSound := decidable_of_iff' _ (isSound_iff entry)

variable {entry : Entry}

theorem identifierDecoder_doc (source : Source) {identifier : Identifier}
    (sound : identifier.IsSound) :
    identifierDecoder source (Value.string identifier.text).doc = .ok identifier := by
  simp [identifierDecoder, Value.doc, Json.textOf, Json.liftFault, Identifier.ofText_text sound,
    bind, Except.bind, pure, Except.pure]

theorem timeDecoder_doc (source : Source) {time : Instant} (sound : time.IsSound) :
    timeDecoder source (Value.string time.text).doc = .ok time.settled := by
  simp [timeDecoder, Value.doc, Json.textOf, Json.liftFault, Instant.ofText_text sound, bind,
    Except.bind, pure, Except.pure]

theorem decoder_toJson (sound : entry.IsSound) :
    decoder (.text Json.nestingLimit) entry.toJson.doc =
      .ok { entry with time := entry.time.settled } := by
  obtain ⟨identifier, time, action, outcome, duration⟩ := entry
  obtain ⟨soundIdentifier, soundTime, soundDuration⟩ := sound
  have first := Json.once_none "id" (identifierDecoder_doc (.text 126) soundIdentifier)
  have second := Json.once_none "timestamp" (timeDecoder_doc (.text 126) soundTime)
  have third := Json.once_none "action" (action.decoder_toJson 125)
  have fourth := Json.once_none "result" (outcome.decoder_toJson 125)
  let before : Parts := ⟨some identifier, some time.settled, some action, some outcome, none⟩
  cases duration with
  | none =>
      have folded : Json.foldMembers (shape.member (.text 126)) shape.start
          (memberDocs [("id", .string identifier.text), ("timestamp", .string time.text),
            ("action", action.toJson), ("result", outcome.toJson)]) = .ok before := by
        simp [shape, memberDocs, Json.foldMembers, Json.liftFault, first, second, third, fourth,
          before, bind, Except.bind, pure, Except.pure]
      exact shape.decode_object rfl folded
  | some duration =>
      have small := soundDuration duration rfl
      have read : Json.optional Json.word64 (.text 126) (Value.number duration).doc =
          .ok (some duration) :=
        congrArg (Except.map some) (Json.naturalBelow_doc "u64" (.text 126) small small)
      have last := Json.once_none "duration_ms" read
      have folded : Json.foldMembers (shape.member (.text 126)) shape.start
          (memberDocs [("id", .string identifier.text), ("timestamp", .string time.text),
            ("action", action.toJson), ("result", outcome.toJson),
            ("duration_ms", .number duration)]) =
              .ok { before with duration := some (some duration) } := by
        simp [shape, memberDocs, Json.foldMembers, Json.liftFault, first, second, third, fourth,
          last, before, bind, Except.bind, pure, Except.pure]
      exact shape.decode_object rfl folded

theorem decode_compact (sound : entry.IsSound) :
    Json.decode decoder entry.toJson.compact = .ok { entry with time := entry.time.settled } := by
  have read := Json.decode_of_spells decoder (Json.spells_compactList entry.toJson) Json.isGap_nil
  rw [List.append_nil] at read
  rw [Value.compact, read, decoder_toJson sound]

end Entry

/-! ## Trails -/

namespace Trail

theorem newline_not_mem_compact (trail : Trail) :
    ∀ line ∈ trail.map fun entry => entry.toJson.compact, '\n' ∉ line.toList := by
  intro line member
  obtain ⟨entry, -, rfl⟩ := List.mem_map.mp member
  exact Json.newline_not_mem_compact entry.toJson

theorem lines_eq_join (trail : Trail) :
    trail.lines = String.join ((trail.map fun entry => entry.toJson.compact).map (· ++ "\n")) := by
  rw [lines, List.map_map]
  rfl

theorem splitOn_lines (trail : Trail) :
    trail.lines.toList.splitOn '\n' =
      (trail.map fun entry => entry.toJson.compact).map String.toList ++ [[]] := by
  rw [lines_eq_join, Text.toList_join_ended]
  apply Text.splitOn_ended
  intro line member
  obtain ⟨text, written, rfl⟩ := List.mem_map.mp member
  exact trail.newline_not_mem_compact text written

/-- Whether a text tells a trail: it has one line for each entry, in order, with nothing behind the
last line feed, and the line of an entry whose parts are of the widths that it holds is read as that
entry. -/
def ToldBy (trail : Trail) (text : String) : Prop :=
  ∃ rows : List String,
    text.toList.splitOn '\n' = rows.map String.toList ++ [[]] ∧
    List.Forall₂ (fun entry row => entry.IsSound →
      Json.decode Entry.decoder row = .ok { entry with time := entry.time.settled }) trail rows

theorem toldBy_lines (trail : Trail) : trail.ToldBy trail.lines := by
  refine ⟨_, trail.splitOn_lines, ?_⟩
  rw [List.forall₂_map_right_iff, List.forall₂_same]
  intro entry _ sound
  exact Entry.decode_compact sound

end Trail

/-- A trail is written with one line for each entry and no other line feed. The lines between the
line feeds are read as the entries, in order: each with its identifier, action, outcome and
duration, and with its time, where a second that is no inserted one is carried. -/
theorem Trail.reads_back_from_lines (trail : Trail) (sound : ∀ entry ∈ trail, entry.IsSound) :
    let lines := trail.map fun entry => entry.toJson.compact
    trail.lines = String.join (lines.map (· ++ "\n")) ∧
    (∀ line ∈ lines, '\n' ∉ line.toList) ∧
    trail.lines.toList.splitOn '\n' = lines.map String.toList ++ [[]] ∧
    lines.map (Json.decode Entry.decoder) =
      trail.map fun entry => .ok { entry with time := entry.time.settled } := by
  intro lines
  refine ⟨trail.lines_eq_join, trail.newline_not_mem_compact, trail.splitOn_lines, ?_⟩
  rw [List.map_map]
  apply List.map_congr_left
  intro entry member
  rw [Function.comp_apply, Entry.decode_compact (sound entry member)]

/-- An inserted second, a message with line feeds, and durations that are zero and absent. -/
theorem Trail.reads_back_from_failure :
    let identifier : Identifier := ⟨List.replicate 32 10⟩
    let launch : Entry := ⟨identifier, ⟨2016, 12, 31, 23, 59, 59, 1500000000⟩, .launch "a" none,
      .failure "b\n\"c\"\n\\", some 0⟩
    let activate : Entry := ⟨identifier, ⟨-4, 2, 29, 0, 0, 0, 1⟩, .activate, .success, none⟩
    let trail : Trail := [launch, activate]
    (∀ entry ∈ trail, entry.IsSound) ∧
      (trail.map fun entry => entry.toJson.compact).map (Json.decode Entry.decoder) =
        [.ok launch, .ok activate] := by
  intro identifier launch activate trail
  have sound : ∀ entry ∈ trail, entry.IsSound := by decide
  exact ⟨sound, (Trail.reads_back_from_lines trail sound).2.2.2⟩

end Rehearsal
