import Rehearsal.Proofs.Json.Decoding
import Rehearsal.Settings.Codec
/-!
# Settings in writing

Settings are read from their members in any order, between any members of other names. A member that
is not there leaves its field at the default.
-/

set_option autoImplicit false

namespace Rehearsal.Settings

open Json (Value Doc Source Renders IsGap)

/-- Whether the numbers of settings are words of their widths. -/
structure InRange (settings : Settings) : Prop where
  launchTimeout : settings.launchTimeout < Text.bound64
  pollInterval : settings.pollInterval < Text.bound64
  searchAttempts : settings.searchAttempts < Text.bound32
  searchBackoff : settings.searchBackoff < Text.bound64

/-- The names of the members that are looked at. -/
def names : List String :=
  ["app", "app_name", "app_args", "locale", "fixtures_dir", "bridge_command", "launch_timeout_ms",
    "poll_interval_ms", "search_attempts", "search_backoff_ms", "diagnostics_dir",
    "capture_screenshot"]

/-- The settings in which the fields of some names have their defaults. -/
def reset (settings : Settings) (dropped : List String) : Settings where
  app := if "app" ∈ dropped then default.app else settings.app
  appName := if "app_name" ∈ dropped then default.appName else settings.appName
  appArgs := if "app_args" ∈ dropped then default.appArgs else settings.appArgs
  locale := if "locale" ∈ dropped then default.locale else settings.locale
  fixturesDir := if "fixtures_dir" ∈ dropped then default.fixturesDir else settings.fixturesDir
  bridgeCommand :=
    if "bridge_command" ∈ dropped then default.bridgeCommand else settings.bridgeCommand
  launchTimeout :=
    if "launch_timeout_ms" ∈ dropped then default.launchTimeout else settings.launchTimeout
  pollInterval :=
    if "poll_interval_ms" ∈ dropped then default.pollInterval else settings.pollInterval
  searchAttempts :=
    if "search_attempts" ∈ dropped then default.searchAttempts else settings.searchAttempts
  searchBackoff :=
    if "search_backoff_ms" ∈ dropped then default.searchBackoff else settings.searchBackoff
  diagnosticsDir :=
    if "diagnostics_dir" ∈ dropped then default.diagnosticsDir else settings.diagnosticsDir
  captureScreenshot :=
    if "capture_screenshot" ∈ dropped then default.captureScreenshot
    else settings.captureScreenshot

/-! ## The members of settings -/

/-- The members that settings are written with. -/
inductive HasMember (settings : Settings) : String → Value → Prop where
  | app : HasMember settings "app" (.string settings.app)
  | appName {name : String} (given : settings.appName = some name) :
      HasMember settings "app_name" (.string name)
  | appArgs (given : settings.appArgs ≠ []) :
      HasMember settings "app_args" (.ofTexts settings.appArgs)
  | locale : HasMember settings "locale" (.string settings.locale)
  | fixturesDir {path : String} (given : settings.fixturesDir = some path) :
      HasMember settings "fixtures_dir" (.string path)
  | bridgeCommand : HasMember settings "bridge_command" (.ofTexts settings.bridgeCommand)
  | launchTimeout : HasMember settings "launch_timeout_ms" (.number settings.launchTimeout)
  | pollInterval : HasMember settings "poll_interval_ms" (.number settings.pollInterval)
  | searchAttempts : HasMember settings "search_attempts" (.number settings.searchAttempts)
  | searchBackoff : HasMember settings "search_backoff_ms" (.number settings.searchBackoff)
  | diagnosticsDir {path : String} (given : settings.diagnosticsDir = some path) :
      HasMember settings "diagnostics_dir" (.string path)
  | captureScreenshot : HasMember settings "capture_screenshot" (.bool settings.captureScreenshot)

/-- The members of the written form. -/
def written (settings : Settings) : List (String × Value) :=
  [("app", .string settings.app)] ++
  (settings.appName.map fun name => ("app_name", Value.string name)).toList ++
  (if settings.appArgs.isEmpty then [] else [("app_args", Value.ofTexts settings.appArgs)]) ++
  [("locale", .string settings.locale)] ++
  (settings.fixturesDir.map fun path => ("fixtures_dir", Value.string path)).toList ++
  [("bridge_command", .ofTexts settings.bridgeCommand),
    ("launch_timeout_ms", .number settings.launchTimeout),
    ("poll_interval_ms", .number settings.pollInterval),
    ("search_attempts", .number settings.searchAttempts),
    ("search_backoff_ms", .number settings.searchBackoff)] ++
  (settings.diagnosticsDir.map fun path => ("diagnostics_dir", Value.string path)).toList ++
  [("capture_screenshot", .bool settings.captureScreenshot)]

theorem toJson_eq (settings : Settings) : settings.toJson = .object settings.written := rfl

theorem hasMember_iff_mem {settings : Settings} {name : String} {value : Value} :
    settings.HasMember name value ↔ (name, value) ∈ settings.written := by
  constructor
  · intro member
    cases member with
    | appName given => simp [written, given]
    | appArgs given => simp [written, given]
    | fixturesDir given => simp [written, given]
    | diagnosticsDir given => simp [written, given]
    | _ => simp [written]
  · intro member
    simp only [written, List.mem_append, List.mem_cons, List.not_mem_nil, or_false,
      Option.mem_toList, Option.map_eq_some_iff, List.mem_ite_nil_left, List.isEmpty_iff] at member
    rcases member with ((((((same | ⟨text, given, same⟩) | ⟨given, same⟩) | same) |
      ⟨text, given, same⟩) | same | same | same | same | same) | ⟨text, given, same⟩) | same
    · cases same; exact .app
    · cases same; exact .appName given
    · cases same; exact .appArgs given
    · cases same; exact .locale
    · cases same; exact .fixturesDir given
    · cases same; exact .bridgeCommand
    · cases same; exact .launchTimeout
    · cases same; exact .pollInterval
    · cases same; exact .searchAttempts
    · cases same; exact .searchBackoff
    · cases same; exact .diagnosticsDir given
    · cases same; exact .captureScreenshot

/-! ## Taking in the members -/

/-- The members of settings of which those of some names have been read. -/
def partsOf (settings : Settings) (keys : List String) : Parts where
  app := if "app" ∈ keys then some settings.app else none
  appName := if "app_name" ∈ keys then some settings.appName else none
  appArgs := if "app_args" ∈ keys then some settings.appArgs else none
  locale := if "locale" ∈ keys then some settings.locale else none
  fixturesDir := if "fixtures_dir" ∈ keys then some settings.fixturesDir else none
  bridgeCommand := if "bridge_command" ∈ keys then some settings.bridgeCommand else none
  launchTimeout := if "launch_timeout_ms" ∈ keys then some settings.launchTimeout else none
  pollInterval := if "poll_interval_ms" ∈ keys then some settings.pollInterval else none
  searchAttempts := if "search_attempts" ∈ keys then some settings.searchAttempts else none
  searchBackoff := if "search_backoff_ms" ∈ keys then some settings.searchBackoff else none
  diagnosticsDir := if "diagnostics_dir" ∈ keys then some settings.diagnosticsDir else none
  captureScreenshot :=
    if "capture_screenshot" ∈ keys then some settings.captureScreenshot else none

section

variable {settings : Settings} {keys : List String} {name : String} {room : Nat}

theorem partsOf_cons_of_unknown (unknown : name ∉ names) :
    settings.partsOf (name :: keys) = settings.partsOf keys := by
  have other {known : String} (listed : known ∈ names) : known ∈ name :: keys ↔ known ∈ keys := by
    have differs : known ≠ name := fun same => unknown (same ▸ listed)
    simp [differs]
  simp only [partsOf]
  simp only [names] at other
  simp [other]

theorem member_of_unknown (unknown : name ∉ names) (source : Source) (parts : Parts) {doc : Doc}
    (skipped : source.skip doc = .ok ()) : member source parts name doc = .ok parts := by
  unfold member
  split
  case h_13 =>
    rw [skipped]
    rfl
  all_goals exact absurd (by decide) unknown

theorem texts_doc (room : Nat) (content : List String) :
    texts (.text (room + 1)) (Value.ofTexts content).doc = .ok content :=
  Json.list_doc rfl (Json.decodeItems_text_doc (.text room) content)

theorem member_of_hasMember (inRange : settings.InRange) {value : Value}
    (fits : settings.HasMember name value) (fresh : name ∉ keys) :
    member (.text (room + 1)) (settings.partsOf keys) name value.doc =
      .ok (settings.partsOf (name :: keys)) := by
  obtain ⟨launchTimeout, pollInterval, searchAttempts, searchBackoff⟩ := inRange
  have word64 {count : Nat} (small : count < Text.bound64) :
      Json.word64 (.text (room + 1)) (Value.number count).doc = .ok count :=
    Json.naturalBelow_doc "u64" _ small small
  have word32 {count : Nat} (small : count < Text.bound32) :
      Json.word32 (.text (room + 1)) (Value.number count).doc = .ok count :=
    Json.naturalBelow_doc "u32" _ small (Nat.lt_trans small (by decide))
  have present (decoder : Json.Decoder String) (text : String)
      (read : decoder (.text (room + 1)) (Value.string text).doc = .ok text) :
      Json.optional decoder (.text (room + 1)) (Value.string text).doc = .ok (some text) :=
    congrArg (Except.map some) read
  cases fits with
  | app =>
      have taken := Json.once_of_fresh fresh (Json.text_doc (.text (room + 1)) settings.app)
      simp [member, partsOf, taken, bind, Except.bind, pure, Except.pure]
  | @appName name given =>
      have taken := Json.once_of_fresh fresh (present Json.text name rfl)
      simp [member, partsOf, given, taken, bind, Except.bind, pure, Except.pure]
  | appArgs =>
      have taken := Json.once_of_fresh fresh (texts_doc room settings.appArgs)
      simp [member, partsOf, taken, bind, Except.bind, pure, Except.pure]
  | locale =>
      have taken := Json.once_of_fresh fresh (Json.text_doc (.text (room + 1)) settings.locale)
      simp [member, partsOf, taken, bind, Except.bind, pure, Except.pure]
  | @fixturesDir path given =>
      have taken := Json.once_of_fresh fresh (present (Json.textOf "path string") path rfl)
      simp [member, Settings.path, partsOf, given, taken, bind, Except.bind, pure, Except.pure]
  | bridgeCommand =>
      have taken := Json.once_of_fresh fresh (texts_doc room settings.bridgeCommand)
      simp [member, partsOf, taken, bind, Except.bind, pure, Except.pure]
  | launchTimeout =>
      have taken := Json.once_of_fresh fresh (word64 launchTimeout)
      simp [member, partsOf, taken, bind, Except.bind, pure, Except.pure]
  | pollInterval =>
      have taken := Json.once_of_fresh fresh (word64 pollInterval)
      simp [member, partsOf, taken, bind, Except.bind, pure, Except.pure]
  | searchAttempts =>
      have taken := Json.once_of_fresh fresh (word32 searchAttempts)
      simp [member, partsOf, taken, bind, Except.bind, pure, Except.pure]
  | searchBackoff =>
      have taken := Json.once_of_fresh fresh (word64 searchBackoff)
      simp [member, partsOf, taken, bind, Except.bind, pure, Except.pure]
  | @diagnosticsDir path given =>
      have taken := Json.once_of_fresh fresh (present (Json.textOf "path string") path rfl)
      simp [member, Settings.path, partsOf, given, taken, bind, Except.bind, pure, Except.pure]
  | captureScreenshot =>
      have read : Json.flag (.text (room + 1)) (Value.bool settings.captureScreenshot).doc =
          .ok settings.captureScreenshot :=
        rfl
      have taken := Json.once_of_fresh fresh read
      simp [member, partsOf, taken, bind, Except.bind, pure, Except.pure]

/-- The names of the written members that are not among some. -/
def dropped (settings : Settings) (kept : List String) : List String :=
  (settings.written.map Prod.fst).filter fun name => name ∉ kept

theorem mem_dropped_iff {settings : Settings} {kept : List String} {name : String} :
    name ∈ settings.dropped kept ↔ (∃ value, settings.HasMember name value) ∧ name ∉ kept := by
  simp [dropped, hasMember_iff_mem]

theorem partsOf_congr {first second : List String}
    (same : ∀ name ∈ names, name ∈ first ↔ name ∈ second) :
    settings.partsOf first = settings.partsOf second := by
  simp only [names, List.forall_mem_cons] at same
  simp only [partsOf, same]

/-- The members of settings are taken in one after the other, and those of other names are passed
over. -/
theorem foldMembers_of_kept (inRange : settings.InRange) {kept : List (String × Doc)}
    (known : ∀ member ∈ kept, member.1 ∈ names →
      ∃ value, settings.HasMember member.1 value ∧ member.2 = value.doc)
    (passed : ∀ member ∈ kept, member.2.skip = .ok ())
    (distinct : ((kept.map Prod.fst).filter (· ∈ names)).Nodup)
    (fresh : ∀ member ∈ kept, member.1 ∈ names → member.1 ∉ keys) :
    Json.foldMembers (member (.text (room + 1))) (settings.partsOf keys)
        (kept.map fun member => (.ok member.1, member.2)) =
      .ok (settings.partsOf ((kept.map Prod.fst).reverse ++ keys)) := by
  -- What has been taken in so far are the parts that some names stand for.
  induction kept generalizing keys with
  | nil => rfl
  | cons first kept ih =>
      obtain ⟨name, doc⟩ := first
      obtain ⟨knownFirst, knownRest⟩ := List.forall_mem_cons.mp known
      obtain ⟨freshFirst, freshRest⟩ := List.forall_mem_cons.mp fresh
      obtain ⟨skipped, skippedRest⟩ := List.forall_mem_cons.mp passed
      have taken : member (.text (room + 1)) (settings.partsOf keys) name doc =
          .ok (settings.partsOf (name :: keys)) := by
        by_cases listed : name ∈ names
        · obtain ⟨value, fits, same⟩ := knownFirst listed
          rw [show doc = value.doc from same]
          exact member_of_hasMember inRange fits (freshFirst listed)
        · rw [partsOf_cons_of_unknown listed]
          exact member_of_unknown listed _ _ skipped
      have apart : name ∈ names → name ∉ kept.map Prod.fst := by
        intro listed again
        rw [List.map_cons, List.filter_cons_of_pos (by simpa using listed)] at distinct
        exact (List.nodup_cons.mp distinct).1
          (List.mem_filter.mpr ⟨again, by simpa using listed⟩)
      have freshLater : ∀ member ∈ kept, member.1 ∈ names → member.1 ∉ name :: keys := by
        intro other member listed
        rw [List.mem_cons, not_or]
        refine ⟨?_, freshRest other member listed⟩
        intro same
        exact apart (same ▸ listed) (same ▸ List.mem_map_of_mem member)
      have later := ih knownRest skippedRest
        (distinct.sublist ((List.sublist_cons_self name _).filter _)) freshLater
      simp only [List.map_cons, Json.foldMembers, Json.liftFault, taken, later, bind, Except.bind,
        List.reverse_cons, List.append_assoc, List.singleton_append]

end

/-! ## Defaults -/

theorem getD_eq_reset {α : Type} {kept gone : Prop} [Decidable kept] [Decidable gone]
    {content fallback : α} (apart : gone → ¬ kept) (rest : ¬ kept → gone ∨ content = fallback) :
    (if kept then some content else none).getD fallback = if gone then fallback else content := by
  by_cases there : kept
  · rw [if_pos there, if_neg fun lost => apart lost there, Option.getD_some]
  · rw [if_neg there, Option.getD_none]
    split
    · rfl
    · next staying => exact ((rest there).resolve_left staying).symm

/-- A field that is not written is at its default. -/
theorem written_or_default (settings : Settings) :
    ((∃ value, settings.HasMember "app_name" value) ∨ settings.appName = default.appName) ∧
    ((∃ value, settings.HasMember "app_args" value) ∨ settings.appArgs = default.appArgs) ∧
    ((∃ value, settings.HasMember "fixtures_dir" value) ∨
      settings.fixturesDir = default.fixturesDir) ∧
    ((∃ value, settings.HasMember "diagnostics_dir" value) ∨
      settings.diagnosticsDir = default.diagnosticsDir) := by
  have given {α : Type} (content : Option α) :
      (∃ value, content = some value) ∨ content = none := by
    cases content with
    | none => exact .inr rfl
    | some value => exact .inl ⟨value, rfl⟩
  refine ⟨?_, ?_, ?_, ?_⟩
  · exact (given settings.appName).imp_left fun ⟨_, there⟩ => ⟨_, .appName there⟩
  · exact (Decidable.em (settings.appArgs = [])).symm.imp_left fun there => ⟨_, .appArgs there⟩
  · exact (given settings.fixturesDir).imp_left fun ⟨_, there⟩ => ⟨_, .fixturesDir there⟩
  · exact (given settings.diagnosticsDir).imp_left fun ⟨_, there⟩ => ⟨_, .diagnosticsDir there⟩

theorem settings_partsOf (settings : Settings) (kept : List String) :
    (settings.partsOf kept).settings = settings.reset (settings.dropped kept) := by
  have apart {name : String} (gone : name ∈ settings.dropped kept) : name ∉ kept :=
    (mem_dropped_iff.mp gone).2
  have rest {name : String} {same : Prop} (told : (∃ value, settings.HasMember name value) ∨ same)
      (out : name ∉ kept) : name ∈ settings.dropped kept ∨ same :=
    told.imp_left fun fits => mem_dropped_iff.mpr ⟨fits, out⟩
  obtain ⟨appName, appArgs, fixturesDir, diagnosticsDir⟩ := settings.written_or_default
  simp only [partsOf, Parts.settings, reset, Settings.mk.injEq]
  exact ⟨getD_eq_reset apart (rest (.inl ⟨_, .app⟩)), getD_eq_reset apart (rest appName),
    getD_eq_reset apart (rest appArgs), getD_eq_reset apart (rest (.inl ⟨_, .locale⟩)),
    getD_eq_reset apart (rest fixturesDir), getD_eq_reset apart (rest (.inl ⟨_, .bridgeCommand⟩)),
    getD_eq_reset apart (rest (.inl ⟨_, .launchTimeout⟩)),
    getD_eq_reset apart (rest (.inl ⟨_, .pollInterval⟩)),
    getD_eq_reset apart (rest (.inl ⟨_, .searchAttempts⟩)),
    getD_eq_reset apart (rest (.inl ⟨_, .searchBackoff⟩)),
    getD_eq_reset apart (rest diagnosticsDir),
    getD_eq_reset apart (rest (.inl ⟨_, .captureScreenshot⟩))⟩

theorem reset_nil (settings : Settings) : settings.reset [] = settings := rfl

/-! ## Reading settings -/

theorem names_nodup : names.Nodup := by decide

theorem map_fst_written_sublist (settings : Settings) :
    (settings.written.map Prod.fst).Sublist names := by
  have given (name : String) (text : Option String) :
      ((text.map fun text => (name, Value.string text)).toList.map Prod.fst).Sublist [name] := by
    cases text <;> simp
  have listed : ((if settings.appArgs.isEmpty then []
      else [("app_args", Value.ofTexts settings.appArgs)]).map Prod.fst).Sublist ["app_args"] := by
    split <;> simp
  simp only [written, List.map_append]
  exact ((((((List.Sublist.refl ["app"]).append (given _ _)).append listed).append
    (.refl ["locale"])).append (given _ _)).append (.refl _)).append (given _ _) |>.append (.refl _)

theorem decode_of_kept {settings : Settings} (inRange : settings.InRange)
    {kept : List (String × Doc)} {before text after : List Char}
    (known : ∀ member ∈ kept, member.1 ∈ names →
      ∃ value, (member.1, value) ∈ settings.written ∧ member.2 = value.doc)
    (distinct : ((kept.map Prod.fst).filter (· ∈ names)).Nodup)
    (rendered : Renders (.object (kept.map fun member => (.ok member.1, member.2)) none) text)
    (space : IsGap before) (spaceAfter : IsGap after) :
    Json.decode decoder (String.ofList (before ++ (text ++ after))) =
      .ok (settings.reset (settings.dropped (kept.map Prod.fst))) := by
  have passed : ∀ member ∈ kept, member.2.skip = .ok () := by
    intro member there
    exact rendered.skip_of_mem _ (List.mem_map_of_mem there)
  have folded : Json.foldMembers (member (.text 126)) (settings.partsOf [])
      (kept.map fun member => (.ok member.1, member.2)) =
        .ok (settings.partsOf ((kept.map Prod.fst).reverse ++ [])) := by
    apply foldMembers_of_kept inRange _ passed distinct
    · intro member _ _
      exact List.not_mem_nil
    · intro member there listed
      obtain ⟨value, present, same⟩ := known member there listed
      exact ⟨value, hasMember_iff_mem.mpr present, same⟩
  have order : settings.partsOf ((kept.map Prod.fst).reverse ++ []) =
      settings.partsOf (kept.map Prod.fst) :=
    partsOf_congr fun name _ => by simp
  rw [Json.decode_of_renders decoder space rendered spaceAfter, ← settings_partsOf, ← order]
  exact shape.decode_members rfl folded

/-- What is written for settings is read as these settings. An object that has some of its members
left, in any order and written in any way, and any members of other names, is read as the settings
in which exactly the fields of the members that were left out have their defaults. -/
theorem reads_back_from_members (settings : Settings) (inRange : settings.InRange) :
    settings.toJson = .object settings.written ∧
    Json.decode decoder settings.toJson.compact = .ok settings ∧
    ∀ (kept : List (String × Doc)) (before text after : List Char),
      (∀ member ∈ kept, member.1 ∈ names →
        ∃ value, (member.1, value) ∈ settings.written ∧ member.2 = value.doc) →
      ((kept.map Prod.fst).filter (· ∈ names)).Nodup →
      Renders (.object (kept.map fun member => (.ok member.1, member.2)) none) text →
      IsGap before → IsGap after →
      Json.decode decoder (String.ofList (before ++ (text ++ after))) =
        .ok (settings.reset
          ((settings.written.map Prod.fst).filter fun name => name ∉ kept.map Prod.fst)) := by
  refine ⟨settings.toJson_eq, ?_, ?_⟩
  · have rendered := (Json.spells_compactList settings.toJson).renders
    have docs : settings.toJson.doc = .object ((settings.written.map fun member =>
        (member.1, member.2.doc)).map fun member => (.ok member.1, member.2)) none := by
      rw [toJson_eq, Value.doc, Json.memberDocs_eq_map, List.map_map]
      rfl
    have all : (settings.written.map fun member => (member.1, member.2.doc)).map Prod.fst =
        settings.written.map Prod.fst := by
      rw [List.map_map]
      rfl
    have nothing : settings.dropped (settings.written.map Prod.fst) = [] := by
      simp [dropped]
    rw [docs] at rendered
    have known : ∀ member ∈ settings.written.map fun member => (member.1, member.2.doc),
        member.1 ∈ names → ∃ value, (member.1, value) ∈ settings.written ∧
          member.2 = value.doc := by
      intro member there _
      obtain ⟨entry, present, rfl⟩ := List.mem_map.mp there
      exact ⟨entry.2, present, rfl⟩
    have distinct := (names_nodup.sublist settings.map_fst_written_sublist).filter (· ∈ names)
    rw [← all] at distinct
    have read := decode_of_kept inRange known distinct rendered Json.isGap_nil Json.isGap_nil
    rw [all, nothing, reset_nil, List.nil_append, List.append_nil] at read
    exact read
  · intro kept before text after known distinct rendered space spaceAfter
    exact decode_of_kept inRange known distinct rendered space spaceAfter

/-- One member is left behind an unknown one with a surrogate that stands alone. -/
theorem reads_back_from_app :
    let settings : Settings := { default with app := "x", locale := "de", fixturesDir := "/f" }
    let text := ['\x7b', '"', 'z', '"', ':', '[', '"', '\\', 'u', 'd', '8', '0', '0', '"', ']', ',',
      '"', 'a', 'p', 'p', '"', ':', '"', 'x', '"', '\x7d']
    settings.InRange ∧
      Json.decode decoder (String.ofList ([' '] ++ (text ++ ['\n']))) =
        .ok { default with app := "x" } := by
  intro settings text
  have inRange : settings.InRange := ⟨by decide, by decide, by decide, by decide⟩
  have letter (c : Char) {pieces : List Json.Piece} {rest : List Char}
      (plain : 0x20 ≤ c.toNat ∧ c ≠ '"' ∧ c ≠ '\\') (others : Json.RendersPieces pieces rest) :
      Json.RendersPieces (.char c :: pieces) (c :: rest) :=
    .char plain.1 plain.2.1 plain.2.2 others
  have hex : Json.HexUnit 0xD800 ['d', '8', '0', '0'] :=
    @Json.HexUnit.digits 13 8 0 0 'd' '8' '0' '0' (by decide) (by decide) (by decide) (by decide)
  let list : Doc := .array [.string (Json.tokenOf [.unit 0xD800]) none] none
  have lone : Renders list ['[', '"', '\\', 'u', 'd', '8', '0', '0', '"', ']'] :=
    .array (.last Json.isGap_nil (.string (.unit hex .nil)) Json.isGap_nil)
  have value : Renders (Value.string "x").doc ['"', 'x', '"'] :=
    .string (letter 'x' (by decide) .nil)
  have rendered : Renders (.object [(.ok "z", list), (.ok "app", (Value.string "x").doc)] none)
      text :=
    .object (.more Json.isGap_nil (letter 'z' (by decide) .nil) Json.isGap_nil Json.isGap_nil lone
      Json.isGap_nil (.last Json.isGap_nil
        (letter 'a' (by decide) (letter 'p' (by decide) (letter 'p' (by decide) .nil)))
        Json.isGap_nil Json.isGap_nil value Json.isGap_nil))
  have unknown : "z" ∉ names := by decide
  have known : ∀ member ∈ [("z", list), ("app", (Value.string "x").doc)], member.1 ∈ names →
      ∃ value, (member.1, value) ∈ settings.written ∧ member.2 = value.doc := by
    refine List.forall_mem_cons.mpr ⟨fun listed => absurd listed unknown, ?_⟩
    exact List.forall_mem_singleton.mpr fun _ => ⟨.string "x", List.mem_cons_self, rfl⟩
  have fields : settings.reset ((settings.written.map Prod.fst).filter
      fun name => name ∉ [("z", list), ("app", (Value.string "x").doc)].map Prod.fst) =
        { default with app := "x" } := by
    decide
  have read := (reads_back_from_members settings inRange).2.2 _ [' '] text ['\n'] known (by decide)
    rendered (by decide) (by decide)
  rw [fields] at read
  exact ⟨inRange, read⟩

end Rehearsal.Settings
