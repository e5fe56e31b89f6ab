import Rehearsal.Proofs.Json.Decoding
import Rehearsal.Proofs.Text.Lines
import Rehearsal.Wire.Message
/-!
# Requests in writing

Every request is written as its kind and up to three members, and is read back from them. What is
written is one line, so requests that are sent one after the other come apart at the line feeds.
-/

set_option autoImplicit false

namespace Rehearsal

open Json (Value memberDocs)

/-! ## Locators -/

theorem Selector.decoder_doc (selector : Selector) :
    Selector.decoder .held selector.toJson.doc = .ok selector := by
  obtain ⟨name, role⟩ := selector
  cases role <;> rfl

theorem Window.decoder_doc (window : Window) :
    Window.decoder .held window.toJson.doc = .ok window := by
  obtain ⟨kind, name⟩ := window
  cases kind <;> rfl

theorem Locator.decoder_doc (locator : Locator) :
    Locator.decoder .held locator.toJson.doc = .ok locator := by
  obtain ⟨window, selector⟩ := locator
  have target := Json.once_none "selector" selector.decoder_doc
  cases window with
  | none =>
      have folded : Json.foldMembers (locatorShape.member .held) locatorShape.start
          (memberDocs [("selector", selector.toJson)]) = .ok ⟨none, some selector⟩ := by
        simp [locatorShape, memberDocs, Json.foldMembers, Json.liftFault, target, bind,
          Except.bind, pure, Except.pure]
      exact locatorShape.decode_object rfl folded
  | some window =>
      have read : Json.optional Window.decoder .held window.toJson.doc = .ok (some window) :=
        congrArg (Except.map some) window.decoder_doc
      have place := Json.once_none "window" read
      have folded : Json.foldMembers (locatorShape.member .held) locatorShape.start
          (memberDocs [("window", window.toJson), ("selector", selector.toJson)]) =
            .ok ⟨some (some window), some selector⟩ := by
        simp [locatorShape, memberDocs, Json.foldMembers, Json.liftFault, place, target, bind,
          Except.bind, pure, Except.pure]
      exact locatorShape.decode_object rfl folded

theorem Locator.inRange_toJson (locator : Locator) :
    locator.toJson.InRange ∧ locator.toJson.nesting ≤ 2 := by
  obtain ⟨window, name, role⟩ := locator
  cases window <;> cases role <;>
    simp [toJson, Selector.toJson, Window.toJson, Value.InRange, Json.MembersInRange,
      Value.nesting, Json.memberNesting]

namespace Wire

/-! ## The members of requests -/

/-- The members that parts are written as. The name of the text is that of a request's kind. -/
def RequestParts.written (label : String) (parts : RequestParts) : List (String × Value) :=
  (parts.app.map fun app => ("app", Value.string app)).toList ++
    (parts.locator.map fun locator => ("locator", locator.toJson)).toList ++
    (parts.text.map fun text => (label, Value.string text)).toList

namespace RequestParts

section

variable {known : List String} {parts : RequestParts}

theorem member_app (app : String) (there : "app" ∈ known) (fresh : parts.app = none) :
    member known .held parts "app" (Value.string app).doc = .ok { parts with app := some app } := by
  have read := Json.once_none "app" (Json.text_doc .held app)
  simp [member, there, fresh, read, bind, Except.bind, pure, Except.pure]

theorem member_locator (locator : Locator) (there : "locator" ∈ known)
    (fresh : parts.locator = none) :
    member known .held parts "locator" locator.toJson.doc =
      .ok { parts with locator := some locator } := by
  have read := Json.once_none "locator" locator.decoder_doc
  simp [member, there, fresh, read, bind, Except.bind, pure, Except.pure]

theorem member_text {label : String} (ofText : label = "text" ∨ label = "combo") (text : String)
    (there : label ∈ known) (fresh : parts.text = none) :
    member known .held parts label (Value.string text).doc =
      .ok { parts with text := some text } := by
  have read := Json.once_none label (Json.text_doc .held text)
  rcases ofText with rfl | rfl <;>
    simp [member, there, fresh, read, bind, Except.bind, pure, Except.pure]

/-- A request that has all members that are written takes them in. -/
theorem foldMembers_written {label : String} (ofText : label = "text" ∨ label = "combo")
    (had : ∀ member ∈ parts.written label, member.1 ∈ known) :
    Json.foldMembers (member known .held) ⟨none, none, none⟩ (memberDocs (parts.written label)) =
      .ok parts := by
  obtain ⟨app, locator, text⟩ := parts
  cases app <;> cases locator <;> cases text <;>
    simp_all [written, memberDocs, Json.foldMembers, Json.liftFault, member_app, member_locator,
      member_text, bind, Except.bind]

end

/-- Parts may be held by whoever does not know yet what kind of request they belong to. -/
theorem inRange_written (label : String) (parts : RequestParts) :
    Json.MembersInRange (parts.written label) ∧
      Json.memberNesting (parts.written label) ≤ 2 := by
  obtain ⟨app, locator, text⟩ := parts
  have target (locator : Locator) := locator.inRange_toJson
  cases app <;> cases locator <;> cases text <;>
    simp [written, Value.InRange, Json.MembersInRange, Value.nesting, Json.memberNesting, target]

theorem tagName_not_mem_written {label : String} (ofText : label = "text" ∨ label = "combo")
    (parts : RequestParts) : ∀ member ∈ parts.written label, member.1 ≠ Json.tagName := by
  intro member present
  simp only [written, List.mem_append, Option.mem_toList, Option.map_eq_some_iff] at present
  rcases present with (⟨app, -, rfl⟩ | ⟨locator, -, rfl⟩) | ⟨text, -, rfl⟩
  · simp [Json.tagName]
  · simp [Json.tagName]
  · rcases ofText with rfl | rfl <;> simp [Json.tagName]

end RequestParts

/-! ## Reading requests -/

namespace Request

def kind : Request → String
  | .ping => "Ping"
  | .dumpTree _ => "DumpTree"
  | .input _ (.click _) => "Click"
  | .input _ (.activate _) => "Activate"
  | .input _ (.setText _ _) => "SetText"
  | .input _ (.typeText _) => "TypeText"
  | .input _ (.keyCombo _) => "KeyCombo"
  | .screenshot => "Screenshot"

def parts : Request → RequestParts
  | .ping => ⟨none, none, none⟩
  | .dumpTree app => ⟨some app, none, none⟩
  | .input app (.click target) => ⟨some app, some target, none⟩
  | .input app (.activate target) => ⟨some app, some target, none⟩
  | .input app (.setText target text) => ⟨some app, some target, some text⟩
  | .input app (.typeText text) => ⟨some app, none, some text⟩
  | .input app (.keyCombo combo) => ⟨some app, none, some combo⟩
  | .screenshot => ⟨none, none, none⟩

/-- The name under which the text of a request is written. -/
def label : Request → String
  | .input _ (.keyCombo _) => "combo"
  | _ => "text"

theorem label_cases (request : Request) : request.label = "text" ∨ request.label = "combo" := by
  unfold label
  split
  · exact .inr rfl
  · exact .inl rfl

theorem kind_mem_requestKinds (request : Request) : request.kind ∈ requestKinds := by
  unfold kind
  split <;> simp [requestKinds]

theorem toJson_eq_kinded (request : Request) :
    request.toJson = kinded request.kind (request.parts.written request.label) := by
  cases request with
  | input app given => cases given <;> rfl
  | _ => rfl

theorem requestVariant_kind (request : Request) :
    requestVariant request.kind .held (Value.object (request.parts.written request.label)).doc =
      .ok request := by
  have read (known : List String)
      (had : ∀ member ∈ request.parts.written request.label, member.1 ∈ known) :=
    RequestParts.foldMembers_written request.label_cases had
  cases request with
  | ping => rfl
  | dumpTree app =>
      exact dumpTreeShape.decode_object rfl (read _ (by simp [RequestParts.written, parts]))
  | input app given =>
      cases given with
      | click target =>
          exact (widgetShape _ .click).decode_object rfl
            (read _ (by simp [RequestParts.written, parts]))
      | activate target =>
          exact (widgetShape _ .activate).decode_object rfl
            (read _ (by simp [RequestParts.written, parts]))
      | setText target text =>
          exact setTextShape.decode_object rfl
            (read _ (by simp [RequestParts.written, parts, label]))
      | typeText text =>
          exact (keyboardShape _ "text" .typeText).decode_object rfl
            (read _ (by simp [RequestParts.written, parts, label]))
      | keyCombo combo =>
          exact (keyboardShape _ "combo" .keyCombo).decode_object rfl
            (read _ (by simp [RequestParts.written, parts, label]))
  | screenshot => rfl

theorem decoder_toJson (request : Request) :
    Request.decoder (.text Json.nestingLimit) request.toJson.doc = .ok request := by
  obtain ⟨inRange, shallow⟩ := request.parts.inRange_written request.label
  have others := request.parts.tagName_not_mem_written request.label_cases
  have room : Json.memberNesting (request.parts.written request.label) ≤ 126 := by omega
  rw [Request.decoder, toJson_eq_kinded, kinded, Json.nestingLimit_eq]
  exact (Json.tagged_of_front request.kind_mem_requestKinds others inRange room).trans
    request.requestVariant_kind

/-! ## Lines -/

theorem toList_line (request : Request) :
    request.line.toList = request.toJson.compactList ++ ['\n'] := by
  rw [line, Value.compact, String.toList_append, String.toList_ofList]
  rfl

theorem decode_compactList (request : Request) {gap : List Char} (space : Json.IsGap gap) :
    Json.decode Request.decoder (String.ofList (request.toJson.compactList ++ gap)) =
      .ok request := by
  rw [Json.decode_of_spells _ (Json.spells_compactList _) space, decoder_toJson]

/-- Lines that follow one another come apart at their ends, and nothing is left behind the last. -/
theorem splitOn_lines (requests : List Request) :
    (String.join (requests.map line)).toList.splitOn '\n' =
      (requests.map fun request => request.toJson.compactList) ++ [[]] := by
  have joined : (String.join (requests.map line)).toList =
      (requests.map fun request => request.toJson.compactList).flatMap (· ++ ['\n']) := by
    simp only [String.toList_join, List.flatMap_map, toList_line]
  rw [joined]
  refine Text.splitOn_ended fun text member => ?_
  obtain ⟨request, -, rfl⟩ := List.mem_map.mp member
  exact Json.newline_not_mem_compactList request.toJson

/-- A request is one line, whose only line feed ends it, and is read back from that line. Lines that
follow one another come apart at their line feeds into the lines of the requests in their order,
each of which is read as its request. -/
theorem lines_faithful :
    (∀ request : Request,
      (request.line.toList.count '\n' = 1 ∧ request.line.toList.getLast? = some '\n') ∧
        Json.decode Request.decoder request.line = .ok request) ∧
    ∀ requests : List Request, ∃ parts : List (List Char),
      (String.join (requests.map line)).toList.splitOn '\n' = parts ++ [[]] ∧
        (parts.map fun part => String.ofList (part ++ ['\n'])) = requests.map line ∧
        (parts.map fun part => Json.decode Request.decoder (String.ofList part)) =
          requests.map .ok := by
  refine ⟨?_, ?_⟩
  · intro request
    have inside := Json.newline_not_mem_compactList request.toJson
    have decoded := request.decode_compactList (by decide : Json.IsGap ['\n'])
    rw [← toList_line, String.ofList_toList] at decoded
    refine ⟨⟨?_, ?_⟩, decoded⟩
    · rw [toList_line, List.count_append, List.count_eq_zero.mpr inside]
      rfl
    · rw [toList_line, List.getLast?_concat]
  · intro requests
    refine ⟨requests.map fun request => request.toJson.compactList, splitOn_lines requests, ?_, ?_⟩
    · rw [List.map_map]
      refine List.map_congr_left fun request _ => ?_
      rw [Function.comp_apply, ← toList_line, String.ofList_toList]
    · rw [List.map_map]
      refine List.map_congr_left fun request _ => ?_
      have decoded := request.decode_compactList Json.isGap_nil
      rwa [List.append_nil] at decoded

end Request

end Wire

end Rehearsal
