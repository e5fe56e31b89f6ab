import Rehearsal.Proofs.Backend.Answering
import Rehearsal.Proofs.Wire.Picture
import Rehearsal.Proofs.Wire.Response
/-!
# What a line settles a call for

A line is blank, or it says a response, or it is not understood. A call takes a response of the kind
that it asks for, a picture only if its payload is laid out as the bytes of one; a report of an
error is passed on, and every other response is unexpected.
-/

set_option autoImplicit false

namespace Rehearsal

open Wire (Request Response)

/-- Whether a line is one of the ways to write a response whose trees are not too deep, blanks
around it or not. -/
def Wire.Response.SpelledBy (response : Response) (line : String) : Prop :=
  response.depth ≤ 62 ∧ ∃ value text before after, response.WrittenAs value ∧
    Json.Spells value text ∧ Text.AllBlank before ∧ Text.AllBlank after ∧
    line = String.ofList (before ++ (text ++ after))

theorem Wire.ofLine_of_spelledBy {response : Response} {line : String}
    (spelled : response.SpelledBy line) : Response.ofLine line = .ok response := by
  obtain ⟨shallow, value, text, before, after, written, spells, front, back, rfl⟩ := spelled
  exact ofLine_of_writtenAs written shallow spells front back

theorem Wire.ofLine_eq_empty_iff (line : String) :
    Response.ofLine line = .error .empty ↔ Text.AllBlank line.toList := by
  rw [← Text.trimList_eq_nil_iff, Response.ofLine, Text.trim]
  by_cases nothing : Text.trimList line.toList = []
  · simp [nothing]
  · have filled : (String.ofList (Text.trimList line.toList)).isEmpty = false := by simp [nothing]
    simp only [filled, Bool.false_eq_true, if_false, nothing, iff_false]
    cases Json.decode Response.decoder (String.ofList (Text.trimList line.toList)) <;> simp

/-- The faults that are found in a line. -/
theorem Wire.fault_of_ofLine {line : String} {fault : Wire.MessageFault}
    (failed : Response.ofLine line = .error fault) :
    fault = .empty ∨ ∃ reason, fault = .invalidMessage reason := by
  unfold Response.ofLine at failed
  dsimp only at failed
  split at failed
  · exact .inl (Except.error.inj failed).symm
  · split at failed
    · cases failed
    · exact .inr ⟨_, (Except.error.inj failed).symm⟩

namespace Session

/-- Whether a line is read as a response, and is no way to write another one. -/
def Means (line : String) (response : Response) : Prop :=
  Response.ofLine line = .ok response ∧
    ∀ other : Response, other.SpelledBy line → other = response

theorem means_iff {line : String} {response : Response} :
    Means line response ↔ Response.ofLine line = .ok response := by
  refine and_iff_left_of_imp fun read other spelled => ?_
  exact Except.ok.inj ((Wire.ofLine_of_spelledBy spelled).symm.trans read)

theorem means_compact {response : Response} (shallow : response.depth ≤ 62) :
    Means response.toJson.compact response :=
  means_iff.mpr (Wire.ofLine_compact_of_shallow shallow)

/-- Whether a response is of the kind that a call asks for. -/
inductive Call.AsksFor : Call → Response → Prop where
  | tree (app : String) (nodes : Forest) : AsksFor (.dump app) (.tree nodes)
  | ok (app : String) (input : Input) : AsksFor (.perform app input) .ok
  | screenshot (data : String) : AsksFor .screenshot (.screenshot data)

/-- What a line settles a call for. -/
inductive Call.Settles : Call → String → Except BackendError Gain → Prop where
  | blank {call : Call} {line : String} (blank : Text.AllBlank line.toList) :
      Settles call line (.error (.garbled .empty))
  /-- A line that is no way to write any response, and why it is not understood. -/
  | foreign {call : Call} {line reason : String} (filled : ¬ Text.AllBlank line.toList)
      (none : ∀ response : Response, ¬ response.SpelledBy line)
      (told : Response.ofLine line = .error (.invalidMessage reason)) :
      Settles call line (.error (.garbled (.invalidMessage reason)))
  | refused {call : Call} {line message : String} (means : Means line (.error message)) :
      Settles call line (.error (.commandFailed message))
  | forest {app line : String} {nodes : Forest} (means : Means line (.tree nodes)) :
      Settles (.dump app) line (.ok (.forest nodes))
  | done {app line : String} {input : Input} (means : Means line .ok) :
      Settles (.perform app input) line (.ok .done)
  | picture {line data : String} {bytes : Bytes} (means : Means line (.screenshot data))
      (laid : Text.Base64.Encodes bytes (Text.trim data).toList) :
      Settles .screenshot line (.ok (.picture bytes))
  /-- A payload that is not laid out as any bytes, and why it is refused. -/
  | noPicture {line data reason : String} (means : Means line (.screenshot data))
      (stray : ∀ symbols pads, ¬ Text.Base64.Canonical (Text.trim data).toList symbols pads)
      (told : Wire.pictureBytes data = .error (.invalidScreenshot reason)) :
      Settles .screenshot line (.error (.garbled (.invalidScreenshot reason)))
  | unexpected {call : Call} {line : String} {response : Response} (means : Means line response)
      (other : ¬ call.AsksFor response) (noReport : ∀ message, response ≠ .error message) :
      Settles call line
        (.error (.commandFailed s!"unexpected response: {response.describe.render}"))

theorem Call.settles_screenshot {line data : String} (means : Means line (.screenshot data)) :
    Settles .screenshot line (Call.result .screenshot line) := by
  rw [result, means.1]
  dsimp only
  cases read : Wire.pictureBytes data with
  | ok bytes => exact .picture means (Wire.pictureBytes_eq_ok_iff_encodes.mp read)
  | error fault =>
      have refused : ¬ ∃ bytes, Wire.pictureBytes data = .ok bytes := by
        rintro ⟨bytes, same⟩
        cases read.symm.trans same
      obtain ⟨reason, told⟩ := Wire.pictureBytes_eq_error_iff.mpr refused
      cases read.symm.trans told
      refine .noPicture means (fun symbols pads canonical => refused ?_) read
      exact Wire.exists_pictureBytes_iff.mpr ⟨symbols, pads, canonical⟩

theorem Call.result_of_unexpected {call : Call} {line : String} {response : Response}
    (read : Response.ofLine line = .ok response) (other : ¬ call.AsksFor response)
    (noReport : ∀ message, response ≠ .error message) :
    call.result line = .error (unexpected response) := by
  rw [result, read]
  cases response with
  | error message => exact absurd rfl (noReport message)
  | ok =>
      cases call with
      | perform app input => exact absurd (.ok app input) other
      | _ => rfl
  | tree nodes =>
      cases call with
      | dump app => exact absurd (.tree app nodes) other
      | _ => rfl
  | screenshot data =>
      cases call with
      | screenshot => exact absurd (.screenshot data) other
      | _ => rfl

theorem Call.settles_result (call : Call) (line : String) :
    call.Settles line (call.result line) := by
  cases read : Response.ofLine line with
  | error fault =>
      have settled : call.result line = .error (.garbled fault) := by rw [result, read]
      rw [settled]
      rcases Wire.fault_of_ofLine read with rfl | ⟨reason, rfl⟩
      · exact .blank ((Wire.ofLine_eq_empty_iff line).mp read)
      · refine .foreign (fun blank => ?_) (fun response spelled => ?_) read
        · cases read.symm.trans ((Wire.ofLine_eq_empty_iff line).mpr blank)
        · cases read.symm.trans (Wire.ofLine_of_spelledBy spelled)
  | ok response =>
      have means := means_iff.mpr read
      by_cases report : ∃ message, response = .error message
      · obtain ⟨message, rfl⟩ := report
        have settled : call.result line = .error (.commandFailed message) := by rw [result, read]
        exact settled ▸ .refused means
      · have noReport := not_exists.mp report
        by_cases asked : call.AsksFor response
        · cases asked with
          | tree app nodes =>
              rw [result, read]
              exact .forest means
          | ok app input =>
              rw [result, read]
              exact .done means
          | screenshot data => exact settles_screenshot means
        · rw [result_of_unexpected read asked noReport]
          exact .unexpected means asked noReport

/-- A line settles a call for one thing alone. -/
theorem Call.settles_iff {call : Call} {line : String} {answer : Except BackendError Gain} :
    call.Settles line answer ↔ answer = call.result line := by
  constructor
  · intro settles
    cases settles with
    | blank blank => rw [result, (Wire.ofLine_eq_empty_iff line).mpr blank]
    | foreign filled none told => rw [result, told]
    | refused means => rw [result, means.1]
    | forest means => rw [result, means.1]
    | done means => rw [result, means.1]
    | picture means laid =>
        have read := Wire.pictureBytes_eq_ok_iff_encodes.mpr laid
        simp only [result, means.1, read]
    | noPicture means stray told => simp only [result, means.1, told]
    | unexpected means other noReport => exact (result_of_unexpected means.1 other noReport).symm
  · rintro rfl
    exact settles_result call line

end Session

end Rehearsal
