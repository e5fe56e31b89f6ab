import Rehearsal.Proofs.Text.Base64
import Rehearsal.Proofs.Text.Blank
import Rehearsal.Wire.Message
/-!
# Pictures in responses

A picture comes as text. Blanks around it do not matter; what is left is read if it is what writing
makes of some bytes, and these are the bytes of the picture. Everything else is refused.
-/

set_option autoImplicit false

namespace Rehearsal

namespace Text

theorem Base64.Encodes.solid {bytes : Bytes} {text : List Char} (encodes : Encodes bytes text) :
    ∀ c ∈ text, isBlank c = false := by
  have symbols : ∀ value < 64, isBlank (Base64.symbol value) = false := by decide
  obtain ⟨own, pads, canonical⟩ := encodes.canonical
  intro c member
  rw [canonical.parts, List.mem_append] at member
  rcases member with symbol | padding
  · obtain ⟨value, small, rfl⟩ := exists_value (canonical.foreign c symbol)
    exact symbols value small
  · rw [List.eq_of_mem_replicate padding]
    rfl

end Text

namespace Wire

open Text.Base64 (Encodes Canonical encode)

variable {data : String}

theorem pictureBytes_eq_ok_iff {bytes : Bytes} :
    pictureBytes data = .ok bytes ↔ Text.trim data = encode bytes := by
  rw [← Text.Base64.decode_eq_ok_iff, pictureBytes]
  cases Text.Base64.decode (Text.trim data) <;> simp

theorem pictureBytes_eq_ok_iff_encodes {bytes : Bytes} :
    pictureBytes data = .ok bytes ↔ Encodes bytes (Text.trim data).toList := by
  rw [pictureBytes_eq_ok_iff, Text.Base64.encodes_iff, encode, ← String.toList_inj,
    String.toList_ofList]

/-- A picture is read exactly when what is between the blanks is symbols with the padding that is
due and no stray bit. -/
theorem exists_pictureBytes_iff :
    (∃ bytes, pictureBytes data = .ok bytes) ↔
      ∃ symbols pads, Canonical (Text.trim data).toList symbols pads := by
  simp only [pictureBytes_eq_ok_iff_encodes, Text.Base64.exists_encodes_iff]

theorem pictureBytes_eq_error_iff :
    (∃ reason, pictureBytes data = .error (.invalidScreenshot reason)) ↔
      ¬ ∃ bytes, pictureBytes data = .ok bytes := by
  rw [pictureBytes]
  cases Text.Base64.decode (Text.trim data) <;> simp

/-- A picture is read as some bytes exactly when it is, but for blanks around it, the text that they
are laid out as, which is the one that writing makes of them. So a picture is read exactly when what
is between the blanks is symbols with the padding that is due and no stray bit, and everything else
is refused. -/
theorem pictureBytes_reads_canonical (data : String) :
    (∀ bytes, pictureBytes data = .ok bytes ↔ Encodes bytes (Text.trim data).toList) ∧
    (∀ bytes text, Encodes bytes text ↔ text = (encode bytes).toList) ∧
    (∀ bytes before after, Text.AllBlank before.toList → Text.AllBlank after.toList →
      pictureBytes (before ++ encode bytes ++ after) = .ok bytes) ∧
    ((∃ bytes, pictureBytes data = .ok bytes) ↔
      ∃ symbols pads, Canonical (Text.trim data).toList symbols pads) ∧
    ((∃ reason, pictureBytes data = .error (.invalidScreenshot reason)) ↔
      ¬ ∃ symbols pads, Canonical (Text.trim data).toList symbols pads) := by
  have laid (bytes : Bytes) (text : List Char) :
      Encodes bytes text ↔ text = (encode bytes).toList := by
    rw [Text.Base64.encodes_iff, encode, String.toList_ofList]
  refine ⟨fun bytes => pictureBytes_eq_ok_iff_encodes, laid, ?_, exists_pictureBytes_iff, ?_⟩
  · intro bytes before after first last
    have solid := ((laid bytes _).mpr rfl).solid
    rw [pictureBytes_eq_ok_iff, Text.trim, String.toList_append, String.toList_append,
      Text.trimList_around first last solid, String.ofList_toList]
  · rw [pictureBytes_eq_error_iff, exists_pictureBytes_iff]

end Wire

end Rehearsal
