import Mathlib.Tactic.MkIffOfInductiveProp
import Rehearsal.Trail.Identifier
/-!
# Identifiers are read as they are written

Thirty-two digits in five groups are none of the forms with braces or a scheme in front, and they
are longer than digits without hyphens.
-/

set_option autoImplicit false

namespace Rehearsal.Identifier

/-- Whether an identifier has 128 bits. -/
@[mk_iff]
structure IsSound (identifier : Identifier) : Prop where
  count : identifier.digits.length = 32
  small : ∀ digit ∈ identifier.digits, digit < 16

instance (identifier : Identifier) : Decidable identifier.IsSound :=
  decidable_of_iff' _ (isSound_iff identifier)

/-- How many digits stand in groups of some sizes. -/
def total : List Nat → Nat
  | [] => 0
  | size :: sizes => size + total sizes

variable {digits sizes : List Nat}

theorem hexValue?_digitChar {digit : Nat} (small : digit < 16) :
    Json.hexValue? digit.digitChar = some digit := by
  have all : ∀ digit < 16, Json.hexValue? digit.digitChar = some digit := by decide
  exact all digit small

theorem plainDigits?_map_digitChar (small : ∀ digit ∈ digits, digit < 16) :
    plainDigits? (digits.map Nat.digitChar) = some digits := by
  induction digits with
  | nil => rfl
  | cons digit digits ih =>
      obtain ⟨low, others⟩ := List.forall_mem_cons.mp small
      simp only [List.map_cons, plainDigits?, hexValue?_digitChar low, ih others, Option.map_some]

theorem groupedDigits?_grouped (small : ∀ digit ∈ digits, digit < 16)
    (count : digits.length = total sizes) :
    groupedDigits? sizes (grouped sizes (digits.map Nat.digitChar)) = some digits := by
  -- A hyphen stands behind every group but the last.
  induction sizes generalizing digits with
  | nil =>
      obtain rfl := List.length_eq_zero_iff.mp count
      rfl
  | cons size sizes ih =>
      rw [total] at count
      cases sizes with
      | nil =>
          have whole : (digits.map Nat.digitChar).length = size := by
            rw [List.length_map, count]
            rfl
          rw [grouped, groupedDigits?, List.take_of_length_le (Nat.le_of_eq whole), if_pos whole]
          exact plainDigits?_map_digitChar small
      | cons next sizes =>
          have width : ((digits.take size).map Nat.digitChar).length = size := by simp [count]
          have front : plainDigits? ((digits.take size).map Nat.digitChar) =
              some (digits.take size) :=
            plainDigits?_map_digitChar fun digit member =>
              small digit (List.mem_of_mem_take member)
          have rest := ih (fun digit member => small digit (List.mem_of_mem_drop member))
            (by rw [List.length_drop, count, Nat.add_sub_cancel_left])
          rw [grouped, groupedDigits?, ← List.map_take, ← List.map_drop, List.take_left' width,
            List.drop_left' width, front]
          simp only [rest, Option.map_some, List.take_append_drop]

theorem length_grouped {chars : List Char} (count : chars.length = total sizes) :
    (grouped sizes chars).length = total sizes + (sizes.length - 1) := by
  induction sizes generalizing chars with
  | nil => rfl
  | cons size sizes ih =>
      rw [total] at count
      cases sizes with
      | nil => simp [grouped, count, total]
      | cons next sizes =>
          have rest := ih (by rw [List.length_drop, count, Nat.add_sub_cancel_left])
          have long : size ≤ chars.length := by omega
          simp only [grouped, List.length_append, List.length_cons, rest, List.length_take,
            Nat.min_eq_left long, total]
          omega

/-- A text that begins with a hexadecimal digit has nothing around its digits. -/
theorem unwrap_digitChar {digit : Nat} (small : digit < 16) (rest : List Char) :
    unwrap (digit.digitChar :: rest) = (digit.digitChar :: rest, 0, true) := by
  have brace : ∀ digit < 16, Nat.digitChar digit ≠ '\x7b' := by decide
  have letter : ∀ digit < 16, ('u' == Nat.digitChar digit) = false := by decide
  have other : urn.isPrefixOf (digit.digitChar :: rest) = false := by
    have first : urn = 'u' :: urn.tail := rfl
    rw [first, List.isPrefixOf, letter digit small, Bool.false_and]
  unfold unwrap
  split
  · next same => exact absurd (List.cons.inj same).1 (brace digit small)
  · rw [if_neg (by simp [other])]

theorem ofText_text {identifier : Identifier} (sound : identifier.IsSound) :
    ofText identifier.text = .ok identifier := by
  obtain ⟨digits⟩ := identifier
  obtain ⟨count, small⟩ := sound
  have length : (grouped groupSizes (digits.map Nat.digitChar)).length = 36 :=
    length_grouped (by rw [List.length_map]; exact count)
  have back : groupedDigits? groupSizes (grouped groupSizes (digits.map Nat.digitChar)) =
      some digits :=
    groupedDigits?_grouped small count
  have bare : unwrap (grouped groupSizes (digits.map Nat.digitChar)) =
      (grouped groupSizes (digits.map Nat.digitChar), 0, true) := by
    cases digits with
    | nil => cases count
    | cons digit digits => exact unwrap_digitChar (small digit List.mem_cons_self) _
  simp [ofText, text, bare, length, back]

end Rehearsal.Identifier
