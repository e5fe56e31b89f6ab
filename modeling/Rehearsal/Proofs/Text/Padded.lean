import Rehearsal.Text.Natural
/-!
# Numbers of a fixed width

Numbers that are written with the same number of digits are in the order of their texts. Two of them
side by side are again one number of a fixed width.
-/

set_option autoImplicit false

namespace Rehearsal.Text

theorem append_lt_append {first second : List Char} (same : first.length = second.length)
    (less : first < second) (after later : List Char) : first ++ after < second ++ later := by
  induction first generalizing second with
  | nil =>
      obtain rfl := List.length_eq_zero_iff.mp same.symm
      exact absurd less (List.lt_irrefl [])
  | cons c first ih =>
      cases second with
      | nil => cases same
      | cons d second =>
          rw [List.cons_append, List.cons_append, List.cons_lt_cons_iff]
          rcases List.cons_lt_cons_iff.mp less with smaller | ⟨rfl, rest⟩
          · exact .inl smaller
          · exact .inr ⟨rfl, ih (Nat.succ.inj same) rest⟩

theorem digitChar_lt_digitChar {low high : Nat} (less : low < high) (digit : high < 10) :
    Nat.digitChar low < Nat.digitChar high := by
  have all : ∀ high < 10, ∀ low < high, Nat.digitChar low < Nat.digitChar high := by decide
  exact all high digit low less

/-- How many numbers have at most some number of digits. -/
def scale (width : Nat) : Nat := Nat.pow 10 width

theorem scale_succ (width : Nat) : scale (width + 1) = 10 * scale width :=
  Nat.mul_comm (scale width) 10

section

variable {width value : Nat}

theorem toList_padded (width value : Nat) :
    (padded width value).toList =
      List.replicate (width - (Nat.toDigits 10 value).length) '0' ++ Nat.toDigits 10 value := by
  rw [padded, String.toList_ofList]

theorem isDigit_of_mem_padded {c : Char} (member : c ∈ (padded width value).toList) :
    c.isDigit = true := by
  rw [toList_padded] at member
  rcases List.mem_append.mp member with zero | digit
  · rw [List.eq_of_mem_replicate zero]
    rfl
  · exact Nat.isDigit_of_mem_toDigits (by decide) (by decide) digit

theorem length_padded (fits : value < scale (width + 1)) :
    (padded (width + 1) value).toList.length = width + 1 := by
  have short : (Nat.toDigits 10 value).length ≤ width + 1 :=
    (Nat.length_toDigits_le_iff (by decide) (Nat.succ_pos width)).mpr fits
  rw [toList_padded, List.length_append, List.length_replicate]
  exact Nat.sub_add_cancel short

theorem padded_succ (width value : Nat) :
    (padded (width + 2) value).toList =
      (padded (width + 1) (value / 10)).toList ++ [Nat.digitChar (value % 10)] := by
  rw [toList_padded, toList_padded]
  by_cases single : value < 10
  · rw [Nat.div_eq_of_lt single, Nat.mod_eq_of_lt single, Nat.toDigits_of_lt_base single,
      Nat.toDigits_zero]
    simp [List.replicate_succ']
  · have leading : 0 < value / 10 := Nat.div_pos (Nat.not_lt.mp single) (by decide)
    have parts := Nat.toDigits_append_toDigits (b := 10) (by decide) leading
      (Nat.mod_lt value (by decide))
    rw [Nat.div_add_mod, Nat.toDigits_of_lt_base (Nat.mod_lt value (by decide))] at parts
    have zeros (digits : Nat) : width + 2 - (digits + 1) = width + 1 - digits := by omega
    rw [← parts, List.length_append, List.length_singleton, zeros, List.append_assoc]

theorem padded_append (width more high : Nat) {low : Nat} (fits : low < scale (more + 1)) :
    (padded (width + 1) high).toList ++ (padded (more + 1) low).toList =
      (padded (width + 1 + (more + 1)) (high * scale (more + 1) + low)).toList := by
  induction more generalizing low with
  | zero =>
      have digit : low < 10 := fits
      have ten : scale (0 + 1) = 10 := rfl
      rw [padded_succ, toList_padded 1, Nat.toDigits_of_lt_base digit, ten]
      have front : (high * 10 + low) / 10 = high := by omega
      have last : (high * 10 + low) % 10 = low := by omega
      rw [front, last]
      rfl
  | succ more ih =>
      rw [scale_succ (more + 1)] at fits ⊢
      have shifted : high * (10 * scale (more + 1)) = 10 * (high * scale (more + 1)) :=
        Nat.mul_left_comm high 10 (scale (more + 1))
      have front : (high * (10 * scale (more + 1)) + low) / 10 =
          high * scale (more + 1) + low / 10 := by
        omega
      have last : (high * (10 * scale (more + 1)) + low) % 10 = low % 10 := by omega
      have within : low / 10 < scale (more + 1) := by omega
      rw [padded_succ more, ← List.append_assoc, ih within, ← front, ← last]
      exact (padded_succ (width + 1 + more) _).symm

theorem padded_lt_padded {low high : Nat} (less : low < high) (fits : high < scale (width + 1)) :
    (padded (width + 1) low).toList < (padded (width + 1) high).toList := by
  induction width generalizing low high with
  | zero =>
      have digit : high < 10 := fits
      rw [toList_padded, toList_padded, Nat.toDigits_of_lt_base digit,
        Nat.toDigits_of_lt_base (Nat.lt_trans less digit)]
      exact List.cons_lt_cons_iff.mpr (.inl (digitChar_lt_digitChar less digit))
  | succ width ih =>
      rw [padded_succ, padded_succ]
      by_cases same : low / 10 = high / 10
      · -- Only the last digits differ.
        have last : low % 10 < high % 10 := by omega
        rw [same]
        refine List.append_left_lt (List.cons_lt_cons_iff.mpr (.inl ?_))
        exact digitChar_lt_digitChar last (Nat.mod_lt high (by decide))
      · have front : low / 10 < high / 10 := by omega
        have within : high / 10 < scale (width + 1) := by
          rw [scale_succ (width + 1)] at fits
          omega
        refine append_lt_append ?_ (ih front within) _ _
        rw [length_padded (Nat.lt_trans front within), length_padded within]

end

end Rehearsal.Text
