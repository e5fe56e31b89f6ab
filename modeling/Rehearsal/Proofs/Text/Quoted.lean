import Mathlib.Data.List.Chain
import Rehearsal.Proofs.Text.Lines
import Rehearsal.Text.Shown
/-!
# Quotations tell their texts

No two texts have the same quotation. A quotation is one line, and every double quote inside it has
a backslash before it.
-/

set_option autoImplicit false

namespace Rehearsal.Text

/-! ## Hexadecimal numbers -/

theorem exists_digitChar_of_mem_toDigits {n : Nat} {c : Char} (member : c ∈ Nat.toDigits 16 n) :
    ∃ digit < 16, c = digit.digitChar := by
  induction n using Nat.strongRecOn with
  | ind n ih =>
      rw [Nat.toDigits_eq_if (by decide)] at member
      split at member
      · next small => exact ⟨n, small, List.mem_singleton.mp member⟩
      · next large =>
          rcases List.mem_append.mp member with before | last
          · exact ih (n / 16) (by omega) before
          · exact ⟨n % 16, Nat.mod_lt n (by decide), List.mem_singleton.mp last⟩

theorem digitChar_inj {m n : Nat} (small : m < 16) (low : n < 16)
    (same : m.digitChar = n.digitChar) : m = n := by
  have all : ∀ m < 16, ∀ n < 16, m.digitChar = n.digitChar → m = n := by decide
  exact all m small n low same

/-- The last digit is the remainder, and the digits before it are those of the quotient. -/
theorem toDigits_injective {m n : Nat} (same : Nat.toDigits 16 m = Nat.toDigits 16 n) : m = n := by
  induction m using Nat.strongRecOn generalizing n with
  | ind m ih =>
      have low (n : Nat) : n % 16 < 16 := Nat.mod_lt n (by decide)
      rw [Nat.toDigits_eq_if (by decide), Nat.toDigits_eq_if (n := n) (by decide)] at same
      split at same <;> split at same
      · next small below => exact digitChar_inj small below (List.singleton_inj.mp same)
      · have cut : [] = Nat.toDigits 16 (n / 16) := List.append_inj_left' same rfl
        exact absurd cut.symm Nat.toDigits_ne_nil
      · have cut : Nat.toDigits 16 (m / 16) = [] := List.append_inj_left' same rfl
        exact absurd cut Nat.toDigits_ne_nil
      · next large above =>
          obtain ⟨front, last⟩ := List.append_inj' same rfl
          have quotients := ih (m / 16) (by omega) front
          have remainders := digitChar_inj (low m) (low n) (List.singleton_inj.mp last)
          omega

/-! ## One character -/

/-- The characters behind a backslash that stand for another one. -/
def shortEscapes : List (Char × Char) :=
  [('0', '\x00'), ('t', '\t'), ('r', '\r'), ('n', '\n'), ('\\', '\\'), ('"', '"')]

/-- The shapes that a character may have in a quotation. -/
inductive QuotedAs : Char → List Char → Prop where
  | short {mark c : Char} (listed : (mark, c) ∈ shortEscapes) : QuotedAs c ['\\', mark]
  | number (c : Char) : QuotedAs c (numericEscape c)
  | bare {c : Char} (backslash : c ≠ '\\') (quote : c ≠ '"') (feed : c ≠ '\n') : QuotedAs c [c]

theorem quotedAs_quoteChar (c : Char) : QuotedAs c (quoteChar c) := by
  unfold quoteChar
  split
  · next same => subst same; exact .short (by decide)
  split
  · next same => subst same; exact .short (by decide)
  split
  · next same => subst same; exact .short (by decide)
  split
  · next same => subst same; exact .short (by decide)
  split
  · next same => subst same; exact .short (by decide)
  split
  · next same => subst same; exact .short (by decide)
  split
  · exact .number c
  · next feed backslash quote _ => exact .bare backslash quote feed

section

variable {c d mark : Char} {shape other after later : List Char}

theorem short_inj (listed : (mark, c) ∈ shortEscapes) (again : (mark, d) ∈ shortEscapes) :
    c = d := by
  have all : ∀ first ∈ shortEscapes, ∀ second ∈ shortEscapes,
      first.1 = second.1 → first.2 = second.2 := by decide
  exact all _ listed _ again rfl

theorem short_ne_u (listed : (mark, c) ∈ shortEscapes) : mark ≠ 'u' := by
  have all : ∀ escape ∈ shortEscapes, escape.1 ≠ 'u' := by decide
  exact all _ listed

theorem short_ne_feed (listed : (mark, c) ∈ shortEscapes) : mark ≠ '\n' := by
  have all : ∀ escape ∈ shortEscapes, escape.1 ≠ '\n' := by decide
  exact all _ listed

theorem not_mem_toDigits {n : Nat} (other : ∀ digit < 16, c ≠ digit.digitChar) :
    c ∉ Nat.toDigits 16 n := by
  intro member
  obtain ⟨digit, small, same⟩ := exists_digitChar_of_mem_toDigits member
  exact other digit small same

theorem numericEscape_append_inj (same : numericEscape c ++ after = numericEscape d ++ later) :
    c = d ∧ after = later := by
  have brace (n : Nat) : '\x7d' ∉ Nat.toDigits 16 n := not_mem_toDigits (by decide)
  simp only [numericEscape, List.append_assoc, List.append_cancel_left_eq,
    List.singleton_append] at same
  obtain ⟨digits, rest⟩ := eq_of_append_cons_eq (brace c.toNat) (brace d.toNat) same
  exact ⟨Char.toNat_inj.mp (toDigits_injective digits), rest⟩

/-- What begins with the shape of a character begins with that of no other. -/
theorem QuotedAs.append_inj (quoted : QuotedAs c shape) (again : QuotedAs d other)
    (same : shape ++ after = other ++ later) : c = d ∧ after = later := by
  cases quoted with
  | short listed =>
      cases again with
      | short listedAgain =>
          obtain ⟨rfl, rest⟩ := List.cons.inj (List.cons.inj same).2
          exact ⟨short_inj listed listedAgain, rest⟩
      | number =>
          have mark := (List.cons.inj (List.cons.inj same).2).1
          exact absurd mark (short_ne_u listed)
      | bare backslash => exact absurd (List.cons.inj same).1.symm backslash
  | number =>
      cases again with
      | short listed =>
          have mark := (List.cons.inj (List.cons.inj same).2).1
          exact absurd mark.symm (short_ne_u listed)
      | number => exact numericEscape_append_inj same
      | bare backslash => exact absurd (List.cons.inj same).1.symm backslash
  | bare backslash =>
      cases again with
      | short => exact absurd (List.cons.inj same).1 backslash
      | number => exact absurd (List.cons.inj same).1 backslash
      | bare => exact List.cons.inj same

theorem QuotedAs.ne_nil (quoted : QuotedAs c shape) : shape ≠ [] := by
  cases quoted <;> exact List.cons_ne_nil _ _

theorem QuotedAs.newline_not_mem (quoted : QuotedAs c shape) : '\n' ∉ shape := by
  cases quoted with
  | short listed => simp [(short_ne_feed listed).symm]
  | number =>
      have digits : '\n' ∉ Nat.toDigits 16 c.toNat := not_mem_toDigits (by decide)
      simp [numericEscape, digits]
  | bare _ _ feed => simp [feed.symm]

end

/-! ## Double quotes inside -/

/-- A double quote has a backslash before it. -/
def Guards (before c : Char) : Prop := c = '"' → before = '\\'

theorem isChain_guards_append {shape after : List Char} (quoteless : '"' ∉ shape)
    (chain : ∀ before, List.IsChain Guards (before :: after)) (before : Char) :
    List.IsChain Guards (before :: (shape ++ after)) := by
  induction shape generalizing before with
  | nil => exact chain before
  | cons c shape ih =>
      obtain ⟨other, quoteless⟩ := not_or.mp (mt List.mem_cons.mpr quoteless)
      apply List.IsChain.cons_cons
      · intro same
        exact absurd same.symm other
      · exact ih quoteless c

theorem QuotedAs.isChain_guards {c : Char} {shape after : List Char} (quoted : QuotedAs c shape)
    (chain : ∀ before, List.IsChain Guards (before :: after)) (before : Char) :
    List.IsChain Guards (before :: (shape ++ after)) := by
  cases quoted with
  | short =>
      apply List.IsChain.cons_cons
      · intro same
        cases same
      · exact List.IsChain.cons_cons (fun _ => rfl) (chain _)
  | number =>
      have digits : '"' ∉ Nat.toDigits 16 c.toNat := not_mem_toDigits (by decide)
      exact isChain_guards_append (by simp [numericEscape, digits]) chain before
  | bare _ quote => exact isChain_guards_append (by simp [quote.symm]) chain before

theorem isChain_guards_flatMap (text : List Char) (before : Char) :
    List.IsChain Guards (before :: text.flatMap quoteChar) := by
  induction text generalizing before with
  | nil => exact List.isChain_singleton before
  | cons c text ih =>
      rw [List.flatMap_cons]
      exact (quotedAs_quoteChar c).isChain_guards ih before

/-! ## Whole texts -/

theorem toList_quote (text : String) :
    (quote text).toList = '"' :: text.toList.flatMap quoteChar ++ ['"'] :=
  String.toList_ofList

theorem flatMap_quoteChar_injective {first second : List Char}
    (same : first.flatMap quoteChar = second.flatMap quoteChar) : first = second := by
  induction first generalizing second with
  | nil =>
      cases second with
      | nil => rfl
      | cons d second =>
          have front := List.append_eq_nil_iff.mp same.symm
          exact absurd front.1 (quotedAs_quoteChar d).ne_nil
  | cons c first ih =>
      cases second with
      | nil =>
          have front := List.append_eq_nil_iff.mp same
          exact absurd front.1 (quotedAs_quoteChar c).ne_nil
      | cons d second =>
          rw [List.flatMap_cons, List.flatMap_cons] at same
          obtain ⟨rfl, rest⟩ := (quotedAs_quoteChar c).append_inj (quotedAs_quoteChar d) same
          rw [ih rest]

theorem quote_injective {first second : String} (same : quote first = quote second) :
    first = second := by
  have chars := congrArg String.toList same
  rw [toList_quote, toList_quote] at chars
  have inner := List.append_cancel_right (List.cons.inj chars).2
  exact String.toList_inj.mp (flatMap_quoteChar_injective inner)

theorem newline_not_mem_quote (text : String) : '\n' ∉ (quote text).toList := by
  rw [toList_quote]
  have inner : '\n' ∉ text.toList.flatMap quoteChar := by
    intro member
    obtain ⟨c, -, shown⟩ := List.mem_flatMap.mp member
    exact (quotedAs_quoteChar c).newline_not_mem shown
  simp [inner]

/-- What ends with a quotation behind something else than a backslash is not the end of another
quotation. -/
theorem not_suffix_quote {before : Char} (other : before ≠ '\\') (first second : String) :
    ¬ before :: (quote first).toList <:+ (quote second).toList := by
  intro suffix
  rw [toList_quote, toList_quote, ← List.cons_append] at suffix
  obtain ⟨inside, same⟩ := suffix
  rw [← List.append_assoc] at same
  have cut := List.append_cancel_right same
  have chain := isChain_guards_flatMap second.toList '"'
  rw [← cut, List.isChain_append] at chain
  exact other ((List.isChain_cons_cons.mp chain.2.1).1 rfl)

end Rehearsal.Text
