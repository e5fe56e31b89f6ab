import Rehearsal.Text.Unicode
/-!
# Trimming and words

Blanks around a text that neither begins nor ends with one are what trimming removes. A text without
words is one of blanks.
-/

set_option autoImplicit false

namespace Rehearsal.Text

/-- Nothing but blanks. -/
def AllBlank (text : List Char) : Prop := ∀ c ∈ text, isBlank c = true

instance (text : List Char) : Decidable (AllBlank text) :=
  List.decidableBAll (fun c => isBlank c = true) text

theorem dropWhile_of_allBlank {text : List Char} (blank : AllBlank text) :
    text.dropWhile isBlank = [] := by
  induction text with
  | nil => rfl
  | cons c text ih =>
      have first := blank c List.mem_cons_self
      simpa [first] using ih fun d member => blank d (List.mem_cons_of_mem _ member)

theorem dropWhile_append_of_allBlank {blanks : List Char} (blank : AllBlank blanks)
    (rest : List Char) : (blanks ++ rest).dropWhile isBlank = rest.dropWhile isBlank := by
  rw [List.dropWhile_append, dropWhile_of_allBlank blank]
  rfl

theorem dropBlankEnd_append {blanks : List Char} (blank : AllBlank blanks) (text : List Char) :
    dropBlankEnd (text ++ blanks) = dropBlankEnd text := by
  have turned : AllBlank blanks.reverse := fun c member => blank c (List.mem_reverse.mp member)
  rw [dropBlankEnd, List.reverse_append, dropWhile_append_of_allBlank turned]
  rfl

theorem trimList_append {blanks : List Char} (blank : AllBlank blanks) (text : List Char) :
    trimList (text ++ blanks) = trimList text := by
  rw [trimList, List.dropWhile_append]
  split
  · next nothing =>
    rw [dropWhile_of_allBlank blank, trimList, List.isEmpty_iff.mp nothing]
  · exact dropBlankEnd_append blank _

theorem trimList_prepend {blanks : List Char} (blank : AllBlank blanks) (text : List Char) :
    trimList (blanks ++ text) = trimList text := by
  rw [trimList, dropWhile_append_of_allBlank blank]
  rfl

theorem trimList_of_solid {first last : Char} {middle : List Char}
    (solidFirst : isBlank first = false) (solidLast : isBlank last = false) :
    trimList (first :: (middle ++ [last])) = first :: (middle ++ [last]) := by
  simp [trimList, dropBlankEnd, solidFirst, solidLast]

/-- Trimming takes nothing but blanks away. -/
theorem exists_blanks_trimList (text : List Char) :
    ∃ before after, AllBlank before ∧ AllBlank after ∧
      text = before ++ trimList text ++ after := by
  have blank (side : List Char) : AllBlank (side.takeWhile isBlank) :=
    fun _ member => List.all_eq_true.mp List.all_takeWhile _ member
  let kept := text.dropWhile isBlank
  refine ⟨text.takeWhile isBlank, (kept.reverse.takeWhile isBlank).reverse, blank _,
    fun c member => blank _ c (List.mem_reverse.mp member), ?_⟩
  have front : text = text.takeWhile isBlank ++ kept := List.takeWhile_append_dropWhile.symm
  have back : kept = trimList text ++ (kept.reverse.takeWhile isBlank).reverse := by
    rw [trimList, dropBlankEnd, ← List.reverse_append, List.takeWhile_append_dropWhile,
      List.reverse_reverse]
  rw [List.append_assoc, ← back]
  exact front

/-- Nothing is left of blanks alone. -/
theorem trimList_eq_nil_iff {text : List Char} : trimList text = [] ↔ AllBlank text := by
  constructor
  · intro nothing
    obtain ⟨before, after, front, back, split⟩ := exists_blanks_trimList text
    rw [nothing, List.append_nil] at split
    rw [split]
    exact List.forall_mem_append.mpr ⟨front, back⟩
  · exact fun blank => trimList_append blank []

theorem trimList_eq_self {text : List Char} (solid : ∀ c ∈ text, isBlank c = false) :
    trimList text = text := by
  have none {side : List Char} (solid : ∀ c ∈ side, isBlank c = false) :
      side.dropWhile isBlank = side := by
    cases side with
    | nil => rfl
    | cons c side => exact List.dropWhile_cons_of_neg (by simp [solid c List.mem_cons_self])
  rw [trimList, dropBlankEnd, none solid,
    none fun c member => solid c (List.mem_reverse.mp member), List.reverse_reverse]

theorem trimList_around {before text after : List Char} (first : AllBlank before)
    (last : AllBlank after) (solid : ∀ c ∈ text, isBlank c = false) :
    trimList (before ++ text ++ after) = text := by
  rw [trimList_append last, trimList_prepend first, trimList_eq_self solid]

/-- The end of a line does not matter to what is trimmed. -/
theorem trim_newline (line : String) : trim (line ++ "\n") = trim line := by
  have blank : AllBlank ['\n'] := by decide
  rw [trim, trim, String.toList_append]
  exact congrArg String.ofList (trimList_append blank line.toList)

end Rehearsal.Text
