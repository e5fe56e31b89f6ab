/-!
# Lines

Lines that each end in a line feed and have none inside come apart at the line feeds again.
-/

set_option autoImplicit false

namespace Rehearsal.Text

variable {c : Char} {first second after later : List Char} {lines others : List (List Char)}

/-- What stands before the first occurrence of a character, and what stands after it. -/
theorem eq_of_append_cons_eq (fresh : c ∉ first) (freshSecond : c ∉ second)
    (same : first ++ c :: after = second ++ c :: later) : first = second ∧ after = later := by
  induction first generalizing second with
  | nil =>
      cases second with
      | nil => exact ⟨rfl, (List.cons.inj same).2⟩
      | cons d second =>
          have front : c = d := (List.cons.inj same).1
          exact absurd (front ▸ List.mem_cons_self) freshSecond
  | cons d first ih =>
      cases second with
      | nil =>
          have front : d = c := (List.cons.inj same).1
          exact absurd (front ▸ List.mem_cons_self) fresh
      | cons e second =>
          obtain ⟨front, rest⟩ := List.cons.inj same
          have others := ih (mt (List.mem_cons_of_mem d) fresh)
            (mt (List.mem_cons_of_mem e) freshSecond) rest
          exact ⟨front ▸ others.1 ▸ rfl, others.2⟩

/-- Nothing is left behind the last line. -/
theorem splitOn_ended (plain : ∀ line ∈ lines, '\n' ∉ line) :
    (lines.flatMap (· ++ ['\n'])).splitOn '\n' = lines ++ [[]] := by
  induction lines with
  | nil => rfl
  | cons line lines ih =>
      obtain ⟨plainLine, plainOthers⟩ := List.forall_mem_cons.mp plain
      have inside : ∀ c ∈ line, (c == '\n') = false := by
        intro c member
        have other : c ≠ '\n' := fun same => plainLine (same ▸ member)
        simpa using other
      have cut := List.splitOnP_append_cons_of_forall_mem inside '\n' (by simp)
        (lines.flatMap (· ++ ['\n']))
      simp only [List.flatMap_cons, List.append_assoc, List.singleton_append]
      exact cut.trans (congrArg (line :: ·) (ih plainOthers))

theorem ended_injective (plain : ∀ line ∈ lines, '\n' ∉ line)
    (plainOthers : ∀ line ∈ others, '\n' ∉ line)
    (same : lines.flatMap (· ++ ['\n']) = others.flatMap (· ++ ['\n'])) : lines = others := by
  have cut := splitOn_ended plain
  rw [same, splitOn_ended plainOthers] at cut
  exact (List.append_cancel_right cut).symm

theorem toList_join_ended (texts : List String) :
    (String.join (texts.map (· ++ "\n"))).toList =
      (texts.map String.toList).flatMap (· ++ ['\n']) := by
  simp [String.toList_join, List.flatMap_map]

end Rehearsal.Text
