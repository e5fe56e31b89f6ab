import Rehearsal.Backend.Session
/-!
# Output of an agent

An agent's output comes in pieces at certain times, and a session takes it line by line. Taking a
line splits the bytes at the first end of a line, wherever the pieces are cut; when the line is
complete depends on the times alone.
-/

set_option autoImplicit false

namespace Rehearsal.Session

/-! ## Cutting lines -/

theorem cutLine_eq_none_iff (bytes : Bytes) : cutLine bytes = none ↔ lineEnd ∉ bytes := by
  induction bytes with
  | nil => simp [cutLine]
  | cons byte rest ih =>
      by_cases same : byte = lineEnd
      · simp [cutLine, same]
      · simp [cutLine, same, ih, Ne.symm same]

theorem cutLine_append_of_some {bytes line rest : Bytes} (cut : cutLine bytes = some (line, rest))
    (more : Bytes) : cutLine (bytes ++ more) = some (line, rest ++ more) := by
  induction bytes generalizing line with
  | nil => cases cut
  | cons byte bytes ih =>
      by_cases same : byte = lineEnd
      · simp only [cutLine, same, if_true, Option.some.injEq, Prod.mk.injEq] at cut
        obtain ⟨rfl, rfl⟩ := cut
        simp [cutLine, same]
      · simp only [cutLine, same, if_false, Option.map_eq_some_iff, Prod.mk.injEq,
          Prod.exists] at cut
        obtain ⟨line', rest', cut, rfl, rfl⟩ := cut
        simp [cutLine, same, ih cut]

theorem cutLine_append_of_not_mem {bytes : Bytes} (noEnd : lineEnd ∉ bytes) (more : Bytes) :
    cutLine (bytes ++ more) =
      (cutLine more).map fun (line, rest) => (bytes ++ line, rest) := by
  induction bytes with
  | nil => simp
  | cons byte bytes ih =>
      have different : byte ≠ lineEnd := fun same => noEnd (same ▸ List.mem_cons_self)
      have tail := ih fun member => noEnd (List.mem_cons_of_mem _ member)
      rw [List.cons_append, cutLine, if_neg different, tail, Option.map_map]
      rfl

theorem cutLine_of_line {front : Bytes} (noEnd : lineEnd ∉ front) (rest : Bytes) :
    cutLine (front ++ lineEnd :: rest) = some (front ++ [lineEnd], rest) := by
  simp [cutLine_append_of_not_mem noEnd, cutLine]

/-! ## Pieces of output -/

/-- The bytes of some pieces. -/
def bytesOf (pieces : List (Nat × Bytes)) : Bytes := pieces.flatMap Prod.snd

/-- The bytes that have come by a time. -/
def arrived (time : Nat) (pieces : List (Nat × Bytes)) : Bytes :=
  bytesOf (pieces.filter fun piece => piece.1 ≤ time)

/-- Pieces that come one after the other. -/
def InOrder (pieces : List (Nat × Bytes)) : Prop :=
  pieces.Pairwise fun earlier later => earlier.1 ≤ later.1

@[simp] theorem bytesOf_nil : bytesOf [] = [] := rfl

@[simp] theorem bytesOf_cons (piece : Nat × Bytes) (rest : List (Nat × Bytes)) :
    bytesOf (piece :: rest) = piece.2 ++ bytesOf rest := rfl

@[simp] theorem bytesOf_append (first second : List (Nat × Bytes)) :
    bytesOf (first ++ second) = bytesOf first ++ bytesOf second :=
  List.flatMap_append

theorem arrived_eq_nil {time : Nat} {pieces : List (Nat × Bytes)}
    (late : ∀ piece ∈ pieces, time < piece.1) : arrived time pieces = [] := by
  have none : (pieces.filter fun piece => piece.1 ≤ time) = [] := by
    rw [List.filter_eq_nil_iff]
    intro piece member
    simpa using late piece member
  rw [arrived, none, bytesOf_nil]

/-- What has come by a time stands in front of what comes later. -/
theorem arrived_append_later {pieces : List (Nat × Bytes)} (ordered : InOrder pieces)
    (time : Nat) :
    arrived time pieces ++ bytesOf (pieces.filter fun (arrival, _) => time < arrival) =
      bytesOf pieces := by
  induction pieces with
  | nil => rfl
  | cons piece rest ih =>
      obtain ⟨first, ordered⟩ := List.pairwise_cons.mp ordered
      by_cases soon : piece.1 ≤ time
      · have kept : ¬ time < piece.1 := Nat.not_lt.mpr soon
        have tail := ih ordered
        simp only [arrived] at tail
        simp only [arrived, List.filter_cons, soon, kept, decide_true, decide_false, if_true,
          Bool.false_eq_true, if_false, bytesOf_cons, List.append_assoc, tail]
      · have late : ∀ later ∈ piece :: rest, time < later.1 := by
          intro later member
          rcases List.mem_cons.mp member with rfl | member
          · exact Nat.not_le.mp soon
          · exact Nat.lt_of_lt_of_le (Nat.not_le.mp soon) (first later member)
        rw [arrived_eq_nil late, List.filter_eq_self.mpr (by simpa using late), List.nil_append]

/-! ## Taking a line -/

theorem takeLine_of_not_mem {pieces : List (Nat × Bytes)} (noEnd : lineEnd ∉ bytesOf pieces)
    (held : Bytes) : takeLine held pieces = .error (held ++ bytesOf pieces) := by
  induction pieces generalizing held with
  | nil => simp [takeLine]
  | cons piece rest ih =>
      obtain ⟨time, bytes⟩ := piece
      simp only [bytesOf_cons, List.mem_append, not_or] at noEnd
      rw [takeLine, (cutLine_eq_none_iff bytes).mpr noEnd.1]
      simpa using ih noEnd.2 (held ++ bytes)

/-- What it means that a line has been taken from pieces: which bytes it leaves, and when it was
complete. -/
structure TakenFrom (pieces : List (Nat × Bytes)) (rest : Bytes) (time : Nat)
    (left : List (Nat × Bytes)) : Prop where
  bytes : bytesOf left = rest
  complete : InOrder pieces → ∀ bound, lineEnd ∈ arrived bound pieces ↔ time ≤ bound
  ordered : InOrder pieces → InOrder left
  times : ∀ piece ∈ left, ∃ before ∈ pieces, before.1 = piece.1

private theorem takenFrom_first {time : Nat} {bytes line after : Bytes}
    (cut : cutLine bytes = some (line, after)) {left rest : List (Nat × Bytes)}
    (shape : left = rest ∧ after = [] ∨ left = (time, after) :: rest) :
    TakenFrom ((time, bytes) :: rest) (after ++ bytesOf rest) time left where
  bytes := by rcases shape with ⟨rfl, rfl⟩ | rfl <;> simp
  complete := by
    intro ordered bound
    obtain ⟨first, -⟩ := List.pairwise_cons.mp ordered
    have present : lineEnd ∈ bytes := by
      by_cases absent : lineEnd ∈ bytes
      · exact absent
      · rw [(cutLine_eq_none_iff bytes).mpr absent] at cut
        cases cut
    constructor
    · intro member
      refine Nat.not_lt.mp fun early => ?_
      have late : ∀ later ∈ (time, bytes) :: rest, bound < later.1 := by
        intro later member
        rcases List.mem_cons.mp member with rfl | member
        · exact early
        · exact Nat.lt_of_lt_of_le early (first later member)
      rw [arrived_eq_nil late] at member
      cases member
    · intro soon
      simp [arrived, soon, present]
  ordered := by
    intro ordered
    rcases shape with ⟨rfl, -⟩ | rfl
    · exact (List.pairwise_cons.mp ordered).2
    · exact List.pairwise_cons.mpr (List.pairwise_cons.mp ordered)
  times := by
    intro piece member
    rcases shape with ⟨rfl, -⟩ | rfl
    · exact ⟨piece, List.mem_cons_of_mem _ member, rfl⟩
    · rcases List.mem_cons.mp member with rfl | member
      · exact ⟨_, List.mem_cons_self, rfl⟩
      · exact ⟨piece, List.mem_cons_of_mem _ member, rfl⟩

private theorem takenFrom_later {time : Nat} {bytes : Bytes} (noEnd : lineEnd ∉ bytes)
    {rest left : List (Nat × Bytes)} {after : Bytes} {complete : Nat}
    (taken : TakenFrom rest after complete left) :
    TakenFrom ((time, bytes) :: rest) after complete left where
  bytes := taken.bytes
  complete := by
    intro ordered bound
    rw [← taken.complete (List.pairwise_cons.mp ordered).2 bound]
    by_cases soon : time ≤ bound <;> simp [arrived, soon, noEnd]
  ordered := fun ordered => taken.ordered (List.pairwise_cons.mp ordered).2
  times := by
    intro piece member
    obtain ⟨before, present, same⟩ := taken.times piece member
    exact ⟨before, List.mem_cons_of_mem _ present, same⟩

/-- Taking a line from pieces that hold one cuts their bytes after it. -/
theorem takeLine_of_cutLine {pieces : List (Nat × Bytes)} {line rest : Bytes}
    (cut : cutLine (bytesOf pieces) = some (line, rest)) (held : Bytes) :
    ∃ time left, takeLine held pieces = .ok (held ++ line, time, left) ∧
      TakenFrom pieces rest time left := by
  induction pieces generalizing held line with
  | nil => cases cut
  | cons piece pieces ih =>
      obtain ⟨time, bytes⟩ := piece
      cases first : cutLine bytes with
      | some parts =>
          obtain ⟨line', after⟩ := parts
          rw [bytesOf_cons, cutLine_append_of_some first] at cut
          cases cut
          cases after with
          | nil =>
              exact ⟨time, pieces, by simp [takeLine, first],
                takenFrom_first first (.inl ⟨rfl, rfl⟩)⟩
          | cons byte after =>
              exact ⟨time, (time, byte :: after) :: pieces, by simp [takeLine, first],
                takenFrom_first first (.inr rfl)⟩
      | none =>
          have noEnd := (cutLine_eq_none_iff bytes).mp first
          rw [bytesOf_cons, cutLine_append_of_not_mem noEnd, Option.map_eq_some_iff] at cut
          obtain ⟨⟨line', rest'⟩, later, same⟩ := cut
          cases same
          obtain ⟨complete, left, taken, spec⟩ := ih later (held ++ bytes)
          refine ⟨complete, left, ?_, takenFrom_later noEnd spec⟩
          rw [takeLine, first]
          simpa using taken

/-! ## Scheduled output -/

@[simp] theorem bytesOf_schedule (time : Nat) (output : List (Nat × Bytes)) :
    bytesOf (schedule time output) = bytesOf output := by
  induction output generalizing time with
  | nil => rfl
  | cons piece rest ih => simp [schedule, ih]

theorem le_of_mem_schedule {time : Nat} {output : List (Nat × Bytes)} {piece : Nat × Bytes}
    (member : piece ∈ schedule time output) : time ≤ piece.1 := by
  induction output generalizing time with
  | nil => cases member
  | cons first rest ih =>
      rcases List.mem_cons.mp member with rfl | member
      · exact Nat.le_add_right _ _
      · exact Nat.le_trans (Nat.le_add_right _ _) (ih member)

theorem le_finish (time : Nat) (output : List (Nat × Bytes)) : time ≤ finish time output := by
  induction output generalizing time with
  | nil => exact Nat.le_refl _
  | cons piece rest ih => exact Nat.le_trans (Nat.le_add_right _ _) (ih _)

theorem le_finish_of_mem_schedule {time : Nat} {output : List (Nat × Bytes)}
    {piece : Nat × Bytes} (member : piece ∈ schedule time output) :
    piece.1 ≤ finish time output := by
  induction output generalizing time with
  | nil => cases member
  | cons first rest ih =>
      rcases List.mem_cons.mp member with rfl | member
      · exact le_finish _ _
      · exact ih member

theorem inOrder_schedule (time : Nat) (output : List (Nat × Bytes)) :
    InOrder (schedule time output) := by
  induction output generalizing time with
  | nil => exact .nil
  | cons piece rest ih =>
      exact List.pairwise_cons.mpr ⟨fun _ member => le_of_mem_schedule member, ih _⟩

end Rehearsal.Session
