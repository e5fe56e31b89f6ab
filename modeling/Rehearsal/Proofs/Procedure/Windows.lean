import Rehearsal.Proofs.Procedure.Turns
import Rehearsal.Proofs.Tree.Search
import Rehearsal.Backend.Stage
/-!
# Windows below the top level

A wait for a window looks for its kind and title in the whole tree, as a wait for any widget does. A
frame or a dialog that stands inside another window therefore gets the focus as one at the top level
does, and a wait for a window to be gone goes on as long as there is one at any depth.
-/

set_option autoImplicit false

namespace Rehearsal

variable {σ : Type}

/-- Whether a node has the role of a window's kind and a name that its title matches. -/
def Window.Titles (window : Window) (node : Node) : Prop :=
  node.role = some window.kind.role ∧
    ∃ name, node.name = some name ∧ NamePattern.Denotes window.name.toList name.toList

theorem Window.accepts_selector_iff (window : Window) (node : Node) :
    window.selector.accepts node = true ↔ window.Titles node := by
  rw [selector, Selector.accepts_of_iff, Titles, and_comm]
  simp only [NamePattern.accepts_iff_denotes]

namespace Forest

/-- Whether a window is at the top level of a tree. -/
def Tops (forest : Forest) (window : Window) : Prop :=
  ∃ node ∈ forest, window.Titles node

/-- Whether a window is below the top level of a tree. -/
def Nests (forest : Forest) (window : Window) : Prop :=
  ∃ top ∈ forest, ∃ node ∈ Forest.preorder top.children, window.Titles node

variable {forest : Forest} {window : Window}

theorem mem_preorder_iff {node : Node} :
    node ∈ Forest.preorder forest ↔
      node ∈ forest ∨ ∃ top ∈ forest, node ∈ Forest.preorder top.children := by
  induction forest with
  | nil => simp [preorder]
  | cons first rest ih =>
      have unfolded : first.preorder = first :: Forest.preorder first.children := by
        cases first
        rfl
      rw [preorder, unfolded, List.mem_append, List.mem_cons, ih]
      simp only [List.mem_cons, exists_eq_or_imp]
      constructor
      · intro member
        rcases member with (here | below) | (later | deeper)
        · exact .inl (.inl here)
        · exact .inr (.inl below)
        · exact .inl (.inr later)
        · exact .inr (.inr deeper)
      · intro member
        rcases member with (here | later) | (below | deeper)
        · exact .inl (.inl here)
        · exact .inr (.inl later)
        · exact .inl (.inr below)
        · exact .inr (.inr deeper)

/-- The search for a window does not tell the top level from what is below it. -/
theorem isSome_locate?_window_iff :
    (forest.locate? (.anywhere window.selector)).isSome = true ↔
      forest.Tops window ∨ forest.Nests window := by
  rw [locate?_anywhere, isSome_search?_iff]
  simp only [window.accepts_selector_iff]
  constructor
  · intro found
    obtain ⟨node, member, titled⟩ := found
    rcases mem_preorder_iff.mp member with top | below
    · exact .inl ⟨node, top, titled⟩
    · obtain ⟨top, there, below⟩ := below
      exact .inr ⟨top, there, node, below, titled⟩
  · intro found
    rcases found with tops | nests
    · obtain ⟨node, top, titled⟩ := tops
      exact ⟨node, mem_preorder_iff.mpr (.inl top), titled⟩
    · obtain ⟨top, there, node, below, titled⟩ := nests
      exact ⟨node, mem_preorder_iff.mpr (.inr ⟨top, there, below⟩), titled⟩

theorem locate?_window_eq_none_iff :
    forest.locate? (.anywhere window.selector) = none ↔
      ¬ forest.Tops window ∧ ¬ forest.Nests window := by
  rw [← Option.isNone_iff_eq_none, ← Option.not_isSome, Bool.not_eq_true', ← Bool.not_eq_true,
    isSome_locate?_window_iff, not_or]

end Forest

namespace Procedure

variable {procedure : Procedure σ} {window : Window}

theorem waitForAny_of_focusWindow {ended : Procedure σ}
    (worked : procedure.focusWindow window = (.ok (), ended)) :
    ∃ found after, procedure.waitForAny (.anywhere window.selector) [] = (.ok found, after) ∧
      ended.scene = after.scene := by
  unfold focusWindow at worked
  rcases waited : procedure.waitForAny (.anywhere window.selector) [] with ⟨_ | found, after⟩
  · rw [waited] at worked
    cases worked
  · rw [waited] at worked
    cases worked
    exact ⟨found, after, rfl, rfl⟩

theorem focusWindow_ok_iff :
    (∃ ended, procedure.focusWindow window = (.ok (), ended)) ↔
      ∃ found ended, procedure.waitForAny (.anywhere window.selector) [] = (.ok found, ended) := by
  constructor
  · intro worked
    obtain ⟨ended, worked⟩ := worked
    obtain ⟨found, after, waited, -⟩ := waitForAny_of_focusWindow worked
    exact ⟨found, after, waited⟩
  · intro waited
    obtain ⟨found, ended, waited⟩ := waited
    rw [focusWindow, waited]
    exact ⟨_, rfl⟩

theorem waitForClosed_ok_iff :
    (∃ ended, procedure.waitForClosed window = (.ok (), ended)) ↔
      ∃ ended, procedure.waitUntilGone (.anywhere window.selector) = (.ok (), ended) := by
  rw [waitForClosed]
  rcases procedure.waitUntilGone (.anywhere window.selector) with ⟨_ | _, after⟩
  · simp [recorded]
  · constructor
    · intro
      exact ⟨after, rfl⟩
    · intro
      dsimp only
      split <;> exact ⟨_, rfl⟩

/-- A window gets the focus exactly when a dump of one of the turns has it at the top level or below
it and none before that tells that the backend is gone; the first such dump is the last one, so one
with the window at the top level has come only if that one is. A wait for a window to be gone
succeeds exactly when a dump has it at neither place. -/
theorem windows_at_any_depth (procedure : Procedure σ) (window : Window) :
    let turns := max 1 procedure.patience.attempts
    let shows (sight : Forest → Prop) (number : Nat) :=
      ∃ forest, procedure.answer number = .ok forest ∧ sight forest
    let reached (number : Nat) := ∀ earlier < number, ∀ error, ¬ procedure.LosesAt earlier error
    ((∃ ended, procedure.focusWindow window = (.ok (), ended)) ↔
      ∃ number < turns,
        shows (fun forest => forest.Tops window ∨ forest.Nests window) number ∧ reached number) ∧
    (∀ ended, procedure.focusWindow window = (.ok (), ended) →
      ∃ number < turns, ended.scene = (procedure.answered number).scene ∧
        ∃ forest, procedure.answer number = .ok forest ∧
          (forest.Tops window ∨ forest.Nests window) ∧
          (forest.Tops window ↔ ∃ received ≤ number, shows (·.Tops window) received)) ∧
    ((∃ ended, procedure.waitForClosed window = (.ok (), ended)) ↔
      ∃ number < turns,
        shows (fun forest => ¬ forest.Tops window ∧ ¬ forest.Nests window) number ∧
          reached number) := by
  intro turns shows reached
  refine ⟨?_, ?_, ?_⟩
  · rw [focusWindow_ok_iff, waitForAny_ok_iff]
    simp only [Forest.isSome_locate?_window_iff]
    rfl
  · intro ended worked
    obtain ⟨found, after, waited, same⟩ := waitForAny_of_focusWindow worked
    obtain ⟨number, within, rfl, ⟨forest, shown, seen⟩, before⟩ :=
      procedure.waitForAny_ends waited
    refine ⟨number, within, same, forest, shown, Forest.isSome_locate?_window_iff.mp seen, ?_⟩
    constructor
    · intro tops
      exact ⟨number, Nat.le_refl number, forest, shown, tops⟩
    · intro received
      obtain ⟨earlier, upTo, other, there, tops⟩ := received
      rcases Nat.lt_or_eq_of_le upTo with less | rfl
      · exact absurd tops (Forest.locate?_window_eq_none_iff.mp (before earlier less other there)).1
      · cases shown.symm.trans there
        exact tops
  · rw [waitForClosed_ok_iff, waitUntilGone_ok_iff]
    simp only [Forest.locate?_window_eq_none_iff]
    rfl

/-- Before a viewer that shows its print dialog inside its frame. -/
def printing : Procedure Stage :=
  .start Stage.backend "viewer" ⟨1, 500⟩ ⟨fun _ => ⟨[]⟩, fun _ => default⟩
    ⟨Stage.bare [Node.of "Main" Role.frame [Node.leaf "Print" Role.dialog]], 0⟩

/-- No dialog is at the top level, and still one gets the focus and none counts as gone. -/
theorem windows_at_any_depth_printing :
    (∃ forest, printing.answer 0 = .ok forest ∧ ¬ forest.Tops (.dialog "Print") ∧
      forest.Nests (.dialog "Print")) ∧
    (∃ ended, printing.focusWindow (.dialog "Print") = (.ok (), ended)) ∧
    ¬ ∃ ended, printing.waitForClosed (.dialog "Print") = (.ok (), ended) := by
  let windows : Forest := [Node.of "Main" Role.frame [Node.leaf "Print" Role.dialog]]
  have shown : printing.answer 0 = .ok windows := rfl
  have titled : (Window.dialog "Print").Titles (Node.leaf "Print" Role.dialog) :=
    (Window.accepts_selector_iff _ _).mp (by decide)
  have nests : windows.Nests (.dialog "Print") :=
    ⟨_, List.mem_singleton_self _, _, List.mem_singleton_self _, titled⟩
  obtain ⟨focuses, -, closes⟩ := windows_at_any_depth printing (.dialog "Print")
  refine ⟨⟨windows, shown, ?_, nests⟩, focuses.mpr ?_, fun closed => ?_⟩
  · intro tops
    obtain ⟨node, member, role, -⟩ := tops
    cases List.mem_singleton.mp member
    exact absurd role (by decide)
  · exact ⟨0, Nat.one_pos, ⟨windows, shown, .inr nests⟩, nofun⟩
  · obtain ⟨number, within, ⟨forest, answered, -, without⟩, -⟩ := closes.mp closed
    cases Nat.lt_one_iff.mp within
    cases shown.symm.trans answered
    exact without nests

end Procedure

end Rehearsal
