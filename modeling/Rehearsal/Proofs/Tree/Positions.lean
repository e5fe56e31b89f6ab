import Rehearsal.Proofs.Tree.Search
/-!
# Where a search finds

A node stands at a position: the number of its tree in the forest, then the number of a child for
every level below. Positions are compared number by number, and one comes before all that go on from
it, so their order is the pre-order of the nodes. A search finds what stands first among the nodes
that its selector describes. Inside a window it finds what stands first among those below the node
that stands first among the windows of that kind and name.
-/

set_option autoImplicit false

namespace Rehearsal

abbrev Position := List Nat

/-- What stands at a position as seen from a node, which has the empty position itself. -/
def Node.at? (node : Node) : Position → Option Node
  | [] => some node
  | index :: rest => node.children[index]?.bind fun child => child.at? rest

/-- What stands at a position of a forest. Nothing has the empty one. -/
def Forest.at? (forest : Forest) : Position → Option Node
  | [] => none
  | index :: rest => forest[index]?.bind fun node => node.at? rest

/-- What stands at a position if that is below another one. -/
def Forest.below? (forest : Forest) (upper position : Position) : Option Node :=
  if upper <+: position ∧ upper ≠ position then forest.at? position else none

/-- Whether a node has the name and the role that a selector asks for. -/
def Selector.Describes (selector : Selector) (node : Node) : Prop :=
  (∃ name, node.name = some name ∧
    NamePattern.Denotes selector.name.toList name.toList) ∧
  ∀ role, selector.role = some role → node.role = some role

theorem Selector.accepts_iff_describes (selector : Selector) (node : Node) :
    selector.accepts node = true ↔ selector.Describes node := by
  obtain ⟨pattern, role⟩ := selector
  cases role with
  | none =>
      refine accepts_named_iff.trans ?_
      simp [Describes, NamePattern.accepts_iff_denotes]
  | some role =>
      refine accepts_of_iff.trans ?_
      simp [Describes, NamePattern.accepts_iff_denotes]

/-! ## The first of the nodes that are wanted -/

/-- Whether a node stands at a position and no wanted one stands before it. -/
structure Foremost (shown : Position → Option Node) (wanted : Node → Prop) (position : Position)
    (node : Node) : Prop where
  stands : shown position = some node
  meets : wanted node
  first : ∀ earlier other, earlier < position → shown earlier = some other → ¬ wanted other

def Nowhere (shown : Position → Option Node) (wanted : Node → Prop) : Prop :=
  ∀ position node, shown position = some node → ¬ wanted node

/-- Whether a result is the first of the nodes that are wanted, or nothing where there is none. -/
def Settles (shown : Position → Option Node) (wanted : Node → Prop) : Option Node → Prop
  | some node => ∃ position, Foremost shown wanted position node
  | none => Nowhere shown wanted

section

variable {shown : Position → Option Node} {wanted : Node → Prop} {position other : Position}
  {node found : Node} {result : Option Node}

/-- A wanted node stands where the first one does or after it. -/
theorem Foremost.eq_or_lt (foremost : Foremost shown wanted position node)
    (stands : shown other = some found) (meets : wanted found) :
    position = other ∨ position < other := by
  rcases Std.lt_trichotomy position other with before | same | after
  · exact .inr before
  · exact .inl same
  · exact absurd meets (foremost.first other found after stands)

theorem Foremost.unique (foremost : Foremost shown wanted position node)
    (alike : Foremost shown wanted other found) : position = other ∧ node = found := by
  have same : position = other := by
    rcases foremost.eq_or_lt alike.stands alike.meets with same | before
    · exact same
    · exact absurd foremost.meets (alike.first position node before foremost.stands)
  subst same
  exact ⟨rfl, Option.some.inj (foremost.stands.symm.trans alike.stands)⟩

theorem Settles.eq_some_iff (settles : Settles shown wanted result) :
    result = some node ↔ ∃ position, Foremost shown wanted position node := by
  constructor
  · intro same
    rwa [same] at settles
  · intro foremost
    obtain ⟨position, foremost⟩ := foremost
    cases result with
    | none => exact absurd foremost.meets (settles position node foremost.stands)
    | some found =>
        obtain ⟨other, alike⟩ := settles
        exact congrArg some (alike.unique foremost).2

theorem Settles.eq_none_iff (settles : Settles shown wanted result) :
    result = none ↔ Nowhere shown wanted := by
  constructor
  · intro same
    rwa [same] at settles
  · intro nowhere
    cases result with
    | none => rfl
    | some found =>
        obtain ⟨position, foremost⟩ := settles
        exact absurd foremost.meets (nowhere position found foremost.stands)

end

/-! ## Searches -/

section

variable {wanted : Node → Prop} {node : Node} {forest : Forest} {result : Option Node}

/-- A node that is not wanted leaves the search to what is below it. -/
theorem Node.settles_of_children (unwanted : ¬ wanted node)
    (settles : Settles (Forest.at? node.children) wanted result) :
    Settles node.at? wanted result := by
  cases result with
  | none =>
      intro position other stands
      cases position with
      | nil =>
          cases stands
          exact unwanted
      | cons index rest => exact settles (index :: rest) other stands
  | some found =>
      obtain ⟨position, stands, meets, first⟩ := settles
      cases position with
      | nil => cases stands
      | cons index rest =>
          refine ⟨index :: rest, stands, meets, ?_⟩
          intro earlier other before there
          cases earlier with
          | nil =>
              cases there
              exact unwanted
          | cons number others => exact first (number :: others) other before there

/-- What is found in the first tree of a forest is found in the forest. -/
theorem Forest.settles_of_head {found : Node} (settles : Settles node.at? wanted (some found)) :
    Settles (Forest.at? (node :: forest)) wanted (some found) := by
  obtain ⟨position, stands, meets, first⟩ := settles
  refine ⟨0 :: position, stands, meets, ?_⟩
  intro earlier other before there
  cases earlier with
  | nil => cases there
  | cons number others =>
      rcases List.cons_lt_cons_iff.mp before with less | ⟨rfl, less⟩
      · cases less
      · exact first others other less there

/-- A tree with nothing that is wanted leaves the search to the trees after it. -/
theorem Forest.settles_of_tail (nowhere : Nowhere node.at? wanted)
    (settles : Settles (Forest.at? forest) wanted result) :
    Settles (Forest.at? (node :: forest)) wanted result := by
  cases result with
  | none =>
      intro position other stands
      match position with
      | [] => cases stands
      | 0 :: rest => exact nowhere rest other stands
      | (number + 1) :: rest => exact settles (number :: rest) other stands
  | some found =>
      obtain ⟨position, stands, meets, first⟩ := settles
      cases position with
      | nil => cases stands
      | cons index rest =>
          refine ⟨(index + 1) :: rest, stands, meets, ?_⟩
          intro earlier other before there
          match earlier with
          | [] => cases there
          | 0 :: others => exact nowhere others other there
          | (number + 1) :: others =>
              have less : number :: others < index :: rest := by
                simpa [List.cons_lt_cons_iff] using before
              exact first (number :: others) other less there

end

mutual

theorem Node.settles_search? (selector : Selector) (node : Node) :
    Settles node.at? selector.Describes (node.search? selector) := by
  obtain ⟨name, role, text, description, states, children⟩ := node
  have inside := Forest.settles_search? selector children
  rw [Node.search?]
  split
  · next accepted =>
      refine ⟨[], rfl, (selector.accepts_iff_describes _).mp accepted, ?_⟩
      intro earlier other before
      exact absurd before (List.not_lt_nil earlier)
  · next refused =>
      have unwanted := mt (selector.accepts_iff_describes _).mpr refused
      exact Node.settles_of_children unwanted inside

theorem Forest.settles_search? (selector : Selector) (forest : Forest) :
    Settles (Forest.at? forest) selector.Describes (Forest.search? selector forest) := by
  cases forest with
  | nil =>
      intro position other stands
      cases position <;> cases stands
  | cons node rest =>
      have head := Node.settles_search? selector node
      rw [Forest.search?]
      cases searched : node.search? selector with
      | some found =>
          rw [searched] at head
          exact Forest.settles_of_head head
      | none =>
          rw [searched] at head
          exact Forest.settles_of_tail head (Forest.settles_search? selector rest)

end

/-! ## Below a position -/

theorem Node.at?_append (node : Node) (upper lower : Position) :
    node.at? (upper ++ lower) = (node.at? upper).bind fun inner => inner.at? lower := by
  induction upper generalizing node with
  | nil => rfl
  | cons index upper ih =>
      rw [List.cons_append, Node.at?, Node.at?]
      cases node.children[index]? with
      | none => rfl
      | some child => exact ih child

theorem Forest.at?_append {forest : Forest} {upper : Position} {node : Node}
    (stands : forest.at? upper = some node) (lower : Position) :
    forest.at? (upper ++ lower) = node.at? lower := by
  cases upper with
  | nil => cases stands
  | cons index upper =>
      rw [at?] at stands
      obtain ⟨top, there, down⟩ := Option.bind_eq_some_iff.mp stands
      rw [List.cons_append, at?, there, Option.bind_some, Node.at?_append, down, Option.bind_some]

/-- What is below a position is what stands in the forest of the node there. -/
theorem Forest.below?_eq_some_iff {forest : Forest} {upper position : Position} {node found : Node}
    (stands : forest.at? upper = some node) :
    forest.below? upper position = some found ↔
      ∃ lower, position = upper ++ lower ∧ Forest.at? node.children lower = some found := by
  rw [below?]
  constructor
  · intro there
    split at there
    · next inside =>
        obtain ⟨⟨lower, rfl⟩, differs⟩ := inside
        refine ⟨lower, rfl, ?_⟩
        rw [at?_append stands] at there
        cases lower with
        | nil => exact absurd (List.append_nil upper).symm differs
        | cons index rest => exact there
    · cases there
  · intro there
    obtain ⟨lower, rfl, there⟩ := there
    cases lower with
    | nil => cases there
    | cons index rest =>
        rw [if_pos ⟨List.prefix_append _ _, by simp⟩, at?_append stands]
        exact there

theorem lt_of_append_lt_append {upper lower other : Position}
    (less : upper ++ lower < upper ++ other) : lower < other := by
  induction upper with
  | nil => exact less
  | cons index upper ih =>
      rcases List.cons_lt_cons_iff.mp less with before | ⟨-, rest⟩
      · exact absurd before (Nat.lt_irrefl index)
      · exact ih rest

/-- A search among the children of a node settles what is below it. -/
theorem Forest.settles_below? {forest : Forest} {upper : Position} {node : Node}
    {wanted : Node → Prop} {result : Option Node} (stands : forest.at? upper = some node)
    (settles : Settles (Forest.at? node.children) wanted result) :
    Settles (forest.below? upper) wanted result := by
  cases result with
  | none =>
      intro position other there
      obtain ⟨lower, -, inside⟩ := (below?_eq_some_iff stands).mp there
      exact settles lower other inside
  | some found =>
      obtain ⟨lower, inside, meets, first⟩ := settles
      refine ⟨upper ++ lower, (below?_eq_some_iff stands).mpr ⟨lower, rfl, inside⟩, meets, ?_⟩
      intro earlier other before there
      obtain ⟨shorter, rfl, within⟩ := (below?_eq_some_iff stands).mp there
      exact first shorter other (lt_of_append_lt_append before) within

theorem Forest.at?_of_below? {forest : Forest} {upper position : Position} {node : Node}
    (there : forest.below? upper position = some node) : forest.at? position = some node := by
  rw [below?] at there
  split at there
  · exact there
  · cases there

/-- A search finds the first node in pre-order that its selector describes, and nothing exactly when
it describes none. Inside a window the same holds of what is below the first node that is such a
window, and nothing is found when there is no such node. So what is found inside a window is also
found without it, or something that stands before it. -/
theorem Forest.search_finds_foremost (forest : Forest) (selector : Selector) (window : Window) :
    let widget := Foremost forest.at? selector.Describes
    let top := Foremost forest.at? window.selector.Describes
    let inside (frame : Position) := Foremost (forest.below? frame) selector.Describes
    (∀ node, Forest.search? selector forest = some node ↔ ∃ position, widget position node) ∧
    (Forest.search? selector forest = none ↔ Nowhere forest.at? selector.Describes) ∧
    (∀ node, forest.locate? (.within window selector) = some node ↔
      ∃ frame titled position, top frame titled ∧ inside frame position node) ∧
    (forest.locate? (.within window selector) = none ↔
      Nowhere forest.at? window.selector.Describes ∨
        ∃ frame titled, top frame titled ∧ Nowhere (forest.below? frame) selector.Describes) ∧
    ∀ frame titled position node, top frame titled → inside frame position node →
      ∃ earliest found, widget earliest found ∧
        forest.locate? (.anywhere selector) = some found ∧
        (earliest = position ∧ found = node ∨ earliest < position) := by
  intro widget top inside
  have search := Forest.settles_search? selector forest
  have windows := Forest.settles_search? window.selector forest
  have within {frame : Position} {titled : Node} (there : top frame titled) :
      Settles (forest.below? frame) selector.Describes
        (forest.locate? (.within window selector)) := by
    rw [locate?_within, windows.eq_some_iff.mpr ⟨frame, there⟩]
    exact settles_below? there.stands (Forest.settles_search? selector titled.children)
  have without (nowhere : Nowhere forest.at? window.selector.Describes) :
      forest.locate? (.within window selector) = none := by
    rw [locate?_within, windows.eq_none_iff.mpr nowhere]
    rfl
  refine ⟨fun node => search.eq_some_iff, search.eq_none_iff, ?_, ?_, ?_⟩
  · intro node
    constructor
    · intro located
      cases titles : Forest.search? window.selector forest with
      | none =>
          rw [without (windows.eq_none_iff.mp titles)] at located
          cases located
      | some titled =>
          obtain ⟨frame, there⟩ := windows.eq_some_iff.mp titles
          obtain ⟨position, foremost⟩ := (within there).eq_some_iff.mp located
          exact ⟨frame, titled, position, there, foremost⟩
    · intro found
      obtain ⟨frame, titled, position, there, foremost⟩ := found
      exact (within there).eq_some_iff.mpr ⟨position, foremost⟩
  · constructor
    · intro missing
      cases titles : Forest.search? window.selector forest with
      | none => exact .inl (windows.eq_none_iff.mp titles)
      | some titled =>
          obtain ⟨frame, there⟩ := windows.eq_some_iff.mp titles
          exact .inr ⟨frame, titled, there, (within there).eq_none_iff.mp missing⟩
    · intro missing
      rcases missing with nowhere | ⟨frame, titled, there, nowhere⟩
      · exact without nowhere
      · exact (within there).eq_none_iff.mpr nowhere
  · intro frame titled position node there foremost
    have stands : forest.at? position = some node := at?_of_below? foremost.stands
    cases found : Forest.search? selector forest with
    | none => exact absurd foremost.meets (search.eq_none_iff.mp found position node stands)
    | some earlier =>
        obtain ⟨earliest, least⟩ := search.eq_some_iff.mp found
        refine ⟨earliest, earlier, least, found, ?_⟩
        rcases least.eq_or_lt stands foremost.meets with same | before
        · subst same
          exact .inl ⟨rfl, Option.some.inj (least.stands.symm.trans stands)⟩
        · exact .inr before

end Rehearsal
