import Rehearsal.Proofs.Tree.NamePattern
import Rehearsal.Tree.Locator
/-!
# What a search finds

A search gives the first node in pre-order that the selector accepts. So it finds a node exactly
when there is one that the selector accepts, at whatever depth, and what is found inside a window is
also there without it.
-/

set_option autoImplicit false

namespace Rehearsal

mutual

theorem Node.search?_eq_find? (selector : Selector) (node : Node) :
    node.search? selector = node.preorder.find? selector.accepts := by
  obtain ⟨name, role, text, description, states, children⟩ := node
  rw [Node.search?, Node.preorder, List.find?_cons, Forest.search?_eq_find? selector children]
  cases selector.accepts ⟨name, role, text, description, states, children⟩ <;> rfl

theorem Forest.search?_eq_find? (selector : Selector) (forest : Forest) :
    Forest.search? selector forest = (Forest.preorder forest).find? selector.accepts := by
  cases forest with
  | nil => rfl
  | cons node rest =>
      rw [Forest.search?, Forest.preorder, List.find?_append, Node.search?_eq_find? selector node,
        Forest.search?_eq_find? selector rest]
      cases node.preorder.find? selector.accepts <;> rfl

end

mutual

theorem Node.mem_preorder_trans {node inner leaf : Node} (outer : inner ∈ node.preorder)
    (below : leaf ∈ Forest.preorder inner.children) : leaf ∈ node.preorder := by
  obtain ⟨name, role, text, description, states, children⟩ := node
  rw [Node.preorder, List.mem_cons] at outer ⊢
  rcases outer with rfl | outer
  · exact .inr below
  · exact .inr (Forest.mem_preorder_trans outer below)

theorem Forest.mem_preorder_trans {forest : Forest} {inner leaf : Node}
    (outer : inner ∈ Forest.preorder forest) (below : leaf ∈ Forest.preorder inner.children) :
    leaf ∈ Forest.preorder forest := by
  cases forest with
  | nil => cases outer
  | cons node rest =>
      rw [Forest.preorder, List.mem_append] at outer ⊢
      exact outer.imp (Node.mem_preorder_trans · below) (Forest.mem_preorder_trans · below)

end

theorem Forest.mem_preorder_of_mem {forest : Forest} {node : Node} (member : node ∈ forest) :
    node ∈ Forest.preorder forest := by
  induction forest with
  | nil => cases member
  | cons first rest ih =>
      rw [Forest.preorder, List.mem_append]
      rcases List.mem_cons.mp member with rfl | later
      · exact .inl (by cases node; exact List.mem_cons_self)
      · exact .inr (ih later)

theorem Forest.mem_preorder_of_child {forest : Forest} {parent child : Node}
    (outer : parent ∈ Forest.preorder forest) (member : child ∈ parent.children) :
    child ∈ Forest.preorder forest :=
  Forest.mem_preorder_trans outer (Forest.mem_preorder_of_mem member)

namespace Selector

theorem accepts_of_iff {name role : String} {node : Node} :
    (Selector.of name role).accepts node = true ↔
      (∃ own, node.name = some own ∧ NamePattern.accepts name own = true) ∧
        node.role = some role := by
  obtain ⟨own, kind, text, description, states, children⟩ := node
  cases own <;> simp [accepts, Selector.of, Node.isRole]

theorem accepts_named_iff {name : String} {node : Node} :
    (Selector.named name).accepts node = true ↔
      ∃ own, node.name = some own ∧ NamePattern.accepts name own = true := by
  obtain ⟨own, kind, text, description, states, children⟩ := node
  cases own <;> simp [accepts, Selector.named]

theorem accepts_of_plain_iff {name role : String} {node : Node}
    (plain : NamePattern.hasWildcard name.toList = false) :
    (Selector.of name role).accepts node = true ↔
      node.name = some name ∧ node.role = some role := by
  simp [accepts_of_iff, NamePattern.accepts_iff_eq plain]

end Selector

namespace Forest

variable {forest : Forest} {selector : Selector}

theorem isSome_search?_iff :
    (Forest.search? selector forest).isSome = true ↔
      ∃ node ∈ Forest.preorder forest, selector.accepts node = true := by
  rw [search?_eq_find?, List.find?_isSome]

theorem of_search?_eq_some {node : Node} (found : Forest.search? selector forest = some node) :
    node ∈ Forest.preorder forest ∧ selector.accepts node = true := by
  rw [search?_eq_find?] at found
  exact ⟨List.mem_of_find?_eq_some found, List.find?_some found⟩

theorem locate?_anywhere (forest : Forest) (selector : Selector) :
    forest.locate? (.anywhere selector) = Forest.search? selector forest :=
  rfl

theorem locate?_within (forest : Forest) (window : Window) (selector : Selector) :
    forest.locate? (.within window selector) =
      (Forest.search? window.selector forest).bind
        fun found => Forest.search? selector found.children := by
  simp only [locate?, Locator.within]
  cases Forest.search? window.selector forest <;> rfl

theorem of_locate?_eq_some {locator : Locator} {node : Node}
    (found : forest.locate? locator = some node) :
    node ∈ Forest.preorder forest ∧ locator.selector.accepts node = true := by
  obtain ⟨window, selector⟩ := locator
  cases window with
  | none => exact of_search?_eq_some found
  | some window =>
      obtain ⟨frame, there, below⟩ := Option.bind_eq_some_iff.mp
        ((locate?_within forest window selector).symm.trans found)
      obtain ⟨member, accepted⟩ := of_search?_eq_some below
      exact ⟨mem_preorder_trans (of_search?_eq_some there).1 member, accepted⟩

/-- A widget that is found inside a window is found anywhere. -/
theorem isSome_search?_of_locate? {locator : Locator}
    (found : (forest.locate? locator).isSome = true) :
    (Forest.search? locator.selector forest).isSome = true := by
  obtain ⟨node, found⟩ := Option.isSome_iff_exists.mp found
  obtain ⟨member, accepted⟩ := of_locate?_eq_some found
  exact isSome_search?_iff.mpr ⟨node, member, accepted⟩

end Forest

end Rehearsal
