import Mathlib.Tactic.SplitIfs
import Rehearsal.Backend.Viewer
import Rehearsal.Proofs.Tree.Search
/-!
# The widgets of a viewer

What can be found in the tree of an open viewer is told by the names of its widgets, role by role:
its menus and their items are always the same but for the bookmarks, and buttons, cells and tabs
come and go with its windows and its dialog.
-/

set_option autoImplicit false

namespace Rehearsal

/-! ## Names by role -/

/-- The names of the widgets of a role, in pre-order. -/
def Forest.names (role : String) (forest : Forest) : List String :=
  (Forest.preorder forest).filterMap fun node => if node.isRole role then node.name else none

namespace Forest

variable {role : String}

theorem preorder_append (first second : Forest) :
    Forest.preorder (first ++ second) = Forest.preorder first ++ Forest.preorder second := by
  induction first with
  | nil => rfl
  | cons node rest ih => rw [List.cons_append, preorder, preorder, ih, List.append_assoc]

@[simp] theorem names_nil : names role [] = [] := rfl

@[simp] theorem names_append (first second : Forest) :
    names role (first ++ second) = names role first ++ names role second := by
  rw [names, preorder_append, List.filterMap_append]
  rfl

theorem names_cons (node : Node) (rest : Forest) :
    names role (node :: rest) =
      (if node.isRole role then node.name.toList else []) ++ names role node.children ++
        names role rest := by
  obtain ⟨name, own, text, description, states, children⟩ := node
  rw [names, preorder, Node.preorder, List.cons_append, List.filterMap_cons]
  cases Node.isRole ⟨name, own, text, description, states, children⟩ role <;> cases name <;>
    simp [names]

@[simp] theorem names_of_cons (name own : String) (children rest : Forest) :
    names role (Node.of name own children :: rest) =
      (if own = role then [name] else []) ++ names role children ++ names role rest := by
  rw [names_cons]
  simp [Node.isRole, Node.of]

@[simp] theorem names_leaf_cons (name own : String) (rest : Forest) :
    names role (Node.leaf name own :: rest) =
      (if own = role then [name] else []) ++ names role rest := by
  simp [Node.leaf]

@[simp] theorem names_bearing_cons (name own text : String) (rest : Forest) :
    names role (Node.bearing name own text :: rest) =
      (if own = role then [name] else []) ++ names role rest := by
  rw [names_cons]
  simp [Node.isRole, Node.bearing]

@[simp] theorem names_map_leaf (items : List String) (own : String) :
    names role (items.map fun item => Node.leaf item own) = if own = role then items else [] := by
  induction items with
  | nil => simp
  | cons item items ih =>
      rw [List.map_cons, names_leaf_cons, ih]
      split <;> rfl

theorem search?_append (selector : Selector) (first second : Forest) :
    Forest.search? selector (first ++ second) =
      (Forest.search? selector first).or (Forest.search? selector second) := by
  rw [search?_eq_find?, preorder_append, List.find?_append, search?_eq_find?, search?_eq_find?]

theorem search?_cons_of_accepts {selector : Selector} {node : Node} {rest : Forest}
    (accepted : selector.accepts node = true) :
    Forest.search? selector (node :: rest) = some node := by
  obtain ⟨name, own, text, description, states, children⟩ := node
  rw [search?, Node.search?, if_pos accepted]

theorem search?_cons_of_not_accepts {selector : Selector} {node : Node} {rest : Forest}
    (refused : selector.accepts node = false) :
    Forest.search? selector (node :: rest) =
      (Forest.search? selector node.children).or (Forest.search? selector rest) := by
  obtain ⟨name, own, text, description, states, children⟩ := node
  rw [search?, Node.search?, if_neg (by simp [refused])]
  cases Forest.search? selector children <;> rfl

theorem search?_named_of_cons {name own : String} {children rest : Forest}
    (other : NamePattern.accepts name own = false) :
    Forest.search? (.named name) (Node.of own role children :: rest) =
      (Forest.search? (.named name) children).or (Forest.search? (.named name) rest) := by
  refine search?_cons_of_not_accepts ?_
  rw [Bool.eq_false_iff, ne_eq, Selector.accepts_named_iff]
  rintro ⟨_, ⟨⟩, fits⟩
  cases other.symm.trans fits

theorem search?_named_map_leaf {name : String} {items : List String}
    (others : ∀ item ∈ items, NamePattern.accepts name item = false) :
    Forest.search? (.named name) (items.map fun item => Node.leaf item role) = none := by
  induction items with
  | nil => rfl
  | cons item items ih =>
      rw [List.map_cons, Node.leaf, search?_named_of_cons (others item List.mem_cons_self),
        ih fun other member => others other (List.mem_cons_of_mem _ member)]
      rfl

theorem isSome_search?_of_iff {forest : Forest} {name : String} :
    (Forest.search? (.of name role) forest).isSome = true ↔
      ∃ own ∈ forest.names role, NamePattern.accepts name own = true := by
  rw [isSome_search?_iff]
  simp only [Selector.accepts_of_iff, names, List.mem_filterMap]
  constructor
  · rintro ⟨node, member, ⟨own, named, fits⟩, kind⟩
    exact ⟨own, ⟨node, member, by simp [Node.isRole, kind, named]⟩, fits⟩
  · rintro ⟨own, ⟨node, member, named⟩, fits⟩
    split at named
    · rename_i kind
      exact ⟨node, member, ⟨own, named, fits⟩, by simpa [Node.isRole] using kind⟩
    · cases named

theorem isSome_search?_of_mem {forest : Forest} {name : String}
    (member : name ∈ forest.names role) :
    (Forest.search? (.of name role) forest).isSome = true :=
  isSome_search?_of_iff.mpr ⟨name, member, NamePattern.accepts_self name⟩

theorem search?_eq_none_iff {forest : Forest} {name : String} :
    Forest.search? (.of name role) forest = none ↔
      ∀ own ∈ forest.names role, NamePattern.accepts name own = false := by
  rw [← Option.not_isSome_iff_eq_none, isSome_search?_of_iff]
  simp

theorem mem_names {forest : Forest} {node : Node} {name : String}
    (member : node ∈ Forest.preorder forest) (kind : node.role = some role)
    (named : node.name = some name) : name ∈ forest.names role :=
  List.mem_filterMap.mpr ⟨node, member, by simp [Node.isRole, kind, named]⟩

end Forest

namespace Viewer

variable {viewer : Viewer}

theorem names_mainWindow (role : String) (viewer : Viewer) :
    Forest.names role [viewer.mainWindow] =
      (if Role.frame = role then [viewer.title] else []) ++ Forest.names role viewer.menus ++
        (if Role.text = role then [labelEntry] else []) ++
        (if Role.pushButton = role then
          (if viewer.findBar then ["Find Previous"] else []) ++
            (if viewer.locked then ["Unlock Document"] else [])
        else []) := by
  rw [mainWindow]
  by_cases pressed : Role.pushButton = role <;> cases viewer.findBar <;> cases viewer.locked <;>
    simp [button, pressed]

theorem names_menus_of_ne {role : String} (viewer : Viewer) (other : Role.menu ≠ role)
    (otherItem : Role.menuItem ≠ role) : Forest.names role viewer.menus = [] := by
  simp [menus, menu, other, otherItem]

theorem names_frame_dialogItems (viewer : Viewer) (title : String) :
    Forest.names Role.frame (viewer.dialogItems title) = [] := by
  rw [dialogItems]
  split_ifs <;> simp [button, Role.frame, Role.text, Role.pushButton, Role.tableCell, Role.pageTab,
    Role.toggleButton]

/-! ## The entry for the label of the page -/

theorem not_accepts_labelEntry {own : String} (other : own ≠ labelEntry) :
    NamePattern.accepts labelEntry own = false := by
  rw [Bool.eq_false_iff, ne_eq, NamePattern.accepts_iff_eq rfl]
  exact other.symm

/-- Below the main window the entry is the first widget of its name, unless a bookmark is named like
it. -/
theorem search?_labelEntry_main (unmarked : labelEntry ∉ viewer.bookmarks) :
    Forest.search? (.named labelEntry) viewer.mainWindow.children =
      some (Node.bearing labelEntry Role.text viewer.pageLabel) := by
  have skip {own : String} {items : List String} {rest : Forest} (other : own ≠ labelEntry)
      (others : labelEntry ∉ items) :
      Forest.search? (.named labelEntry) (menu own items :: rest) =
        Forest.search? (.named labelEntry) rest := by
    rw [menu, Forest.search?_named_of_cons (not_accepts_labelEntry other),
      Forest.search?_named_map_leaf fun item member =>
        not_accepts_labelEntry fun same => others (same ▸ member)]
    rfl
  -- The menus come before the entry, and only bookmarks have names of the user's choice.
  have noMenu : Forest.search? (.named labelEntry) viewer.menus = none := by
    rw [menus, skip (by decide) (by decide), skip (by decide) (by decide),
      skip (by decide) (by decide), skip (by decide) (by decide),
      skip (by decide) (List.not_mem_cons_of_ne_of_not_mem (by decide) unmarked),
      skip (by decide) (by decide)]
    rfl
  have entry : (Selector.named labelEntry).accepts
      (Node.bearing labelEntry Role.text viewer.pageLabel) = true :=
    Selector.accepts_named_iff.mpr ⟨labelEntry, rfl, NamePattern.accepts_self _⟩
  rw [mainWindow, Node.of, List.append_assoc, List.append_assoc, Forest.search?_append, noMenu,
    List.singleton_append, Forest.search?_cons_of_accepts entry]
  rfl

/-! ## What the tree has -/

section

variable (opened : viewer.closed = false)

include opened

theorem names_tree (role : String) :
    viewer.tree.names role =
      Forest.names role [viewer.mainWindow] ++
        (if viewer.preferences then
          (if Role.frame = role then ["Preferences"] else []) ++
            (if Role.pushButton = role then ["Close"] else [])
        else []) ++
        (if viewer.helpOpen ∧ Role.frame = role then ["Help"] else []) ++
        (match viewer.dialog with
        | none => []
        | some title =>
          (if Role.dialog = role then [title] else []) ++
            Forest.names role (viewer.dialogItems title)) := by
  rw [tree, opened, if_neg Bool.false_ne_true, ← List.singleton_append, Forest.names_append]
  cases viewer.preferences <;> cases viewer.helpOpen <;> cases viewer.dialog <;> simp [button]

/-! ## What is there -/

theorem mem_preorder_of_main {node : Node} (member : node ∈ viewer.mainWindow.children) :
    node ∈ Forest.preorder viewer.tree := by
  have main : viewer.mainWindow ∈ viewer.tree := by simp [tree, opened]
  exact Forest.mem_preorder_of_child (Forest.mem_preorder_of_mem main) member

theorem dialog_mem_preorder {title : String} (shown : viewer.dialog = some title) :
    Node.of title Role.dialog (viewer.dialogItems title) ∈ Forest.preorder viewer.tree :=
  Forest.mem_preorder_of_mem <| by simp [tree, opened, shown]

theorem dialog_mem_names {title : String} (shown : viewer.dialog = some title) :
    title ∈ viewer.tree.names Role.dialog :=
  Forest.mem_names (dialog_mem_preorder opened shown) rfl rfl

theorem mem_names_of_dialog {title name role : String} (shown : viewer.dialog = some title)
    (member : Node.leaf name role ∈ viewer.dialogItems title) : name ∈ viewer.tree.names role :=
  Forest.mem_names (Forest.mem_preorder_of_child (dialog_mem_preorder opened shown) member) rfl rfl

theorem mem_menus {name : String} {items : List String} (listed : menu name items ∈ viewer.menus) :
    menu name items ∈ Forest.preorder viewer.tree :=
  mem_preorder_of_main opened <| by simp [mainWindow, Node.of, listed]

theorem mem_names_menu {name : String} {items : List String}
    (listed : menu name items ∈ viewer.menus) : name ∈ viewer.tree.names Role.menu :=
  Forest.mem_names (mem_menus opened listed) rfl rfl

theorem mem_names_menuItem {name item : String} {items : List String}
    (listed : menu name items ∈ viewer.menus) (member : item ∈ items) :
    item ∈ viewer.tree.names Role.menuItem := by
  have below : Node.leaf item Role.menuItem ∈ (menu name items).children :=
    List.mem_map_of_mem member
  exact Forest.mem_names (Forest.mem_preorder_of_child (mem_menus opened listed) below) rfl rfl

theorem findPrevious_mem_names (shown : viewer.findBar = true) :
    "Find Previous" ∈ viewer.tree.names Role.pushButton := by
  have listed : button "Find Previous" ∈ viewer.mainWindow.children := by
    simp [mainWindow, Node.of, shown]
  exact Forest.mem_names (mem_preorder_of_main opened listed) rfl rfl

theorem close_mem_names (shown : viewer.preferences = true) :
    "Close" ∈ viewer.tree.names Role.pushButton := by
  have window : Node.of "Preferences" Role.frame [button "Close"] ∈ viewer.tree := by
    simp [tree, opened, shown]
  have below : button "Close" ∈ (Node.of "Preferences" Role.frame [button "Close"]).children :=
    List.mem_singleton.mpr rfl
  exact Forest.mem_names
    (Forest.mem_preorder_of_child (Forest.mem_preorder_of_mem window) below) rfl rfl

/-! ## What is not there -/

theorem names_frame :
    viewer.tree.names Role.frame =
      viewer.title :: ((if viewer.preferences then ["Preferences"] else []) ++
        (if viewer.helpOpen then ["Help"] else [])) := by
  rw [names_tree opened, names_mainWindow, names_menus_of_ne viewer (by decide) (by decide)]
  simp only [names_frame_dialogItems]
  cases viewer.dialog <;> simp [Role.frame, Role.dialog, Role.text, Role.pushButton]

/-- Without a dialog there are the main window with its menus, its entry and its buttons, and other
windows. -/
theorem names_eq_nil_of_bare (bare : viewer.dialog = none) {role : String}
    (other : role ∉ [Role.frame, Role.menu, Role.menuItem, Role.text, Role.pushButton]) :
    viewer.tree.names role = [] := by
  simp only [List.mem_cons, List.not_mem_nil, or_false, not_or] at other
  obtain ⟨frame, menu, item, text, button⟩ := other
  rw [names_tree opened, names_mainWindow, names_menus_of_ne viewer (Ne.symm menu) (Ne.symm item),
    bare]
  simp [Ne.symm frame, Ne.symm text, Ne.symm button]

theorem cancel_not_mem_names (bare : viewer.dialog = none) :
    "Cancel" ∉ viewer.tree.names Role.pushButton := by
  rw [names_tree opened, names_mainWindow, names_menus_of_ne viewer (by decide) (by decide), bare]
  cases viewer.findBar <;> cases viewer.locked <;> cases viewer.preferences <;>
    simp [Role.frame, Role.text, Role.pushButton]

/-! ## Windows -/

theorem search?_mainWindow {pattern : String}
    (fits : NamePattern.accepts pattern viewer.title = true) :
    Forest.search? (.of pattern Role.frame) viewer.tree = some viewer.mainWindow := by
  have accepted : (Selector.of pattern Role.frame).accepts viewer.mainWindow = true :=
    Selector.accepts_of_iff.mpr ⟨⟨viewer.title, rfl, fits⟩, rfl⟩
  rw [tree, opened, if_neg Bool.false_ne_true, Forest.search?_cons_of_accepts accepted]

/-- The entry for the label of the page is the first widget of its name, unless the window or a
bookmark is named like it. -/
theorem search?_labelEntry (titled : viewer.title ≠ labelEntry)
    (unmarked : labelEntry ∉ viewer.bookmarks) :
    Forest.search? (.named labelEntry) viewer.tree =
      some (Node.bearing labelEntry Role.text viewer.pageLabel) := by
  have below := search?_labelEntry_main unmarked
  rw [mainWindow, Node.of] at below
  rw [tree, opened, if_neg Bool.false_ne_true, mainWindow,
    Forest.search?_named_of_cons (not_accepts_labelEntry titled), below]
  rfl

theorem search?_dialog {pattern title : String} (shown : viewer.dialog = some title)
    (fits : NamePattern.accepts pattern title = true) :
    Forest.search? (.of pattern Role.dialog) viewer.tree =
      some (Node.of title Role.dialog (viewer.dialogItems title)) := by
  -- The dialog comes last, after windows that a viewer without it has too.
  have split : viewer.tree = { viewer with dialog := none }.tree ++
      [Node.of title Role.dialog (viewer.dialogItems title)] := by
    simp [tree, opened, shown, mainWindow, menus, Viewer.title]
  have before :
      Forest.search? (.of pattern Role.dialog) { viewer with dialog := none }.tree = none := by
    rw [Forest.search?_eq_none_iff, names_eq_nil_of_bare (by exact opened) rfl (by decide)]
    exact nofun
  have accepted : (Selector.of pattern Role.dialog).accepts
      (Node.of title Role.dialog (viewer.dialogItems title)) = true :=
    Selector.accepts_of_iff.mpr ⟨⟨title, rfl, fits⟩, rfl⟩
  rw [split, Forest.search?_append, before, Forest.search?_cons_of_accepts accepted]
  rfl

end

end Viewer

end Rehearsal
