import Rehearsal.Tree.Node
import Rehearsal.Tree.NamePattern
/-!
# Locating widgets

A widget is addressed by a selector, a name pattern with an optional role, and optionally by the
window it is searched in. Lookups go through the tree in pre-order and take the first match.
-/

set_option autoImplicit false

namespace Rehearsal

/-- Identifies a widget by name and, optionally, role. -/
structure Selector where
  name : String
  /-- The exact role; any role if there is none. -/
  role : Option String
  deriving DecidableEq, Repr, Inhabited

inductive WindowKind where
  | frame
  | dialog
  deriving DecidableEq, Repr, Inhabited

/-- A top-level window, by kind and title. -/
structure Window where
  kind : WindowKind
  name : String
  deriving DecidableEq, Repr, Inhabited

/-- A selector, possibly restricted to the inside of a window. -/
structure Locator where
  window : Option Window
  selector : Selector
  deriving DecidableEq, Repr, Inhabited

namespace Selector

def of (name role : String) : Selector := ⟨name, some role⟩

def named (name : String) : Selector := ⟨name, none⟩

/-- Whether a node is one that the selector identifies. A node without a name never is. -/
def accepts (selector : Selector) (node : Node) : Bool :=
  let nameFits := match node.name with
    | some name => NamePattern.accepts selector.name name
    | none => false
  let roleFits := match selector.role with
    | some role => node.isRole role
    | none => true
  nameFits && roleFits

def label (selector : Selector) : String :=
  match selector.role with
  | some role => s!"'{selector.name}' (role '{role}')"
  | none => s!"'{selector.name}'"

end Selector

def WindowKind.role : WindowKind → String
  | .frame => Role.frame
  | .dialog => Role.dialog

namespace Window

def frame (name : String) : Window := ⟨.frame, name⟩

def dialog (name : String) : Window := ⟨.dialog, name⟩

def selector (window : Window) : Selector :=
  Selector.of window.name window.kind.role

def label (window : Window) : String :=
  s!"{window.kind.role} '{window.name}'"

end Window

namespace Locator

/-- Searches the whole application. -/
def anywhere (selector : Selector) : Locator := ⟨none, selector⟩

def within (window : Window) (selector : Selector) : Locator := ⟨some window, selector⟩

def label (locator : Locator) : String :=
  match locator.window with
  | some window => s!"{locator.selector.label} in {window.label}"
  | none => locator.selector.label

end Locator

mutual

/-- The first match in a tree, the root before what is below it. -/
def Node.search? (selector : Selector) (node : Node) : Option Node :=
  match node with
  | ⟨_, _, _, _, _, children⟩ =>
    if selector.accepts node then some node else Forest.search? selector children

/-- The first match in a forest, in pre-order. -/
def Forest.search? (selector : Selector) : Forest → Option Node
  | [] => none
  | node :: rest =>
    match node.search? selector with
    | some found => some found
    | none => Forest.search? selector rest

end

/-- The widget that a locator addresses. With a window, only what is below the first match of the
window is searched. -/
def Forest.locate? (forest : Forest) (locator : Locator) : Option Node :=
  match locator.window with
  | some window =>
    match forest.search? window.selector with
    | some found => Forest.search? locator.selector found.children
    | none => none
  | none => Forest.search? locator.selector forest

end Rehearsal
