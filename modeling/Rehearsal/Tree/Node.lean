/-!
# Accessible nodes

The widgets of an application as its accessibility tree reports them. Only names and roles take
part in lookups; texts, descriptions and states are carried along.
-/

set_option autoImplicit false

namespace Rehearsal

structure Node where
  name : Option String
  role : Option String
  text : Option String
  description : Option String
  /-- States that are set, such as `focused`. -/
  states : List String
  children : List Node
  deriving Repr, Inhabited

abbrev Forest := List Node

namespace Node

/-- A node with a name, a role and children. -/
def of (name role : String) (children : List Node) : Node :=
  ⟨some name, some role, none, none, [], children⟩

/-- A node with a name and a role only. -/
def leaf (name role : String) : Node := of name role []

def bearing (name role text : String) : Node :=
  ⟨some name, some role, some text, none, [], []⟩

def isRole (node : Node) (role : String) : Bool :=
  node.role == some role

end Node

namespace Role

/-! Role names, in lower case and with spaces. -/

def frame : String := "frame"
def dialog : String := "dialog"
def menu : String := "menu"
def menuItem : String := "menu item"
def pushButton : String := "push button"
def toggleButton : String := "toggle button"
def tableCell : String := "table cell"
def pageTab : String := "page tab"
def text : String := "text"

end Role

mutual

/-- The node and all nodes below it, each before its children. -/
def Node.preorder (node : Node) : List Node :=
  match node with
  | ⟨_, _, _, _, _, children⟩ => node :: Forest.preorder children

/-- All nodes of a forest, each before its children and before the trees after it. -/
def Forest.preorder : Forest → List Node
  | [] => []
  | node :: rest => node.preorder ++ Forest.preorder rest

end

mutual

def Node.depth : Node → Nat
  | ⟨_, _, _, _, _, children⟩ => 1 + Forest.depth children

def Forest.depth : Forest → Nat
  | [] => 0
  | node :: rest => max node.depth (Forest.depth rest)

end

end Rehearsal
