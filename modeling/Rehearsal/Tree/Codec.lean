import Rehearsal.Json.Decode
import Rehearsal.Json.Value
import Rehearsal.Text.Shown
import Rehearsal.Tree.Locator
import Rehearsal.Tree.Node
/-!
# Trees in writing

The written form of nodes, selectors, windows and locators as JSON, and their reading. Members that
are absent or empty may be left out; a node's name, role and children are always written. For people
a forest is written as an outline.
-/

set_option autoImplicit false

namespace Rehearsal

open Json (Value Doc Decoded Decoder Source Shape Row)
open Text (Shown)

/-! ## Nodes -/

mutual

def Node.toJson : Node → Value
  | ⟨name, role, text, description, states, children⟩ =>
    .object <|
      [("name", .ofText? name), ("role", .ofText? role)] ++
      (text.map fun contents => ("text", Value.string contents)).toList ++
      (description.map fun contents => ("description", Value.string contents)).toList ++
      (if states.isEmpty then [] else [("states", .ofTexts states)]) ++
      [("children", .array (Forest.toJsonItems children))]

def Forest.toJsonItems : Forest → List Value
  | [] => []
  | node :: rest => node.toJson :: Forest.toJsonItems rest

end

def Forest.toJson (forest : Forest) : Value :=
  .array forest.toJsonItems

mutual

def Node.describe : Node → Shown
  | ⟨name, role, text, description, states, children⟩ =>
    .record "AccessibleNode"
      [("name", .maybeText name), ("role", .maybeText role), ("text", .maybeText text),
        ("description", .maybeText description), ("states", .list (states.map .text)),
        ("children", .list (Forest.describeItems children))]

def Forest.describeItems : Forest → List Shown
  | [] => []
  | node :: rest => node.describe :: Forest.describeItems rest

end

structure NodeParts where
  name : Option (Option String)
  role : Option (Option String)
  text : Option (Option String)
  description : Option (Option String)
  states : Option (List String)
  children : Option Forest

def NodeParts.none : NodeParts :=
  ⟨.none, .none, .none, .none, .none, .none⟩

/-- A node from its members; those that are absent are empty. -/
def NodeParts.node (parts : NodeParts) : Node :=
  ⟨parts.name.join, parts.role.join, parts.text.join, parts.description.join,
    parts.states.getD [], parts.children.getD []⟩

/-- Takes in a member of a node, whose children are read by `child`. -/
def NodeParts.member (child : Decoder Node) (source : Source) (parts : NodeParts) (name : String)
    (value : Doc) : Decoded NodeParts :=
  match name with
  | "name" => do
    let found ← Json.once name parts.name (Json.optional Json.text) source value
    return { parts with name := found }
  | "role" => do
    let found ← Json.once name parts.role (Json.optional Json.text) source value
    return { parts with role := found }
  | "text" => do
    let found ← Json.once name parts.text (Json.optional Json.text) source value
    return { parts with text := found }
  | "description" => do
    let found ← Json.once name parts.description (Json.optional Json.text) source value
    return { parts with description := found }
  | "states" => do
    let found ← Json.once name parts.states (Json.list Json.text) source value
    return { parts with states := found }
  | "children" => do
    let found ← Json.once name parts.children (Json.list child) source value
    return { parts with children := found }
  | _ => do
    source.skip value
    return parts

/-- A node from a list in declared order, which may end early. -/
def NodeParts.row (child : Decoder Node) (row : Row) : Decoded (Node × Row) := do
  let (name, row) ← row.next? (Json.optional Json.text)
  let (role, row) ← row.next? (Json.optional Json.text)
  let (text, row) ← row.next? (Json.optional Json.text)
  let (description, row) ← row.next? (Json.optional Json.text)
  let (states, row) ← row.next? (Json.list Json.text)
  let (children, row) ← row.next? (Json.list child)
  return (NodeParts.node ⟨name, role, text, description, states, children⟩, row)

def nodeShape (child : Decoder Node) : Shape NodeParts Node where
  title := "struct AccessibleNode"
  start := .none
  member := NodeParts.member child
  finish := fun parts => .ok parts.node
  row := NodeParts.row child

/-- Reads a node of at most `levels` levels. -/
def Node.decoderOf : Nat → Decoder Node
  | 0 => fun _ _ => .error (.syntaxFault .tooDeep)
  | levels + 1 => (nodeShape (Node.decoderOf levels)).decode

mutual

def Json.Doc.levels : Doc → Nat
  | .array items _ => 1 + Json.itemLevels items
  | .object members _ => 1 + Json.memberLevels members
  | .strayKey _ => 1
  | _ => 0

def Json.itemLevels : List Doc → Nat
  | [] => 0
  | item :: rest => max item.levels (Json.itemLevels rest)

def Json.memberLevels : List (Json.Token × Doc) → Nat
  | [] => 0
  | (_, value) :: rest => max value.levels (Json.memberLevels rest)

end

/-- Reads a node. A node takes at least one level of the document it is read from, so as many
levels as the document has are enough. -/
def Node.decoder : Decoder Node := fun source doc =>
  Node.decoderOf (doc.levels + 1) source doc

/-! ## Selectors -/

def Selector.toJson (selector : Selector) : Value :=
  .object (("name", .string selector.name) ::
    (selector.role.map fun role => ("role", Value.string role)).toList)

def Selector.describe (selector : Selector) : Shown :=
  .record "Selector" [("name", .text selector.name), ("role", .maybeText selector.role)]

structure SelectorParts where
  name : Option String
  role : Option (Option String)

def selectorShape : Shape SelectorParts Selector where
  title := "struct Selector"
  start := ⟨none, none⟩
  member := fun source parts name value =>
    match name with
    | "name" => do
      let found ← Json.once name parts.name Json.text source value
      return { parts with name := found }
    | "role" => do
      let found ← Json.once name parts.role (Json.optional Json.text) source value
      return { parts with role := found }
    | _ => do
      source.skip value
      return parts
  finish := fun parts => do
    let name ← Json.required "name" parts.name
    return ⟨name, parts.role.join⟩
  row := fun row => do
    let (name, row) ← row.next "struct Selector with 2 elements" Json.text
    let (role, row) ← row.next? (Json.optional Json.text)
    return (⟨name, role.join⟩, row)

def Selector.decoder : Decoder Selector := selectorShape.decode

/-! ## Windows -/

def WindowKind.code : WindowKind → String
  | .frame => "frame"
  | .dialog => "dialog"

def WindowKind.decoder : Decoder WindowKind :=
  Json.external ["frame", "dialog"] fun name content => do
    match content with
    | some (source, value) => Json.unit source value
    | none => pure ()
    if name = "frame" then return .frame else return .dialog

def Window.toJson (window : Window) : Value :=
  .object [("kind", .string window.kind.code), ("name", .string window.name)]

def Window.describe (window : Window) : Shown :=
  .record "Window"
    [("kind", .word (match window.kind with | .frame => "Frame" | .dialog => "Dialog")),
      ("name", .text window.name)]

structure WindowParts where
  kind : Option WindowKind
  name : Option String

def windowShape : Shape WindowParts Window where
  title := "struct Window"
  start := ⟨none, none⟩
  member := fun source parts name value =>
    match name with
    | "kind" => do
      let found ← Json.once name parts.kind WindowKind.decoder source value
      return { parts with kind := found }
    | "name" => do
      let found ← Json.once name parts.name Json.text source value
      return { parts with name := found }
    | _ => do
      source.skip value
      return parts
  finish := fun parts => do
    let kind ← Json.required "kind" parts.kind
    let name ← Json.required "name" parts.name
    return ⟨kind, name⟩
  row := fun row => do
    let (kind, row) ← row.next "struct Window with 2 elements" WindowKind.decoder
    let (name, row) ← row.next "struct Window with 2 elements" Json.text
    return (⟨kind, name⟩, row)

def Window.decoder : Decoder Window := windowShape.decode

/-! ## Locators -/

def Locator.toJson (locator : Locator) : Value :=
  .object ((locator.window.map fun window => ("window", window.toJson)).toList ++
    [("selector", locator.selector.toJson)])

def Locator.describe (locator : Locator) : Shown :=
  .record "Locator"
    [("window", .maybe (locator.window.map Window.describe)),
      ("selector", locator.selector.describe)]

structure LocatorParts where
  window : Option (Option Window)
  selector : Option Selector

def locatorShape : Shape LocatorParts Locator where
  title := "struct Locator"
  start := ⟨none, none⟩
  member := fun source parts name value =>
    match name with
    | "window" => do
      let found ← Json.once name parts.window (Json.optional Window.decoder) source value
      return { parts with window := found }
    | "selector" => do
      let found ← Json.once name parts.selector Selector.decoder source value
      return { parts with selector := found }
    | _ => do
      source.skip value
      return parts
  finish := fun parts => do
    let selector ← Json.required "selector" parts.selector
    return ⟨parts.window.join, selector⟩
  row := fun row => do
    let (window, row) ← row.next? (Json.optional Window.decoder)
    let (selector, row) ← row.next "struct Locator with 2 elements" Selector.decoder
    return (⟨window.join, selector⟩, row)

def Locator.decoder : Decoder Locator := locatorShape.decode

/-! ## Outlines

One line for each node, before its children's lines, indented by two spaces per level. -/

def Node.shownRole (node : Node) : String := node.role.getD "unknown"

def Node.shownName (node : Node) : String := node.name.getD ""

/-- The line of one node, without its end: `[role | name]`, and its text in quotes if it has
one. -/
def Node.line (level : Nat) (node : Node) : String :=
  let label :=
    String.ofList (List.replicate (2 * level) ' ') ++ "[" ++ node.shownRole ++ " | " ++
      node.shownName ++ "]"
  match node.text with
  | some text => label ++ " text=" ++ Text.quote text
  | none => label

mutual

def Node.outlineLines (level : Nat) (node : Node) : List String :=
  match node with
  | ⟨_, _, _, _, _, children⟩ => node.line level :: Forest.outlineLines (level + 1) children

def Forest.outlineLines (level : Nat) : Forest → List String
  | [] => []
  | node :: rest => node.outlineLines level ++ Forest.outlineLines level rest

end

/-- The outline of a forest; every line ends in a line feed. -/
def Forest.outline (forest : Forest) : String :=
  String.join ((Forest.outlineLines 0 forest).map (· ++ "\n"))

end Rehearsal
