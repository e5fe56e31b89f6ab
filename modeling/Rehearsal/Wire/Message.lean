import Rehearsal.Text.Base64
import Rehearsal.Text.Unicode
import Rehearsal.Tree.Codec
import Rehearsal.Tree.Locator
/-!
# Messages between the harness and an agent

An agent performs queries and input on behalf of the harness. It is sent one request per line and
answers each with one response per line; both are JSON objects that name their kind.
-/

set_option autoImplicit false

namespace Rehearsal

/-! ## Synthetic input

What can be done to an application: acting on a widget, or typing into whatever has the keyboard. -/

inductive Input where
  | click (target : Locator)
  | activate (target : Locator)
  | setText (target : Locator) (text : String)
  | typeText (text : String)
  /-- Press a combination of keys, such as `<Control>w`. -/
  | keyCombo (combo : String)
  deriving DecidableEq, Repr

/-- The widget that the input acts on, if it names one. -/
def Input.target? : Input → Option Locator
  | .click target => some target
  | .activate target => some target
  | .setText target _ => some target
  | .typeText _ => none
  | .keyCombo _ => none

def Input.kind : Input → String
  | .click _ => "click"
  | .activate _ => "activate"
  | .setText _ _ => "set_text"
  | .typeText _ => "type_text"
  | .keyCombo _ => "key_combo"

/-! ## Messages -/

namespace Wire

open Json (Value Doc Decoded Decoder Source Shape Row)
open Text (Shown)

/-- What an agent is asked for. -/
inductive Request where
  | ping
  | dumpTree (app : String)
  | input (app : String) (input : Input)
  | screenshot
  deriving DecidableEq, Repr

inductive Response where
  | ok
  | tree (nodes : Forest)
  | screenshot (data : String)
  | error (message : String)
  deriving Repr

/-! ## Requests -/

def Request.name : Request → String
  | .ping => "ping"
  | .dumpTree _ => "dump_tree"
  | .input _ given => given.kind
  | .screenshot => "screenshot"

def kinded (kind : String) (members : List (String × Value)) : Value :=
  .object (("type", .string kind) :: members)

def Request.toJson : Request → Value
  | .ping => kinded "Ping" []
  | .dumpTree app => kinded "DumpTree" [("app", .string app)]
  | .input app (.click target) =>
    kinded "Click" [("app", .string app), ("locator", target.toJson)]
  | .input app (.activate target) =>
    kinded "Activate" [("app", .string app), ("locator", target.toJson)]
  | .input app (.setText target text) =>
    kinded "SetText" [("app", .string app), ("locator", target.toJson), ("text", .string text)]
  | .input app (.typeText text) =>
    kinded "TypeText" [("app", .string app), ("text", .string text)]
  | .input app (.keyCombo combo) =>
    kinded "KeyCombo" [("app", .string app), ("combo", .string combo)]
  | .screenshot => kinded "Screenshot" []

def Request.describe : Request → Shown
  | .ping => .word "Ping"
  | .dumpTree app => .record "DumpTree" [("app", .text app)]
  | .input app (.click target) =>
    .record "Click" [("app", .text app), ("locator", target.describe)]
  | .input app (.activate target) =>
    .record "Activate" [("app", .text app), ("locator", target.describe)]
  | .input app (.setText target text) =>
    .record "SetText" [("app", .text app), ("locator", target.describe), ("text", .text text)]
  | .input app (.typeText text) =>
    .record "TypeText" [("app", .text app), ("text", .text text)]
  | .input app (.keyCombo combo) =>
    .record "KeyCombo" [("app", .text app), ("combo", .text combo)]
  | .screenshot => .word "Screenshot"

structure RequestParts where
  app : Option String
  locator : Option Locator
  text : Option String

/-- Takes in the members of a request, of those that its kind has. -/
def RequestParts.member (known : List String) (source : Source) (parts : RequestParts)
    (name : String) (value : Doc) : Decoded RequestParts :=
  if known.contains name then
    match name with
    | "app" => do
      let found ← Json.once name parts.app Json.text source value
      return { parts with app := found }
    | "locator" => do
      let found ← Json.once name parts.locator Locator.decoder source value
      return { parts with locator := found }
    | _ => do
      let found ← Json.once name parts.text Json.text source value
      return { parts with text := found }
  else do
    source.skip value
    return parts

def dumpTreeShape : Shape RequestParts Request where
  title := "struct variant Request::DumpTree"
  start := ⟨none, none, none⟩
  member := RequestParts.member ["app"]
  finish := fun parts => do
    let app ← Json.required "app" parts.app
    return .dumpTree app
  row := fun row => do
    let (app, row) ← row.next "struct variant Request::DumpTree with 1 element" Json.text
    return (.dumpTree app, row)

def widgetShape (kind : String) (input : Locator → Input) : Shape RequestParts Request where
  title := s!"struct variant Request::{kind}"
  start := ⟨none, none, none⟩
  member := RequestParts.member ["app", "locator"]
  finish := fun parts => do
    let app ← Json.required "app" parts.app
    let locator ← Json.required "locator" parts.locator
    return .input app (input locator)
  row := fun row => do
    let expected := s!"struct variant Request::{kind} with 2 elements"
    let (app, row) ← row.next expected Json.text
    let (locator, row) ← row.next expected Locator.decoder
    return (.input app (input locator), row)

def setTextShape : Shape RequestParts Request where
  title := "struct variant Request::SetText"
  start := ⟨none, none, none⟩
  member := RequestParts.member ["app", "locator", "text"]
  finish := fun parts => do
    let app ← Json.required "app" parts.app
    let locator ← Json.required "locator" parts.locator
    let text ← Json.required "text" parts.text
    return .input app (.setText locator text)
  row := fun row => do
    let expected := "struct variant Request::SetText with 3 elements"
    let (app, row) ← row.next expected Json.text
    let (locator, row) ← row.next expected Locator.decoder
    let (text, row) ← row.next expected Json.text
    return (.input app (.setText locator text), row)

/-- How a request for keyboard input is put together; `label` names the member that holds it. -/
def keyboardShape (kind label : String) (input : String → Input) : Shape RequestParts Request where
  title := s!"struct variant Request::{kind}"
  start := ⟨none, none, none⟩
  member := RequestParts.member ["app", label]
  finish := fun parts => do
    let app ← Json.required "app" parts.app
    let text ← Json.required label parts.text
    return .input app (input text)
  row := fun row => do
    let expected := s!"struct variant Request::{kind} with 2 elements"
    let (app, row) ← row.next expected Json.text
    let (text, row) ← row.next expected Json.text
    return (.input app (input text), row)

def requestKinds : List String :=
  ["Ping", "DumpTree", "Click", "Activate", "SetText", "TypeText", "KeyCombo", "Screenshot"]

def requestVariant (kind : String) : Decoder Request :=
  match kind with
  | "DumpTree" => dumpTreeShape.decode
  | "Click" => (widgetShape kind .click).decode
  | "Activate" => (widgetShape kind .activate).decode
  | "SetText" => setTextShape.decode
  | "TypeText" => (keyboardShape kind "text" .typeText).decode
  | "KeyCombo" => (keyboardShape kind "combo" .keyCombo).decode
  | "Screenshot" => Json.bareVariant .screenshot
  | _ => Json.bareVariant .ping

def Request.decoder : Decoder Request :=
  Json.tagged "Request" requestKinds requestVariant

def Request.line (request : Request) : String :=
  request.toJson.compact ++ "\n"

/-! ## Responses -/

def Response.toJson : Response → Value
  | .ok => kinded "Ok" []
  | .tree nodes => kinded "Tree" [("nodes", nodes.toJson)]
  | .screenshot data => kinded "Screenshot" [("data", .string data)]
  | .error message => kinded "Error" [("message", .string message)]

def Response.describe : Response → Shown
  | .ok => .word "Ok"
  | .tree nodes => .record "Tree" [("nodes", .list (Forest.describeItems nodes))]
  | .screenshot data => .record "Screenshot" [("data", .text data)]
  | .error message => .record "Error" [("message", .text message)]

def responseShape {α : Type} (kind label : String) (decoder : Decoder α) (response : α → Response) :
    Shape (Option α) Response where
  title := s!"struct variant Response::{kind}"
  start := none
  member := fun source found name value =>
    if name = label then Json.once name found decoder source value
    else do
      source.skip value
      return found
  finish := fun found => (Json.required label found).map response
  row := fun row => do
    let (value, row) ← row.next s!"struct variant Response::{kind} with 1 element" decoder
    return (response value, row)

def responseKinds : List String := ["Ok", "Tree", "Screenshot", "Error"]

def responseVariant (kind : String) : Decoder Response :=
  match kind with
  | "Tree" => (responseShape kind "nodes" (Json.list Node.decoder) .tree).decode
  | "Screenshot" => (responseShape kind "data" Json.text .screenshot).decode
  | "Error" => (responseShape kind "message" Json.text .error).decode
  | _ => Json.bareVariant .ok

def Response.decoder : Decoder Response :=
  Json.tagged "Response" responseKinds responseVariant

/-! ## Lines -/

inductive MessageFault where
  | empty
  | invalidMessage (reason : String)
  | invalidScreenshot (reason : String)
  deriving DecidableEq, Repr

def MessageFault.message : MessageFault → String
  | .empty => "empty message"
  | .invalidMessage reason => s!"invalid message: {reason}"
  | .invalidScreenshot reason => s!"invalid screenshot payload: {reason}"

/-- Reads the line of a response; blanks around it do not matter. -/
def Response.ofLine (line : String) : Except MessageFault Response :=
  let trimmed := Text.trim line
  if trimmed.isEmpty then .error .empty
  else
    match Json.decode Response.decoder trimmed with
    | .ok response => .ok response
    | .error cause => .error (.invalidMessage cause.message)

def pictureBytes (data : String) : Except MessageFault Bytes :=
  match Text.Base64.decode (Text.trim data) with
  | .ok bytes => .ok bytes
  | .error fault => .error (.invalidScreenshot fault.message)

end Wire

end Rehearsal
