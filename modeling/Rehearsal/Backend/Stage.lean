import Rehearsal.Backend.Basic
/-!
# Staged backends

A backend whose tree is given and changes on cue: at a dump of a certain number, or when a certain
input comes. It serves to try procedures out against any course of events.
-/

set_option autoImplicit false

namespace Rehearsal

inductive Effect where
  | setTree (forest : Forest)
  | push (nodes : Forest)
  | remove (name : String)
  | setConnected (connected : Bool)
  | setText (name text : String)
  | fail (error : BackendError)

inductive Cue where
  /-- The answer takes an hour. -/
  | stall
  | effects (effects : List Effect)

/-- What happens on an input of a kind and, if a name is given, of that name. -/
structure Rule where
  kind : String
  name : Option String
  effects : List Effect

inductive Picture where
  | bytes (bytes : Bytes)
  | stall
  | fail (error : BackendError)

/-- An input that a stage has taken, and for which application. -/
structure Call where
  app : String
  input : Input

structure Stage where
  tree : Forest
  connected : Bool
  cues : List (Nat × Cue)
  rules : List Rule
  picture : Picture
  /-- The number of dumps that have been asked for. -/
  dumps : Nat
  /-- The inputs taken, oldest first. -/
  calls : List Call

mutual

def Node.without (name : String) : Node → Node
  | ⟨own, role, text, description, states, children⟩ =>
    ⟨own, role, text, description, states, Forest.without name children⟩

def Forest.without (name : String) : Forest → Forest
  | [] => []
  | node :: rest =>
    if node.name == some name then Forest.without name rest
    else node.without name :: Forest.without name rest

end

mutual

def Node.withText? (name text : String) : Node → Option Node
  | ⟨own, role, old, description, states, children⟩ =>
    if own == some name then some ⟨own, role, some text, description, states, children⟩
    else
      (Forest.withText? name text children).map fun changed =>
        ⟨own, role, old, description, states, changed⟩

def Forest.withText? (name text : String) : Forest → Option Forest
  | [] => none
  | node :: rest =>
    match node.withText? name text with
    | some changed => some (changed :: rest)
    | none => (Forest.withText? name text rest).map (node :: ·)

end

/-- The name that a rule may ask for: that of the selector, or what is typed. -/
def Input.cueName : Input → String
  | .click target => target.selector.name
  | .activate target => target.selector.name
  | .setText target _ => target.selector.name
  | .typeText text => text
  | .keyCombo combo => combo

def Rule.concerns (rule : Rule) (input : Input) : Bool :=
  rule.kind == input.kind && (rule.name.isNone || rule.name == some input.cueName)

namespace Stage

def hour : Nat := 3600000

def apply (stage : Stage) : Effect → Stage
  | .setTree forest => { stage with tree := forest }
  | .push nodes => { stage with tree := stage.tree ++ nodes }
  | .remove name => { stage with tree := Forest.without name stage.tree }
  | .setConnected connected => { stage with connected := connected }
  | .setText name text => { stage with tree := (stage.tree.withText? name text).getD stage.tree }
  | .fail _ => stage

def applyAll (stage : Stage) (effects : List Effect) : Stage :=
  effects.foldl apply stage

/-- The error of a call with some effects: the last one that they name. -/
def errorOf (effects : List Effect) : Option BackendError :=
  (effects.filterMap fun effect => match effect with
    | .fail error => some error
    | _ => none).getLast?

/-- Success, or the error that effects name. -/
def result (effects : List Effect) : Except BackendError Unit :=
  match errorOf effects with
  | some error => .error error
  | none => .ok ()

def dump (_ : String) (_ : Nat) (stage : Stage) : Reply Stage Forest :=
  let counted := { stage with dumps := stage.dumps + 1 }
  if stage.connected then
    match stage.cues.lookup stage.dumps with
    | none => .now (.ok counted.tree) counted
    | some .stall => ⟨hour, .ok counted.tree, counted, fun _ => counted⟩
    | some (.effects effects) =>
      let changed := counted.applyAll effects
      .now ((result effects).map fun _ => changed.tree) changed
  else .now (.error .notConnected) counted

/-- What input does by itself: a widget whose text is replaced shows it. -/
def take (stage : Stage) (app : String) (input : Input) : Stage :=
  let logged := { stage with calls := stage.calls ++ [⟨app, input⟩] }
  match input with
  | .setText target text => logged.apply (.setText target.selector.name text)
  | _ => logged

def reaches (stage : Stage) (input : Input) : Bool :=
  match input.target? with
  | some target => (stage.tree.locate? target).isSome
  | none => true

def perform (app : String) (input : Input) (_ : Nat) (stage : Stage) : Reply Stage Unit :=
  match input.target? with
  | some target =>
    if stage.reaches input then respond
    else .now (.error (.noSuchWidget target)) stage
  | none => respond
where
  respond : Reply Stage Unit :=
    let effects := ((stage.rules.find? (·.concerns input)).map (·.effects)).getD []
    .now (result effects) ((stage.take app input).applyAll effects)

def screenshot (_ : Nat) (stage : Stage) : Reply Stage Bytes :=
  match stage.picture with
  | .bytes bytes => .now (.ok bytes) stage
  | .stall => ⟨hour, .ok [], stage, fun _ => stage⟩
  | .fail error => .now (.error error) stage

def backend : Backend Stage := ⟨connected, dump, perform, screenshot⟩

def bare (tree : Forest) : Stage :=
  ⟨tree, true, [], [], .fail (.commandFailed "no display"), 0, []⟩

end Stage

end Rehearsal
