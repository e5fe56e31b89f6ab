import Rehearsal.Backend.Agent
import Rehearsal.Backend.Viewer
/-!
# A viewer as an agent

A program that takes requests in lines and carries them out on a viewer of its own. Its arguments
are the name of the application, the document or a hyphen, and the viewer's habits.
-/

set_option autoImplicit false

namespace Rehearsal

/-! ## Habits by name

How the habits of a viewer are given on a command line: a word for each way in which it departs from
a good viewer. -/

namespace Habits

/-- What introduces the title of the dialog that never shows. -/
def missingDialogMark : List Char := "no-dialog:".toList

/-- Takes on the habit that a word names. In a title underscores stand for spaces; of two missing
dialogs the last one counts. Nothing follows from an unknown word. -/
def takeOn (habits : Habits) (word : String) : Habits :=
  match word with
  | "no-normalize" => { habits with normalizesLabels := false }
  | "any-password" => { habits with acceptsAnyPassword := true }
  | "keep-dialog" => { habits with keepsPasswordDialog := true }
  | "drop-on-reload" => { habits with dropsOnReload := true }
  | _ =>
    if missingDialogMark.isPrefixOf word.toList then
      let title := word.toList.drop missingDialogMark.length
      let spaced := title.map fun c => if c = '_' then ' ' else c
      { habits with missingDialog := some (String.ofList spaced) }
    else habits

def ofWords (words : List String) : Habits := words.foldl takeOn .good

end Habits

/-! ## The agent -/

namespace ViewerAgent

open Wire (Request Response)

structure State where
  habits : Habits
  viewer : Viewer

def ofArguments (arguments : List String) : State :=
  match arguments with
  | [] => ⟨.good, .launched "" none⟩
  | app :: rest =>
    let file := match rest with
      | [] => none
      | file :: _ => if file = "-" then none else some file
    ⟨.ofWords (rest.drop 1), .launched app file⟩

/-- How an error is reported: by its message alone if it is a report already. -/
def report : BackendError → Response
  | .commandFailed message => .error message
  | error => .error error.wording

def respond (state : State) : Request → Response × State
  | .ping => (.ok, state)
  | .dumpTree _ => (.tree state.viewer.tree, state)
  | .input _ given =>
    match state.viewer.perform state.habits given with
    | (.ok (), viewer) => (.ok, { state with viewer := viewer })
    | (.error error, viewer) => (report error, { state with viewer := viewer })
  | .screenshot => (.error "no display", state)

def receive (line : Bytes) (state : State) : Reaction State :=
  let request := match Text.Utf8.decode line with
    | .ok text => (Json.decode Request.decoder text).toOption
    | .error _ => none
  let (response, after) := match request with
    | some request => respond state request
    | none => (.error "unknown request", state)
  ⟨[(0, lineBytes response.toJson.compact)], none, after⟩

end ViewerAgent

end Rehearsal
