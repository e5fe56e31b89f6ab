import Rehearsal.Backend.ViewerAgent
import Rehearsal.Launch.Machine
/-!
# The agents of a machine

Any program of a machine may be started as an agent. One is the viewer agent; a shell reads lines
where its commands say so and prints its answers; the others take every line without an answer,
until they end.
-/

set_option autoImplicit false

namespace Rehearsal

structure ShellAgent where
  /-- The time up to which its output has been passed on. -/
  since : Nat
  /-- The shell; what it has printed has not been passed on. -/
  state : Shell.State
  stop : Shell.Stop

namespace ShellAgent

def start (commands : List Shell.Simple) (begun : Shell.State) : ShellAgent :=
  let (state, stop) := Shell.listen commands begun
  ⟨0, state, stop⟩

/-- The output that has not been passed on, up to a time. -/
def output (since : Nat) (printed : List (Nat × Bytes)) (finished : Nat) : List (Nat × Bytes) :=
  Shell.delays since (printed ++ [(finished, [])])

/-- Reads a line where the shell has stopped, and goes on to where it stops next. -/
def resume (line : String) (agent : ShellAgent) : Shell.State × Shell.Stop :=
  match agent.stop with
  | .ended status => (agent.state, .ended status)
  | .reading names rest =>
    let assigned := Shell.assign names (line.toList.takeWhile (· ≠ '\n'))
    Shell.listen rest { agent.state with
      environment := assigned ++ agent.state.environment, status := 0 }

def receive (line : Bytes) (agent : ShellAgent) : Reaction ShellAgent :=
  let (state, stop) := agent.resume ((Text.Utf8.decode line).toOption.getD "")
  let silent := { state with printed := [] }
  match stop with
  | .ended status =>
    ⟨output agent.since state.printed state.ending, some (.exited status),
      ⟨state.ending, silent, stop⟩⟩
  | .reading _ _ =>
    ⟨output agent.since state.printed state.time, none, ⟨state.time, silent, stop⟩⟩

end ShellAgent

inductive Agent where
  | viewer (state : ViewerAgent.State)
  | shell (agent : ShellAgent)
  /-- A program that does not answer. -/
  | silent (process : Process)

namespace Agent

def receive (line : Bytes) : Agent → Reaction Agent
  | .viewer state =>
    let reaction := ViewerAgent.receive line state
    ⟨reaction.output, reaction.departure, .viewer reaction.after⟩
  | .shell agent =>
    let reaction := agent.receive line
    ⟨reaction.output, reaction.departure, .shell reaction.after⟩
  | .silent process =>
    match process.ending with
    | some (time, status) => ⟨[(time, [])], some (.exited status), .silent process⟩
    | none => ⟨[], none, .silent process⟩

end Agent

namespace Machine

def viewerProgram : String := "rehearsal-viewer"

def agentOf (machine : Machine) (name : String) (invocation : Invocation) : Agent :=
  match name, machine.shell? invocation with
  | "sh", some (commands, begun) => .shell (.start commands begun)
  | _, _ => .silent (machine.processOf name invocation)

def startAgent (machine : Machine) (program : String) (arguments : List String) :
    Except FileFault Agent :=
  if program = viewerProgram then .ok (.viewer (ViewerAgent.ofArguments arguments))
  else do
    let invocation : Invocation := ⟨program, arguments, machine.currentDirectory, []⟩
    let name ← machine.programOf invocation
    return machine.agentOf name invocation

def agency (machine : Machine) : Agency Agent where
  start := machine.startAgent
  receive := Agent.receive

end Machine

end Rehearsal
