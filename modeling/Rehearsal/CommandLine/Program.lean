import Rehearsal.Backend.Session
import Rehearsal.CommandLine.Arguments
import Rehearsal.CommandLine.Preparation
import Rehearsal.Launch.Agents
import Rehearsal.Report.Basic
import Rehearsal.Run.Harness
import Rehearsal.Scenario.Catalogue
/-!
# The program

What a command line comes to: what is printed, the files that are left behind and the exit code.
The code is zero exactly when what was asked for has been done.
-/

set_option autoImplicit false

namespace Rehearsal.CommandLine

structure Surroundings where
  machine : Machine
  environment : Variables
  marks : Marks

structure Ending where
  code : Nat
  output : String
  errors : String
  volume : Volume

namespace Surroundings

/-- The end of a command that only prints. -/
def printed (surroundings : Surroundings) (output : String) : Ending :=
  ⟨0, output, "", surroundings.machine.volume⟩

/-- The surroundings with a directory in them, if it can be made. -/
def withDirectory (surroundings : Surroundings) (path : String) : Surroundings :=
  match surroundings.machine.volume.makeDirectories path with
  | .ok volume => { surroundings with machine := { surroundings.machine with volume := volume } }
  | .error _ => surroundings

/-! ## Running a scenario -/

def directoryLine : Option String → String
  | some directory => s!"diagnostics written to {directory}\n"
  | none => ""

/-- The end of a run that failed: a report is written, and the exit code tells the kind of error. -/
def failed {σ : Type} (surroundings : Surroundings) (settings : Settings) (name : String)
    (error : RunError) (clock : Nat) (context : Option (Procedure σ)) : Ending :=
  let reporter := Reporter.ofSettings settings surroundings.machine.home
  let (diagnostics, volume, _) := reporter.capture Volume.store name error
    (surroundings.marks.time clock) context surroundings.machine.volume
  ⟨error.exitCode, "",
    s!"{name}: {error.kind}: {error.message}\n{directoryLine diagnostics.directory}", volume⟩

def runScenario (surroundings : Surroundings) (settings : Settings) (scenario : Scenario) :
    Ending :=
  let agency := surroundings.machine.agency
  let scene : Scene (Session Agent) := ⟨.ofCommand settings.bridgeCommand defaultReadLimit, 0⟩
  match scene.await (Session.connect agency) with
  | (.error error, after) =>
    let context : Option (Procedure (Session Agent)) := none
    surroundings.failed settings scenario.name (.backend error) after.clock context
  | (.ok (), connected) =>
    let harness := Harness.start settings surroundings.machine (Session.backend agency)
      surroundings.marks connected
    match harness.execute scenario.fixture scenario.run with
    | (.ok procedure, _) =>
      surroundings.printed s!"{scenario.name}: passed ({procedure.trail.length} actions)\n"
    | (.error failure, _) =>
      surroundings.failed settings scenario.name failure.error failure.procedure.scene.clock
        (some failure.procedure)

/-- The settings of a run, by whether pictures are unwanted. -/
def runSettings (settings : Settings) (noScreenshot : Bool) : Settings :=
  { settings with captureScreenshot := settings.captureScreenshot && !noScreenshot }

/-! ## Commands -/

/-- Carries out a task. The directory of the reports is made before a run is looked at. -/
def carryOut (surroundings : Surroundings) (settings : Settings) :
    Task → Except Complaint Ending
  | .run name noScreenshot =>
    let prepared :=
      surroundings.withDirectory (settings.diagnostics surroundings.machine.home)
    match Catalogue.find? name with
    | some scenario => .ok (prepared.runScenario (runSettings settings noScreenshot) scenario)
    | none => .error (.unknownScenario name)
  | .list filter json => do
    let text ← (Catalogue.index filter json).mapError .pattern
    return surroundings.printed text
  | .diagnostics scenario => do
    let root := settings.diagnostics surroundings.machine.home
    let found ← (Listing.reports surroundings.machine.volume root scenario).mapError .pattern
    return surroundings.printed (String.join (found.map (· ++ "\n")))

def command (surroundings : Surroundings) (arguments : Arguments) : Except Complaint Ending := do
  let settings ← arguments.settings surroundings.machine.volume surroundings.machine.home
    surroundings.environment
  surroundings.carryOut settings arguments.task

/-- The end of a command line that is not carried out. -/
def refused (surroundings : Surroundings) (fault : UsageFault) : Ending :=
  if fault.isMistake then
    ⟨Complaint.exitCode, "", fault.message, surroundings.machine.volume⟩
  else surroundings.printed fault.message

def complained (surroundings : Surroundings) (complaint : Complaint) : Ending :=
  ⟨Complaint.exitCode, "", s!"Error: {complaint.message}\n", surroundings.machine.volume⟩

def program (surroundings : Surroundings) (words : List String) : Ending :=
  match Arguments.ofWords (surroundings.environment.lookup configVariable) words with
  | .error fault => surroundings.refused fault
  | .ok arguments =>
    match surroundings.command arguments with
    | .error complaint => surroundings.complained complaint
    | .ok ending => ending

end Surroundings

/-! ## The files that a command looks at

Nothing else of a machine's files has to be known to carry a command out. -/

def Arguments.settingsPath (arguments : Arguments) (home : String) : String :=
  arguments.config.getD (Settings.homeFile home)

def Task.documents : Task → List String
  | .run name _ => ((Catalogue.find? name).bind (·.fixture)).toList
  | .list _ _ | .diagnostics _ => []

def Task.paths (task : Task) (settings : Settings) (here home : String) : List String :=
  let fixtures := settings.fixtures here
  [fixtures, settings.diagnostics home, settings.app] ++ settings.bridgeCommand.take 1 ++
    task.documents.map (Path.join fixtures)

end Rehearsal.CommandLine
