import Rehearsal.Files.Volume
import Rehearsal.Settings.Codec
import Rehearsal.Text.Shown
import Rehearsal.Text.Unicode
/-!
# Where settings come from

A file holds settings, and variables of the environment override some of them. A variable is applied
before the next one is looked at, so those before a faulty one have their effect.
-/

set_option autoImplicit false

namespace Rehearsal

inductive SettingsFault where
  | unreadable (path : String) (cause : FileFault)
  | invalid (path : String) (cause : Json.DecodeError)
  | invalidValue (name value : String)
  deriving DecidableEq, Repr

def SettingsFault.message : SettingsFault → String
  | .unreadable path cause => s!"cannot read {path}: {cause.message}"
  | .invalid path cause => s!"invalid config {path}: {cause.message}"
  | .invalidValue name value => s!"invalid value for {name}: {Text.quote value}"

abbrev Variables := List (String × String)

namespace Settings

def ofFile (volume : Volume) (path : String) : Except SettingsFault Settings :=
  match volume.readText path with
  | .error cause => .error (.unreadable path cause)
  | .ok text =>
    match Json.decode decoder text with
    | .error cause => .error (.invalid path cause)
    | .ok settings => .ok settings

def homeFile (home : String) : String := Path.join (stateDirectory home) "config.json"

/-- The settings in the user's own file, or the defaults if they cannot be had. -/
def ofHome (volume : Volume) (home : String) : Settings :=
  match ofFile volume (homeFile home) with
  | .ok settings => settings
  | .error _ => default

/-- The words of a command, of which there has to be one. -/
def command? (text : String) : Option (List String) :=
  match Text.words text with
  | [] => none
  | words => some words

/-- The milliseconds that a variable holds, with blanks around them. -/
def milliseconds (name value : String) : Except SettingsFault Nat :=
  match Text.readNatural? Text.bound64 (Text.trim value).toList with
  | some count => .ok count
  | none => .error (.invalidValue name value)

def override (settings : Settings) (name value : String) : Except SettingsFault Settings :=
  match name with
  | "srcdir" => .ok (if value.isEmpty then settings else { settings with fixturesDir := value })
  | "DOCPROBE_APP" => .ok (if value.isEmpty then settings else { settings with app := value })
  | "DOCPROBE_BRIDGE" =>
    match command? value with
    | some words => .ok { settings with bridgeCommand := words }
    | none => .error (.invalidValue name value)
  | "DOCPROBE_DIAGNOSTICS_DIR" =>
    .ok (if value.isEmpty then settings else { settings with diagnosticsDir := value })
  | "DOCPROBE_LAUNCH_TIMEOUT_MS" => do
    let count ← milliseconds name value
    return { settings with launchTimeout := count }
  | "DOCPROBE_SEARCH_TIMEOUT_MS" => do
    let count ← milliseconds name value
    return settings.setSearchTimeout (.ofMilliseconds count)
  | _ => .ok settings

/-- The variables that override settings, in the order in which they are applied. -/
def overridingVariables : List String :=
  ["srcdir", "DOCPROBE_APP", "DOCPROBE_BRIDGE", "DOCPROBE_DIAGNOSTICS_DIR",
    "DOCPROBE_LAUNCH_TIMEOUT_MS", "DOCPROBE_SEARCH_TIMEOUT_MS"]

def applyNamed (environment : Variables) :
    List String → Settings → Option SettingsFault × Settings
  | [], settings => (none, settings)
  | name :: rest, settings =>
    match environment.lookup name with
    | none => applyNamed environment rest settings
    | some value =>
      match settings.override name value with
      | .ok changed => applyNamed environment rest changed
      | .error fault => (some fault, settings)

/-- Applies all overriding variables. With a fault comes what was applied before it. -/
def applyVariables (environment : Variables) (settings : Settings) :
    Option SettingsFault × Settings :=
  applyNamed environment overridingVariables settings

end Settings

end Rehearsal
