import Rehearsal.Json.Decode
import Rehearsal.Json.Value
import Rehearsal.Settings.Basic
/-!
# The written form of settings

Settings are an object in which every member may be left out.
-/

set_option autoImplicit false

namespace Rehearsal.Settings

open Json (Value Doc Decoded Decoder Source Shape Row)

/-- The written form of settings. What is not set is left out. -/
def toJson (settings : Settings) : Value :=
  .object <|
    [("app", .string settings.app)] ++
    (settings.appName.map fun name => ("app_name", Value.string name)).toList ++
    (if settings.appArgs.isEmpty then [] else [("app_args", Value.ofTexts settings.appArgs)]) ++
    [("locale", .string settings.locale)] ++
    (settings.fixturesDir.map fun path => ("fixtures_dir", Value.string path)).toList ++
    [("bridge_command", .ofTexts settings.bridgeCommand),
      ("launch_timeout_ms", .number settings.launchTimeout),
      ("poll_interval_ms", .number settings.pollInterval),
      ("search_attempts", .number settings.searchAttempts),
      ("search_backoff_ms", .number settings.searchBackoff)] ++
    (settings.diagnosticsDir.map fun path => ("diagnostics_dir", Value.string path)).toList ++
    [("capture_screenshot", .bool settings.captureScreenshot)]

structure Parts where
  app : Option String
  appName : Option (Option String)
  appArgs : Option (List String)
  locale : Option String
  fixturesDir : Option (Option String)
  bridgeCommand : Option (List String)
  launchTimeout : Option Nat
  pollInterval : Option Nat
  searchAttempts : Option Nat
  searchBackoff : Option Nat
  diagnosticsDir : Option (Option String)
  captureScreenshot : Option Bool

namespace Parts

/-- No member yet. -/
def none : Parts :=
  ⟨.none, .none, .none, .none, .none, .none, .none, .none, .none, .none, .none, .none⟩

def settings (parts : Parts) : Settings where
  app := parts.app.getD default.app
  appName := parts.appName.getD default.appName
  appArgs := parts.appArgs.getD default.appArgs
  locale := parts.locale.getD default.locale
  fixturesDir := parts.fixturesDir.getD default.fixturesDir
  bridgeCommand := parts.bridgeCommand.getD default.bridgeCommand
  launchTimeout := parts.launchTimeout.getD default.launchTimeout
  pollInterval := parts.pollInterval.getD default.pollInterval
  searchAttempts := parts.searchAttempts.getD default.searchAttempts
  searchBackoff := parts.searchBackoff.getD default.searchBackoff
  diagnosticsDir := parts.diagnosticsDir.getD default.diagnosticsDir
  captureScreenshot := parts.captureScreenshot.getD default.captureScreenshot

end Parts

def path : Decoder (Option String) := Json.optional (Json.textOf "path string")

def texts : Decoder (List String) := Json.list Json.text

def member (source : Source) (parts : Parts) (name : String) (value : Doc) : Decoded Parts :=
  match name with
  | "app" => do
    let found ← Json.once name parts.app Json.text source value
    return { parts with app := found }
  | "app_name" => do
    let found ← Json.once name parts.appName (Json.optional Json.text) source value
    return { parts with appName := found }
  | "app_args" => do
    let found ← Json.once name parts.appArgs texts source value
    return { parts with appArgs := found }
  | "locale" => do
    let found ← Json.once name parts.locale Json.text source value
    return { parts with locale := found }
  | "fixtures_dir" => do
    let found ← Json.once name parts.fixturesDir path source value
    return { parts with fixturesDir := found }
  | "bridge_command" => do
    let found ← Json.once name parts.bridgeCommand texts source value
    return { parts with bridgeCommand := found }
  | "launch_timeout_ms" => do
    let found ← Json.once name parts.launchTimeout Json.word64 source value
    return { parts with launchTimeout := found }
  | "poll_interval_ms" => do
    let found ← Json.once name parts.pollInterval Json.word64 source value
    return { parts with pollInterval := found }
  | "search_attempts" => do
    let found ← Json.once name parts.searchAttempts Json.word32 source value
    return { parts with searchAttempts := found }
  | "search_backoff_ms" => do
    let found ← Json.once name parts.searchBackoff Json.word64 source value
    return { parts with searchBackoff := found }
  | "diagnostics_dir" => do
    let found ← Json.once name parts.diagnosticsDir path source value
    return { parts with diagnosticsDir := found }
  | "capture_screenshot" => do
    let found ← Json.once name parts.captureScreenshot Json.flag source value
    return { parts with captureScreenshot := found }
  | _ => do
    source.skip value
    return parts

/-- Takes the members from a list, which may end early. -/
def row (row : Row) : Decoded (Settings × Row) := do
  let (app, row) ← row.next? Json.text
  let (appName, row) ← row.next? (Json.optional Json.text)
  let (appArgs, row) ← row.next? texts
  let (locale, row) ← row.next? Json.text
  let (fixturesDir, row) ← row.next? path
  let (bridgeCommand, row) ← row.next? texts
  let (launchTimeout, row) ← row.next? Json.word64
  let (pollInterval, row) ← row.next? Json.word64
  let (searchAttempts, row) ← row.next? Json.word32
  let (searchBackoff, row) ← row.next? Json.word64
  let (diagnosticsDir, row) ← row.next? path
  let (captureScreenshot, row) ← row.next? Json.flag
  let parts : Parts := ⟨app, appName, appArgs, locale, fixturesDir, bridgeCommand, launchTimeout,
    pollInterval, searchAttempts, searchBackoff, diagnosticsDir, captureScreenshot⟩
  return (parts.settings, row)

def shape : Shape Parts Settings where
  title := "struct HarnessConfig"
  start := .none
  member := member
  finish := fun parts => .ok parts.settings
  row := row

def decoder : Decoder Settings := shape.decode

end Rehearsal.Settings
