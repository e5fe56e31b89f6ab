import Mathlib.Order.Bounds.Basic
import Rehearsal.CommandLine.Preparation
import Rehearsal.Proofs.Settings.SearchBudget
/-!
# Where each setting comes from

A field of the settings comes from the highest of four sources that has it: an option, a variable of
the environment, a file and the defaults. Each lower source is the base of those above it. Only an
empty text makes a variable count as not set, and not for every variable: a command without a word
and a time that cannot be read are faults, as is a bad file that is named.
-/

set_option autoImplicit false

namespace Rehearsal

namespace Variables

/-- What a variable holds, unless that is empty. -/
def present (environment : Variables) (name : String) : Option String :=
  (environment.lookup name).filter (· ≠ "")

end Variables

namespace Settings

/-! ## Files -/

/-- The settings after one variable has been looked at. -/
def assigned (environment : Variables) (settings : Settings) (name : String) :
    Except SettingsFault Settings :=
  match environment.lookup name with
  | some value => settings.override name value
  | none => .ok settings

/-- What the variables make of settings, of which two may give a time. -/
def environed (environment : Variables) (launch search : Option Nat) (base : Settings) :
    Settings :=
  { base with
    app := (environment.present "DOCPROBE_APP").getD base.app
    bridgeCommand :=
      ((environment.lookup "DOCPROBE_BRIDGE").map Text.words).getD base.bridgeCommand
    fixturesDir := (environment.present "srcdir").or base.fixturesDir
    diagnosticsDir := (environment.present "DOCPROBE_DIAGNOSTICS_DIR").or base.diagnosticsDir
    launchTimeout := launch.getD base.launchTimeout
    searchAttempts := search.elim base.searchAttempts fun total =>
      attemptsFor (.ofMilliseconds total) base.searchBackoff }

end Settings

namespace CommandLine

open Settings

/-! ## Options -/

end CommandLine

end Rehearsal
