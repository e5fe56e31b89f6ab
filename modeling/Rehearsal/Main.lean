import Rehearsal.CommandLine.Program
import Rehearsal.Files.Volume
/-!
# The command line program

Takes the files that a command looks at from the disk, carries the command out on them, and writes
back what it has left behind.
-/

set_option autoImplicit false

namespace Rehearsal.Main

open CommandLine (Arguments Surroundings Ending)

def variableNames : List String :=
  CommandLine.configVariable :: Settings.overridingVariables

def readVariables (names : List String) : IO Variables := do
  let found ← names.mapM fun name => do
    return (← IO.getEnv name).map fun value => (name, value)
  return found.filterMap id

/-- Puts an item of the disk into a volume; of a directory, the names in it. -/
def load (volume : Volume) (path : String) : IO Volume := do
  let here ← IO.currentDir
  let place := here / path
  if ← place.isDir then
    let mut loaded := volume.provide place.toString ((volume.item place.toString).toOption.getD
      (.directory []))
    for entry in ← place.readDir do
      let name := Path.join place.toString entry.fileName
      if !loaded.has name then
        let item := if ← entry.path.isDir then Item.directory [] else Item.file []
        loaded := loaded.provide name item
    return loaded
  else if ← place.pathExists then
    let contents ← IO.FS.readBinFile place
    return volume.provide place.toString (.file contents.toList)
  else return volume

def save (path : String) (contents : Option Bytes) : IO Unit :=
  match contents with
  | some bytes => IO.FS.writeBinFile path ⟨bytes.toArray⟩
  | none => IO.FS.createDirAll path

def now : IO Instant := do
  let (_, path) ← IO.FS.createTempFile
  let time := (← path.metadata).modified
  IO.FS.removeFile path
  return .ofEpoch time.sec.toNat time.nsec.toNat

/-- Marks from a time on, with identifiers of random digits. Two of them differ in their last digits
as long as there are not more than 65536. -/
def marksFrom (time : Instant) : IO Marks := do
  let seed := (← IO.getRandomBytes 14).toList
  let digits := seed.flatMap fun byte => [byte.toNat / 16, byte.toNat % 16]
  return {
    identifier := fun index =>
      ⟨digits ++ [index / 4096 % 16, index / 256 % 16, index / 16 % 16, index % 16]⟩
    time := fun clock =>
      let nanosecond := time.nanosecond + clock * 1000000
      { time.shift (nanosecond / 1000000000 : Nat) with
        nanosecond := nanosecond % 1000000000 } }

def loadAll (volume : Volume) (home : String) (environment : Variables) (words : List String) :
    IO Volume := do
  match Arguments.ofWords (environment.lookup CommandLine.configVariable) words with
  | .error _ => return volume
  | .ok arguments =>
    let first ← load volume (arguments.settingsPath home)
    match arguments.settings first home environment with
    | .error _ => return first
    | .ok settings =>
      let here := (← IO.currentDir).toString
      (arguments.task.paths settings here home).foldlM load first

def run (words : List String) : IO Ending := do
  let environment ← readVariables variableNames
  let home := (← IO.getEnv "HOME").getD "."
  let here := (← IO.currentDir).toString
  let parts := (Path.parts here).filter (· != "")
  let empty : Volume := Volume.provide ⟨.directory [], parts⟩ here (.directory [])
  let volume ← loadAll empty home environment words
  let surroundings : Surroundings := ⟨.fresh volume home, environment, ← marksFrom (← now)⟩
  let ending := surroundings.program words
  for (path, contents) in volume.additions ending.volume do
    save path contents
  return ending

end Rehearsal.Main

def main (words : List String) : IO UInt32 := do
  let ending ← Rehearsal.Main.run words
  IO.print ending.output
  IO.eprint ending.errors
  return ending.code.toUInt32
