import Rehearsal.Text.Utf8
/-!
# Files

The files of a machine as a value: directories hold named items, and a path is resolved name by
name. Every step of a path, a trailing slash included, has to start from a directory.
-/

set_option autoImplicit false

namespace Rehearsal

/-! ## Paths

Names separated by slashes. Nothing in this part looks at any file. -/

namespace Path

/-- Cuts a list of characters at every slash. -/
def cut : List Char → List (List Char)
  | [] => [[]]
  | c :: rest =>
    match cut rest with
    | [] => [[c]]
    | part :: parts => if c = '/' then [] :: part :: parts else (c :: part) :: parts

/-- The parts of a path between its slashes; a part may be empty. -/
def parts (path : String) : List String :=
  (cut path.toList).map String.ofList

def isAbsolute (path : String) : Bool :=
  path.toList.head? == some '/'

/-- A path seen from a directory. An absolute path stays as it is. -/
def join (base path : String) : String :=
  if isAbsolute path || base.isEmpty then path
  else if base.toList.getLast? == some '/' then base ++ path
  else base ++ "/" ++ path

/-- The name that a path ends in. A path to a parent directory, to the current directory or to the
root ends in none. -/
def fileName? (path : String) : Option String :=
  match ((parts path).filter fun part => part != "" && part != ".").getLast? with
  | some name => if name = ".." then none else some name
  | none => none

end Path

/-! ## Items -/

inductive Item where
  | file (contents : Bytes)
  | directory (items : List (String × Item))
  deriving Repr, Inhabited

inductive FileFault where
  | notFound
  | denied
  | exists
  | notDirectory
  | isDirectory
  | nameTooLong
  /-- A path holds the character that ends paths. -/
  | endMarkInName
  /-- The contents are not UTF-8. -/
  | notText
  /-- A command holds the character that ends its words. -/
  | endMarkInCommand
  deriving DecidableEq, Repr

def FileFault.message : FileFault → String
  | .notFound => "No such file or directory (os error 2)"
  | .denied => "Permission denied (os error 13)"
  | .exists => "File exists (os error 17)"
  | .notDirectory => "Not a directory (os error 20)"
  | .isDirectory => "Is a directory (os error 21)"
  | .nameTooLong => "File name too long (os error 36)"
  | .endMarkInName => "file name contained an unexpected NUL byte"
  | .notText => "stream did not contain valid UTF-8"
  | .endMarkInCommand => "nul byte found in provided data"

namespace Item

def isDirectory : Item → Bool
  | .directory _ => true
  | .file _ => false

def items : Item → List (String × Item)
  | .directory items => items
  | .file _ => []

def at? : Item → List String → Option Item
  | item, [] => some item
  | item, name :: rest =>
    match item.items.lookup name with
    | some inner => inner.at? rest
    | none => none

/-- Sets the item of a name among others, at the end if the name is new. -/
def setNamed (name : String) (item : Item) : List (String × Item) → List (String × Item)
  | [] => [(name, item)]
  | (other, old) :: rest =>
    if other = name then (name, item) :: rest else (other, old) :: setNamed name item rest

/-- Puts an item at a place below an item, making the directories that lead there. -/
def put : Item → List String → Item → Item
  | _, [], new => new
  | item, name :: rest, new =>
    let inner := (item.items.lookup name).getD (.directory [])
    .directory (setNamed name (inner.put rest new) item.items)

end Item

/-! ## Volumes -/

/-- All files of a machine and the directory that relative paths start from. -/
structure Volume where
  root : Item
  here : List String
  deriving Repr, Inhabited

namespace Volume

/-- The greatest number of bytes of a name. -/
def nameLimit : Nat := 255

/-- The number of bytes that no path has. -/
def pathLimit : Nat := 4096

/-- Goes one step from a directory. -/
def step (volume : Volume) (place : List String) (part : String) : Except FileFault (List String) :=
  match volume.root.at? place with
  | some (.directory items) =>
    if part = "" || part = "." then .ok place
    else if part = ".." then .ok place.dropLast
    else if nameLimit < part.utf8ByteSize then .error .nameTooLong
    else if (items.lookup part).isSome then .ok (place ++ [part])
    else .error .notFound
  | some (.file _) => .error .notDirectory
  | none => .error .notFound

def walk (volume : Volume) : List String → List String → Except FileFault (List String)
  | place, [] => .ok place
  | place, part :: parts => do
    let next ← volume.step place part
    volume.walk next parts

def checkPath (path : String) : Except FileFault Unit :=
  if path.toList.contains '\x00' then .error .endMarkInName
  else if path.isEmpty then .error .notFound
  else if pathLimit ≤ path.utf8ByteSize then .error .nameTooLong
  else .ok ()

/-- Where a path starts from. -/
def start (volume : Volume) (path : String) : List String :=
  if Path.isAbsolute path then [] else volume.here

/-- The place that a path leads to. -/
def resolve (volume : Volume) (path : String) : Except FileFault (List String) := do
  checkPath path
  volume.walk (volume.start path) (Path.parts path)

def item (volume : Volume) (path : String) : Except FileFault Item := do
  let place ← volume.resolve path
  match volume.root.at? place with
  | some found => return found
  | none => throw .notFound

def has (volume : Volume) (path : String) : Bool :=
  match volume.item path with
  | .ok _ => true
  | .error _ => false

def hasDirectory (volume : Volume) (path : String) : Bool :=
  match volume.item path with
  | .ok found => found.isDirectory
  | .error _ => false

def readBytes (volume : Volume) (path : String) : Except FileFault Bytes := do
  match ← volume.item path with
  | .file contents => return contents
  | .directory _ => throw .isDirectory

def readText (volume : Volume) (path : String) : Except FileFault String := do
  let contents ← volume.readBytes path
  match Text.Utf8.decode contents with
  | .ok text => return text
  | .error _ => throw .notText

/-- Goes one step and makes a directory where there is none. A file may not stand there, and `last`
says whether that is because of its name or because the path goes on. -/
def stepMaking (volume : Volume) (place : List String) (part : String) (last : Bool) :
    Except FileFault (Volume × List String) :=
  match volume.step place part with
  | .ok next =>
    match volume.root.at? next with
    | some (.file _) => .error (if last then .exists else .notDirectory)
    | _ => .ok (volume, next)
  | .error .notFound =>
    let next := place ++ [part]
    .ok (⟨volume.root.put next (.directory []), volume.here⟩, next)
  | .error fault => .error fault

/-- Goes several steps and makes the directories that are missing. -/
def walkMaking (volume : Volume) : List String → List String → Except FileFault Volume
  | _, [] => .ok volume
  | place, part :: parts => do
    let (made, next) ← volume.stepMaking place part (parts.all (· == ""))
    made.walkMaking next parts

def makeDirectories (volume : Volume) (path : String) : Except FileFault Volume :=
  if path.isEmpty then .ok volume
  else do
    checkPath path
    volume.walkMaking (volume.start path) (Path.parts path)

/-- Writes a file in a directory that exists. What the file held before is lost. -/
def write (volume : Volume) (path : String) (contents : Bytes) : Except FileFault Volume := do
  checkPath path
  let parts := Path.parts path
  let directory ← volume.walk (volume.start path) parts.dropLast
  let name := parts.getLast?.getD ""
  match volume.step directory name with
  | .ok place =>
    match volume.root.at? place with
    | some (.directory _) => throw .isDirectory
    | _ => return ⟨volume.root.put place (.file contents), volume.here⟩
  | .error .notFound =>
    return ⟨volume.root.put (directory ++ [name]) (.file contents), volume.here⟩
  | .error fault => throw fault

/-- Goes one step by the name alone, whatever there is. -/
def towards (place : List String) (part : String) : List String :=
  if part = "" || part = "." then place
  else if part = ".." then place.dropLast
  else place ++ [part]

/-- Puts an item at an absolute path, with the directories that lead there. -/
def provide (volume : Volume) (path : String) (item : Item) : Volume :=
  ⟨volume.root.put ((Path.parts path).foldl towards []) item, volume.here⟩

end Volume

/-! ## Contents -/

mutual

/-- The items at a path and below it: a file with its contents, a directory with none. -/
def Item.entries (path : String) : Item → List (String × Option Bytes)
  | .file contents => [(path, some contents)]
  | .directory items => (path, none) :: entriesIn path items

def entriesIn (path : String) : List (String × Item) → List (String × Option Bytes)
  | [] => []
  | (name, item) :: rest => item.entries (path ++ "/" ++ name) ++ entriesIn path rest

end

namespace Volume

def entries (volume : Volume) : List (String × Option Bytes) := entriesIn "" volume.root.items

/-- The items that a volume has over an earlier one: those that are new or have other contents. -/
def additions (before after : Volume) : List (String × Option Bytes) :=
  let known := before.entries
  after.entries.filter fun entry => !known.contains entry

end Volume

/-! ## Stores -/

/-- A place for files: anything that can make directories and take the contents of files. A call may
fail for any reason; it then changes nothing. -/
structure Store (τ : Type) where
  makeDirectories : String → τ → Except FileFault τ
  write : String → Bytes → τ → Except FileFault τ

def Volume.store : Store Volume where
  makeDirectories := fun path volume => volume.makeDirectories path
  write := fun path contents volume => volume.write path contents

end Rehearsal
