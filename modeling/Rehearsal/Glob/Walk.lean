import Rehearsal.Files.Volume
import Rehearsal.Glob.Pattern
/-!
# Finding files by a pattern

A pattern of a path is taken part by part: a part without wildcards leads to the item of that name,
and another one to every item that it matches. Items come in the order of their names.
-/

set_option autoImplicit false

namespace Rehearsal.Glob

/-- The text of a pattern that has no wildcard. -/
def Pattern.literal? : Pattern → Option (List Char)
  | [] => some []
  | .char c :: rest => (Pattern.literal? rest).map (c :: ·)
  | _ => none

def isHere (path : String) : Bool :=
  !path.isEmpty && !Path.isAbsolute path &&
    (Path.parts path).all fun part => part = "." || part = ""

def further (path name : String) : String :=
  if isHere path then name else Path.join path name

def names (volume : Volume) (path : String) : List String :=
  match volume.item path with
  | .ok found => (found.items.map Prod.fst).mergeSort fun a b => decide (a ≤ b)
  | .error _ => []

/-- The special names of a directory and the one above it, which only a pattern that begins with a
dot may match. -/
def specialNames (pattern : Pattern) : List String :=
  match pattern with
  | .char '.' :: _ => [".", ".."].filter pattern.accepts
  | _ => []

/-- The paths below a path that patterns match part by part. -/
def walk (volume : Volume) : List Pattern → String → List String
  | [], path => [path]
  | pattern :: rest, path =>
    match pattern.literal? with
    | some literal =>
      let name := String.ofList literal
      let next := further path name
      let there := if name = "." || name = ".." then volume.hasDirectory path else volume.has next
      if there then walk volume rest next else []
    | none =>
      if volume.hasDirectory path then
        ((names volume path).filter pattern.accepts ++ specialNames pattern).flatMap fun name =>
          walk volume rest (further path name)
      else []

/-- The parts of a path between slashes; a slash at its end begins none. -/
def pieces (text : List Char) : List (List Char) :=
  let cut := Path.cut text
  if cut.getLast? = some [] then cut.dropLast else cut

/-- The paths that a pattern matches. With a slash at its end it matches directories only. -/
def find (volume : Volume) (pattern : String) : Except Fault (List String) := do
  let _ ← ofText pattern
  let absolute := Path.isAbsolute pattern
  let text := if absolute then pattern.toList.drop 1 else pattern.toList
  let patterns ← (pieces text).mapM fun piece => ofText (String.ofList piece)
  let found := walk volume patterns (if absolute then "/" else ".")
  if pattern.toList.getLast? = some '/' then return found.filter volume.hasDirectory
  else return found

end Rehearsal.Glob
