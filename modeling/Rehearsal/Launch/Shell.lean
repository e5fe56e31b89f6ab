import Rehearsal.Launch.Process
import Rehearsal.Text.Natural
import Rehearsal.Text.Unicode
/-!
# Command lines of a shell

The part of a shell's language that stand-ins for applications are written in: commands one after
the other, words with quotes and variables, and output to files. A command that is not known fails,
as in a shell where it is not installed.
-/

set_option autoImplicit false

namespace Rehearsal.Shell

/-! ## Words -/

inductive Piece where
  | plain (text : String)
  /-- The value of a variable, or a text where it is not set. -/
  | variable (name fallback : String)
  /-- All arguments, each as a word. -/
  | arguments
  | argumentCount
  /-- The number of the shell's own process. -/
  | own
  deriving DecidableEq, Repr

/-- When a command is carried out, by how the one before it has ended. -/
inductive Condition where
  | always
  | afterSuccess
  | afterFailure
  deriving DecidableEq, Repr

/-- Whether a command is carried out after one with a status. -/
def Condition.holds (condition : Condition) (status : Nat) : Bool :=
  match condition with
  | .always => true
  | .afterSuccess => status = 0
  | .afterFailure => status ≠ 0

inductive Token where
  | word (pieces : List Piece)
  /-- The end of a command, and when the next one is carried out. -/
  | separator (next : Condition)
  /-- Output goes to a file, after what it holds or in place of it. -/
  | redirect (append : Bool)
  deriving DecidableEq, Repr

inductive Mode where
  | open
  | single
  | escape
  | dollar
  | name (read : List Char)
  | brace (read : List Char)
  deriving DecidableEq, Repr

/-- What has been read of a command line; lists are in reverse. -/
structure Reader where
  tokens : List Token
  /-- The pieces of the word being read, if there is one. -/
  word : Option (List Piece)
  mode : Mode
  quoted : Bool

namespace Reader

def add (reader : Reader) (piece : Piece) : Reader :=
  { reader with word := some (piece :: reader.word.getD []), mode := .open }

def endWord (reader : Reader) : Reader :=
  match reader.word with
  | some pieces => { reader with tokens := .word pieces.reverse :: reader.tokens, word := none }
  | none => reader

def token (reader : Reader) (token : Token) : Reader :=
  let ended := reader.endWord
  { ended with tokens := token :: ended.tokens }

/-- The sign for output to a file; twice, the output is appended. -/
def redirect (reader : Reader) : Reader :=
  match reader.word, reader.tokens with
  | none, .redirect false :: rest => { reader with tokens := .redirect true :: rest }
  | _, _ => reader.token (.redirect false)

/-- A sign between commands; twice, it sets a condition. -/
def separate (reader : Reader) (condition : Condition) : Reader :=
  match reader.word, reader.tokens with
  | none, .separator .always :: rest =>
    { reader with tokens := .separator condition :: rest }
  | _, _ => reader.token (.separator .always)

/-- A character outside of single quotes. -/
def plainly (reader : Reader) (c : Char) : Reader :=
  if c = '$' then { reader with mode := .dollar }
  else if c = '\\' then { reader with mode := .escape }
  else if c = '"' then
    { reader with quoted := !reader.quoted, word := some (reader.word.getD []) }
  else if reader.quoted then reader.add (.plain (String.singleton c))
  else if c = '\'' then { reader with mode := .single, word := some (reader.word.getD []) }
  else if c = ' ' || c = '\t' then reader.endWord
  else if c = ';' || c = '\n' then reader.token (.separator .always)
  else if c = '&' then reader.separate .afterSuccess
  else if c = '|' then reader.separate .afterFailure
  else if c = '>' then reader.redirect
  else reader.add (.plain (String.singleton c))

def isNameChar (c : Char) : Bool := c.isAlphanum || c = '_'

/-- A variable, with what follows a hyphen in place of its value where it is not set. -/
def variableOf (read : List Char) : Piece :=
  let name := read.takeWhile (· ≠ '-')
  .variable (String.ofList name) (String.ofList (read.drop (name.length + 1)))

def step (reader : Reader) (c : Char) : Reader :=
  match reader.mode with
  | .open => reader.plainly c
  | .single =>
    if c = '\'' then { reader with mode := .open } else
      { reader.add (.plain (String.singleton c)) with mode := .single }
  | .escape => reader.add (.plain (String.singleton c))
  | .dollar =>
    if c = '@' || c = '*' then reader.add .arguments
    else if c = '#' then reader.add .argumentCount
    else if c = '$' then reader.add .own
    else if c = '\x7b' then { reader with mode := .brace [] }
    else if isNameChar c then { reader with mode := .name [c] }
    else (reader.add (.plain "$")).plainly c
  | .name read =>
    if isNameChar c then { reader with mode := .name (c :: read) }
    else (reader.add (variableOf read.reverse)).plainly c
  | .brace read =>
    if c = '\x7d' then reader.add (variableOf read.reverse)
    else { reader with mode := .brace (c :: read) }

def finish (reader : Reader) : List Token :=
  let ended := match reader.mode with
    | .name read => reader.add (variableOf read.reverse)
    | .dollar => reader.add (.plain "$")
    | _ => reader
  ended.endWord.tokens.reverse

end Reader

def tokens (line : String) : List Token :=
  (line.toList.foldl Reader.step ⟨[], none, .open, false⟩).finish

/-! ## Commands -/

/-- A command with its words and the file for its output. -/
structure Simple where
  condition : Condition
  words : List (List Piece)
  output : Option (Bool × List Piece)
  deriving DecidableEq, Repr

def commandsFrom : Simple → Option Bool → List Token → List Simple
  | command, _, [] => [command]
  | command, _, .separator next :: rest => command :: commandsFrom ⟨next, [], none⟩ none rest
  | command, _, .redirect append :: rest => commandsFrom command (some append) rest
  | command, some append, .word pieces :: rest =>
    commandsFrom { command with output := some (append, pieces) } none rest
  | command, none, .word pieces :: rest =>
    commandsFrom { command with words := command.words ++ [pieces] } none rest

def commands (line : String) : List Simple :=
  (commandsFrom ⟨.always, [], none⟩ none (tokens line)).filter fun command =>
    !command.words.isEmpty || command.output.isSome

structure State where
  arguments : List String
  environment : List (String × String)
  directory : String
  volume : Volume
  /-- The time since the start. -/
  time : Nat
  writes : List Written
  /-- What has been printed, each piece with its time. -/
  printed : List (Nat × Bytes)
  status : Nat

/-- The number by which a shell knows its own process. -/
def ownNumber : String := "1"

/-- The value of a variable. Those with a number for a name are the arguments. -/
def valueOf? (state : State) (name : String) : Option String :=
  match Text.digitsValue? 0 name.toList with
  | some (index + 1) => state.arguments[index]?
  | _ => state.environment.lookup name

/-- Adds a text to the last of some words. -/
def glue (text : String) : List String → List String
  | [] => [text]
  | [last] => [last ++ text]
  | word :: rest => word :: glue text rest

/-- The words that pieces stand for. Only all arguments together may be another number of words
than one. -/
def expand (state : State) (pieces : List Piece) : List String :=
  if pieces = [.arguments] then state.arguments
  else
    pieces.foldl (fun words piece =>
      match piece with
      | .plain text => glue text words
      | .variable name fallback => glue ((valueOf? state name).getD fallback) words
      | .argumentCount => glue (toString state.arguments.length) words
      | .own => glue ownNumber words
      | .arguments =>
        match state.arguments with
        | [] => glue "" words
        | first :: others => glue first words ++ others) [""]

/-! ## What commands do -/

inductive Effect where
  | output (text : String) (status : Nat)
  | sleep (time : Nat)
  | exit (status : Nat)
  | kill (signal : Nat)

/-- The milliseconds of a number of seconds with an optional fraction. -/
def milliseconds? (text : String) : Option Nat :=
  let whole := text.toList.takeWhile (· ≠ '.')
  let fraction := (text.toList.drop (whole.length + 1)).take 3
  let padded := fraction ++ List.replicate (3 - fraction.length) '0'
  if whole.isEmpty && fraction.isEmpty then none
  else
    match Text.digitsValue? 0 whole, Text.digitsValue? 0 padded with
    | some seconds, some rest => some (seconds * 1000 + rest)
    | _, _ => none

def sleepTime? (arguments : List String) : Option Nat :=
  if arguments.isEmpty then none
  else arguments.foldl (fun total word =>
    match total, milliseconds? word with
    | some before, some more => some (before + more)
    | _, _ => none) (some 0)

/-- One pass over the format of a printing command: the text and the arguments that are left. -/
def printOnce : List Char → List String → List Char × List String
  | [], arguments => ([], arguments)
  | '%' :: '%' :: rest, arguments =>
    let (text, left) := printOnce rest arguments
    ('%' :: text, left)
  | '%' :: 's' :: rest, arguments =>
    let (text, left) := printOnce rest (arguments.drop 1)
    ((arguments.head?.getD "").toList ++ text, left)
  | '\\' :: 'n' :: rest, arguments =>
    let (text, left) := printOnce rest arguments
    ('\n' :: text, left)
  | '\\' :: 't' :: rest, arguments =>
    let (text, left) := printOnce rest arguments
    ('\t' :: text, left)
  | '\\' :: '\\' :: rest, arguments =>
    let (text, left) := printOnce rest arguments
    ('\\' :: text, left)
  | c :: rest, arguments =>
    let (text, left) := printOnce rest arguments
    (c :: text, left)

/-- Uses a format again until all arguments are used, in at most so many passes. -/
def printAll (format : List Char) : Nat → List String → List Char
  | 0, _ => []
  | passes + 1, arguments =>
    let (text, left) := printOnce format arguments
    if left.isEmpty || left.length = arguments.length then text
    else text ++ printAll format passes left

def signalNamed (text : List Char) : Option Nat :=
  match ExitStatus.signalNames.find? fun entry => entry.2 = "SIG" ++ String.ofList text with
  | some (number, _) => some number
  | none => if text.isEmpty then none else Text.digitsValue? 0 text

def signalOf (option : String) : Option Nat :=
  match option.toList with
  | '-' :: text => signalNamed text
  | _ => none

def unknownStatus : Nat := 127

def effect (state : State) (name : String) (arguments : List String) : Effect :=
  match name, arguments with
  | "true", _ => .output "" 0
  | ":", _ => .output "" 0
  | "false", _ => .output "" 1
  | "echo", words => .output (" ".intercalate words ++ "\n") 0
  | "printf", format :: words =>
    .output (String.ofList (printAll format.toList (words.length + 1) words)) 0
  | "pwd", _ => .output (state.directory ++ "\n") 0
  | "trap", _ => .output "" 0
  | "read", _ => .output "" 1
  | "cat", [] => .output "" 0
  | "cat", paths =>
    let texts := paths.map fun path =>
      (state.volume.readText (Path.join state.directory path)).toOption
    .output (String.join (texts.map (·.getD ""))) (if texts.all Option.isSome then 0 else 1)
  | "sleep", times =>
    match sleepTime? times with
    | some time => .sleep time
    | none => .output "" 1
  | "exit", [] => .exit state.status
  | "exit", code :: _ =>
    match Text.digitsValue? 0 code.toList with
    | some value => .exit (value % 256)
    | none => .exit 2
  | "kill", [target] => if target = ownNumber then .kill 15 else .output "" 1
  | "kill", ["-s", signal, target] =>
    match signalNamed signal.toList with
    | some signal => if target = ownNumber then .kill signal else .output "" 1
    | none => .output "" 1
  | "kill", [option, target] =>
    match signalOf option with
    | some signal => if target = ownNumber then .kill signal else .output "" 1
    | none => .output "" 1
  | _, _ => .output "" unknownStatus

def writeOutput (state : State) (text : String) (append : Bool) (pieces : List Piece) :
    Option State :=
  let path := Path.join state.directory (" ".intercalate (expand state pieces))
  let before := if append then (state.volume.readBytes path).toOption.getD [] else []
  let contents := before ++ Text.Utf8.encode text
  match state.volume.write path contents with
  | .ok volume =>
    some { state with
      volume := volume, writes := state.writes ++ [⟨state.time, path, contents⟩] }
  | .error _ => none

def State.print (state : State) (text : String) : State :=
  if text.isEmpty then state
  else { state with printed := state.printed ++ [(state.time, Text.Utf8.encode text)] }

/-- Carries out a command and says how the shell ends, if that ends it. -/
def perform (command : Simple) (name : String) (arguments : List String) (state : State) :
    State × Option ExitStatus :=
  match effect state name arguments with
  | .sleep time => ({ state with time := state.time + time, status := 0 }, none)
  | .exit status => (state, some (.code status))
  | .kill signal => (state, some (.signal signal))
  | .output text status =>
    match command.output with
    | none => ({ state.print text with status := status }, none)
    | some (append, pieces) =>
      match writeOutput state text append pieces with
      | some written => ({ written with status := status }, none)
      | none => ({ state with status := 2 }, none)

/-- Carries out the words of a command and says how the shell ends, if that ends it. A command that
takes the place of the shell is the last one. -/
def execute (command : Simple) (words : List String) (state : State) :
    State × Option ExitStatus :=
  match words with
  | [] => (state, none)
  | "exec" :: name :: arguments =>
    let (after, ending) := perform command name arguments state
    (after, some (ending.getD (.code after.status)))
  | name :: arguments => perform command name arguments state

def run : List Simple → State → State × ExitStatus
  | [], state => (state, .code state.status)
  | command :: rest, state =>
    if command.condition.holds state.status then
      match execute command (command.words.flatMap (expand state)) state with
      | (after, some ending) => (after, ending)
      | (after, none) => run rest after
    else run rest state

/-- A shell that begins to carry out commands. The first argument is its name. -/
def State.start (arguments : List String) (invocation : Invocation) (volume : Volume) : State :=
  ⟨arguments.drop 1, invocation.environment, invocation.directory, volume, 0, [], [], 0⟩

def State.ending (state : State) : Nat := max Process.shortest state.time

def process (commands : List Simple) (begun : State) : Process :=
  let (state, status) := run commands begun
  ⟨state.writes, some (state.ending, status)⟩

/-! ## Reading lines -/

inductive Stop where
  | ended (status : ExitStatus)
  /-- A line is read into variables before the other commands. -/
  | reading (names : List String) (rest : List Simple)

/-- The variables that a command reads a line into, if it is one that reads. -/
def readsInto? : List String → Option (List String)
  | "read" :: words => some (words.filter fun word => word.toList.head? ≠ some '-')
  | _ => none

/-- Carries out commands in order up to one that reads a line. -/
def listen : List Simple → State → State × Stop
  | [], state => (state, .ended (.code state.status))
  | command :: rest, state =>
    if command.condition.holds state.status then
      let words := command.words.flatMap (expand state)
      match readsInto? words with
      | some names => (state, .reading names rest)
      | none =>
        match execute command words state with
        | (after, some ending) => (after, .ended ending)
        | (after, none) => listen rest after
    else listen rest state

/-- The spaces between the words of a line. -/
def isGap (c : Char) : Bool := c = ' ' || c = '\t'

/-- Gives each variable a word of a line, and the last one all that is left. -/
def assign : List String → List Char → List (String × String)
  | [], _ => []
  | [name], line =>
    let kept := (line.dropWhile isGap).reverse.dropWhile isGap
    [(name, String.ofList kept.reverse)]
  | name :: more, line =>
    let begun := line.dropWhile isGap
    (name, String.ofList (begun.takeWhile fun c => !isGap c)) ::
      assign more (begun.dropWhile fun c => !isGap c)

/-- The times of pieces, each from the one before. -/
def delays : Nat → List (Nat × Bytes) → List (Nat × Bytes)
  | _, [] => []
  | before, (time, bytes) :: rest => (time - before, bytes) :: delays time rest

end Rehearsal.Shell
