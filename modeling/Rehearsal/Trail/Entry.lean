import Rehearsal.Trail.Action
import Rehearsal.Trail.Identifier
import Rehearsal.Trail.Instant
/-!
# The trail of a run

Every recorded action becomes an entry of the trail, in order. A trail is written as one line of
JSON per entry.
-/

set_option autoImplicit false

namespace Rehearsal

open Json (Value Doc Decoded Decoder Source Shape Row)

structure Entry where
  identifier : Identifier
  time : Instant
  action : Action
  outcome : Outcome
  /-- How long the action took, in milliseconds. -/
  duration : Option Nat
  deriving DecidableEq, Repr

abbrev Trail := List Entry

namespace Entry

def isFailure (entry : Entry) : Bool := entry.outcome.isFailure

def toJson (entry : Entry) : Value :=
  .object <|
    [("id", .string entry.identifier.text), ("timestamp", .string entry.time.text),
      ("action", entry.action.toJson), ("result", entry.outcome.toJson)] ++
    (entry.duration.map fun duration => ("duration_ms", Value.number duration)).toList

def identifierDecoder : Decoder Identifier := fun source doc => do
  let text ← Json.textOf "a formatted UUID string" source doc
  match Identifier.ofText text with
  | .ok identifier => return identifier
  | .error fault => throw (.malformed s!"UUID parsing failed: {fault.message}")

def timeDecoder : Decoder Instant := fun source doc => do
  let text ← Json.textOf "an RFC 3339 formatted date and time string" source doc
  match Instant.ofText text with
  | .ok time => return time
  | .error fault => throw (.malformed fault.message)

structure Parts where
  identifier : Option Identifier
  time : Option Instant
  action : Option Action
  outcome : Option Outcome
  duration : Option (Option Nat)

def shape : Shape Parts Entry where
  title := "struct ActionLog"
  start := ⟨none, none, none, none, none⟩
  member := fun source parts name value =>
    match name with
    | "id" => do
      let found ← Json.once name parts.identifier identifierDecoder source value
      return { parts with identifier := found }
    | "timestamp" => do
      let found ← Json.once name parts.time timeDecoder source value
      return { parts with time := found }
    | "action" => do
      let found ← Json.once name parts.action Action.decoder source value
      return { parts with action := found }
    | "result" => do
      let found ← Json.once name parts.outcome Outcome.decoder source value
      return { parts with outcome := found }
    | "duration_ms" => do
      let found ← Json.once name parts.duration (Json.optional Json.word64) source value
      return { parts with duration := found }
    | _ => do
      source.skip value
      return parts
  finish := fun parts => do
    let identifier ← Json.required "id" parts.identifier
    let time ← Json.required "timestamp" parts.time
    let action ← Json.required "action" parts.action
    let outcome ← Json.required "result" parts.outcome
    return ⟨identifier, time, action, outcome, parts.duration.join⟩
  row := fun row => do
    let expected := "struct ActionLog with 5 elements"
    let (identifier, row) ← row.next expected identifierDecoder
    let (time, row) ← row.next expected timeDecoder
    let (action, row) ← row.next expected Action.decoder
    let (outcome, row) ← row.next expected Outcome.decoder
    let (duration, row) ← row.next expected (Json.optional Json.word64)
    return (⟨identifier, time, action, outcome, duration⟩, row)

def decoder : Decoder Entry := shape.decode

end Entry

namespace Trail

def lastFailure? (trail : Trail) : Option Entry :=
  trail.reverse.find? Entry.isFailure

def lines (trail : Trail) : String :=
  String.join (trail.map fun entry => entry.toJson.compact ++ "\n")

end Trail

end Rehearsal
