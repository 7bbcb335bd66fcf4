import TxRetry.Postgres.Program
import TxRetry.Transact

/-!
# Scripted bodies

Bodies and hooks that are written down as lists of steps, with what they observe noted down as they
run.

## Main definitions

* `BodyStep` — one step, and how it is taken
* `Observation`, `Note` — what a step shows, and what is noted of a run
* `stepProgram` — a step as a program
* `bodyProgram`, `hookProgram` — bodies and hooks as programs
* `attemptBody` — the body of an attempt among several scripted ones

## Design notes

**Notes are the memory of the scripted code**, so a list of notes is what the world remembers
while scripted bodies run.
-/

namespace TxRetry.Rehearsal

open TxRetry.Postgres

/-- How many rows of a statement are wanted. -/
inductive Extent where
  | all
  | one
  | optional
  deriving DecidableEq, Repr

/-- What a scripted body can do in one step. -/
inductive Deed where
  | execute (sql : String) (args : List Arg)
  | fetch (extent : Extent) (sql : String) (args : List Arg)
  | fetchAs (shape : RowShape) (extent : Extent) (sql : String) (args : List Arg)
  | commit
  | rollback
  | isDone
  | config
  | attempt
  | remaining
  | wait (d : Duration)
  /-- A transactional call from inside. -/
  | nested
  | fail (error : Error)
  | panic (payload : Payload)
  /-- Return a value, which ends the body. -/
  | giveBack (value : Json)

/-- A **step of a scripted body.** -/
structure BodyStep where
  deed : Deed
  /-- Run the statement under a context without the cost check. -/
  unchecked : Bool := false
  /-- Go on when the step fails. -/
  tolerant : Bool := false

/-- What a step shows. -/
inductive Observation where
  | nothing
  | done
  | affected (n : Nat)
  | rows (rows : List Row)
  | row (row : Row)
  | optionalRow (row? : Option Row)
  | tuples (tuples : List Tuple)
  | tuple (tuple : Tuple)
  | optionalTuple (tuple? : Option Tuple)
  | flag (b : Bool)
  | config (config : StatementConfig)
  | attempt (number? : Option Nat)
  | remaining (left? : Option Duration)

/-- What is noted of a run of scripted code. -/
inductive Note where
  /-- The body of an attempt started. -/
  | attempt (number : Nat)
  /-- The hook before the commit started. -/
  | preCommit
  /-- A step showed something or failed. -/
  | outcome (result : Except Error Observation)

/-- A program that notes things down. -/
abbrev NotingProgram (α : Type) := Program (List Note) α

/-- A note at the end of the notes. -/
def noteDown (note : Note) : NotingProgram Unit := do
  let notes : List Note ← Program.ask .memory
  Program.ask (.remember (notes ++ [note]))

/-- A fetch and what it shows. -/
def fetchProgram (ctx : Context) (extent : Extent) (sql : String) (args : List Arg) :
    NotingProgram (Except Error Observation) :=
  match extent with
  | .all => do
    let reply ← Program.ask (.fetchAll ctx sql args)
    return Except.map Observation.rows reply
  | .one => do
    let reply ← Program.ask (.fetchOne ctx sql args)
    return Except.map Observation.row reply
  | .optional => do
    let reply ← Program.ask (.fetchOptional ctx sql args)
    return Except.map Observation.optionalRow reply

/-- A fetch of tuples and what it shows. -/
def fetchAsProgram (ctx : Context) (shape : RowShape) (extent : Extent) (sql : String)
    (args : List Arg) : NotingProgram (Except Error Observation) :=
  match extent with
  | .all => do
    let reply ← Program.ask (.fetchAllAs (Row.decode shape) ctx sql args)
    return Except.map Observation.tuples reply
  | .one => do
    let reply ← Program.ask (.fetchOneAs (Row.decode shape) ctx sql args)
    return Except.map Observation.tuple reply
  | .optional => do
    let reply ← Program.ask (.fetchOptionalAs (Row.decode shape) ctx sql args)
    return Except.map Observation.optionalTuple reply

/-- A **step as a program** under the context of its body.  `giveBack` shows nothing here; it ends
the body. -/
def stepProgram (body : Context) (step : BodyStep) :
    NotingProgram (Except Error Observation) :=
  let ctx := if step.unchecked then body.withoutCostCheck else body
  match step.deed with
  | .execute sql args => do
    let reply ← Program.ask (.execute ctx sql args)
    return Except.map Observation.affected reply
  | .fetch extent sql args => fetchProgram ctx extent sql args
  | .fetchAs shape extent sql args => fetchAsProgram ctx shape extent sql args
  | .commit => do
    let reply ← Program.ask .commit
    return Except.map (fun () => Observation.done) reply
  | .rollback => do
    let reply ← Program.ask .rollback
    return Except.map (fun () => Observation.done) reply
  | .isDone => do
    let done ← Program.ask .isDone
    return .ok (.flag done)
  | .config => do
    let config ← Program.ask .config
    return .ok (.config config)
  | .attempt => return .ok (.attempt ctx.attempt)
  | .remaining => do
    let now ← Program.ask .now
    return .ok (.remaining (ctx.remaining now))
  | .wait d => do
    Program.ask (.wait d)
    return .ok .done
  | .nested => return (admission body).map fun () => Observation.nothing
  | .fail error => return .error error
  | .panic payload => Program.panic payload
  | .giveBack _ => return .ok .nothing

/-- Steps one after the other, each noted down.  A step that fails ends the body with its error
unless it is tolerant; a body that runs out of steps has no value. -/
def stepsProgram (body : Context) : List BodyStep → NotingProgram Json
  | [] => return .null
  | step :: rest =>
    match step.deed with
    | .giveBack value => return value
    | _ => do
      let result ← stepProgram body step
      noteDown (.outcome result)
      match result with
      | .ok _ => stepsProgram body rest
      | .error error =>
        if step.tolerant then stepsProgram body rest else Program.fail error

/-- The **body of an attempt.** -/
def bodyProgram (steps : List BodyStep) (ctx : Context) : NotingProgram Json := do
  noteDown (.attempt (ctx.attempt.getD 0))
  stepsProgram ctx steps

/-- The **hook before a commit.** -/
def hookProgram (steps : List BodyStep) (ctx : Context) : NotingProgram Unit := do
  noteDown .preCommit
  discard (stepsProgram ctx steps)

/-- The script of an attempt among several: the one with its number, or else the last. -/
def scriptFor {α : Type} (empty : α) (scripts : List α) (number : Nat) : α :=
  (scripts[number - 1]?).getD (scripts.getLast?.getD empty)

/-- The body of each attempt among several scripted ones. -/
def attemptBody (bodies : List (List BodyStep)) (ctx : Context) : NotingProgram Json :=
  bodyProgram (scriptFor [] bodies (ctx.attempt.getD 1)) ctx

end TxRetry.Rehearsal
