import TxRetry.Driver
import TxRetry.Postgres.Tx

/-!
# Programs on an open transaction

What a caller's code can do with the transaction that it is given, as data: a program is a sequence
of operations on the handle, each chosen by the replies to the earlier ones.  A statement about all
programs is a statement about all bodies and hooks that keep to the handle's public operations.

## Main definitions

* `Operation` — one thing that code can do with its handle
* `Operation.Reply` — what it learns by that
* `Operation.perform` — the operation on a transaction
* `Program` — operations and an ending
* `Program.run` — the action that a program describes

## Design notes

**Errors are replies.**  An operation that fails tells the program so and lets it go on; a program
that wants to end with the error says so by its ending.

**Time passes in programs** only by the operations that take time and by `wait`.
-/

namespace TxRetry.Postgres

/-- One **thing that code can do with its handle.**  Rows can be decoded as values of any type. -/
inductive Operation (μ : Type) : Type 1 where
  | execute (ctx : Context) (sql : String) (args : List Arg)
  | fetchAll (ctx : Context) (sql : String) (args : List Arg)
  | fetchOne (ctx : Context) (sql : String) (args : List Arg)
  | fetchOptional (ctx : Context) (sql : String) (args : List Arg)
  | fetchAllAs {α : Type} (decode : Row → Except Error α) (ctx : Context) (sql : String)
    (args : List Arg)
  | fetchOneAs {α : Type} (decode : Row → Except Error α) (ctx : Context) (sql : String)
    (args : List Arg)
  | fetchOptionalAs {α : Type} (decode : Row → Except Error α) (ctx : Context) (sql : String)
    (args : List Arg)
  | commit
  | rollback
  | isDone
  | config
  | now
  | wait (d : Duration)
  | memory
  | remember (memory : μ)

namespace Operation

variable {δ μ : Type}

/-- What an operation tells the program. -/
def Reply : Operation μ → Type
  | .execute .. => Except Error Nat
  | .fetchAll .. => Except Error (List Row)
  | .fetchOne .. => Except Error Row
  | .fetchOptional .. => Except Error (Option Row)
  | .fetchAllAs (α := α) .. => Except Error (List α)
  | .fetchOneAs (α := α) .. => Except Error α
  | .fetchOptionalAs (α := α) .. => Except Error (Option α)
  | .commit => Except Error Unit
  | .rollback => Except Error Unit
  | .isDone => Bool
  | .config => StatementConfig
  | .now => Instant
  | .wait _ => Unit
  | .memory => μ
  | .remember _ => Unit

/-- An **operation on a transaction.** -/
def perform (db : Database δ) : (o : Operation μ) → Step (World δ μ × Tx) Event o.Reply
  | .execute ctx sql args => (Tx.execute db ctx sql args).run
  | .fetchAll ctx sql args => (Tx.fetchAll db ctx sql args).run
  | .fetchOne ctx sql args => (Tx.fetchOne db ctx sql args).run
  | .fetchOptional ctx sql args => (Tx.fetchOptional db ctx sql args).run
  | .fetchAllAs decode ctx sql args => (Tx.fetchAllAs db decode ctx sql args).run
  | .fetchOneAs decode ctx sql args => (Tx.fetchOneAs db decode ctx sql args).run
  | .fetchOptionalAs decode ctx sql args => (Tx.fetchOptionalAs db decode ctx sql args).run
  | .commit => (Tx.commit db).run
  | .rollback => (Tx.rollback db).run
  | .isDone => fun s => ⟨s.2.isDone, s, []⟩
  | .config => fun s => ⟨s.2.config, s, []⟩
  | .now => fun s => ⟨s.1.clock, s, []⟩
  | .wait d => fun (w, tx) => ⟨(), ({ w with clock := w.clock.after d }, tx.settled), []⟩
  | .memory => fun s => ⟨s.1.memory, s, []⟩
  | .remember kept => fun (w, tx) => ⟨(), ({ w with memory := kept }, tx), []⟩

end Operation

/-- A **program on an open transaction.** -/
inductive Program (μ α : Type) : Type 1 where
  | finish (ending : Ending α)
  | step (operation : Operation μ) (next : operation.Reply → Program μ α)

namespace Program

variable {δ μ α β : Type}

/-- One program after another; the second one runs only if the first one returned. -/
def andThen : Program μ α → (α → Program μ β) → Program μ β
  | .finish (.returned value), f => f value
  | .finish (.failed error), _ => .finish (.failed error)
  | .finish (.panicked payload), _ => .finish (.panicked payload)
  | .step operation next, f => .step operation fun reply => (next reply).andThen f

instance : Monad (Program μ) where
  pure value := .finish (.returned value)
  bind := andThen

/-- A single operation. -/
def ask (operation : Operation μ) : Program μ operation.Reply :=
  .step operation fun reply => .finish (.returned reply)

def fail (error : Error) : Program μ α := .finish (.failed error)

def panic (payload : Payload) : Program μ α := .finish (.panicked payload)

/-- The **action that a program describes.** -/
def run (db : Database δ) : Program μ α → Action (World δ μ × Tx) Event α
  | .finish ending => Action.ended ending
  | .step operation next =>
    Step.andThen (operation.perform db) fun reply => (next reply).run db

/-- Work that runs a program. -/
def toWork (db : Database δ) (body : Context → Program μ α) : Work (World δ μ) Event Tx α :=
  Work.ofAction fun ctx => (body ctx).run db

end Program

end TxRetry.Postgres
