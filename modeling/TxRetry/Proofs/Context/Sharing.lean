import Mathlib.Logic.Function.Basic
import TxRetry.Context

/-!
# Shared settings

A context is copied whenever somebody keeps it and works on, and all that could be costly about a
copy are the settings.  So copies share them: a context only says in which cell its settings are.  A
cell is copied before it is written, unless nobody else holds it, and then it is written in place.

This module says so in detail and shows that nobody can tell: whoever holds a context reads what was
there when it was made, and the operations do to a context in cells what they do to a context of its
own.

## Main definitions

* `Context.evolve` — a context after a sequence of operations, each at its own instant
* `Context.Cells`, `Context.Held` — cells with settings, and a context with its settings in a cell
* `Context.Shelf` — the contexts that are held at one time
* `Context.Shelf.step`, `Context.Shelf.run` — operations on a context in cells
* `Context.Shelf.Isolated` — what those who hold a context can rely on

## Main statements

* `Context.Shelf.run_reading` — operations in cells are the operations on contexts
* `Context.Shelf.read_of_kept` — a context that was kept reads in the end as it did when it was made
* `Context.Shelf.isolated` — so nobody notices that cells are shared
-/

namespace TxRetry.Context

/-- A context after **a sequence of operations**, each at its own instant. -/
def evolve (ctx : Context) (steps : List (Instant × Change)) : Context :=
  steps.foldl (fun ctx step => ctx.apply step.1 step.2) ctx

theorem evolve_append (ctx : Context) (before after : List (Instant × Change)) :
    ctx.evolve (before ++ after) = (ctx.evolve before).evolve after := List.foldl_append

/-- Operations that are all made at one instant. -/
theorem applyAll_eq_evolve (now : Instant) (ctx : Context) (changes : List Change) :
    ctx.applyAll now changes = ctx.evolve (changes.map fun change => (now, change)) := by
  rw [evolve, List.foldl_map]
  rfl

/-! ### Contexts in cells -/

/-- **Cells with settings.**  Those from `fresh` on were never used. -/
structure Cells where
  content : Nat → String → Option Json
  fresh : Nat

/-- A context that is **held with its settings in a cell**; the settings of `frame` are not looked
at. -/
structure Held where
  frame : Context
  cell : Nat

/-- What the holder of a context reads. -/
def Held.read (held : Held) (cells : Cells) : Context :=
  { held.frame with setting := cells.content held.cell }

/-- The **contexts that are held at one time**: the one that is being worked on, and others that
were kept. -/
structure Shelf where
  cells : Cells
  current : Held
  kept : List Held

namespace Shelf

/-- What is read of the context that is being worked on. -/
def reading (shelf : Shelf) : Context := shelf.current.read shelf.cells

/-- **Keep the context**, if it is to be kept, and go on with a copy of it in the same cell. -/
def keep (shelf : Shelf) (keeps : Bool) : Shelf :=
  if keeps then { shelf with kept := shelf.current :: shelf.kept } else shelf

/-- How many hold a cell. -/
def holders (shelf : Shelf) (cell : Nat) : Nat :=
  ((shelf.current :: shelf.kept).map Held.cell).count cell

/-- **Copy the cell** of the context that is being worked on, unless nobody else holds it. -/
def unshare (shelf : Shelf) : Shelf :=
  if shelf.holders shelf.current.cell = 1 then shelf
  else
    { shelf with
      cells := ⟨Function.update shelf.cells.content shelf.cells.fresh
        (shelf.cells.content shelf.current.cell), shelf.cells.fresh + 1⟩
      current := { shelf.current with cell := shelf.cells.fresh } }

/-- Write a setting **in place.** -/
def write (shelf : Shelf) (key : String) (value : Json) : Shelf :=
  { shelf with
    cells := { shelf.cells with
      content := Function.update shelf.cells.content shelf.current.cell
        (shelf.reading.withSetting key value).setting } }

/-- One operation at the instant `now`. -/
def step (shelf : Shelf) (now : Instant) : Change → Shelf
  | .setting key value => shelf.unshare.write key value
  | change =>
    { shelf with current := { shelf.current with frame := shelf.current.frame.apply now change } }

/-- Operations in order; before each one the context may be kept. -/
def run (shelf : Shelf) : List (Bool × Instant × Change) → Shelf
  | [] => shelf
  | (keeps, now, change) :: later => ((shelf.keep keeps).step now change).run later

/-- All cells that are held **have been used.** -/
def Allocated (shelf : Shelf) : Prop :=
  ∀ held ∈ shelf.current :: shelf.kept, held.cell < shelf.cells.fresh

/-! ### Nobody can tell -/

section Step

variable {shelf : Shelf} {held : Held}

theorem unshare_kept : shelf.unshare.kept = shelf.kept := by
  unfold unshare
  split <;> rfl

theorem unshare_reading : shelf.unshare.reading = shelf.reading := by
  unfold unshare
  split
  · rfl
  · simp [reading, Held.read]

theorem allocated_unshare (allocated : shelf.Allocated) : shelf.unshare.Allocated := by
  unfold unshare
  split
  · exact allocated
  · obtain ⟨-, kept⟩ := List.forall_mem_cons.mp allocated
    exact List.forall_mem_cons.mpr
      ⟨Nat.lt_succ_self _, fun held among => Nat.lt_succ_of_lt (kept held among)⟩

/-- Nobody else holds the cell of an unshared context. -/
theorem cell_ne_of_unshared (allocated : shelf.Allocated) (among : held ∈ shelf.kept) :
    held.cell ≠ shelf.unshare.current.cell := by
  unfold unshare
  split
  · rename_i alone
    rw [holders, List.map_cons, List.count_cons_self, Nat.add_eq_right, List.count_eq_zero] at alone
    exact fun same => alone (same ▸ List.mem_map_of_mem among)
  · exact Nat.ne_of_lt (allocated held (List.mem_cons_of_mem _ among))

theorem read_unshare (allocated : shelf.Allocated) (among : held ∈ shelf.kept) :
    held.read shelf.unshare.cells = held.read shelf.cells := by
  unfold unshare
  split
  · rfl
  · have used : held.cell ≠ shelf.cells.fresh :=
      Nat.ne_of_lt (allocated held (List.mem_cons_of_mem _ among))
    simp [Held.read, Function.update_of_ne used]

theorem write_reading (key : String) (value : Json) :
    (shelf.write key value).reading = shelf.reading.withSetting key value := by
  simp [write, reading, Held.read, withSetting]

theorem read_write (key : String) (value : Json) (elsewhere : held.cell ≠ shelf.current.cell) :
    held.read (shelf.write key value).cells = held.read shelf.cells := by
  simp [write, Held.read, Function.update_of_ne elsewhere]

theorem keep_reading (keeps : Bool) : (shelf.keep keeps).reading = shelf.reading := by
  cases keeps <;> rfl

theorem keep_cells (keeps : Bool) : (shelf.keep keeps).cells = shelf.cells := by
  cases keeps <;> rfl

theorem mem_keep (among : held ∈ shelf.kept) (keeps : Bool) : held ∈ (shelf.keep keeps).kept := by
  cases keeps with
  | false => exact among
  | true => exact List.mem_cons_of_mem _ among

theorem allocated_keep (allocated : shelf.Allocated) (keeps : Bool) :
    (shelf.keep keeps).Allocated := by
  cases keeps with
  | false => exact allocated
  | true => exact List.forall_mem_cons.mpr ⟨allocated _ List.mem_cons_self, allocated⟩

theorem step_kept (now : Instant) (change : Change) :
    (shelf.step now change).kept = shelf.kept := by
  cases change with
  | setting key value => exact unshare_kept
  | _ => rfl

/-- An operation in cells is **the operation on contexts.** -/
theorem step_reading (now : Instant) (change : Change) :
    (shelf.step now change).reading = shelf.reading.apply now change := by
  cases change with
  | setting key value =>
      show (shelf.unshare.write key value).reading = shelf.reading.withSetting key value
      rw [write_reading, unshare_reading]
  | timeout d =>
      simp only [step, reading, Held.read, apply, withTimeout]
      split <;> rfl
  | _ => rfl

theorem allocated_step (allocated : shelf.Allocated) (now : Instant) (change : Change) :
    (shelf.step now change).Allocated := by
  cases change with
  | setting key value => exact allocated_unshare allocated
  | _ => exact List.forall_mem_cons.mpr (List.forall_mem_cons.mp allocated)

/-- What is kept **reads as before.** -/
theorem read_step (allocated : shelf.Allocated) (among : held ∈ shelf.kept) (now : Instant)
    (change : Change) : held.read (shelf.step now change).cells = held.read shelf.cells := by
  cases change with
  | setting key value =>
      show held.read (shelf.unshare.write key value).cells = _
      rw [read_write key value (cell_ne_of_unshared allocated among), read_unshare allocated among]
  | _ => rfl

end Step

section Run

variable {shelf : Shelf} {held : Held}

theorem run_append (before after : List (Bool × Instant × Change)) :
    shelf.run (before ++ after) = (shelf.run before).run after := by
  induction before generalizing shelf with
  | nil => rfl
  | cons first before ih => exact ih

/-- **Operations in cells are the operations on contexts**, however the cells are shared. -/
theorem run_reading (steps : List (Bool × Instant × Change)) :
    (shelf.run steps).reading = shelf.reading.evolve (steps.map Prod.snd) := by
  induction steps generalizing shelf with
  | nil => rfl
  | cons first later ih =>
      obtain ⟨keeps, now, change⟩ := first
      rw [run, ih, step_reading, keep_reading]
      rfl

theorem allocated_run (allocated : shelf.Allocated) (steps : List (Bool × Instant × Change)) :
    (shelf.run steps).Allocated := by
  induction steps generalizing shelf with
  | nil => exact allocated
  | cons first later ih => exact ih (allocated_step (allocated_keep allocated _) _ _)

/-- What is kept reads as before, **after any operations.** -/
theorem read_run (allocated : shelf.Allocated) (among : held ∈ shelf.kept)
    (steps : List (Bool × Instant × Change)) :
    held ∈ (shelf.run steps).kept ∧ held.read (shelf.run steps).cells = held.read shelf.cells := by
  induction steps generalizing shelf with
  | nil => exact ⟨among, rfl⟩
  | cons first later ih =>
      obtain ⟨keeps, now, change⟩ := first
      have ready := allocated_keep allocated keeps
      have stays := mem_keep among keeps
      obtain ⟨kept, reads⟩ := ih (allocated_step ready now change)
        (by rwa [step_kept])
      exact ⟨kept, by rw [run, reads, read_step ready stays, keep_cells]⟩

/-- **A context that was kept reads in the end as it did when it was made**, whatever operations
followed on copies of it. -/
theorem read_of_kept (allocated : shelf.Allocated) (before after : List (Bool × Instant × Change))
    (now : Instant) (change : Change) :
    let made := shelf.run before
    let last := shelf.run (before ++ (true, now, change) :: after)
    made.current ∈ last.kept ∧
      made.current.read last.cells = shelf.reading.evolve (before.map Prod.snd) := by
  have ready := allocated_keep (allocated_run allocated before) true
  have kept : (shelf.run before).current ∈ ((shelf.run before).keep true).kept := List.mem_cons_self
  obtain ⟨stays, reads⟩ := read_run (allocated_step ready now change)
    (by rwa [step_kept]) after
  rw [read_step ready kept] at reads
  rw [run_append]
  exact ⟨stays, reads.trans (run_reading before)⟩

/-- What those who hold a context **can rely on** while operations are made on the one that is being
worked on. -/
structure Isolated (shelf : Shelf) (steps : List (Bool × Instant × Change)) : Prop where
  result : (shelf.run steps).reading = shelf.reading.evolve (steps.map Prod.snd)
  /-- A context that is kept on the way reads in the end as it did when it was made. -/
  made : ∀ before now change after, steps = before ++ (true, now, change) :: after →
    (shelf.run before).current ∈ (shelf.run steps).kept ∧
      (shelf.run before).current.read (shelf.run steps).cells =
        shelf.reading.evolve (before.map Prod.snd)
  /-- And so does one that was held before. -/
  held : ∀ held ∈ shelf.kept,
    held ∈ (shelf.run steps).kept ∧ held.read (shelf.run steps).cells = held.read shelf.cells

theorem isolated (allocated : shelf.Allocated) (steps : List (Bool × Instant × Change)) :
    shelf.Isolated steps where
  result := run_reading steps
  made := by
    rintro before now change after rfl
    exact read_of_kept allocated before after now change
  held _ among := read_run allocated among steps

end Run

end Shelf

end TxRetry.Context
