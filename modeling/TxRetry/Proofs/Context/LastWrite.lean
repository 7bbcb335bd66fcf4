import Mathlib.Data.List.Induction
import TxRetry.Proofs.Context.Sharing

/-!
# The last operation decides

What is read of a context after a sequence of operations.  The operations do not interfere: each
thing that can be read of a context is decided by the last operation that addresses it, and
operations that address different things can change places.

There is one exception.  A timeout beyond what a clock can hold is meant to leave a context without
a deadline; it leaves the context as it is, and so an earlier deadline stays in force.

## Main definitions

* `Context.Observable`, `Context.observe` — what can be read of a context
* `Context.Change.target`, `Context.Change.write?` — what an operation addresses, and what it is
  meant to write there
* `Context.lastWrite?` — the last write to an observable in a sequence of operations
* `Context.LastWriteWins` — what is expected of a sequence of operations

## Main statements

* `Context.observe_apply` — what an operation does write
* `Context.observe_evolve` — what is read in the end
* `Context.apply_comm` — operations that address different observables can change places
* `Context.lastWriteWins_iff` — when the last operation decides
* `Context.not_lastWriteWins_of_tooLong` — an earlier deadline that stays
-/

namespace TxRetry.Context

/-! ### What can be read of a context -/

/-- A thing that **can be read of a context**, beside its attempt. -/
inductive Observable where
  | deadline
  | setting (key : String)
  | isolation
  | accessMode
  | costCheckDisabled
  deriving DecidableEq, Repr

/-- The values of an observable. -/
abbrev Observable.Value : Observable → Type
  | .deadline => Option Instant
  | .setting _ => Option Json
  | .isolation => Option IsolationLevel
  | .accessMode => Option AccessMode
  | .costCheckDisabled => Bool

/-- What is read of a context. -/
def observe (ctx : Context) : (o : Observable) → o.Value
  | .deadline => ctx.deadline
  | .setting key => ctx.setting key
  | .isolation => ctx.isolation
  | .accessMode => ctx.accessMode
  | .costCheckDisabled => ctx.costCheckDisabled

/-- Contexts of one attempt of which the same is read **are the same.** -/
theorem eq_of_observe {ctx other : Context} (attempt : ctx.attempt = other.attempt)
    (reads : ∀ o, ctx.observe o = other.observe o) : ctx = other := by
  obtain ⟨deadline, _, cost, isolation, mode, setting⟩ := ctx
  obtain ⟨deadline', _, cost', isolation', mode', setting'⟩ := other
  obtain rfl : deadline = deadline' := reads .deadline
  obtain rfl : cost = cost' := reads .costCheckDisabled
  obtain rfl : isolation = isolation' := reads .isolation
  obtain rfl : mode = mode' := reads .accessMode
  obtain rfl : setting = setting' := funext fun key => reads (.setting key)
  cases attempt
  rfl

/-! ### What operations write -/

namespace Change

variable {now : Instant} {change : Change} {o : Observable}

/-- What an operation **addresses.** -/
def target : Change → Observable
  | .deadline _ => .deadline
  | .timeout _ => .deadline
  | .setting key _ => .setting key
  | .isolation _ => .isolation
  | .accessMode _ => .accessMode
  | .noCostCheck => .costCheckDisabled

/-- What an operation at the instant `now` is **meant to write** to an observable, if it addresses
it.  A timeout that cannot be represented is meant to leave no deadline. -/
def write? (now : Instant) : Change → (o : Observable) → Option o.Value
  | .deadline t, .deadline => some (some t)
  | .timeout d, .deadline => some (now.later? d)
  | .setting key value, .setting own => if own = key then some (some value) else none
  | .isolation level, .isolation => some (some level)
  | .accessMode mode, .accessMode => some (some mode)
  | .noCostCheck, .costCheckDisabled => some true
  | _, _ => none

theorem write?_eq_none_iff : change.write? now o = none ↔ change.target ≠ o := by
  cases change <;> cases o <;> simp [write?, target, eq_comm]

/-- A timeout that **cannot be represented** as a deadline. -/
def Unrepresentable (now : Instant) (change : Change) : Prop :=
  ∃ d, change = .timeout d ∧ now.later? d = none

/-- What an operation **does write**: nothing, if it is a timeout that cannot be represented. -/
def effect? (now : Instant) : Change → (o : Observable) → Option o.Value
  | .timeout d, .deadline => (now.later? d).map some
  | change, o => change.write? now o

theorem effect?_of_target_ne (elsewhere : change.target ≠ o) : change.effect? now o = none := by
  have unwritten : change.write? now o = none := write?_eq_none_iff.mpr elsewhere
  cases change with
  | timeout d => cases o <;> first | rfl | exact absurd rfl elsewhere
  | _ => exact unwritten

theorem effect?_eq_write? (representable : ¬ change.Unrepresentable now) :
    change.effect? now o = change.write? now o := by
  cases change with
  | timeout d =>
    cases o with
    | deadline =>
      cases later : now.later? d with
      | none => exact absurd ⟨d, rfl, later⟩ representable
      | some t => simp [effect?, write?, later]
    | _ => rfl
  | _ => rfl

theorem effect?_of_unrepresentable (unrepresentable : change.Unrepresentable now) :
    change.effect? now o = none := by
  obtain ⟨d, rfl, later⟩ := unrepresentable
  cases o <;> simp [effect?, write?, later]

end Change

section Apply

variable (now : Instant) (ctx : Context) (change : Change)

theorem observe_withTimeout (d : Duration) (o : Observable) :
    (ctx.withTimeout now d).observe o =
      ((Change.timeout d).effect? now o).getD (ctx.observe o) := by
  unfold withTimeout
  cases later : now.later? d <;> cases o <;>
    simp [later, observe, withDeadline, Change.effect?, Change.write?]

theorem observe_withSetting (key : String) (value : Json) (o : Observable) :
    (ctx.withSetting key value).observe o =
      ((Change.setting key value).effect? now o).getD (ctx.observe o) := by
  cases o with
  | setting own =>
    show (if own = key then some value else ctx.setting own) =
      (if own = key then some (some value) else none).getD (ctx.setting own)
    split <;> rfl
  | _ => rfl

/-- What is read **after an operation**: what it wrote, or what was there. -/
theorem observe_apply (o : Observable) :
    (ctx.apply now change).observe o = (change.effect? now o).getD (ctx.observe o) := by
  cases change with
  | timeout d => exact observe_withTimeout now ctx d o
  | setting key value => exact observe_withSetting now ctx key value o
  | _ => cases o <;> rfl

/-- Operations that address different observables **can change places.** -/
theorem apply_comm {now later : Instant} {change other : Change}
    (apart : change.target ≠ other.target) :
    (ctx.apply now change).apply later other = (ctx.apply later other).apply now change := by
  apply eq_of_observe (by simp)
  intro o
  simp only [observe_apply]
  by_cases addressed : change.target = o
  · have elsewhere : other.target ≠ o := fun same => apart (addressed.trans same.symm)
    rw [Change.effect?_of_target_ne elsewhere]
    rfl
  · rw [Change.effect?_of_target_ne addressed]
    rfl

end Apply

/-! ### Sequences of operations -/

section Evolve

variable {ctx : Context} {o : Observable} {steps before after : List (Instant × Change)}
  {step : Instant × Change}

/-- The **last write** to an observable in a sequence of operations. -/
def lastWrite? (o : Observable) (steps : List (Instant × Change)) : Option o.Value :=
  steps.reverse.findSome? fun step => step.2.write? step.1 o

theorem lastWrite?_eq_none_iff : lastWrite? o steps = none ↔ ∀ step ∈ steps, step.2.target ≠ o := by
  simp [lastWrite?, List.findSome?_eq_none_iff, Change.write?_eq_none_iff]

/-- The last write is that of **the last operation that addresses the observable.** -/
theorem lastWrite?_of_last (addressed : step.2.target = o)
    (rest : ∀ later ∈ after, later.2.target ≠ o) :
    lastWrite? o (before ++ step :: after) = step.2.write? step.1 o := by
  have unwritten : lastWrite? o after = none := lastWrite?_eq_none_iff.mpr rest
  rw [lastWrite?] at unwritten ⊢
  rw [List.reverse_append, List.reverse_cons, List.append_assoc, List.findSome?_append, unwritten,
    Option.none_or, List.singleton_append, List.findSome?_cons]
  cases written : step.2.write? step.1 o with
  | none => exact absurd addressed (Change.write?_eq_none_iff.mp written)
  | some value => rfl

theorem exists_last_of_mem (among : step ∈ steps) (addressed : step.2.target = o) :
    ∃ before last after, steps = before ++ last :: after ∧ last.2.target = o ∧
      ∀ later ∈ after, later.2.target ≠ o := by
  induction steps using List.reverseRecOn with
  | nil => cases among
  | append_singleton earlier final ih =>
    by_cases final_addressed : final.2.target = o
    · exact ⟨earlier, final, [], rfl, final_addressed, by simp⟩
    · obtain mem | rfl : step ∈ earlier ∨ step = final := by simpa using among
      · obtain ⟨before, last, after, rfl, last_addressed, rest⟩ := ih mem
        refine ⟨before, last, after ++ [final], by simp, last_addressed, fun later mem => ?_⟩
        obtain mem | rfl : later ∈ after ∨ later = final := by simpa using mem
        · exact rest later mem
        · exact final_addressed
      · exact absurd addressed final_addressed

theorem evolve_attempt : (ctx.evolve steps).attempt = ctx.attempt := by
  induction steps generalizing ctx with
  | nil => rfl
  | cons first later ih => exact ih.trans (apply_attempt ..)

/-- What no operation addresses **stays as it is.** -/
theorem observe_evolve_of_untouched (untouched : ∀ step ∈ steps, step.2.target ≠ o) :
    (ctx.evolve steps).observe o = ctx.observe o := by
  induction steps generalizing ctx with
  | nil => rfl
  | cons first later ih =>
    obtain ⟨elsewhere, rest⟩ := List.forall_mem_cons.mp untouched
    calc (ctx.evolve (first :: later)).observe o
        = (ctx.apply first.1 first.2).observe o := ih rest
      _ = ctx.observe o := by rw [observe_apply, Change.effect?_of_target_ne elsewhere]; rfl

/-- After the last operation that addresses an observable, what is read is **what it did write**,
or what was there before it. -/
theorem observe_evolve_of_last (rest : ∀ later ∈ after, later.2.target ≠ o) :
    (ctx.evolve (before ++ step :: after)).observe o =
      (step.2.effect? step.1 o).getD ((ctx.evolve before).observe o) := by
  calc (ctx.evolve (before ++ step :: after)).observe o
      = (((ctx.evolve before).apply step.1 step.2).evolve after).observe o := by
        rw [evolve_append]
        rfl
    _ = ((ctx.evolve before).apply step.1 step.2).observe o := observe_evolve_of_untouched rest
    _ = _ := observe_apply ..

/-- That is **what was to be written last**, unless a timeout that cannot be represented leaves an
earlier deadline. -/
theorem observe_evolve (addressed : step.2.target = o)
    (rest : ∀ later ∈ after, later.2.target ≠ o)
    (cleared : step.2.Unrepresentable step.1 → (ctx.evolve before).deadline = none) :
    (ctx.evolve (before ++ step :: after)).observe o =
      (lastWrite? o (before ++ step :: after)).getD (ctx.observe o) := by
  obtain ⟨now, change⟩ := step
  rw [lastWrite?_of_last addressed rest, observe_evolve_of_last rest]
  by_cases unrepresentable : change.Unrepresentable now
  · have none_before := cleared unrepresentable
    rw [Change.effect?_of_unrepresentable unrepresentable]
    obtain ⟨d, rfl, tooLong⟩ := unrepresentable
    subst addressed
    simpa [Change.target, observe, Change.write?, tooLong] using none_before
  · obtain ⟨value, written⟩ : ∃ value, change.write? now o = some value :=
      Option.ne_none_iff_exists'.mp fun unwritten =>
        Change.write?_eq_none_iff.mp unwritten addressed
    rw [Change.effect?_eq_write? unrepresentable, written]
    rfl

theorem evolve_swap {x y : Instant × Change} (apart : x.2.target ≠ y.2.target) :
    ctx.evolve (before ++ x :: y :: after) = ctx.evolve (before ++ y :: x :: after) := by
  rw [evolve_append, evolve_append]
  exact congrArg (evolve · after) (apply_comm _ apart)

/-- The check of plan costs is off **once it was turned off**, and is never turned on again. -/
theorem evolve_costCheckDisabled :
    (ctx.evolve steps).costCheckDisabled = true ↔
      ctx.costCheckDisabled = true ∨ ∃ step ∈ steps, step.2 = .noCostCheck := by
  induction steps generalizing ctx with
  | nil => simp [evolve]
  | cons first later ih =>
    obtain ⟨now, change⟩ := first
    have once : (ctx.apply now change).costCheckDisabled = true ↔
        ctx.costCheckDisabled = true ∨ change = .noCostCheck := by
      have read := observe_apply now ctx change .costCheckDisabled
      cases change <;> simp_all [observe, Change.effect?, Change.write?]
    rw [show ctx.evolve ((now, change) :: later) = (ctx.apply now change).evolve later from rfl, ih,
      once, or_assoc]
    simp

end Evolve

/-! ### The last operation decides -/

/-- What is expected of a sequence of operations, each at its own instant: **the last one decides**,
and they do not interfere. -/
structure LastWriteWins (ctx : Context) (steps : List (Instant × Change)) : Prop where
  /-- Everything that can be read is decided by the last operation that addresses it. -/
  decided : ∀ o, (ctx.evolve steps).observe o = (lastWrite? o steps).getD (ctx.observe o)
  attempt : (ctx.evolve steps).attempt = ctx.attempt
  unchecked : (ctx.evolve steps).costCheckDisabled = true ↔
    ctx.costCheckDisabled = true ∨ ∃ step ∈ steps, step.2 = .noCostCheck
  /-- Operations that address different observables can change places. -/
  commuting : ∀ before x y after, steps = before ++ x :: y :: after →
    x.2.target ≠ y.2.target → ctx.evolve steps = ctx.evolve (before ++ y :: x :: after)
  /-- Contexts that were derived earlier are not affected, however settings are shared. -/
  preserved : ∀ (shelf : Shelf) keeping, shelf.Allocated → shelf.reading = ctx →
    keeping.map Prod.snd = steps → shelf.Isolated keeping

/-- **The last operation decides**, unless it is a timeout that cannot be represented while an
earlier deadline is in force. -/
theorem lastWriteWins_iff (ctx : Context) (steps : List (Instant × Change)) :
    LastWriteWins ctx steps ↔
      ∀ before now d after, steps = before ++ (now, .timeout d) :: after → now.later? d = none →
        (∀ later ∈ after, later.2.target ≠ .deadline) → (ctx.evolve before).deadline = none := by
  constructor
  · rintro law before now d after rfl tooLong rest
    have last : (Change.timeout d).target = .deadline := rfl
    have decided := law.decided .deadline
    rw [lastWrite?_of_last last rest, observe_evolve_of_last rest,
      Change.effect?_of_unrepresentable ⟨d, rfl, tooLong⟩] at decided
    simpa [observe, Change.write?, tooLong] using decided
  · intro cleared
    refine ⟨fun o => ?decided, evolve_attempt, evolve_costCheckDisabled, ?commuting,
      fun _ keeping allocated _ _ => Shelf.isolated allocated keeping⟩
    case decided =>
      by_cases addressed : ∃ step ∈ steps, step.2.target = o
      · obtain ⟨step, among, target⟩ := addressed
        obtain ⟨before, ⟨now, change⟩, after, rfl, target, rest⟩ := exists_last_of_mem among target
        refine observe_evolve target rest ?_
        rintro ⟨d, rfl, tooLong⟩
        subst target
        exact cleared before now d after rfl tooLong rest
      · have untouched : ∀ step ∈ steps, step.2.target ≠ o := fun step among target =>
          addressed ⟨step, among, target⟩
        rw [observe_evolve_of_untouched untouched, lastWrite?_eq_none_iff.mpr untouched]
        rfl
    case commuting =>
      rintro before x y after rfl apart
      exact evolve_swap apart

/-- A timeout that cannot be represented **leaves an earlier deadline in force.** -/
theorem not_lastWriteWins_of_tooLong :
    ¬ LastWriteWins .fresh [(.base, .deadline ⟨5000000000⟩), (.base, .timeout .longest)] := by
  intro law
  have decided := law.decided .deadline
  have stays : (evolve .fresh
      [(.base, .deadline ⟨5000000000⟩), (.base, .timeout .longest)]).deadline =
        some ⟨5000000000⟩ := by
    decide
  have asked : lastWrite? .deadline
      [(.base, .deadline ⟨5000000000⟩), (.base, .timeout .longest)] = some none := by
    decide
  rw [asked] at decided
  cases stays.symm.trans decided

end TxRetry.Context
