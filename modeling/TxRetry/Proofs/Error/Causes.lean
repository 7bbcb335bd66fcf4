import Mathlib.Data.List.Infix
import TxRetry.Proofs.Call.Decision

/-!
# The causes behind an error

Behind an error there can be another one, and so on: its causes form a chain, which ends at an error
with nothing behind it or at the report of a database.  The wording of an error contains those of all
its causes, wherever a wrapper puts the words of its own.  A failed rollback has two errors in it, of
which only one is its source; its wording contains both.

## Main definitions

* `Cause` — what is met on a chain of sources
* `Cause.source?` — what is right behind a cause
* `Cause.Chain` — all that is behind a cause
* `CausesKept` — what is expected of the wording and of the code of an error

## Main statements

* `Cause.partOf_of_source` — one step along a chain goes to a part of the wording
* `Cause.partOf_of_mem` — so does every chain
* `causesKept` — no cause is lost

## Design notes

**Errors of the client are transparent.**  Such an error stands for what the client reports, and what
is right behind it is what the client names as its source: nothing, or the report of the database.

**A decoding error ends its chain.**  What could not be decoded, and why, is not kept.
-/

namespace TxRetry

/-! ### Parts of texts -/

/-- A text is a **contiguous part** of another one. -/
def PartOf (part text : String) : Prop := part.toList <:+: text.toList

theorem PartOf.trans {part text whole : String} (inner : PartOf part text)
    (outer : PartOf text whole) : PartOf part whole :=
  List.IsInfix.trans inner outer

theorem partOf_append (before part after : String) : PartOf part (before ++ part ++ after) := by
  unfold PartOf
  rw [String.toList_append, String.toList_append]
  exact List.infix_append _ _ _

theorem partOf_append_left (before part : String) : PartOf part (before ++ part) := by
  simpa using partOf_append before part ""

theorem partOf_append_right (part after : String) : PartOf part (part ++ after) := by
  simpa using partOf_append "" part after

/-! ### Chains of causes -/

/-- What is met on **a chain of sources**: an error, or the report of a database behind an error of
the client. -/
inductive Cause where
  | ofError (error : Error)
  | report (code : Option String) (message : String)

namespace Cause

/-- The wording of a cause. -/
def text : Cause → String
  | .ofError error => error.message
  | .report _ message => message

/-- The code of a cause that is a database error. -/
def code? : Cause → Option String
  | .ofError (.database code _) => some code
  | .report code _ => code
  | _ => none

/-- What is **right behind** a cause. -/
def source? : Cause → Option Cause
  | .ofError (.client (.database code message)) => some (.report code message)
  | .ofError (.begin source) => some (.ofError source)
  | .ofError (.retriesExceeded _ source) => some (.ofError source)
  | .ofError (.rollback source _) => some (.ofError source)
  | _ => none

/-- **All that is behind a cause**, each being the source of the one before. -/
inductive Chain : Cause → List Cause → Prop
  | last {cause : Cause} (nothing : cause.source? = none) : Chain cause []
  | next {outer inner : Cause} {causes : List Cause} (source : outer.source? = some inner)
      (behind : Chain inner causes) : Chain outer (inner :: causes)

variable {outer inner cause : Cause} {causes : List Cause}

/-- **What is right behind a cause is part of its wording.** -/
theorem partOf_of_source (source : outer.source? = some inner) : PartOf inner.text outer.text := by
  unfold source? at source
  split at source <;> cases source
  case h_1 code message => exact partOf_append_left _ _
  case h_2 source => exact partOf_append_left _ _
  case h_3 attempts source => exact partOf_append_left _ _
  case h_4 source failure =>
    show PartOf source.message (source.message ++ _ ++ failure.message ++ _)
    rw [String.append_assoc, String.append_assoc]
    exact partOf_append_right _ _

/-- So is **everything behind it.** -/
theorem partOf_of_mem (chain : Chain outer causes) (among : cause ∈ causes) :
    PartOf cause.text outer.text := by
  induction chain with
  | last nothing => cases among
  | next source behind ih =>
      rcases List.mem_cons.mp among with rfl | later
      · exact partOf_of_source source
      · exact (ih later).trans (partOf_of_source source)

end Cause

variable {error : Error} {causes : List Cause} {code : String}

/-- **The sources of an error word what is behind it**, and all of that. -/
theorem exists_chain (error : Error) :
    ∃ causes, Cause.Chain (.ofError error) causes ∧ error.sources = causes.map Cause.text := by
  -- Three kinds of errors wrap another one, and what is behind that is behind them.
  have wrapper {outer source : Error}
      (behind : (Cause.ofError outer).source? = some (.ofError source))
      (worded : outer.sources = source.message :: source.sources)
      (ih : ∃ causes, Cause.Chain (.ofError source) causes ∧
        source.sources = causes.map Cause.text) :
      ∃ causes, Cause.Chain (.ofError outer) causes ∧ outer.sources = causes.map Cause.text := by
    obtain ⟨causes, chain, same⟩ := ih
    exact ⟨_, .next behind chain, by rw [worded, same, List.map_cons, Cause.text]⟩
  induction error with
  | client cause =>
      cases cause with
      | database code message => exact ⟨[.report code message], .next rfl (.last rfl), rfl⟩
      | _ => exact ⟨[], .last rfl, rfl⟩
  | begin source ih => exact wrapper rfl rfl ih
  | retriesExceeded attempts source ih => exact wrapper rfl rfl ih
  | rollback source failure ih => exact wrapper rfl rfl ih
  | _ => exact ⟨[], .last rfl, rfl⟩

/-- The database error that an error **carries the code of** is the error itself or behind it. -/
theorem exists_coded (carries : error.Carries code) (chain : Cause.Chain (.ofError error) causes) :
    ∃ cause ∈ .ofError error :: causes, cause.code? = some code := by
  induction carries generalizing causes with
  | client code message =>
      cases chain with
      | last nothing => cases nothing
      | next source behind =>
          cases source
          exact ⟨.report (some code) message, by simp, rfl⟩
  | database code message => exact ⟨.ofError (.database code message), by simp, rfl⟩
  | rollback failure inner ih =>
      cases chain with
      | last nothing => cases nothing
      | next source behind =>
          cases source
          obtain ⟨cause, among, coded⟩ := ih behind
          exact ⟨cause, List.mem_cons_of_mem _ among, coded⟩

/-- Both errors in a failed rollback are **part of its wording.** -/
theorem partOf_rollback (source failure : Error) :
    PartOf source.message (Error.rollback source failure).message ∧
      PartOf failure.message (Error.rollback source failure).message := by
  have behind : (Cause.ofError (.rollback source failure)).source? = some (.ofError source) := rfl
  exact ⟨Cause.partOf_of_source behind, partOf_append _ _ _⟩

/-- What is expected of **the wording and the code of an error** with these causes behind it. -/
structure CausesKept (error : Error) (causes : List Cause) : Prop where
  chain : Cause.Chain (.ofError error) causes
  worded : error.sources = causes.map Cause.text
  /-- The error words each of its causes. -/
  contained : ∀ cause ∈ causes, PartOf cause.text error.message
  /-- Where a rollback failed, it words both of the errors. -/
  both : ∀ source failure, .ofError (.rollback source failure) ∈ .ofError error :: causes →
    PartOf source.message error.message ∧ PartOf failure.message error.message
  /-- Its code is that of a database error, which is the error itself or one of its causes. -/
  coded : ∀ code, error.sqlstate = some code →
    ∃ cause ∈ .ofError error :: causes, cause.code? = some code

/-- **No cause is lost.** -/
theorem causesKept (error : Error) : ∃ causes, CausesKept error causes := by
  obtain ⟨causes, chain, worded⟩ := exists_chain error
  have contained (cause : Cause) (among : cause ∈ causes) : PartOf cause.text error.message :=
    Cause.partOf_of_mem chain among
  refine ⟨causes, chain, worded, contained, ?both, ?coded⟩
  case both =>
    intro source failure among
    obtain ⟨ofSource, ofFailure⟩ := partOf_rollback source failure
    rcases List.mem_cons.mp among with itself | behind
    · cases itself
      exact ⟨ofSource, ofFailure⟩
    · have within := contained _ behind
      exact ⟨ofSource.trans within, ofFailure.trans within⟩
  case coded =>
    intro code found
    exact exists_coded (Error.carries_of_sqlstate found) chain

end TxRetry
