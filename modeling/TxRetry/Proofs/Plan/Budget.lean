import TxRetry.Proofs.Double.Addition
import TxRetry.Proofs.Plan.Defects

/-!
# What a budget keeps out

A document that is held against a budget passes only if its cost is within the budget, unless its
cost is lost.  A sum of doubles is lost where infinities of both signs meet, which finite estimates
can bring about by being too large.  What is lost is not above any budget, so it passes every one.

## Main definitions

* `CostSum.Maps` — a map from the costs of one sum to those of another
* `CostSum.noting` — sums of doubles that note whether they are lost
* `losesCost` — whether the cost of a document is lost in any sum on the way
* `FailsClosed` — what is expected of a document held against a budget

## Main statements

* `losesCost_iff` — a cost is lost exactly if it is no number in the end
* `enforce_of_losesCost` — a lost cost passes every budget
* `failsClosed_iff` — the check fails closed unless the cost is lost

## Design notes

**Nothing that is lost is found again**, so it is enough to look at the total.  The sums that note
their losses have the total of the plain sums beside their note, because the plain sums are mapped to
them: `CostSum.Maps` carries costs from one sum to the other, whatever the document.
-/

namespace TxRetry.Plan

/-! ### Costs under a map -/

section Maps

variable {κ κ' : Type} {sum : CostSum κ} {sum' : CostSum κ'} {f : κ → κ'}

/-- A **map from the costs of one sum to those of another** that keeps whatever sums are made of. -/
structure CostSum.Maps (sum : CostSum κ) (sum' : CostSum κ') (f : κ → κ') : Prop where
  ofNumber : ∀ n, f (sum.ofNumber n) = sum'.ofNumber n
  add : ∀ a b, f (sum.add a b) = sum'.add (f a) (f b)
  zero : f sum.zero = sum'.zero
  neutral : f sum.neutral = sum'.neutral

namespace CostSum.Maps

variable (maps : sum.Maps sum' f)
include maps

theorem foldl (total : κ) (costs : List κ) :
    f (costs.foldl sum.add total) = (costs.map f).foldl sum'.add (f total) := by
  induction costs generalizing total with
  | nil => rfl
  | cons cost rest ih => rw [List.foldl_cons, ih, maps.add, List.map_cons, List.foldl_cons]

theorem costs {node : Json} {cost : κ} (costs : Costs sum node cost) :
    Costs sum' node (f cost) := by
  induction node using node_induction generalizing cost with
  | below node ih =>
      cases costs with
      | leaf own childless =>
          rw [maps.add, maps.ofNumber, maps.zero]
          exact .leaf own childless
      | inner own member below =>
          rw [children_of_array member] at ih
          rw [maps.add, maps.ofNumber, maps.foldl, maps.neutral]
          apply Costs.inner own member
          rw [List.forall₂_map_right_iff]
          apply ((List.forall₂_and_left _ _).mpr ⟨ih, below⟩).imp
          intro child cost each
          exact each.1 each.2

/-- The cost of a document **in one sum is mapped to that in the other.** -/
theorem documentCosts {document : Json} {cost : κ} (costs : DocumentCosts sum document cost) :
    DocumentCosts sum' document (f cost) := by
  obtain ⟨entries, costs, rfl, each, rfl⟩ := costs
  refine ⟨entries, costs.map f, rfl, ?_, ?_⟩
  · rw [List.forall₂_map_right_iff]
    apply each.imp
    rintro entry cost ⟨root, present, rootCosts⟩
    exact ⟨root, present, maps.costs rootCosts⟩
  · rw [maps.foldl, maps.zero]

end CostSum.Maps

end Maps

/-! ### Lost costs -/

/-- Sums of doubles that also note whether they are **lost**: because an estimate is no number, or
because infinities of both signs are added. -/
def CostSum.noting : CostSum (Float × Bool) where
  ofNumber n := (n.toFloat, n.toFloat.isNaN)
  add a b := (a.1 + b.1, a.2 || b.2 || Double.opposed a.1 b.1)
  zero := (0.0, false)
  neutral := (-0.0, false)

/-- A document **loses its cost** if that is lost in any sum on the way. -/
def losesCost (document : Json) : Bool :=
  match documentCost .noting document with
  | .ok (_, lost) => lost
  | .error _ => false

/-- The plain sum of doubles is what the sums that note their losses have beside the note. -/
theorem CostSum.float_maps_noting :
    CostSum.float.Maps CostSum.noting fun cost => (cost, cost.isNaN) where
  ofNumber _ := rfl
  add a b := by
    have lost : (a + b).isNaN = (a.isNaN || b.isNaN || Double.opposed a b) := by
      rw [Bool.eq_iff_iff, Double.isNaN_add, Bool.or_eq_true, Bool.or_eq_true, or_assoc]
    exact congrArg (Prod.mk (a + b)) lost
  zero := by rfl
  neutral := by rfl

theorem losesCost_of_totalCost {document : Json} {cost : Float}
    (costed : totalCost document = .ok cost) : losesCost document = cost.isNaN := by
  have noted := CostSum.float_maps_noting.documentCosts (totalCost_eq_ok_iff.mp costed)
  rw [losesCost, documentCost_eq_ok_iff.mpr noted]

/-- A cost is lost **exactly if it is no number in the end.** -/
theorem losesCost_iff {document : Json} :
    losesCost document = true ↔ ∃ cost, totalCost document = .ok cost ∧ cost.isNaN = true := by
  constructor
  · intro lost
    have noted : ∃ cost, DocumentCosts .noting document cost := by
      unfold losesCost at lost
      split at lost
      · rename_i noted
        exact ⟨_, documentCost_eq_ok_iff.mp noted⟩
      · cases lost
    obtain ⟨cost, costs⟩ := exists_documentCosts_iff.mpr (exists_documentCosts_iff.mp noted)
    have costed : totalCost document = .ok cost := totalCost_eq_ok_iff.mpr costs
    exact ⟨cost, costed, losesCost_of_totalCost costed ▸ lost⟩
  · rintro ⟨cost, costed, lost⟩
    rw [losesCost_of_totalCost costed, lost]

/-! ### Documents held against a budget -/

/-- What is expected of **a document held against a budget.** -/
structure FailsClosed (budget : Float) (statement : String) (document : Json) : Prop where
  /-- What passes is within the budget. -/
  passed : ∀ cost, enforce budget statement document = .ok cost →
    totalCost document = .ok cost ∧ cost ≤ budget
  /-- What has no cost fails for that reason. -/
  malformed : ∀ error, totalCost document = .error error →
    enforce budget statement document = .error error
  /-- Everything else is refused, and the refusal shows all that it is about. -/
  refused : ∀ cost, totalCost document = .ok cost → ¬ cost ≤ budget →
    enforce budget statement document =
      .error (.planCostExceeded budget cost statement document.compact)

variable {budget : Float} {statement : String} {document : Json}

theorem enforce_of_error {error : Error} (malformed : totalCost document = .error error) :
    enforce budget statement document = .error error := by
  rw [enforce, malformed]
  rfl

/-- What exceeds a budget **is refused.** -/
theorem enforce_of_exceeds {cost : Float} (costed : totalCost document = .ok cost)
    (exceeds : budget < cost) :
    enforce budget statement document =
      .error (.planCostExceeded budget cost statement document.compact) := by
  rw [enforce, costed]
  exact if_pos exceeds

/-- **A lost cost passes every budget.** -/
theorem enforce_of_losesCost (budget : Float) (statement : String)
    (lost : losesCost document = true) :
    ∃ cost, cost.isNaN = true ∧ enforce budget statement document = .ok cost := by
  obtain ⟨cost, costed, notANumber⟩ := losesCost_iff.mp lost
  have within : ¬ budget < cost := by
    intro exceeds
    rw [(Double.isNaN_of_lt exceeds).2] at notANumber
    cases notANumber
  exact ⟨cost, notANumber, enforce_eq_ok_iff.mpr ⟨costed, within⟩⟩

/-- A cost that is kept **can be compared with every budget.** -/
theorem comparable_of_kept {cost : Float} (number : budget.isNaN = false)
    (kept : losesCost document = false) (costed : totalCost document = .ok cost) :
    ¬ budget < cost ↔ cost ≤ budget := by
  rw [losesCost_of_totalCost costed] at kept
  exact Double.not_lt_iff_le number kept

/-- **The check fails closed unless the cost of the document is lost.** -/
theorem failsClosed_iff (finite : budget.isFinite = true) :
    FailsClosed budget statement document ↔ losesCost document = false := by
  constructor
  · intro closed
    by_contra lost
    rw [Bool.not_eq_false] at lost
    obtain ⟨cost, notANumber, passed⟩ := enforce_of_losesCost budget statement lost
    have within : cost ≤ budget := (closed.passed cost passed).2
    rw [(Double.isNaN_of_le within).1] at notANumber
    cases notANumber
  · intro kept
    have comparable {cost : Float} (costed : totalCost document = .ok cost) :
        ¬ budget < cost ↔ cost ≤ budget :=
      comparable_of_kept (Double.isNaN_of_isFinite finite) kept costed
    constructor
    · intro cost passed
      obtain ⟨costed, within⟩ := enforce_eq_ok_iff.mp passed
      exact ⟨costed, (comparable costed).mp within⟩
    · intro error malformed
      exact enforce_of_error malformed
    · intro cost costed exceeds
      rw [← comparable costed, not_not] at exceeds
      exact enforce_of_exceeds costed exceeds

/-- A node without children. -/
def leafNode (estimate : Float) : Json := .object [("Total Cost", .number (.float estimate))]

/-- A node with children. -/
def innerNode (estimate : Float) (plans : List Json) : Json :=
  .object [("Plans", .array plans), ("Total Cost", .number (.float estimate))]

/-- An entry with a root. -/
def entryOf (root : Json) : Json := .object [("Plan", root)]

theorem failsClosed_of_oneNode :
    FailsClosed 100.0 "SELECT 1" (.array [entryOf (leafNode 8.5)]) := by
  have finite : (100.0 : Float).isFinite = true := by decide +kernel
  apply (failsClosed_iff finite).mpr
  decide +kernel

/-- Finite estimates whose sums overflow **in both directions.** -/
def opposedCosts : Json :=
  .array [entryOf (leafNode 1e308), entryOf (leafNode 1e308),
    entryOf (innerNode (-1e308) [leafNode (-1e308)])]

theorem not_failsClosed_of_opposedCosts : ¬ FailsClosed 100.0 "SELECT 1" opposedCosts := by
  intro closed
  have lost : losesCost opposedCosts = true := by decide +kernel
  obtain ⟨cost, notANumber, passed⟩ := enforce_of_losesCost 100.0 "SELECT 1" lost
  have within : cost ≤ 100.0 := (closed.passed cost passed).2
  rw [(Double.isNaN_of_le within).1] at notANumber
  cases notANumber

end TxRetry.Plan
