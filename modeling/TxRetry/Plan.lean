import TxRetry.Error
import TxRetry.Json.Printer

/-!
# Query plans and their costs

A query plan is a JSON document: an array of entries, each with a tree of nodes under `Plan`.
Every node has an estimate under `Total Cost` and may have an array of children under `Plans`.
The cost of a plan is the sum of the estimates of all its nodes, so it is at least as large as any
of them.

## Main definitions

* `Plan.Defect` — what makes a document no plan
* `Plan.nodeCost`, `Plan.documentCost` — the sums
* `Plan.totalCost` — the cost of a document as a double
* `Plan.enforce` — a plan held against a budget

## Design notes

**The order of addition is part of the meaning**, since sums of doubles depend on it: a node adds
its own estimate to the sum of its children, which starts from minus zero, the neutral element of
the addition of doubles; the total starts from zero.

**Costs are summed in any type.**  The sums take their addition and their reading of numbers from
`CostSum`, so that laws of the sum can be stated for every addition that has them; plans are
enforced with doubles.
-/

namespace TxRetry.Plan

/-- What makes a document no plan.  Each defect shows the part of the document that it is about. -/
inductive Defect where
  | notAnArray (found : Json)
  | missingPlan (entry : Json)
  | missingCost (node : Json)
  | plansNotAnArray (found : Json)
  deriving Repr

/-- The wording of a defect. -/
def Defect.detail : Defect → String
  | .notAnArray found => "expected a JSON array, got " ++ found.compact
  | .missingPlan entry => "missing \"Plan\" in " ++ entry.compact
  | .missingCost node => "node without numeric \"Total Cost\": " ++ node.compact
  | .plansNotAnArray found => "\"Plans\" is not an array: " ++ found.compact

/-- How costs are read and added up. -/
structure CostSum (κ : Type) where
  ofNumber : Json.Number → κ
  add : κ → κ → κ
  /-- The cost of no entries. -/
  zero : κ
  /-- What the sum over the children of a node starts from. -/
  neutral : κ

/-- Sums of doubles. -/
def CostSum.float : CostSum Float := ⟨Json.Number.toFloat, (· + ·), 0.0, -0.0⟩

variable {κ : Type} (sum : CostSum κ)

/-- The estimate that a node states for itself. -/
def ownCost (node : Json) : Except Defect κ :=
  match node.member? "Total Cost" with
  | some (.number n) => .ok (sum.ofNumber n)
  | _ => .error (.missingCost node)

mutual

/-- The **cost of a node**: its own estimate and the costs of everything below it. -/
def nodeCost : Json → Except Defect κ
  | .object members => do
    let own ← ownCost sum (.object members)
    let below ← childrenCost members
    return sum.add own below
  | node => .error (.missingCost node)

/-- The cost of the children among the members of a node; a node need not have any. -/
def childrenCost : List (String × Json) → Except Defect κ
  | [] => .ok sum.zero
  | (key, .array plans) :: rest =>
    if key = "Plans" then nodesCost sum.neutral plans else childrenCost rest
  | (key, found) :: rest =>
    if key = "Plans" then .error (.plansNotAnArray found) else childrenCost rest

/-- The costs of nodes, added from left to right to `total`. -/
def nodesCost (total : κ) : List Json → Except Defect κ
  | [] => .ok total
  | node :: rest => do
    let cost ← nodeCost node
    nodesCost (sum.add total cost) rest

end

/-- The costs of entries, added in order to `total`. -/
def entriesCost (total : κ) : List Json → Except Defect κ
  | [] => .ok total
  | entry :: rest =>
    match entry.member? "Plan" with
    | none => .error (.missingPlan entry)
    | some root => do
      let cost ← nodeCost sum root
      entriesCost (sum.add total cost) rest

/-- The **sum of the estimates of all nodes of a document.** -/
def documentCost : Json → Except Defect κ
  | .array entries => entriesCost sum sum.zero entries
  | found => .error (.notAnArray found)

/-- The cost of a document as a double; a defect becomes an error. -/
def totalCost (document : Json) : Except Error Float :=
  match documentCost CostSum.float document with
  | .ok cost => .ok cost
  | .error defect => .error (.plan defect.detail)

/-- A **document held against a budget**: its cost, or the refusal of the statement. -/
def enforce (budget : Float) (statement : String) (document : Json) : Except Error Float := do
  let cost ← totalCost document
  if budget < cost then .error (.planCostExceeded budget cost statement document.compact)
  else return cost

end TxRetry.Plan
