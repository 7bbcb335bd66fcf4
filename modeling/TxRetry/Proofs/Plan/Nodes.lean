import Mathlib.Data.List.Forall2
import Mathlib.Logic.Relation
import TxRetry.Plan

/-!
# The nodes of a plan

A plan hangs together by its members `Plan` and `Plans`: an entry has a root, and a node has
children.  This module walks along these members, whatever else a document holds, and says what the
cost of a node is made of.

## Main definitions

* `children` — the nodes right below a node
* `Reaches` — what can be reached from a node through its children
* `nodesFrom` — everything that can be reached, in document order
* `nodes` — all nodes of a document, in document order
* `Costs`, `DocumentCosts` — how the costs of nodes and of documents are made up of estimates

## Main statements

* `mem_nodesFrom` — the list has exactly what can be reached
* `nodeCost_eq` — the cost of a node as one sum
* `nodeCost_eq_ok_iff`, `documentCost_eq_ok_iff` — when there is a cost, and which

## Design notes

**Nodes are places.**  A value that occurs twice in a document is listed twice, so that a sum over
the list counts every occurrence.
-/

namespace TxRetry.Plan

/-! ### Below a node -/

/-- The **children of a node**, in order; none if its `Plans` are missing or no array. -/
def children (node : Json) : List Json :=
  match node.member? "Plans" with
  | some (.array plans) => plans
  | _ => []

theorem children_of_array {node : Json} {plans : List Json}
    (member : node.member? "Plans" = some (.array plans)) : children node = plans := by
  rw [children, member]

theorem sizeOf_lt_of_lookup {members : List (String × Json)} {key : String} {found : Json}
    (present : members.lookup key = some found) : sizeOf found < sizeOf members := by
  induction members with
  | nil => cases present
  | cons member rest ih =>
      obtain ⟨name, value⟩ := member
      simp only [List.lookup_cons] at present
      simp only [List.cons.sizeOf_spec, Prod.mk.sizeOf_spec]
      split at present
      · obtain rfl := Option.some.inj present
        omega
      · have smaller := ih present
        omega

/-- A child is smaller than its node. -/
theorem sizeOf_lt_of_mem_children {node child : Json} (below : child ∈ children node) :
    sizeOf child < sizeOf node := by
  unfold children at below
  split at below
  · rename_i plans member
    have inPlans : sizeOf child < sizeOf plans := List.sizeOf_lt_of_mem below
    cases node with
    | object members =>
        have inMembers := sizeOf_lt_of_lookup member
        simp only [Json.object.sizeOf_spec, Json.array.sizeOf_spec] at inMembers ⊢
        omega
    | _ => cases member
  · cases below

/-- What holds of a node whenever it holds of its children **holds of every node.** -/
@[elab_as_elim]
theorem node_induction {motive : Json → Prop}
    (below : ∀ node, (∀ child ∈ children node, motive child) → motive node) (node : Json) :
    motive node :=
  below node fun child _ => node_induction below child
termination_by sizeOf node
decreasing_by exact sizeOf_lt_of_mem_children ‹_›

/-- **Reachability** from a node through arrays of children. -/
def Reaches : Json → Json → Prop :=
  Relation.ReflTransGen fun node child => child ∈ children node

/-- The **nodes that can be reached from a root**, in document order: the root, then everything below
its first child, and so on. -/
def nodesFrom (root : Json) : List Json :=
  root :: (children root).attach.flatMap fun ⟨child, _⟩ => nodesFrom child
termination_by sizeOf root
decreasing_by exact sizeOf_lt_of_mem_children ‹_›

theorem nodesFrom_eq (root : Json) :
    nodesFrom root = root :: (children root).flatMap nodesFrom := by
  rw [nodesFrom]
  simp

/-- The list has **exactly what can be reached.** -/
theorem mem_nodesFrom {root node : Json} : node ∈ nodesFrom root ↔ Reaches root node := by
  induction root using node_induction with
  | below root ih =>
      rw [nodesFrom_eq, List.mem_cons, List.mem_flatMap, Reaches,
        Relation.ReflTransGen.cases_head_iff, eq_comm (a := node)]
      apply or_congr_right
      apply exists_congr
      intro child
      apply and_congr_right
      exact ih child

/-! ### The nodes of a document -/

/-- **All nodes of a document**, in order: those that are reached from the roots of its entries. -/
def nodes : Json → List Json
  | .array entries => entries.flatMap fun entry => (entry.member? "Plan").toList.flatMap nodesFrom
  | _ => []

/-- The estimate that a node states for itself, if it states one. -/
def estimate? (node : Json) : Option Json.Number :=
  match node.member? "Total Cost" with
  | some (.number n) => some n
  | _ => none

section Sums

variable {κ : Type} {sum : CostSum κ}

/-! ### Costs as sums -/

/-- The costs of several things, **added from left to right** to `total`, up to the first that has
none. -/
def addUp (sum : CostSum κ) (cost : Json → Except Defect κ) (total : κ) (items : List Json) :
    Except Defect κ :=
  items.foldlM (fun total item => (cost item).map (sum.add total)) total

/-- The cost of an entry is that of its root. -/
def entryCost (sum : CostSum κ) (entry : Json) : Except Defect κ :=
  match entry.member? "Plan" with
  | none => .error (.missingPlan entry)
  | some root => nodeCost sum root

/-- The cost of what is below a node. -/
def costBelow (sum : CostSum κ) (node : Json) : Except Defect κ :=
  match node.member? "Plans" with
  | none => .ok sum.zero
  | some (.array plans) => addUp sum (nodeCost sum) sum.neutral plans
  | some found => .error (.plansNotAnArray found)

theorem addUp_cons (cost : Json → Except Defect κ) (total : κ) (item : Json) (rest : List Json) :
    addUp sum cost total (item :: rest) =
      (cost item).bind fun c => addUp sum cost (sum.add total c) rest := by
  rw [addUp, List.foldlM_cons]
  cases cost item <;> rfl

theorem nodesCost_eq (total : κ) (plans : List Json) :
    nodesCost sum total plans = addUp sum (nodeCost sum) total plans := by
  induction plans generalizing total with
  | nil => rfl
  | cons node rest ih =>
      rw [nodesCost, addUp_cons]
      simp only [ih]
      rfl

theorem entriesCost_eq (total : κ) (entries : List Json) :
    entriesCost sum total entries = addUp sum (entryCost sum) total entries := by
  induction entries generalizing total with
  | nil => rfl
  | cons entry rest ih =>
      rw [entriesCost, addUp_cons, entryCost]
      cases entry.member? "Plan" with
      | none => rfl
      | some root =>
          simp only [ih]
          rfl

theorem ownCost_eq (node : Json) :
    ownCost sum node =
      match estimate? node with
      | some n => .ok (sum.ofNumber n)
      | none => .error (.missingCost node) := by
  unfold ownCost estimate?
  cases node.member? "Total Cost" with
  | none => rfl
  | some found => cases found <;> rfl

theorem childrenCost_eq (members : List (String × Json)) :
    childrenCost sum members = costBelow sum (.object members) := by
  unfold costBelow Json.member?
  induction members with
  | nil => rfl
  | cons member rest ih =>
      obtain ⟨key, found⟩ := member
      by_cases here : key = "Plans"
      · subst here
        cases found <;> simp [childrenCost, nodesCost_eq]
      · have other : ("Plans" == key) = false := beq_false_of_ne (Ne.symm here)
        cases found <;> simp only [childrenCost, List.lookup_cons, if_neg here, other, ih]

/-- The cost of a node is **its own estimate and what is below it.** -/
theorem nodeCost_eq (node : Json) :
    nodeCost sum node =
      (ownCost sum node).bind fun own => (costBelow sum node).map (sum.add own) := by
  cases node with
  | object members =>
      rw [nodeCost, childrenCost_eq]
      cases ownCost sum (.object members) <;> rfl
  | _ => rfl

/-! ### The costs that there are -/

/-- The **cost of a node**, made up of the estimates: its own, and the sum over its children from left
to right. -/
inductive Costs (sum : CostSum κ) : Json → κ → Prop
  | leaf {node n} (own : estimate? node = some n) (childless : node.member? "Plans" = none) :
      Costs sum node (sum.add (sum.ofNumber n) sum.zero)
  | inner {node n plans costs} (own : estimate? node = some n)
      (member : node.member? "Plans" = some (.array plans))
      (below : List.Forall₂ (Costs sum) plans costs) :
      Costs sum node (sum.add (sum.ofNumber n) (costs.foldl sum.add sum.neutral))

/-- The cost of an entry: it has a root, and that has the cost. -/
def EntryCosts (sum : CostSum κ) (entry : Json) (cost : κ) : Prop :=
  ∃ root, entry.member? "Plan" = some root ∧ Costs sum root cost

/-- The **cost of a document**: the sum over its entries in order. -/
def DocumentCosts (sum : CostSum κ) (document : Json) (cost : κ) : Prop :=
  ∃ entries costs, document = .array entries ∧ List.Forall₂ (EntryCosts sum) entries costs ∧
    cost = costs.foldl sum.add sum.zero

/-- A sum is there **if every cost is**, and then it is the sum of these costs. -/
theorem addUp_eq_ok_iff {cost : Json → Except Defect κ} {P : Json → κ → Prop} {items : List Json}
    (each : ∀ item ∈ items, ∀ c, cost item = .ok c ↔ P item c) (total c : κ) :
    addUp sum cost total items = .ok c ↔
      ∃ costs, List.Forall₂ P items costs ∧ c = costs.foldl sum.add total := by
  induction items generalizing total with
  | nil => simp [addUp, pure, Except.pure, eq_comm]
  | cons item rest ih =>
      obtain ⟨first, later⟩ := List.forall_mem_cons.mp each
      rw [addUp_cons]
      constructor
      · intro added
        cases costed : cost item with
        | error defect =>
            rw [costed] at added
            cases added
        | ok own =>
            rw [costed] at added
            obtain ⟨costs, all, rfl⟩ := (ih later _).mp added
            exact ⟨own :: costs, .cons ((first own).mp costed) all, rfl⟩
      · rintro ⟨costs, all, rfl⟩
        cases all with
        | @cons _ own _ costs one all =>
            rw [(first own).mpr one]
            exact (ih later _).mpr ⟨costs, all, rfl⟩

/-- What is below a node costs nothing without `Plans`, and otherwise the sum over the children. -/
def CostsBelow (sum : CostSum κ) (node : Json) (cost : κ) : Prop :=
  (node.member? "Plans" = none ∧ cost = sum.zero) ∨
    ∃ plans costs, node.member? "Plans" = some (.array plans) ∧
      List.Forall₂ (Costs sum) plans costs ∧ cost = costs.foldl sum.add sum.neutral

theorem costs_iff {node : Json} {c : κ} :
    Costs sum node c ↔
      ∃ n below, estimate? node = some n ∧ CostsBelow sum node below ∧
        c = sum.add (sum.ofNumber n) below := by
  constructor
  · intro costs
    cases costs with
    | leaf own childless => exact ⟨_, _, own, .inl ⟨childless, rfl⟩, rfl⟩
    | inner own member below => exact ⟨_, _, own, .inr ⟨_, _, member, below, rfl⟩, rfl⟩
  · rintro ⟨n, below, own, ⟨childless, rfl⟩ | ⟨plans, costs, member, each, rfl⟩, rfl⟩
    · exact .leaf own childless
    · exact .inner own member each

theorem costBelow_eq_ok_iff {node : Json}
    (each : ∀ child ∈ children node, ∀ c, nodeCost sum child = .ok c ↔ Costs sum child c) (c : κ) :
    costBelow sum node = .ok c ↔ CostsBelow sum node c := by
  unfold costBelow CostsBelow
  cases member : node.member? "Plans" with
  | none => simp [eq_comm]
  | some found =>
      cases found with
      | array plans =>
          rw [children_of_array member] at each
          simp [addUp_eq_ok_iff each]
      | _ => simp

/-- **A node has a cost if and only if it is made up of estimates.** -/
theorem nodeCost_eq_ok_iff {node : Json} {c : κ} :
    nodeCost sum node = .ok c ↔ Costs sum node c := by
  induction node using node_induction generalizing c with
  | below node ih =>
      have below := costBelow_eq_ok_iff fun child among c => ih child among
      rw [nodeCost_eq, ownCost_eq, costs_iff]
      cases estimate? node with
      | none => simp [Except.bind]
      | some n =>
          cases cost : costBelow sum node with
          | error defect => simp [Except.bind, Except.map, ← below, cost]
          | ok b => simp [Except.bind, Except.map, ← below, cost, eq_comm]

theorem entryCost_eq_ok_iff (entry : Json) (c : κ) :
    entryCost sum entry = .ok c ↔ EntryCosts sum entry c := by
  unfold entryCost EntryCosts
  cases entry.member? "Plan" with
  | none => simp
  | some root => simp [nodeCost_eq_ok_iff]

/-- **A document has a cost if and only if its entries have**, and then it is their sum. -/
theorem documentCost_eq_ok_iff {document : Json} {c : κ} :
    documentCost sum document = .ok c ↔ DocumentCosts sum document c := by
  unfold DocumentCosts
  cases document with
  | array entries =>
      rw [documentCost, entriesCost_eq,
        addUp_eq_ok_iff fun entry _ c => entryCost_eq_ok_iff entry c]
      simp
  | _ => simp [documentCost]

end Sums

end TxRetry.Plan
