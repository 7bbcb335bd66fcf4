import TxRetry.Proofs.Plan.Nodes

/-!
# Which documents are plans

A document has a cost exactly if it is well-formed along its members `Plan` and `Plans`; what else it
holds does not matter.  A document that is not well-formed may have many defects.  The one that is
reported is the first in document order, although the sum never looks for defects: it stops at the
first estimate that it cannot add.

## Main definitions

* `WellFormed` — what makes a document a plan
* `defects` — all defects of a document, in document order
* `CostSum.listing` — the sum that writes its estimates down instead of adding them
* `Judged` — what is expected of the cost of a document

## Main statements

* `defects_eq_nil_iff` — well-formed documents are those without defects
* `defect?_documentCost` — the first defect is the one that stops the sum
* `estimates_of_documentCosts` — the sum takes the estimate of every node once
* `judged` — every document is judged as expected

## Design notes

**The order of defects is the order of nodes.**  At a node, a missing estimate comes before `Plans`
that are no array, and what is wrong with the node comes before what is wrong below it, because
`nodesFrom` lists a node before everything below it.
-/

namespace TxRetry.Plan

/-! ### Well-formed documents -/

/-- What a **node** has to be: an object with a number under `Total Cost` and, under `Plans`, an array
or nothing. -/
def WellFormedNode (node : Json) : Prop :=
  ∃ members n, node = .object members ∧ members.lookup "Total Cost" = some (.number n) ∧
    (members.lookup "Plans" = none ∨ ∃ plans, members.lookup "Plans" = some (.array plans))

/-- What an **entry** has to be: an object with a root under `Plan` from which only well-formed nodes
are reached. -/
def WellFormedEntry (entry : Json) : Prop :=
  ∃ members root, entry = .object members ∧ members.lookup "Plan" = some root ∧
    ∀ node, Reaches root node → WellFormedNode node

/-- What a **document** has to be: an array of well-formed entries. -/
def WellFormed (document : Json) : Prop :=
  ∃ entries, document = .array entries ∧ ∀ entry ∈ entries, WellFormedEntry entry

/-! ### Defects in document order -/

/-- What is wrong with the estimate of a node. -/
def costDefects (node : Json) : List Defect :=
  match estimate? node with
  | some _ => []
  | none => [.missingCost node]

/-- What is wrong with the shape of what is below a node. -/
def plansDefects (node : Json) : List Defect :=
  match node.member? "Plans" with
  | none => []
  | some (.array _) => []
  | some found => [.plansNotAnArray found]

/-- The **defects of a node itself**, apart from those below it. -/
def ownDefects (node : Json) : List Defect := costDefects node ++ plansDefects node

/-- The defects of an entry: its root is missing, or those of the nodes in it. -/
def entryDefects (entry : Json) : List Defect :=
  match entry.member? "Plan" with
  | none => [.missingPlan entry]
  | some root => (nodesFrom root).flatMap ownDefects

/-- **All defects of a document**, in document order. -/
def defects : Json → List Defect
  | .array entries => entries.flatMap entryDefects
  | found => [.notAnArray found]

/-- The part of a document that a defect is about. -/
def Defect.offender : Defect → Json
  | .notAnArray found => found
  | .missingPlan entry => entry
  | .missingCost node => node
  | .plansNotAnArray found => found

/-- The wording of a defect ends with **the text of what is defective.** -/
theorem Defect.exists_detail_eq (defect : Defect) :
    ∃ wording, defect.detail = wording ++ defect.offender.compact := by
  cases defect <;> exact ⟨_, rfl⟩

theorem costDefects_eq_nil_iff {node : Json} :
    costDefects node = [] ↔ ∃ n, node.member? "Total Cost" = some (.number n) := by
  unfold costDefects estimate?
  cases node.member? "Total Cost" with
  | none => simp
  | some found => cases found <;> simp

theorem plansDefects_eq_nil_iff {node : Json} :
    plansDefects node = [] ↔
      node.member? "Plans" = none ∨ ∃ plans, node.member? "Plans" = some (.array plans) := by
  unfold plansDefects
  cases node.member? "Plans" with
  | none => simp
  | some found => cases found <;> simp

theorem ownDefects_eq_nil_iff {node : Json} : ownDefects node = [] ↔ WellFormedNode node := by
  rw [ownDefects, List.append_eq_nil_iff, costDefects_eq_nil_iff, plansDefects_eq_nil_iff,
    WellFormedNode]
  cases node with
  | object members => simp [Json.member?]
  | _ => simp [Json.member?]

theorem entryDefects_eq_nil_iff {entry : Json} : entryDefects entry = [] ↔ WellFormedEntry entry := by
  unfold WellFormedEntry entryDefects
  cases entry with
  | object members =>
      cases root : members.lookup "Plan" with
      | none => simp [Json.member?, root]
      | some root' =>
          simp [Json.member?, root, List.flatMap_eq_nil_iff, mem_nodesFrom, ownDefects_eq_nil_iff]
  | _ => simp [Json.member?]

/-- **Well-formed documents are those without defects.** -/
theorem defects_eq_nil_iff {document : Json} : defects document = [] ↔ WellFormed document := by
  unfold defects WellFormed
  cases document with
  | array entries => simp [List.flatMap_eq_nil_iff, entryDefects_eq_nil_iff]
  | _ => simp

/-! ### The first defect -/

section FirstDefect

variable {κ : Type} {sum : CostSum κ}

/-- The defect that something ended in, if it did. -/
def defect? : Except Defect κ → Option Defect
  | .ok _ => none
  | .error defect => some defect

theorem defect?_eq_some_iff {result : Except Defect κ} {defect : Defect} :
    defect? result = some defect ↔ result = .error defect := by
  cases result <;> simp [defect?]

theorem defect?_eq_none_iff {result : Except Defect κ} :
    defect? result = none ↔ ∃ cost, result = .ok cost := by
  cases result <;> simp [defect?]

/-- A sum stops at **the first defect of the first item that has one.** -/
theorem defect?_addUp {cost : Json → Except Defect κ} {listed : Json → List Defect}
    {items : List Json} (each : ∀ item ∈ items, defect? (cost item) = (listed item).head?)
    (total : κ) : defect? (addUp sum cost total items) = (items.flatMap listed).head? := by
  induction items generalizing total with
  | nil => rfl
  | cons item rest ih =>
      obtain ⟨first, later⟩ := List.forall_mem_cons.mp each
      rw [addUp_cons, List.flatMap_cons, List.head?_append, ← first]
      cases cost item with
      | error defect => rfl
      | ok c => exact ih later _

theorem defect?_ownCost (node : Json) : defect? (ownCost sum node) = (costDefects node).head? := by
  rw [ownCost_eq, costDefects]
  cases estimate? node <;> rfl

theorem defect?_costBelow {node : Json} {listed : Json → List Defect}
    (each : ∀ child ∈ children node, defect? (nodeCost sum child) = (listed child).head?) :
    defect? (costBelow sum node) =
      (plansDefects node ++ (children node).flatMap listed).head? := by
  unfold costBelow plansDefects
  unfold children at each ⊢
  cases member : node.member? "Plans" with
  | none => rfl
  | some found =>
      cases found with
      | array plans =>
          rw [member] at each
          exact defect?_addUp each sum.neutral
      | _ => rfl

/-- The cost of a node fails with **the first defect at or below the node.** -/
theorem defect?_nodeCost (node : Json) :
    defect? (nodeCost sum node) = ((nodesFrom node).flatMap ownDefects).head? := by
  induction node using node_induction with
  | below node ih =>
      have own : defect? (ownCost sum node) = _ := defect?_ownCost node
      have below := defect?_costBelow ih
      rw [nodesFrom_eq, List.flatMap_cons, List.flatMap_assoc, ownDefects, List.append_assoc,
        List.head?_append, ← own, ← below, nodeCost_eq]
      cases ownCost sum node with
      | error defect => rfl
      | ok c => cases costBelow sum node <;> rfl

theorem defect?_entryCost (entry : Json) :
    defect? (entryCost sum entry) = (entryDefects entry).head? := by
  unfold entryCost entryDefects
  cases entry.member? "Plan" with
  | none => rfl
  | some root => exact defect?_nodeCost root

/-- **The first defect of a document is the one that stops the sum.** -/
theorem defect?_documentCost (document : Json) :
    defect? (documentCost sum document) = (defects document).head? := by
  cases document with
  | array entries =>
      rw [documentCost, entriesCost_eq]
      exact defect?_addUp (fun entry _ => defect?_entryCost entry) sum.zero
  | _ => rfl

end FirstDefect

/-! ### What is added up -/

/-- The sum that **writes its estimates down** in the order in which it takes them. -/
def CostSum.listing : CostSum (List Json.Number) := ⟨fun n => [n], (· ++ ·), [], []⟩

theorem foldl_listing (total : List Json.Number) (costs : List (List Json.Number)) :
    costs.foldl CostSum.listing.add total = total ++ costs.flatten := by
  induction costs generalizing total with
  | nil => simp
  | cons cost rest ih =>
      rw [List.foldl_cons, ih, List.flatten_cons]
      exact List.append_assoc ..

/-- What is listed item by item is listed as a whole. -/
theorem estimates_flatMap {P : Json → List Json.Number → Prop} {below : Json → List Json}
    {items : List Json} {costs : List (List Json.Number)} (all : List.Forall₂ P items costs)
    (each : ∀ item ∈ items, ∀ c, P item c → (below item).map estimate? = c.map some) :
    (items.flatMap below).map estimate? = costs.flatten.map some := by
  induction all with
  | nil => rfl
  | cons one _ ih =>
      obtain ⟨first, later⟩ := List.forall_mem_cons.mp each
      rw [List.flatMap_cons, List.flatten_cons, List.map_append, List.map_append, first _ one,
        ih later]

/-- The cost of a node takes **the estimate of every node that can be reached, once.** -/
theorem estimates_of_costs {node : Json} {listed : List Json.Number}
    (costs : Costs .listing node listed) :
    (nodesFrom node).map estimate? = listed.map some := by
  induction node using node_induction generalizing listed with
  | below node ih =>
      rw [nodesFrom_eq, List.map_cons]
      cases costs with
      | @leaf _ n own childless =>
          rw [own, children, childless]
          rfl
      | @inner _ n plans costs own member below =>
          rw [children_of_array member] at ih ⊢
          rw [own, estimates_flatMap below fun child among c => ih child among, foldl_listing]
          rfl

/-- The cost of a document takes **the estimate of every node of the document, once.** -/
theorem estimates_of_documentCosts {document : Json} {listed : List Json.Number}
    (costs : DocumentCosts .listing document listed) :
    (nodes document).map estimate? = listed.map some := by
  obtain ⟨entries, each, rfl, costed, rfl⟩ := costs
  rw [foldl_listing, nodes]
  apply estimates_flatMap costed
  rintro entry - c ⟨root, present, rootCosts⟩
  simp [present, estimates_of_costs rootCosts]

/-! ### The verdict on a document -/

/-- What is expected of **the cost of a document.** -/
structure Judged (document : Json) : Prop where
  /-- There is a cost exactly for a well-formed document. -/
  accepted : (∃ cost, totalCost document = .ok cost) ↔ WellFormed document
  /-- Otherwise the first defect is reported. -/
  refused : ¬ WellFormed document → ∃ defect, (defects document).head? = some defect ∧
    totalCost document = .error (.plan defect.detail)
  /-- The report shows the part of the document that is defective. -/
  shown : ∀ defect ∈ defects document,
    ∃ wording, defect.detail = wording ++ defect.offender.compact
  /-- The cost is the sum of doubles over the entries, each with the sum over its nodes. -/
  value : ∀ cost, totalCost document = .ok cost ↔ DocumentCosts .float document cost
  /-- The sum takes the estimate of every node once. -/
  once : WellFormed document → ∃ listed, DocumentCosts .listing document listed ∧
    (nodes document).map estimate? = listed.map some

theorem exists_documentCosts_iff {κ : Type} {sum : CostSum κ} {document : Json} :
    (∃ cost, DocumentCosts sum document cost) ↔ WellFormed document := by
  simp only [← documentCost_eq_ok_iff]
  rw [← defect?_eq_none_iff, defect?_documentCost, List.head?_eq_none_iff, defects_eq_nil_iff]

theorem totalCost_eq_ok_iff {document : Json} {cost : Float} :
    totalCost document = .ok cost ↔ DocumentCosts .float document cost := by
  rw [← documentCost_eq_ok_iff, totalCost]
  cases documentCost CostSum.float document <;> simp

/-- A document is **within a budget** if its cost can be computed and does not exceed it. -/
theorem enforce_eq_ok_iff {budget cost : Float} {statement : String} {document : Json} :
    enforce budget statement document = .ok cost ↔
      totalCost document = .ok cost ∧ ¬ budget < cost := by
  unfold enforce
  cases totalCost document with
  | error error => simp [bind, Except.bind]
  | ok total =>
      simp only [bind, Except.bind, Except.ok.injEq]
      split
      · rename_i exceeds
        constructor
        · nofun
        · rintro ⟨rfl, within⟩
          exact absurd exceeds within
      · rename_i within
        constructor
        · intro same
          obtain rfl := Except.ok.inj same
          exact ⟨rfl, within⟩
        · rintro ⟨rfl, -⟩
          rfl

/-- A document that is not well-formed is refused with **its first defect.** -/
theorem exists_firstDefect {document : Json} (malformed : ¬ WellFormed document) :
    ∃ defect, (defects document).head? = some defect ∧
      totalCost document = .error (.plan defect.detail) := by
  have some_defect : defects document ≠ [] := fun none => malformed (defects_eq_nil_iff.mp none)
  obtain ⟨defect, rest, listed⟩ := List.exists_cons_of_ne_nil some_defect
  have first : (defects document).head? = some defect := by rw [listed, List.head?_cons]
  have stopped : documentCost CostSum.float document = .error defect := by
    rw [← defect?_eq_some_iff, defect?_documentCost, first]
  exact ⟨defect, first, by rw [totalCost, stopped]⟩

/-- **Every document is judged as expected**: well-formed documents have a cost, which is the sum over
all their nodes, and of any other document the first defect is reported. -/
theorem judged (document : Json) : Judged document where
  accepted := by
    simp only [totalCost_eq_ok_iff]
    exact exists_documentCosts_iff
  refused := exists_firstDefect
  shown defect _ := defect.exists_detail_eq
  value _ := totalCost_eq_ok_iff
  once wellFormed := by
    obtain ⟨listed, costs⟩ := exists_documentCosts_iff.mpr wellFormed
    exact ⟨listed, costs, estimates_of_documentCosts costs⟩

end TxRetry.Plan
