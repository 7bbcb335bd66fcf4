import TxRetry.Proofs.Plan.Budget

/-!
# No expensive node hides in a plan

Where no estimate is negative, the cost of a document is at least the estimate of each of its nodes,
however deep it lies and although the sums are rounded on the way.  Additions to a document, which
raise estimates or add nodes, never lower its cost.  So a budget refuses every document that has a
node above it, and goes on refusing it whatever is added.

## Main definitions

* `Weighs` — the cost of a node from which no negative estimate is reached
* `NodeAddition`, `Addition` — single additions to a node and to a document
* `Additions` — any number of them
* `NothingHides` — what is expected of a document without negative estimates

## Main statements

* `weighs_iff` — a weight is an estimate and the weights below
* `NodeAddition.exists_weighs`, `Addition.exists_documentWeighs` — one addition never lowers the cost
* `nothingHides` — documents without negative estimates are as expected
* `losesCost_of_nonNegative` — they never lose their cost

## Design notes

**An addition says only what a cost depends on**, the estimates and the children.  All other members
of a node or an entry may change with it.
-/

namespace TxRetry.Plan

/-! ### Sums of doubles that are not negative -/

section Sums

variable {total total' : Float} {costs costs' : List Float}

theorem zero_le_foldl (nonneg : 0.0 ≤ total) (each : ∀ cost ∈ costs, 0.0 ≤ cost) :
    0.0 ≤ costs.foldl (· + ·) total := by
  induction costs generalizing total with
  | nil => exact nonneg
  | cons cost rest ih =>
      obtain ⟨first, later⟩ := List.forall_mem_cons.mp each
      exact ih (Double.zero_le_add nonneg first) later

theorem le_foldl (nonneg : 0.0 ≤ total) (each : ∀ cost ∈ costs, 0.0 ≤ cost) :
    total ≤ costs.foldl (· + ·) total := by
  induction costs generalizing total with
  | nil => exact Double.le_refl nonneg
  | cons cost rest ih =>
      obtain ⟨first, later⟩ := List.forall_mem_cons.mp each
      have step : total ≤ total + cost := (Double.le_add nonneg first).1
      exact Double.le_trans nonneg step (ih (Double.zero_le_add nonneg first) later)

/-- A sum is **at least each of its summands.** -/
theorem le_foldl_of_mem (nonneg : 0.0 ≤ total) (each : ∀ cost ∈ costs, 0.0 ≤ cost) {cost : Float}
    (summand : cost ∈ costs) : cost ≤ costs.foldl (· + ·) total := by
  obtain ⟨before, after, rfl⟩ := List.append_of_mem summand
  obtain ⟨eachBefore, eachAfter⟩ := List.forall_mem_append.mp each
  obtain ⟨first, later⟩ := List.forall_mem_cons.mp eachAfter
  have start : 0.0 ≤ before.foldl (· + ·) total := zero_le_foldl nonneg eachBefore
  rw [List.foldl_append, List.foldl_cons]
  apply Double.le_trans first (Double.le_add start first).2
  exact le_foldl (Double.zero_le_add start first) later

/-- A sum does not fall **when it starts higher.** -/
theorem foldl_mono (nonneg : 0.0 ≤ total) (le : total ≤ total') (each : ∀ cost ∈ costs, 0.0 ≤ cost) :
    costs.foldl (· + ·) total ≤ costs.foldl (· + ·) total' := by
  induction costs generalizing total total' with
  | nil => exact le
  | cons cost rest ih =>
      obtain ⟨first, later⟩ := List.forall_mem_cons.mp each
      have step : total + cost ≤ total' + cost :=
        Double.add_le_add nonneg first le (Double.le_refl first)
      exact ih (Double.zero_le_add nonneg first) step later

/-- Nor does it when there is **one more summand.** -/
theorem foldl_le_foldl_insert (nonneg : 0.0 ≤ total) {before after : List Float} {cost : Float}
    (each : ∀ c ∈ before ++ after, 0.0 ≤ c) (inserted : 0.0 ≤ cost) :
    (before ++ after).foldl (· + ·) total ≤ (before ++ cost :: after).foldl (· + ·) total := by
  obtain ⟨eachBefore, eachAfter⟩ := List.forall_mem_append.mp each
  have start : 0.0 ≤ before.foldl (· + ·) total := zero_le_foldl nonneg eachBefore
  rw [List.foldl_append, List.foldl_append, List.foldl_cons]
  exact foldl_mono start (Double.le_add start inserted).1 eachAfter

/-- Nor does it **when a summand rises.** -/
theorem foldl_le_foldl_replace (nonneg : 0.0 ≤ total) {before after : List Float}
    {cost cost' : Float} (each : ∀ c ∈ before ++ cost :: after, 0.0 ≤ c) (le : cost ≤ cost') :
    (before ++ cost :: after).foldl (· + ·) total ≤
      (before ++ cost' :: after).foldl (· + ·) total := by
  obtain ⟨eachBefore, eachFrom⟩ := List.forall_mem_append.mp each
  obtain ⟨replaced, eachAfter⟩ := List.forall_mem_cons.mp eachFrom
  have start : 0.0 ≤ before.foldl (· + ·) total := zero_le_foldl nonneg eachBefore
  rw [List.foldl_append, List.foldl_append, List.foldl_cons, List.foldl_cons]
  apply foldl_mono (Double.zero_le_add start replaced) _ eachAfter
  exact Double.add_le_add start replaced (Double.le_refl start) le

end Sums

/-! ### Sums over items

Nodes have children and documents have entries; both are items with costs of their own here. -/

section Items

variable {P : Json → Float → Prop} {items before after : List Json} {costs : List Float}

theorem forall_cost_of_forall₂ {p : Float → Prop} (all : List.Forall₂ P items costs)
    (each : ∀ item ∈ items, ∀ cost, P item cost → p cost) : ∀ cost ∈ costs, p cost := by
  induction all with
  | nil => nofun
  | cons one _ ih =>
      obtain ⟨first, later⟩ := List.forall_mem_cons.mp each
      exact List.forall_mem_cons.mpr ⟨first _ one, ih later⟩

theorem exists_cost_of_forall₂ (all : List.Forall₂ P items costs) {item : Json}
    (among : item ∈ items) : ∃ cost ∈ costs, P item cost := by
  induction all with
  | nil => cases among
  | @cons _ cost _ _ one _ ih =>
      rcases List.mem_cons.mp among with rfl | further
      · exact ⟨cost, List.mem_cons_self, one⟩
      · obtain ⟨cost', summand, has⟩ := ih further
        exact ⟨cost', List.mem_cons_of_mem _ summand, has⟩

theorem exists_append_of_forall₂ (all : List.Forall₂ P (before ++ after) costs) :
    ∃ costsBefore costsAfter, costs = costsBefore ++ costsAfter ∧
      List.Forall₂ P before costsBefore ∧ List.Forall₂ P after costsAfter := by
  induction before generalizing costs with
  | nil => exact ⟨[], costs, rfl, .nil, all⟩
  | cons item rest ih =>
      cases all with
      | @cons _ cost _ _ one all =>
          obtain ⟨costsBefore, costsAfter, rfl, each, eachAfter⟩ := ih all
          exact ⟨cost :: costsBefore, costsAfter, rfl, .cons one each, eachAfter⟩

variable {total : Float} (nonneg : 0.0 ≤ total) (each : ∀ cost ∈ costs, 0.0 ≤ cost)
include nonneg each

/-- **One more item** does not lower the sum. -/
theorem exists_inserted (all : List.Forall₂ P (before ++ after) costs) {item : Json} {cost : Float}
    (new : P item cost) (newNonneg : 0.0 ≤ cost) :
    ∃ costs', List.Forall₂ P (before ++ item :: after) costs' ∧
      costs.foldl (· + ·) total ≤ costs'.foldl (· + ·) total := by
  obtain ⟨costsBefore, costsAfter, rfl, allBefore, allAfter⟩ := exists_append_of_forall₂ all
  refine ⟨costsBefore ++ cost :: costsAfter, List.rel_append allBefore (.cons new allAfter), ?_⟩
  exact foldl_le_foldl_insert nonneg each newNonneg

/-- Nor does an item **that costs more.** -/
theorem exists_replaced {item item' : Json} (all : List.Forall₂ P (before ++ item :: after) costs)
    (more : ∀ cost, P item cost → ∃ cost', P item' cost' ∧ cost ≤ cost') :
    ∃ costs', List.Forall₂ P (before ++ item' :: after) costs' ∧
      costs.foldl (· + ·) total ≤ costs'.foldl (· + ·) total := by
  obtain ⟨costsBefore, costsFrom, rfl, allBefore, allFrom⟩ := exists_append_of_forall₂ all
  cases allFrom with
  | @cons _ cost _ costsAfter one allAfter =>
      obtain ⟨cost', one', le⟩ := more cost one
      refine ⟨costsBefore ++ cost' :: costsAfter, List.rel_append allBefore (.cons one' allAfter), ?_⟩
      exact foldl_le_foldl_replace nonneg each le

end Items

/-! ### Weights -/

/-- The estimate of a node is not negative, if it states one. -/
def NonNegativeNode (node : Json) : Prop := ∀ n, estimate? node = some n → 0.0 ≤ n.toFloat

/-- The **cost of a node** from which no negative estimate is reached. -/
structure Weighs (node : Json) (cost : Float) : Prop where
  costs : Costs .float node cost
  nonneg : ∀ below, Reaches node below → NonNegativeNode below

/-- What the children of a node weigh. -/
def WeighsBelow (node : Json) (cost : Float) : Prop :=
  (node.member? "Plans" = none ∧ cost = 0.0) ∨
    ∃ plans costs, node.member? "Plans" = some (.array plans) ∧
      List.Forall₂ Weighs plans costs ∧ cost = costs.foldl (· + ·) (-0.0)

theorem weighsBelow_of_childless {node : Json} (childless : node.member? "Plans" = none)
    {cost : Float} : WeighsBelow node cost ↔ cost = 0.0 := by
  simp [WeighsBelow, childless]

theorem weighsBelow_of_array {node : Json} {plans : List Json}
    (member : node.member? "Plans" = some (.array plans)) {cost : Float} :
    WeighsBelow node cost ↔
      ∃ costs, List.Forall₂ Weighs plans costs ∧ cost = costs.foldl (· + ·) (-0.0) := by
  simp [WeighsBelow, member]

theorem nonNegativeNode_of_reaches {node : Json} :
    (∀ below, Reaches node below → NonNegativeNode below) ↔
      NonNegativeNode node ∧
        ∀ child ∈ children node, ∀ below, Reaches child below → NonNegativeNode below := by
  constructor
  · intro nonneg
    refine ⟨nonneg node .refl, ?_⟩
    intro child among below reached
    exact nonneg below (.head among reached)
  · rintro ⟨own, each⟩ below reached
    rcases Relation.ReflTransGen.cases_head_iff.mp reached with rfl | ⟨child, among, further⟩
    · exact own
    · exact each child among below further

theorem forall₂_weighs {plans : List Json} {costs : List Float} :
    List.Forall₂ Weighs plans costs ↔
      (∀ child ∈ plans, ∀ below, Reaches child below → NonNegativeNode below) ∧
        List.Forall₂ (Costs .float) plans costs := by
  rw [← List.forall₂_and_left]
  constructor
  · intro each
    exact each.imp fun child cost weighs => ⟨weighs.nonneg, weighs.costs⟩
  · intro each
    exact each.imp fun child cost both => ⟨both.2, both.1⟩

/-- A weight is **the estimate and the weights below.** -/
theorem weighs_iff {node : Json} {cost : Float} :
    Weighs node cost ↔
      ∃ n below, estimate? node = some n ∧ 0.0 ≤ n.toFloat ∧ WeighsBelow node below ∧
        cost = n.toFloat + below := by
  constructor
  · rintro ⟨costs, nonneg⟩
    obtain ⟨ownNonneg, eachNonneg⟩ := nonNegativeNode_of_reaches.mp nonneg
    obtain ⟨n, below, own, costsBelow, rfl⟩ := costs_iff.mp costs
    refine ⟨n, below, own, ownNonneg n own, ?_, rfl⟩
    rcases costsBelow with childless | ⟨plans, costs, member, each, sum⟩
    · exact .inl childless
    · rw [children_of_array member] at eachNonneg
      exact .inr ⟨plans, costs, member, forall₂_weighs.mpr ⟨eachNonneg, each⟩, sum⟩
  · rintro ⟨n, below, own, ownNonneg, weighsBelow, rfl⟩
    have ownNonneg' : NonNegativeNode node := by
      intro n' own'
      rw [own] at own'
      obtain rfl := Option.some.inj own'
      exact ownNonneg
    rcases weighsBelow with ⟨childless, rfl⟩ | ⟨plans, costs, member, each, rfl⟩
    · refine ⟨.leaf own childless, nonNegativeNode_of_reaches.mpr ⟨ownNonneg', ?_⟩⟩
      rw [children, childless]
      exact List.forall_mem_nil _
    · obtain ⟨eachNonneg, each⟩ := forall₂_weighs.mp each
      refine ⟨.inner own member each, nonNegativeNode_of_reaches.mpr ⟨ownNonneg', ?_⟩⟩
      rw [children_of_array member]
      exact eachNonneg

/-- The sum over children starts from minus zero, which is **not negative.** -/
theorem zero_le_neutral : (0.0 : Float) ≤ -0.0 := by decide +kernel

theorem zero_le_zero : (0.0 : Float) ≤ 0.0 := by decide +kernel

theorem Weighs.zero_le {node : Json} {cost : Float} (weighs : Weighs node cost) : 0.0 ≤ cost := by
  induction node using node_induction generalizing cost with
  | below node ih =>
      obtain ⟨n, below, own, ownNonneg, weighsBelow, rfl⟩ := weighs_iff.mp weighs
      apply Double.zero_le_add ownNonneg
      rcases weighsBelow with ⟨childless, rfl⟩ | ⟨plans, costs, member, each, rfl⟩
      · exact zero_le_zero
      · rw [children_of_array member] at ih
        apply zero_le_foldl zero_le_neutral
        exact forall_cost_of_forall₂ each fun child among cost => ih child among

theorem forall_zero_le {plans : List Json} {costs : List Float}
    (each : List.Forall₂ Weighs plans costs) : ∀ cost ∈ costs, 0.0 ≤ cost :=
  forall_cost_of_forall₂ each fun _ _ _ weighs => weighs.zero_le

theorem WeighsBelow.zero_le {node : Json} {cost : Float} (weighs : WeighsBelow node cost) :
    0.0 ≤ cost := by
  rcases weighs with ⟨childless, rfl⟩ | ⟨plans, costs, member, each, rfl⟩
  · exact zero_le_zero
  · exact zero_le_foldl zero_le_neutral (forall_zero_le each)

/-- **No estimate below a node exceeds its weight.** -/
theorem Weighs.estimate_le {node below : Json} {cost : Float} (weighs : Weighs node cost)
    (reached : Reaches node below) {n : Json.Number} (estimate : estimate? below = some n) :
    n.toFloat ≤ cost := by
  induction node using node_induction generalizing cost with
  | below node ih =>
      obtain ⟨own, rest, ownEstimate, ownNonneg, weighsBelow, rfl⟩ := weighs_iff.mp weighs
      have atLeast := Double.le_add ownNonneg weighsBelow.zero_le
      rcases Relation.ReflTransGen.cases_head_iff.mp reached with rfl | ⟨child, among, further⟩
      · rw [ownEstimate] at estimate
        obtain rfl := Option.some.inj estimate
        exact atLeast.1
      · rcases weighsBelow with ⟨childless, rfl⟩ | ⟨plans, costs, member, each, rfl⟩
        · rw [children, childless] at among
          cases among
        · have inPlans : child ∈ plans := children_of_array member ▸ among
          obtain ⟨childCost, summand, childWeighs⟩ := exists_cost_of_forall₂ each inPlans
          have inChild : n.toFloat ≤ childCost := ih child among childWeighs further
          have inSum := le_foldl_of_mem zero_le_neutral (forall_zero_le each) summand
          have nonneg : 0.0 ≤ n.toFloat := weighs.nonneg below reached n estimate
          exact Double.le_trans nonneg inChild (Double.le_trans childWeighs.zero_le inSum atLeast.2)

/-! ### The weight of a document -/

/-- The cost of an entry from whose root no negative estimate is reached. -/
def EntryWeighs (entry : Json) (cost : Float) : Prop :=
  ∃ root, entry.member? "Plan" = some root ∧ Weighs root cost

/-- **No estimate of a document is negative.** -/
def NonNegative (document : Json) : Prop := ∀ node ∈ nodes document, NonNegativeNode node

/-- The cost of a document without negative estimates. -/
def DocumentWeighs (document : Json) (total : Float) : Prop :=
  ∃ entries costs, document = .array entries ∧ List.Forall₂ EntryWeighs entries costs ∧
    total = costs.foldl (· + ·) 0.0

theorem mem_nodes {entries : List Json} {node : Json} :
    node ∈ nodes (.array entries) ↔
      ∃ entry ∈ entries, ∃ root, entry.member? "Plan" = some root ∧ Reaches root node := by
  simp [nodes, mem_nodesFrom]

theorem documentWeighs_iff {document : Json} {total : Float} :
    DocumentWeighs document total ↔ totalCost document = .ok total ∧ NonNegative document := by
  rw [totalCost_eq_ok_iff]
  constructor
  · rintro ⟨entries, costs, rfl, each, rfl⟩
    constructor
    · refine ⟨entries, costs, rfl, each.imp ?_, rfl⟩
      rintro entry cost ⟨root, present, weighs⟩
      exact ⟨root, present, weighs.costs⟩
    · intro node listed
      obtain ⟨entry, among, root, present, reached⟩ := mem_nodes.mp listed
      obtain ⟨cost, -, root', present', weighs⟩ := exists_cost_of_forall₂ each among
      rw [present] at present'
      obtain rfl := Option.some.inj present'
      exact weighs.nonneg node reached
  · rintro ⟨⟨entries, costs, rfl, each, rfl⟩, nonneg⟩
    have eachNonneg : ∀ entry ∈ entries, ∀ root, entry.member? "Plan" = some root →
        ∀ node, Reaches root node → NonNegativeNode node := by
      intro entry among root present node reached
      exact nonneg node (mem_nodes.mpr ⟨entry, among, root, present, reached⟩)
    refine ⟨entries, costs, rfl, ?_, rfl⟩
    apply ((List.forall₂_and_left _ _).mpr ⟨eachNonneg, each⟩).imp
    rintro entry cost ⟨entryNonneg, root, present, costs⟩
    exact ⟨root, present, costs, entryNonneg root present⟩

theorem forall_entry_zero_le {entries : List Json} {costs : List Float}
    (each : List.Forall₂ EntryWeighs entries costs) : ∀ cost ∈ costs, 0.0 ≤ cost :=
  forall_cost_of_forall₂ each fun _ _ _ ⟨_, _, weighs⟩ => weighs.zero_le

theorem DocumentWeighs.zero_le {document : Json} {total : Float}
    (weighs : DocumentWeighs document total) : 0.0 ≤ total := by
  obtain ⟨entries, costs, rfl, each, rfl⟩ := weighs
  exact zero_le_foldl zero_le_zero (forall_entry_zero_le each)

/-- **No estimate of a document exceeds its weight.** -/
theorem DocumentWeighs.estimate_le {document node : Json} {total : Float}
    (weighs : DocumentWeighs document total) (listed : node ∈ nodes document) {n : Json.Number}
    (estimate : estimate? node = some n) : n.toFloat ≤ total := by
  obtain ⟨entries, costs, rfl, each, rfl⟩ := weighs
  obtain ⟨entry, among, root, present, reached⟩ := mem_nodes.mp listed
  obtain ⟨cost, summand, root', present', rootWeighs⟩ := exists_cost_of_forall₂ each among
  rw [present] at present'
  obtain rfl := Option.some.inj present'
  have nonneg : 0.0 ≤ n.toFloat := rootWeighs.nonneg node reached n estimate
  exact Double.le_trans nonneg (rootWeighs.estimate_le reached estimate)
    (le_foldl_of_mem zero_le_zero (forall_entry_zero_le each) summand)

/-! ### Additions -/

/-- A **single addition to a node or below it**: an estimate rises, or there is one more child, which
is a node without negative estimates. -/
inductive NodeAddition : Json → Json → Prop
  | raised {node node' n n'} (own : estimate? node = some n) (own' : estimate? node' = some n')
      (more : n.toFloat ≤ n'.toFloat) (kept : node'.member? "Plans" = node.member? "Plans") :
      NodeAddition node node'
  | firstChild {node node' child cost} (kept : estimate? node' = estimate? node)
      (childless : node.member? "Plans" = none)
      (member : node'.member? "Plans" = some (.array [child])) (weighs : Weighs child cost) :
      NodeAddition node node'
  | child {node node' before child after cost} (kept : estimate? node' = estimate? node)
      (member : node.member? "Plans" = some (.array (before ++ after)))
      (member' : node'.member? "Plans" = some (.array (before ++ child :: after)))
      (weighs : Weighs child cost) :
      NodeAddition node node'
  | deeper {node node' before child child' after} (kept : estimate? node' = estimate? node)
      (member : node.member? "Plans" = some (.array (before ++ child :: after)))
      (member' : node'.member? "Plans" = some (.array (before ++ child' :: after)))
      (inside : NodeAddition child child') :
      NodeAddition node node'

/-- A **single addition to a document**: one more entry without negative estimates, or an addition to
the root of an entry or below it. -/
inductive Addition : Json → Json → Prop
  | entry {before entry after cost} (weighs : EntryWeighs entry cost) :
      Addition (.array (before ++ after)) (.array (before ++ entry :: after))
  | inside {before entry entry' after root root'} (present : entry.member? "Plan" = some root)
      (present' : entry'.member? "Plan" = some root') (inside : NodeAddition root root') :
      Addition (.array (before ++ entry :: after)) (.array (before ++ entry' :: after))

/-- **Any number of additions**, one after the other. -/
def Additions : Json → Json → Prop := Relation.ReflTransGen Addition

/-- A node weighs no less **when what is below it weighs no less.** -/
theorem exists_weighs_of_below {node node' : Json} {cost : Float} (weighs : Weighs node cost)
    (kept : estimate? node' = estimate? node)
    (more : ∀ below, WeighsBelow node below → ∃ below', WeighsBelow node' below' ∧ below ≤ below') :
    ∃ cost', Weighs node' cost' ∧ cost ≤ cost' := by
  obtain ⟨n, below, own, ownNonneg, weighsBelow, rfl⟩ := weighs_iff.mp weighs
  obtain ⟨below', weighsBelow', le⟩ := more below weighsBelow
  refine ⟨n.toFloat + below', ?_, ?_⟩
  · exact weighs_iff.mpr ⟨n, below', kept.trans own, ownNonneg, weighsBelow', rfl⟩
  · exact Double.add_le_add ownNonneg weighsBelow.zero_le (Double.le_refl ownNonneg) le

/-- **One addition to a node** does not lower its weight. -/
theorem NodeAddition.exists_weighs {node node' : Json} (addition : NodeAddition node node')
    {cost : Float} (weighs : Weighs node cost) : ∃ cost', Weighs node' cost' ∧ cost ≤ cost' := by
  induction addition generalizing cost with
  | @raised node node' n n' own own' more kept =>
      obtain ⟨n₀, below, own₀, ownNonneg, weighsBelow, rfl⟩ := weighs_iff.mp weighs
      rw [own] at own₀
      obtain rfl := Option.some.inj own₀
      have weighsBelow' : WeighsBelow node' below := by rwa [WeighsBelow, kept]
      refine ⟨n'.toFloat + below, ?_, ?_⟩
      · have ownNonneg' : 0.0 ≤ n'.toFloat := Double.zero_le_of_le ownNonneg more
        exact weighs_iff.mpr ⟨n', below, own', ownNonneg', weighsBelow', rfl⟩
      · exact Double.add_le_add ownNonneg weighsBelow.zero_le more (Double.le_refl weighsBelow.zero_le)
  | @firstChild node node' child childCost kept childless member childWeighs =>
      apply exists_weighs_of_below weighs kept
      intro below weighsBelow
      obtain rfl := (weighsBelow_of_childless childless).mp weighsBelow
      refine ⟨-0.0 + childCost, ?_, Double.zero_le_add zero_le_neutral childWeighs.zero_le⟩
      exact (weighsBelow_of_array member).mpr ⟨[childCost], .cons childWeighs .nil, rfl⟩
  | @child node node' before child after childCost kept member member' childWeighs =>
      apply exists_weighs_of_below weighs kept
      intro below weighsBelow
      obtain ⟨costs, each, rfl⟩ := (weighsBelow_of_array member).mp weighsBelow
      obtain ⟨costs', each', le⟩ :=
        exists_inserted zero_le_neutral (forall_zero_le each) each childWeighs childWeighs.zero_le
      exact ⟨_, (weighsBelow_of_array member').mpr ⟨costs', each', rfl⟩, le⟩
  | @deeper node node' before child child' after kept member member' _ ih =>
      apply exists_weighs_of_below weighs kept
      intro below weighsBelow
      obtain ⟨costs, each, rfl⟩ := (weighsBelow_of_array member).mp weighsBelow
      obtain ⟨costs', each', le⟩ :=
        exists_replaced zero_le_neutral (forall_zero_le each) each fun cost weighs => ih weighs
      exact ⟨_, (weighsBelow_of_array member').mpr ⟨costs', each', rfl⟩, le⟩

/-- **One addition to a document** does not lower its weight. -/
theorem Addition.exists_documentWeighs {document document' : Json}
    (addition : Addition document document') {total : Float}
    (weighs : DocumentWeighs document total) :
    ∃ total', DocumentWeighs document' total' ∧ total ≤ total' := by
  obtain ⟨entries, costs, rfl, each, rfl⟩ := weighs
  have nonneg := forall_entry_zero_le each
  cases addition with
  | entry new =>
      obtain ⟨root, present, rootWeighs⟩ := id new
      obtain ⟨costs', each', le⟩ := exists_inserted zero_le_zero nonneg each new rootWeighs.zero_le
      exact ⟨_, ⟨_, costs', rfl, each', rfl⟩, le⟩
  | @inside before entry entry' after root root' present present' inside =>
      have more : ∀ cost, EntryWeighs entry cost → ∃ cost', EntryWeighs entry' cost' ∧ cost ≤ cost' := by
        rintro cost ⟨root₀, present₀, rootWeighs⟩
        rw [present] at present₀
        obtain rfl := Option.some.inj present₀
        obtain ⟨cost', rootWeighs', le⟩ := inside.exists_weighs rootWeighs
        exact ⟨cost', ⟨root', present', rootWeighs'⟩, le⟩
      obtain ⟨costs', each', le⟩ := exists_replaced zero_le_zero nonneg each more
      exact ⟨_, ⟨_, costs', rfl, each', rfl⟩, le⟩

/-- **Nor do any number of additions.** -/
theorem Additions.exists_documentWeighs {document document' : Json}
    (additions : Additions document document') {total : Float}
    (weighs : DocumentWeighs document total) :
    ∃ total', DocumentWeighs document' total' ∧ total ≤ total' := by
  induction additions with
  | refl => exact ⟨total, weighs, Double.le_refl weighs.zero_le⟩
  | tail _ last ih =>
      obtain ⟨total', weighs', le⟩ := ih
      obtain ⟨total'', weighs'', le'⟩ := last.exists_documentWeighs weighs'
      exact ⟨total'', weighs'', Double.le_trans weighs.zero_le le le'⟩

/-! ### Plans against budgets -/

/-- What is expected of **a document without negative estimates**, and of its cost. -/
structure NothingHides (document : Json) (total : Float) : Prop where
  /-- No node costs more than the document. -/
  covered : ∀ node ∈ nodes document, ∀ n, estimate? node = some n → n.toFloat ≤ total
  /-- No additions lower the cost. -/
  grows : ∀ document', Additions document document' →
    ∃ total', totalCost document' = .ok total' ∧ total ≤ total'
  /-- A budget refuses the document if one node is above it. -/
  refused : ∀ budget statement, ∀ node ∈ nodes document, ∀ n, estimate? node = some n →
    budget < n.toFloat → enforce budget statement document =
      .error (.planCostExceeded budget total statement document.compact)
  /-- What is refused stays refused. -/
  staysRefused : ∀ budget statement error, enforce budget statement document = .error error →
    ∀ document', Additions document document' → ∃ total', totalCost document' = .ok total' ∧
      enforce budget statement document' =
        .error (.planCostExceeded budget total' statement document'.compact)

/-- Documents without negative estimates **never lose their cost.** -/
theorem losesCost_of_nonNegative {document : Json} {total : Float}
    (costed : totalCost document = .ok total) (nonneg : NonNegative document) :
    losesCost document = false := by
  have weighs : DocumentWeighs document total := documentWeighs_iff.mpr ⟨costed, nonneg⟩
  rw [losesCost_of_totalCost costed]
  exact (Double.isNaN_of_le weighs.zero_le).2

/-- **No expensive node hides in a plan.** -/
theorem nothingHides {document : Json} {total : Float} (costed : totalCost document = .ok total)
    (nonneg : NonNegative document) : NothingHides document total := by
  have weighs : DocumentWeighs document total := documentWeighs_iff.mpr ⟨costed, nonneg⟩
  constructor
  · intro node listed n estimate
    exact weighs.estimate_le listed estimate
  · intro document' additions
    obtain ⟨total', weighs', le⟩ := additions.exists_documentWeighs weighs
    exact ⟨total', (documentWeighs_iff.mp weighs').1, le⟩
  · intro budget statement node listed n estimate exceeds
    have covered : n.toFloat ≤ total := weighs.estimate_le listed estimate
    apply enforce_of_exceeds costed
    exact Double.lt_of_lt_of_le (nonneg node listed n estimate) exceeds covered
  · intro budget statement error refused document' additions
    obtain ⟨total', weighs', le⟩ := additions.exists_documentWeighs weighs
    have costed' : totalCost document' = .ok total' := (documentWeighs_iff.mp weighs').1
    have exceeds : budget < total := by
      by_contra within
      rw [enforce_eq_ok_iff.mpr ⟨costed, within⟩] at refused
      cases refused
    have exceeds' : budget < total' := Double.lt_of_lt_of_le weighs.zero_le exceeds le
    exact ⟨total', costed', enforce_of_exceeds costed' exceeds'⟩

/-- A document of a root and its child. -/
def twoNodes : Json := .array [entryOf (innerNode 8.5 [leafNode 0.5])]

theorem nothingHides_in_twoNodes :
    ∃ total, totalCost twoNodes = .ok total ∧ NonNegative twoNodes ∧ NothingHides twoNodes total := by
  have costed : totalCost twoNodes = .ok (0.0 + (8.5 + (-0.0 + (0.5 + 0.0)))) := by rfl
  have nonneg : NonNegative twoNodes := by
    intro node listed n estimate
    have either : node = innerNode 8.5 [leafNode 0.5] ∨ node = leafNode 0.5 := by
      simpa [twoNodes, entryOf, innerNode, leafNode, nodes, nodesFrom_eq, children, Json.member?,
        List.lookup] using listed
    rcases either with rfl | rfl
    · cases estimate
      decide +kernel
    · cases estimate
      decide +kernel
  exact ⟨_, costed, nonneg, nothingHides costed nonneg⟩

end TxRetry.Plan
