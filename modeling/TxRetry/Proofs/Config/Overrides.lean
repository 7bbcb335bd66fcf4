import TxRetry.Config.Environment
import TxRetry.Proofs.Config.Objects
import TxRetry.Proofs.Double.Addition

/-!
# Configurations from the environment

Five fields can be overridden, each by a variable of its own.  A variable that is set either spells a
value of its field or is rejected, and one that is rejected counts for nothing.  So every environment
gives a configuration in which the fields do not interfere, and in which the number of attempts and
the budget are in range.

## Main definitions

* `Numeral` — the texts that stand for a whole number
* `Config.Field.Spells`, `Config.Field.Rejects` — which value a text spells, and why it spells none
* `Environment.Overrides`, `Environment.Rejected` — the same of the variables of an environment
* `Config.OverriddenApart` — what is expected of the configuration from an environment

## Main statements

* `readUnsigned?_eq_some_iff` — numerals are read as what they stand for, below a bound
* `not_budget_iff` — a double is a budget, or it is lost, infinite or too low
* `Config.Field.exists_spells_or_rejects`, `Config.Field.not_spells_of_rejects` — every text spells a
  value or is rejected, and never both
* `Environment.given_eq_some_iff` — the values that an environment gives are those that are spelled
* `Config.overriddenApart` — overrides do not interfere, and fall back to the defaults
-/

namespace TxRetry

/-! ### Numerals -/

/-- A text **stands for a whole number**: its decimal digits, with a plus sign or without. -/
def Numeral (text : String) (n : Nat) : Prop :=
  ∃ digits, (text.toList = digits ∨ text.toList = '+' :: digits) ∧
    digits ≠ [] ∧ (∀ c ∈ digits, c.isDigit = true) ∧ ofDigits digits = n

/-- **Numerals are read as what they stand for**, if that is below the bound. -/
theorem readUnsigned?_eq_some_iff {bound n : Nat} {text : String} :
    readUnsigned? bound text = some n ↔ Numeral text n ∧ n < bound := by
  unfold readUnsigned?
  extract_lets digits
  have spelled : text.toList = digits ∨ text.toList = '+' :: digits := by
    unfold digits
    split
    · rename_i rest signed
      exact .inr signed
    · exact .inl rfl
  constructor
  · intro read
    split_ifs at read with bad fits
    obtain rfl := Option.some.inj read
    simp only [Bool.or_eq_true, List.isEmpty_iff, Bool.not_eq_true', not_or,
      Bool.not_eq_false, List.all_eq_true] at bad
    exact ⟨⟨digits, spelled, bad.1, bad.2, rfl⟩, fits⟩
  · rintro ⟨⟨others, otherwise, some, each, rfl⟩, fits⟩
    -- A plus sign is no digit, so there is only one way to take it off.
    have same : digits = others := by
      unfold digits
      split
      · rename_i rest signed
        rcases otherwise with plain | plus
        · have among : '+' ∈ others := by
            rw [← plain, signed]
            exact List.mem_cons_self
          cases each '+' among
        · exact (List.cons.inj (signed.symm.trans plus)).2
      · rename_i unsigned
        exact otherwise.resolve_right (unsigned others)
    rw [same, if_neg (by simpa using ⟨some, each⟩), if_pos fits]

/-- No text stands for two numbers. -/
theorem Numeral.unique {text : String} {m n : Nat} (numeral : Numeral text m)
    (other : Numeral text n) : m = n := by
  have read : readUnsigned? (max m n + 1) text = some m :=
    readUnsigned?_eq_some_iff.mpr ⟨numeral, by omega⟩
  have reread : readUnsigned? (max m n + 1) text = some n :=
    readUnsigned?_eq_some_iff.mpr ⟨other, by omega⟩
  exact Option.some.inj (read.symm.trans reread)

/-! ### Budgets -/

/-- A double is a budget unless it is **lost, infinite or too low.** -/
theorem not_budget_iff {cost : Float} :
    ¬ (cost.isFinite = true ∧ 0 < cost) ↔
      cost.isNaN = true ∨ cost.isInf = true ∨ cost ≤ 0 := by
  have zero : (0 : Float).isNaN = false := by decide +kernel
  cases finite : cost.isFinite with
  | false =>
      have infinite := Double.isFinite_eq_false_iff.mp finite
      exact iff_of_true (by simp) (infinite.imp_right .inl)
  | true =>
      have number : cost.isNaN = false := Double.isNaN_of_isFinite finite
      have bounded : cost.isInf = false := by
        by_contra endless
        rw [Bool.not_eq_false] at endless
        cases finite.symm.trans (Double.isFinite_eq_false_iff.mpr (.inr endless))
      rw [number, bounded]
      simp [Double.not_lt_iff_le zero number]

/-! ### What texts say to fields -/

namespace Config.Field

/-- The variable that **overrides a field**, if there is one. -/
def override? : Field → Option String
  | .maxRetries => some "TRANSACTOR_MAX_RETRIES"
  | .statementTimeoutGrace => some "TRANSACTOR_TIMEOUT_GRACE_SECS"
  | .maxPlanCost => some "TRANSACTOR_MAX_PLAN_COST"
  | .disableSeqscan => some "TRANSACTOR_DISABLE_SEQSCAN"
  | .statementLogLevel => some "TRANSACTOR_STATEMENT_LOG_LEVEL"
  | _ => none

/-- The bound below which a field takes whole numbers, if it takes any. -/
def bound? : Field → Option Nat
  | .maxRetries => some UInt32.size
  | .statementTimeoutGrace => some UInt64.size
  | _ => none

/-- The words for yes and for no. -/
def flagWords : Bool → List String
  | true => ["1", "true", "on", "yes"]
  | false => ["0", "false", "off", "no"]

/-- A text in small letters. -/
def lowered (text : String) : String := String.ofList (text.toList.map Char.toLower)

/-- A text **spells a value** of a field. -/
def Spells : (field : Field) → String → field.Value → Prop
  | .maxRetries, text, attempts =>
    ∃ n, Numeral text n ∧ n < UInt32.size ∧ n ≠ 0 ∧ attempts = .ofNat n
  | .statementTimeoutGrace, text, grace =>
    ∃ secs, Numeral text secs ∧ secs < UInt64.size ∧ grace = .ofSecs secs
  | .maxPlanCost, text, budget =>
    ∃ cost, readFloat? text = some cost ∧ cost.isFinite = true ∧ 0 < cost ∧ budget = some cost
  | .disableSeqscan, text, disabled => lowered text ∈ flagWords disabled
  | .statementLogLevel, text, level => lowered text = lowered level.name
  | _, _, _ => False

/-- Why a field **rejects** a text. -/
inductive Rejects : Field → String → Prop
  | noNumeral {field : Field} {bound : Nat} {text : String} (counts : field.bound? = some bound)
      (unread : ∀ n, ¬ Numeral text n) : Rejects field text
  | outOfRange {field : Field} {bound n : Nat} {text : String} (counts : field.bound? = some bound)
      (numeral : Numeral text n) (large : bound ≤ n) : Rejects field text
  | noAttempts {text : String} (numeral : Numeral text 0) : Rejects .maxRetries text
  | noNumber {text : String} (unread : readFloat? text = none) : Rejects .maxPlanCost text
  | notANumber {text : String} {cost : Float} (read : readFloat? text = some cost)
      (lost : cost.isNaN = true) : Rejects .maxPlanCost text
  | infinite {text : String} {cost : Float} (read : readFloat? text = some cost)
      (endless : cost.isInf = true) : Rejects .maxPlanCost text
  | notPositive {text : String} {cost : Float} (read : readFloat? text = some cost)
      (low : cost ≤ 0) : Rejects .maxPlanCost text
  | unknownFlag {text : String} (unknown : ∀ disabled, lowered text ∉ flagWords disabled) :
      Rejects .disableSeqscan text
  | unknownLevel {text : String} (unknown : ∀ level : LogLevel, lowered text ≠ lowered level.name) :
      Rejects .statementLogLevel text

theorem flagWords_disjoint : ∀ word ∈ flagWords true, word ∉ flagWords false := by
  decide

section Texts

variable {field : Field} {text name : String} {bound : Nat}

/-- A field that takes whole numbers **takes a numeral below its bound**, or it rejects the text. -/
theorem exists_numeral_or_rejects (counts : field.bound? = some bound) (text : String) :
    (∃ n, Numeral text n ∧ n < bound) ∨ field.Rejects text := by
  by_cases read : ∃ n, Numeral text n
  · obtain ⟨n, numeral⟩ := read
    rcases Nat.lt_or_ge n bound with fits | large
    · exact .inl ⟨n, numeral, fits⟩
    · exact .inr (.outOfRange counts numeral large)
  · exact .inr (.noNumeral counts (not_exists.mp read))

/-- The texts that spell its values are such numerals. -/
theorem exists_numeral_of_spells (counts : field.bound? = some bound) {value : field.Value}
    (spells : field.Spells text value) : ∃ n, Numeral text n ∧ n < bound := by
  cases field with
  | maxRetries =>
      cases counts
      obtain ⟨n, numeral, fits, -⟩ := spells
      exact ⟨n, numeral, fits⟩
  | statementTimeoutGrace =>
      cases counts
      obtain ⟨secs, numeral, fits, -⟩ := spells
      exact ⟨secs, numeral, fits⟩
  | _ => cases counts

/-- A text **spells a value of the field that it overrides, or is rejected.** -/
theorem exists_spells_or_rejects (overridden : field.override? = some name) (text : String) :
    (∃ value, field.Spells text value) ∨ field.Rejects text := by
  cases field with
  | maxRetries =>
      have counts : bound? .maxRetries = some UInt32.size := rfl
      rcases exists_numeral_or_rejects counts text with ⟨n, numeral, fits⟩ | rejects
      · by_cases none : n = 0
        · exact .inr (.noAttempts (none ▸ numeral))
        · exact .inl ⟨.ofNat n, n, numeral, fits, none, rfl⟩
      · exact .inr rejects
  | statementTimeoutGrace =>
      have counts : bound? .statementTimeoutGrace = some UInt64.size := rfl
      rcases exists_numeral_or_rejects counts text with ⟨secs, numeral, fits⟩ | rejects
      · exact .inl ⟨.ofSecs secs, secs, numeral, fits, rfl⟩
      · exact .inr rejects
  | maxPlanCost =>
      cases read : readFloat? text with
      | none => exact .inr (.noNumber read)
      | some cost =>
          by_cases budget : cost.isFinite = true ∧ 0 < cost
          · exact .inl ⟨some cost, cost, read, budget.1, budget.2, rfl⟩
          · rcases not_budget_iff.mp budget with lost | endless | low
            · exact .inr (.notANumber read lost)
            · exact .inr (.infinite read endless)
            · exact .inr (.notPositive read low)
  | disableSeqscan =>
      by_cases known : ∃ disabled, lowered text ∈ flagWords disabled
      · exact .inl known
      · exact .inr (.unknownFlag (not_exists.mp known))
  | statementLogLevel =>
      by_cases known : ∃ level : LogLevel, lowered text = lowered level.name
      · exact .inl known
      · exact .inr (.unknownLevel (not_exists.mp known))
  | _ => cases overridden

/-- A number that is read but is no budget **spells none.** -/
theorem not_spells_of_low {cost : Float} (read : readFloat? text = some cost)
    (low : cost.isNaN = true ∨ cost.isInf = true ∨ cost ≤ 0) (budget : Option Float) :
    ¬ Spells .maxPlanCost text budget := by
  rintro ⟨other, reread, finite, positive, -⟩
  obtain rfl := Option.some.inj (read.symm.trans reread)
  exact not_budget_iff.mpr low ⟨finite, positive⟩

/-- It **never does both.** -/
theorem not_spells_of_rejects (rejects : field.Rejects text) (value : field.Value) :
    ¬ field.Spells text value := by
  intro spells
  cases rejects with
  | noNumeral counts unread =>
      obtain ⟨n, numeral, -⟩ := exists_numeral_of_spells counts spells
      exact unread n numeral
  | outOfRange counts numeral large =>
      obtain ⟨n, other, fits⟩ := exists_numeral_of_spells counts spells
      exact absurd fits (numeral.unique other ▸ large.not_gt)
  | noAttempts numeral =>
      obtain ⟨n, other, -, some, -⟩ := spells
      exact some (other.unique numeral)
  | noNumber unread =>
      obtain ⟨cost, read, -⟩ := spells
      cases unread.symm.trans read
  | notANumber read lost => exact not_spells_of_low read (.inl lost) value spells
  | infinite read endless => exact not_spells_of_low read (.inr (.inl endless)) value spells
  | notPositive read low => exact not_spells_of_low read (.inr (.inr low)) value spells
  | unknownFlag unknown => exact unknown value spells
  | unknownLevel unknown => exact unknown value spells

/-- A variable is that of one field only. -/
theorem override?_injective {other : Field} (ofField : field.override? = some name)
    (ofOther : other.override? = some name) : field = other := by
  have same : field.override? = other.override? := ofField.trans ofOther.symm
  cases field <;> cases other <;> first | rfl | exact absurd same (by decide) | cases ofField

end Texts

end Config.Field

open Config (Field ofEnvironment)

/-! ### What environments give to fields -/

namespace Environment

/-- A variable **overrides a field with a value**: it is the field's own, and its text spells that
value. -/
def Overrides (env : Environment) (field : Field) (value : field.Value) : Prop :=
  ∃ name text, field.override? = some name ∧ env.text? name = some text ∧ field.Spells text value

/-- A variable is **rejected**: it is set to something that is no text, or to a text that its field
rejects. -/
def Rejected (env : Environment) (name : String) : Prop :=
  ∃ (field : Field) (bytes : ByteArray), field.override? = some name ∧ env name = some bytes ∧
    ∀ text, String.fromUTF8? bytes = some text → field.Rejects text

/-- The value that an environment gives to a field, if it gives any. -/
def given (env : Environment) : (field : Field) → Option field.Value
  | .maxRetries => env.maxRetries?
  | .statementTimeoutGrace => env.timeoutGrace?
  | .maxPlanCost => env.maxPlanCost?.map some
  | .disableSeqscan => env.disableSeqscan?
  | .statementLogLevel => env.statementLogLevel?
  | _ => none

variable {env other : Environment} {field : Field} {name : String}

theorem overrides_iff (own : field.override? = some name) {value : field.Value} :
    env.Overrides field value ↔ ∃ text, env.text? name = some text ∧ field.Spells text value := by
  simp [Overrides, own]

/-! Each of the five fields is read as `Field.Spells` says. -/

theorem maxRetries?_eq_some_iff {attempts : UInt32} :
    env.maxRetries? = some attempts ↔ env.Overrides .maxRetries attempts := by
  rw [overrides_iff rfl, maxRetries?]
  simp only [Option.bind_eq_bind, Option.bind_eq_some_iff]
  have nonzero (n : Nat) : (if n = 0 then none else some (UInt32.ofNat n)) = some attempts ↔
      n ≠ 0 ∧ attempts = .ofNat n := by
    split_ifs with zero <;> simp [zero, eq_comm]
  simp only [nonzero, readUnsigned?_eq_some_iff, Field.Spells, and_assoc]

theorem timeoutGrace?_eq_some_iff {grace : Duration} :
    env.timeoutGrace? = some grace ↔ env.Overrides .statementTimeoutGrace grace := by
  rw [overrides_iff rfl, timeoutGrace?]
  simp only [Option.bind_eq_bind, Option.bind_eq_some_iff, readUnsigned?_eq_some_iff,
    Option.some.injEq, Field.Spells, and_assoc, eq_comm (a := grace)]

theorem maxPlanCost?_eq_some_iff {cost : Float} :
    env.maxPlanCost? = some cost ↔ env.Overrides .maxPlanCost (some cost) := by
  rw [overrides_iff rfl, maxPlanCost?]
  simp only [Option.bind_eq_bind, Option.bind_eq_some_iff, positiveCost?_eq_some_iff]
  refine exists_congr fun text => and_congr_right fun _ => ⟨?_, ?_⟩
  · rintro ⟨_, read, rfl, finite, positive⟩
    exact ⟨_, read, finite, positive, rfl⟩
  · rintro ⟨other, read, finite, positive, same⟩
    obtain rfl := Option.some.inj same
    exact ⟨cost, read, rfl, finite, positive⟩

theorem disableSeqscan?_eq_some_iff {disabled : Bool} :
    env.disableSeqscan? = some disabled ↔ env.Overrides .disableSeqscan disabled := by
  rw [overrides_iff rfl, disableSeqscan?]
  simp only [Option.bind_eq_bind, Option.bind_eq_some_iff]
  refine exists_congr fun text => and_congr_right fun _ => ?_
  show (if Field.lowered text ∈ Field.flagWords true then some true
      else if Field.lowered text ∈ Field.flagWords false then some false else none) = some disabled ↔
    Field.lowered text ∈ Field.flagWords disabled
  by_cases yes : Field.lowered text ∈ Field.flagWords true
  · have notNo : Field.lowered text ∉ Field.flagWords false := Field.flagWords_disjoint _ yes
    cases disabled <;> simp [yes, notNo]
  · by_cases no : Field.lowered text ∈ Field.flagWords false <;> cases disabled <;> simp [yes, no]

theorem statementLogLevel?_eq_some_iff {level : LogLevel} :
    env.statementLogLevel? = some level ↔ env.Overrides .statementLogLevel level := by
  rw [overrides_iff rfl, statementLogLevel?]
  simp only [Option.bind_eq_bind, Option.bind_eq_some_iff, Config.ofName?_eq_some_iff]
  refine exists_congr fun text => and_congr_right fun _ => ?_
  exact String.ofList_inj.symm

/-- The values that an environment gives are **those that are spelled** in it. -/
theorem given_eq_some_iff {value : field.Value} :
    env.given field = some value ↔ env.Overrides field value := by
  cases field with
  | maxRetries => exact maxRetries?_eq_some_iff
  | statementTimeoutGrace => exact timeoutGrace?_eq_some_iff
  | maxPlanCost =>
      rw [given, Option.map_eq_some_iff]
      constructor
      · rintro ⟨cost, given, rfl⟩
        exact maxPlanCost?_eq_some_iff.mp given
      · intro overrides
        obtain ⟨cost, rfl⟩ : ∃ cost, value = some cost := by
          obtain ⟨_, _, _, _, cost, _, _, _, same⟩ := overrides
          exact ⟨cost, same⟩
        exact ⟨cost, maxPlanCost?_eq_some_iff.mpr overrides, rfl⟩
  | disableSeqscan => exact disableSeqscan?_eq_some_iff
  | statementLogLevel => exact statementLogLevel?_eq_some_iff
  | _ => simp [given, Overrides, Field.override?]

/-- To leave a variable as it is leaves what it overrides as it is. -/
theorem overrides_congr (own : field.override? = some name) (same : other name = env name)
    {value : field.Value} : other.Overrides field value ↔ env.Overrides field value := by
  rw [overrides_iff own, overrides_iff own, text?, text?, same]

/-- A variable that is set **overrides its field or is rejected.** -/
theorem overrides_or_rejected (own : field.override? = some name) (set : env name ≠ none) :
    (∃ value, env.Overrides field value) ∨ env.Rejected name := by
  obtain ⟨bytes, held⟩ := Option.ne_none_iff_exists'.mp set
  have rejected (rejects : ∀ text, String.fromUTF8? bytes = some text → field.Rejects text) :
      env.Rejected name := ⟨field, bytes, own, held, rejects⟩
  cases decoded : String.fromUTF8? bytes with
  | none => exact .inr (rejected (by simp [decoded]))
  | some text =>
      rcases Field.exists_spells_or_rejects own text with ⟨value, spells⟩ | rejects
      · refine .inl ⟨value, (overrides_iff own).mpr ⟨text, ?_, spells⟩⟩
        rw [text?, held, Option.bind_some, decoded]
      · exact .inr (rejected (by simpa [decoded] using rejects))

/-- A variable that is unset **overrides nothing.** -/
theorem not_overrides_of_unset (own : field.override? = some name) (unset : env name = none)
    (value : field.Value) : ¬ env.Overrides field value := by
  rw [overrides_iff own, text?, unset]
  rintro ⟨text, set, -⟩
  cases set

/-- Nor does one that is rejected. -/
theorem not_overrides_of_rejected (own : field.override? = some name) (rejected : env.Rejected name)
    (value : field.Value) : ¬ env.Overrides field value := by
  rw [overrides_iff own]
  rintro ⟨text, set, spells⟩
  obtain ⟨owner, bytes, owned, held, rejects⟩ := rejected
  obtain rfl := Field.override?_injective own owned
  rw [text?, held, Option.bind_some] at set
  exact Field.not_spells_of_rejects (rejects text set) value spells

end Environment

/-! ### The configuration from an environment -/

namespace Config

variable {env other : Environment} {field : Field}

/-- A field is **what its variable spells, or the default.** -/
theorem get_ofEnvironment (env : Environment) (field : Field) :
    (ofEnvironment env).get field = (env.given field).getD (({} : Config).get field) := by
  cases field with
  | maxPlanCost =>
      show env.maxPlanCost? = (env.maxPlanCost?.map some).getD none
      cases env.maxPlanCost? <;> rfl
  | _ => rfl

theorem get_of_overrides {value : field.Value} (overrides : env.Overrides field value) :
    (ofEnvironment env).get field = value := by
  rw [get_ofEnvironment, Environment.given_eq_some_iff.mpr overrides, Option.getD_some]

theorem get_of_not_overrides (nothing : ∀ value, ¬ env.Overrides field value) :
    (ofEnvironment env).get field = ({} : Config).get field := by
  have none : env.given field = none :=
    Option.eq_none_iff_forall_ne_some.mpr fun value given =>
      nothing value (Environment.given_eq_some_iff.mp given)
  rw [get_ofEnvironment, none, Option.getD_none]

theorem get_congr (same : ∀ value, other.Overrides field value ↔ env.Overrides field value) :
    (ofEnvironment other).get field = (ofEnvironment env).get field := by
  have given : other.given field = env.given field := Option.ext fun value => by
    rw [Environment.given_eq_some_iff, Environment.given_eq_some_iff, same value]
  rw [get_ofEnvironment, get_ofEnvironment, given]

/-- A field without a variable is not overridden. -/
theorem get_of_fixed (fixed : field.override? = none) :
    (ofEnvironment env).get field = ({} : Config).get field := by
  refine get_of_not_overrides ?_
  rintro value ⟨name, text, own, -⟩
  cases fixed.symm.trans own

/-- A number of attempts that is spelled is not zero, and neither is the default. -/
theorem one_le_maxRetries (env : Environment) : 1 ≤ (ofEnvironment env).maxRetries := by
  by_cases overridden : ∃ attempts, env.Overrides .maxRetries attempts
  · obtain ⟨attempts, overrides⟩ := overridden
    have same : (ofEnvironment env).maxRetries = attempts := get_of_overrides overrides
    obtain ⟨-, -, -, -, n, -, fits, some, rfl⟩ := overrides
    rw [same, UInt32.le_iff_toNat_le, UInt32.toNat_ofNat_of_lt' fits]
    exact Nat.one_le_iff_ne_zero.mpr some
  · have same : (ofEnvironment env).maxRetries = 50 :=
      get_of_not_overrides (not_exists.mp overridden)
    rw [same]
    decide

/-- A budget from an environment is a budget. -/
theorem isBudget_of_maxPlanCost {cost : Float}
    (configured : (ofEnvironment env).maxPlanCost = some cost) :
    cost.isFinite = true ∧ 0 < cost := by
  have given : env.maxPlanCost? = some cost := configured
  obtain ⟨-, -, -, -, spelled, -, finite, positive, same⟩ :=
    Environment.maxPlanCost?_eq_some_iff.mp given
  obtain rfl := Option.some.inj same
  exact ⟨finite, positive⟩

/-- **Variables that are rejected can be unset**, any number of them at once. -/
theorem ofEnvironment_cleared
    (clears : ∀ (field : Field) name, field.override? = some name →
      other name = env name ∨ other name = none ∧ env.Rejected name) :
    ofEnvironment other = ofEnvironment env := by
  refine eq_of_get fun field => ?_
  cases own : field.override? with
  | none => rw [get_of_fixed own, get_of_fixed own]
  | some name =>
      refine get_congr fun value => ?_
      rcases clears field name own with same | ⟨unset, rejected⟩
      · exact Environment.overrides_congr own same
      · exact iff_of_false (Environment.not_overrides_of_unset own unset value)
          (Environment.not_overrides_of_rejected own rejected value)

/-- What is expected of **the configuration from an environment.** -/
structure OverriddenApart (env : Environment) : Prop where
  /-- A variable that is set overrides its field or is rejected. -/
  decided : ∀ (field : Field) name, field.override? = some name → env name ≠ none →
    (∃ value, env.Overrides field value) ∨ env.Rejected name
  /-- A field is what its variable spells. -/
  overridden : ∀ (field : Field) (value : field.Value), env.Overrides field value →
    (ofEnvironment env).get field = value
  /-- It is the default if its variable spells nothing, or if it has none. -/
  fallback : ∀ field : Field, (∀ value, ¬ env.Overrides field value) →
    (ofEnvironment env).get field = ({} : Config).get field
  /-- Four fields have none. -/
  fixed : ∀ field ∈ [Field.isolation, .accessMode, .requireSerializable, .retryCodes],
    (ofEnvironment env).get field = ({} : Config).get field
  /-- At least one attempt is allowed. -/
  attempts : 1 ≤ (ofEnvironment env).maxRetries
  /-- A budget is finite and positive. -/
  budget : ∀ cost, (ofEnvironment env).maxPlanCost = some cost → cost.isFinite = true ∧ 0 < cost
  /-- A field depends on no variable but its own. -/
  independent : ∀ (field : Field) name, field.override? = some name →
    ∀ other : Environment, other name = env name →
      (ofEnvironment other).get field = (ofEnvironment env).get field
  /-- Variables that are rejected can be unset, and others than the five do not matter. -/
  cleared : ∀ other : Environment,
    (∀ (field : Field) name, field.override? = some name →
      other name = env name ∨ other name = none ∧ env.Rejected name) →
    ofEnvironment other = ofEnvironment env

/-- **Overrides do not interfere, and fall back to the defaults.** -/
theorem overriddenApart (env : Environment) : OverriddenApart env where
  decided _ _ := Environment.overrides_or_rejected
  overridden _ _ := get_of_overrides
  fallback _ := get_of_not_overrides
  fixed field among := by
    have fixed : ∀ field ∈ [Field.isolation, .accessMode, .requireSerializable, .retryCodes],
        field.override? = none := by
      decide
    exact get_of_fixed (fixed field among)
  attempts := one_le_maxRetries env
  budget _ := isBudget_of_maxPlanCost
  independent _ _ own _ same := get_congr fun _ => Environment.overrides_congr own same
  cleared _ := ofEnvironment_cleared

end Config

end TxRetry
