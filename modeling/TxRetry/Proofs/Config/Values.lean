import Mathlib.Tactic.SplitIfs
import TxRetry.Config.Decoding

/-!
# What the fields of a configuration accept

Each field of a configuration takes values of one form and turns all others away.  This module says
for each field what a value means there, and what is wrong with it if it means nothing, without a word
about how it is read.  Then it shows that the readers of the fields say just that.

## Main definitions

* `Config.Field.label`, `Config.Field.standard` — the key of a field, and its value by default
* `Config.Field.Means` — what a value means in a field
* `Config.Field.Complains` — what a field finds wrong with a value

## Main statements

* `Config.Field.read_eq_ok_iff`, `Config.Field.read_eq_error_iff` — the reader of a field says what a
  value means, or what is wrong with it
* `Config.Field.key_eq_label` — the keys are those written here

## Design notes

**A choice has two forms**, its word alone, and an object with the word as its only key and nothing
under it.  A wrong word is noticed before what is under it, and the number of keys before the word.
-/

namespace TxRetry

theorem lookup_cons_eq_ite {β : Type} (key other : String) (value : β)
    (members : List (String × β)) :
    ((key, value) :: members).lookup other =
      if other = key then some value else members.lookup other := by
  by_cases same : other = key
  · subst same
    simp
  · simp [List.lookup_cons, beq_false_of_ne same, same]

namespace Config

/-! ### Choices -/

/-- The word for an isolation level. -/
def isolationWord : IsolationLevel → String
  | .readCommitted => "read_committed"
  | .repeatableRead => "repeatable_read"
  | .serializable => "serializable"

/-- The word for an access mode. -/
def accessWord : AccessMode → String
  | .readWrite => "read_write"
  | .readOnly => "read_only"

/-- The word for a log level, in small letters. -/
def levelWord : LogLevel → String
  | .error => "error"
  | .warn => "warn"
  | .info => "info"
  | .debug => "debug"
  | .trace => "trace"

/-- Whether a text is **a word in any letter case**, the word being in small letters. -/
def SpellsOut (text word : String) : Prop := text.toList.map Char.toLower = word.toList

/-- A value **chooses** one of the words that are meant. -/
def Chooses (value : Json) (meant : String → Prop) : Prop :=
  ∃ word, meant word ∧ (value = .string word ∨ value = .object [(word, .null)])

theorem chooses_string_iff {text : String} {meant : String → Prop} :
    Chooses (.string text) meant ↔ meant text := by
  simp [Chooses]

/-- What is wrong with a value that **chooses none** of the known words, which are called `words`. -/
inductive Unchosen (words : List String) (known : String → Prop) : Json → Defect → Prop
  | unknown {word} (unknown : ¬ known word) :
      Unchosen words known (.string word) (.unknownChoice word words)
  | unknownKey {word content} (unknown : ¬ known word) :
      Unchosen words known (.object [(word, content)]) (.unknownChoice word words)
  | content {word content} (isKnown : known word) (something : content ≠ .null) :
      Unchosen words known (.object [(word, content)]) (.wrongType content .unit)
  | keys {members} (several : members.length ≠ 1) :
      Unchosen words known (.object members) .notOneKey
  | form {value} (noWord : ∀ word, value ≠ .string word)
      (noObject : ∀ members, value ≠ .object members) :
      Unchosen words known value (.wrongType value .stringOrMap)

/-! ### What values mean -/

namespace Field

/-- The values of a field. -/
abbrev Value : Field → Type
  | .isolation => IsolationLevel
  | .accessMode => AccessMode
  | .requireSerializable => Bool
  | .retryCodes => List String
  | .maxRetries => UInt32
  | .statementTimeoutGrace => Duration
  | .maxPlanCost => Option Float
  | .disableSeqscan => Bool
  | .statementLogLevel => LogLevel

/-- The **key of a field**, written out. -/
def label : Field → String
  | .isolation => "isolation"
  | .accessMode => "access_mode"
  | .requireSerializable => "require_serializable"
  | .retryCodes => "serialization_failure_codes"
  | .maxRetries => "max_retries"
  | .statementTimeoutGrace => "statement_timeout_grace"
  | .maxPlanCost => "max_plan_cost"
  | .disableSeqscan => "disable_seqscan"
  | .statementLogLevel => "statement_log_level"

/-- The value of a field **where nothing is given for it.** -/
def standard : (field : Field) → field.Value
  | .isolation => IsolationLevel.serializable
  | .accessMode => AccessMode.readWrite
  | .requireSerializable => true
  | .retryCodes => ["40001"]
  | .maxRetries => (50 : UInt32)
  | .statementTimeoutGrace => (⟨20000000000⟩ : Duration)
  | .maxPlanCost => (none : Option Float)
  | .disableSeqscan => false
  | .statementLogLevel => LogLevel.debug

/-- What a value **means in a field.** -/
def Means : (field : Field) → Json → field.Value → Prop
  | .isolation, value, level => Chooses value (· = isolationWord level)
  | .accessMode, value, mode => Chooses value (· = accessWord mode)
  | .requireSerializable, value, b => value = .bool b
  | .retryCodes, value, codes => value = .array (codes.map .string)
  | .maxRetries, value, n => value = .number (.integer n.toNat)
  | .statementTimeoutGrace, value, d => ∃ n, value = .number n ∧ Duration.ofSeconds? n.toFloat = .ok d
  | .maxPlanCost, value, cost? =>
    value = .null ∧ cost? = none ∨ ∃ n, value = .number n ∧ cost? = some n.toFloat
  | .disableSeqscan, value, b => value = .bool b
  | .statementLogLevel, value, level => Chooses value (SpellsOut · (levelWord level))

/-- What a field **finds wrong** with a value. -/
def Complains : (field : Field) → Json → Defect → Prop
  | .isolation => Unchosen ["read_committed", "repeatable_read", "serializable"]
      fun word => ∃ level, word = isolationWord level
  | .accessMode => Unchosen ["read_write", "read_only"] fun word => ∃ mode, word = accessWord mode
  | .requireSerializable | .disableSeqscan => fun value defect =>
    (∀ b, value ≠ .bool b) ∧ defect = .wrongType value .boolean
  | .retryCodes => fun value defect =>
    (∀ elements, value ≠ .array elements) ∧ defect = .wrongType value .sequence ∨
      ∃ (codes : List String) (found : Json) (rest : List Json),
        value = .array (codes.map .string ++ found :: rest) ∧ (∀ s, found ≠ .string s) ∧
          defect = .wrongType found .string
  | .maxRetries => fun value defect =>
    (∀ n, value ≠ .number (.integer n)) ∧ defect = .wrongType value .unsigned ∨
      ∃ n, value = .number (.integer n) ∧ (n < 0 ∨ 4294967296 ≤ n) ∧ defect = .outOfRange n
  | .statementTimeoutGrace => fun value defect =>
    (∀ n, value ≠ .number n) ∧ defect = .wrongType value .float ∨
      ∃ n wrong, value = .number n ∧ Duration.ofSeconds? n.toFloat = .error wrong ∧
        defect = .seconds wrong
  | .maxPlanCost => fun value defect =>
    value ≠ .null ∧ (∀ n, value ≠ .number n) ∧ defect = .wrongType value .float
  | .statementLogLevel => Unchosen ["ERROR", "WARN", "INFO", "DEBUG", "TRACE"]
      fun word => ∃ level, SpellsOut word (levelWord level)

theorem key_eq_label (field : Field) : field.key = field.label := by
  cases field <;> rfl

end Field

/-! ### Readers of single values -/

section Readers

variable {value : Json} {defect : Defect}

theorem readBool_eq_ok_iff {b : Bool} : readBool value = .ok b ↔ value = .bool b := by
  cases value <;> simp [readBool]

theorem readBool_eq_error_iff :
    readBool value = .error defect ↔
      (∀ b, value ≠ .bool b) ∧ defect = .wrongType value .boolean := by
  cases value <;> simp [readBool, eq_comm]

theorem readCount_eq_ok_iff {n : UInt32} :
    readCount value = .ok n ↔ value = .number (.integer n.toNat) := by
  constructor
  · intro read
    unfold readCount at read
    split at read
    · rename_i k
      split at read
      · rename_i fits
        obtain rfl := Except.ok.inj read
        have small : k.toNat < UInt32.size := by omega
        rw [UInt32.toNat_ofNat_of_lt' small, Int.toNat_of_nonneg fits.1]
      · cases read
    · cases read
  · rintro rfl
    have small : (n.toNat : Int) < UInt32.size := Int.ofNat_lt.mpr n.toNat_lt
    simp only [readCount]
    rw [if_pos ⟨Int.natCast_nonneg _, small⟩, Int.toNat_natCast, UInt32.ofNat_toNat]

theorem readCount_eq_error_iff :
    readCount value = .error defect ↔
      (∀ n, value ≠ .number (.integer n)) ∧ defect = .wrongType value .unsigned ∨
        ∃ n, value = .number (.integer n) ∧ (n < 0 ∨ 4294967296 ≤ n) ∧ defect = .outOfRange n := by
  have size : (UInt32.size : Int) = 4294967296 := rfl
  unfold readCount
  split
  · rename_i n
    split
    · rename_i fits
      refine iff_of_false nofun ?_
      rintro (⟨other, -⟩ | ⟨k, same, outside, -⟩)
      · exact other n rfl
      · cases same
        omega
    · rename_i unfit
      constructor
      · rintro ⟨⟩
        exact .inr ⟨n, rfl, by omega, rfl⟩
      · rintro (⟨other, -⟩ | ⟨k, same, -, rfl⟩)
        · exact absurd rfl (other n)
        · cases same
          rfl
  · rename_i other
    constructor
    · rintro ⟨⟩
      exact .inl ⟨fun n same => other n same, rfl⟩
    · rintro (⟨-, rfl⟩ | ⟨n, same, -⟩)
      · rfl
      · exact absurd same (other n)

theorem readSeconds_eq_ok_iff {d : Duration} :
    readSeconds value = .ok d ↔ ∃ n, value = .number n ∧ Duration.ofSeconds? n.toFloat = .ok d := by
  cases value with
  | number n =>
    cases read : Duration.ofSeconds? n.toFloat <;>
      simp [readSeconds, readFloat, read, bind, Except.bind, pure, Except.pure]
  | _ => exact iff_of_false (nomatch ·) (by simp)

theorem readSeconds_eq_error_iff :
    readSeconds value = .error defect ↔
      (∀ n, value ≠ .number n) ∧ defect = .wrongType value .float ∨
        ∃ n wrong, value = .number n ∧ Duration.ofSeconds? n.toFloat = .error wrong ∧
          defect = .seconds wrong := by
  cases value with
  | number n =>
    cases read : Duration.ofSeconds? n.toFloat <;>
      simp [readSeconds, readFloat, read, bind, Except.bind, pure, Except.pure, throw, throwThe,
        MonadExceptOf.throw, eq_comm]
  | _ => simp [readSeconds, readFloat, bind, Except.bind, eq_comm]

theorem readOptionalFloat_eq_ok_iff {cost? : Option Float} :
    readOptionalFloat value = .ok cost? ↔
      value = .null ∧ cost? = none ∨ ∃ n, value = .number n ∧ cost? = some n.toFloat := by
  cases value <;> simp [readOptionalFloat, readFloat, Except.map, eq_comm]

theorem readOptionalFloat_eq_error_iff :
    readOptionalFloat value = .error defect ↔
      value ≠ .null ∧ (∀ n, value ≠ .number n) ∧ defect = .wrongType value .float := by
  cases value <;> simp [readOptionalFloat, readFloat, Except.map, eq_comm]

/-- Whether the first element of a list is a string decides how the list is read. -/
theorem mapM_readString_cons_string (s : String) (later : List Json) :
    (Json.string s :: later).mapM readString = (later.mapM readString).map (s :: ·) := by
  rw [List.mapM_cons]
  cases later.mapM readString <;> rfl

theorem mapM_readString_cons_of_ne {element : Json} (other : ∀ s, element ≠ .string s)
    (later : List Json) :
    (element :: later).mapM readString = .error (.wrongType element .string) := by
  rw [List.mapM_cons]
  cases element with
  | string s => exact absurd rfl (other s)
  | _ => rfl

theorem mapM_readString_eq_ok_iff {elements : List Json} {codes : List String} :
    elements.mapM readString = .ok codes ↔ elements = codes.map .string := by
  induction elements generalizing codes with
  | nil => cases codes <;> simp [pure, Except.pure]
  | cons element later ih =>
    by_cases text : ∃ s, element = .string s
    · obtain ⟨s, rfl⟩ := text
      rw [mapM_readString_cons_string]
      cases codes with
      | nil => cases later.mapM readString <;> simp [Except.map]
      | cons code codes =>
        rw [List.map_cons, List.cons.injEq, ← ih]
        cases later.mapM readString <;> simp [Except.map]
    · have other := not_exists.mp text
      rw [mapM_readString_cons_of_ne other]
      refine iff_of_false nofun ?_
      cases codes with
      | nil => exact nofun
      | cons code codes => exact fun same => other code (List.cons.inj same).1

/-- The strings of a list are read up to **the first element that is none.** -/
theorem mapM_readString_eq_error_iff {elements : List Json} :
    elements.mapM readString = .error defect ↔
      ∃ (codes : List String) (found : Json) (rest : List Json),
        elements = codes.map .string ++ found :: rest ∧ (∀ s, found ≠ .string s) ∧
          defect = .wrongType found .string := by
  induction elements with
  | nil => simp [pure, Except.pure]
  | cons element later ih =>
    by_cases text : ∃ s, element = .string s
    · obtain ⟨s, rfl⟩ := text
      have passed : (Json.string s :: later).mapM readString = .error defect ↔
          later.mapM readString = .error defect := by
        rw [mapM_readString_cons_string]
        cases later.mapM readString <;> simp [Except.map]
      rw [passed, ih]
      constructor
      · rintro ⟨codes, found, rest, rfl, other, why⟩
        exact ⟨s :: codes, found, rest, rfl, other, why⟩
      · rintro ⟨codes, found, rest, split, other, why⟩
        cases codes with
        | nil => exact absurd (List.cons.inj split).1.symm (other s)
        | cons code codes => exact ⟨codes, found, rest, (List.cons.inj split).2, other, why⟩
    · have other := not_exists.mp text
      rw [mapM_readString_cons_of_ne other]
      constructor
      · rintro ⟨⟩
        exact ⟨[], element, later, rfl, other, rfl⟩
      · rintro ⟨codes, found, rest, split, -, rfl⟩
        cases codes with
        | nil => rw [(List.cons.inj split).1]
        | cons code codes => exact absurd (List.cons.inj split).1 (other code)

theorem readStrings_eq_ok_iff {codes : List String} :
    readStrings value = .ok codes ↔ value = .array (codes.map .string) := by
  cases value <;> simp [readStrings, mapM_readString_eq_ok_iff]

theorem readStrings_eq_error_iff :
    readStrings value = .error defect ↔
      (∀ elements, value ≠ .array elements) ∧ defect = .wrongType value .sequence ∨
        ∃ (codes : List String) (found : Json) (rest : List Json),
          value = .array (codes.map .string ++ found :: rest) ∧ (∀ s, found ≠ .string s) ∧
            defect = .wrongType found .string := by
  cases value with
  | array elements => simp [readStrings, mapM_readString_eq_error_iff]
  | _ => simp [readStrings, eq_comm]

end Readers

/-! ### Readers of choices -/

section Choices

variable {α : Type} {words : List String} {ofName? : String → Option α} {value : Json} {choice : α}

theorem named_eq_ok_iff {word : String} :
    readChoice.named words ofName? word = .ok choice ↔ ofName? word = some choice := by
  unfold readChoice.named
  cases ofName? word <;> simp

theorem named_eq_error_iff {word : String} {defect : Defect} :
    readChoice.named words ofName? word = .error defect ↔
      ofName? word = none ∧ defect = .unknownChoice word words := by
  unfold readChoice.named
  cases ofName? word <;> simp [eq_comm]

/-- A **choice is written** as its word, or as an object with the word over nothing. -/
theorem readChoice_eq_ok_iff :
    readChoice words ofName? value = .ok choice ↔
      Chooses value fun word => ofName? word = some choice := by
  constructor
  · intro read
    unfold readChoice at read
    split at read
    · rename_i word
      exact ⟨word, named_eq_ok_iff.mp read, .inl rfl⟩
    · rename_i word content
      cases found : ofName? word with
      | none => simp [readChoice.named, found, bind, Except.bind] at read
      | some other =>
        cases content <;>
          simp [readChoice.named, found, bind, Except.bind, pure, Except.pure] at read
        subst read
        exact ⟨word, found, .inr rfl⟩
    · cases read
    · cases read
  · rintro ⟨word, known, rfl | rfl⟩
    · exact named_eq_ok_iff.mpr known
    · simp [readChoice, named_eq_ok_iff.mpr known, bind, Except.bind, pure, Except.pure]

/-- A value that is no choice is refused **for what is wrong with it.** -/
theorem readChoice_eq_error_iff {defect : Defect} :
    readChoice words ofName? value = .error defect ↔
      Unchosen words (fun word => ∃ choice, ofName? word = some choice) value defect := by
  have unknown_iff (word : String) :
      (¬ ∃ choice, ofName? word = some choice) ↔ ofName? word = none := by
    cases ofName? word <;> simp
  constructor
  · intro read
    unfold readChoice at read
    split at read
    · rename_i word
      obtain ⟨missing, rfl⟩ := named_eq_error_iff.mp read
      exact .unknown ((unknown_iff word).mpr missing)
    · rename_i word content
      cases found : ofName? word with
      | none =>
        simp only [readChoice.named, found, bind, Except.bind, Except.error.injEq] at read
        exact read ▸ .unknownKey ((unknown_iff word).mpr found)
      | some choice =>
        cases content <;>
          simp only [readChoice.named, found, bind, Except.bind, pure, Except.pure, reduceCtorEq,
            throw, throwThe, MonadExceptOf.throw, Except.error.injEq] at read <;>
          exact read ▸ .content ⟨choice, found⟩ nofun
    · rename_i members several
      cases read
      refine .keys fun single => ?_
      obtain ⟨⟨word, content⟩, rfl⟩ := List.length_eq_one_iff.mp single
      exact several word content rfl
    · rename_i noWord _ noObject
      cases read
      exact .form noWord noObject
  · intro unchosen
    cases unchosen with
    | unknown unknown => exact named_eq_error_iff.mpr ⟨(unknown_iff _).mp unknown, rfl⟩
    | unknownKey unknown =>
      simp [readChoice, readChoice.named, (unknown_iff _).mp unknown, bind, Except.bind]
    | @content word content known something =>
      obtain ⟨choice, found⟩ := known
      cases content <;>
        simp_all [readChoice, readChoice.named, bind, Except.bind, throw, throwThe,
          MonadExceptOf.throw]
    | @keys members several =>
      unfold readChoice
      split
      · rename_i same
        cases same
      · rename_i same
        cases same
        exact absurd rfl several
      · rfl
      · rename_i noObject
        exact absurd rfl (noObject members)
    | form noWord noObject =>
      cases value with
      | string word => exact absurd rfl (noWord word)
      | object members => exact absurd rfl (noObject members)
      | _ => rfl

end Choices

theorem isolation_lookup_iff {word : String} {level : IsolationLevel} :
    isolationNames.lookup word = some level ↔ word = isolationWord level := by
  simp only [isolationNames, lookup_cons_eq_ite, List.lookup_nil]
  constructor
  · intro found
    split_ifs at found <;> cases found <;> assumption
  · rintro rfl
    cases level <;> decide

theorem access_lookup_iff {word : String} {mode : AccessMode} :
    accessModeNames.lookup word = some mode ↔ word = accessWord mode := by
  simp only [accessModeNames, lookup_cons_eq_ite, List.lookup_nil]
  constructor
  · intro found
    split_ifs at found <;> cases found <;> assumption
  · rintro rfl
    cases mode <;> decide

/-- A text is the name of a level **if it is so in small letters.** -/
theorem ofName?_eq_some_iff {name : String} {level : LogLevel} :
    LogLevel.ofName? name = some level ↔
      name.toList.map Char.toLower = level.name.toList.map Char.toLower := by
  constructor
  · intro found
    have matched := List.find?_some found
    exact (beq_iff_eq.mp matched).symm
  · intro same
    rw [LogLevel.ofName?, same]
    cases level <;> decide

theorem level_ofName?_iff {name : String} {level : LogLevel} :
    LogLevel.ofName? name = some level ↔ SpellsOut name (levelWord level) := by
  have small : level.name.toList.map Char.toLower = (levelWord level).toList := by
    cases level <;> decide
  rw [ofName?_eq_some_iff, small]
  rfl

/-! ### Readers of fields -/

namespace Field

/-- The **reader of a field.** -/
def read : (field : Field) → Json → Except Defect field.Value
  | .isolation => readIsolation
  | .accessMode => readAccessMode
  | .requireSerializable => readBool
  | .retryCodes => readStrings
  | .maxRetries => readCount
  | .statementTimeoutGrace => readSeconds
  | .maxPlanCost => readOptionalFloat
  | .disableSeqscan => readBool
  | .statementLogLevel => readLogLevel

/-- A field reads **what a value means.** -/
theorem read_eq_ok_iff {field : Field} {value : Json} {x : field.Value} :
    field.read value = .ok x ↔ field.Means value x := by
  cases field with
  | isolation =>
      simp only [Means, ← isolation_lookup_iff]
      exact readChoice_eq_ok_iff
  | accessMode =>
      simp only [Means, ← access_lookup_iff]
      exact readChoice_eq_ok_iff
  | requireSerializable | disableSeqscan => exact readBool_eq_ok_iff
  | retryCodes => exact readStrings_eq_ok_iff
  | maxRetries => exact readCount_eq_ok_iff
  | statementTimeoutGrace => exact readSeconds_eq_ok_iff
  | maxPlanCost => exact readOptionalFloat_eq_ok_iff
  | statementLogLevel =>
      simp only [Means, ← level_ofName?_iff]
      exact readChoice_eq_ok_iff

/-- A field refuses a value **for what is wrong with it.** -/
theorem read_eq_error_iff {field : Field} {value : Json} {defect : Defect} :
    field.read value = .error defect ↔ field.Complains value defect := by
  cases field with
  | isolation =>
      simp only [Complains, ← isolation_lookup_iff]
      exact readChoice_eq_error_iff
  | accessMode =>
      simp only [Complains, ← access_lookup_iff]
      exact readChoice_eq_error_iff
  | requireSerializable | disableSeqscan => exact readBool_eq_error_iff
  | retryCodes => exact readStrings_eq_error_iff
  | maxRetries => exact readCount_eq_error_iff
  | statementTimeoutGrace => exact readSeconds_eq_error_iff
  | maxPlanCost => exact readOptionalFloat_eq_error_iff
  | statementLogLevel =>
      simp only [Complains, ← level_ofName?_iff]
      exact readChoice_eq_error_iff

end Field

end Config

end TxRetry
