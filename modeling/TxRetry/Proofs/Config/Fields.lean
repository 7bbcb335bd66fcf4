import TxRetry.Proofs.Config.Values

/-!
# Fields of a configuration

A configuration is its nine fields, and each of them is read from a value by a reader of its own.
So a document that gives values for some fields is decoded field by field: which configuration comes
of it does not depend on the order in which the fields are gone through, and only the choice among
several defects does.

## Main definitions

* `Config.Field.Accepts`, `Config.Field.Admits`, `Config.Field.Refuses`, `Config.Field.Has` — what a
  field says about what is given for it, and what it has then
* `Config.get`, `Config.put` — one field of a configuration
* `Config.Decoded` — what comes of a document, field by field

## Main statements

* `Config.decodeFields_eq_ok_iff`, `Config.decodeFields_eq_error_iff` — fields decoded in a row
* `Config.decoded_of_pairwise` — all fields, in some order
-/

namespace TxRetry.Config

namespace Field

/-- A field **accepts** a value that means something there. -/
def Accepts (field : Field) (value : Json) : Prop := ∃ x, field.Means value x

/-- A field accepts what is given for it, **if anything is.** -/
def Admits (field : Field) (given : Option Json) : Prop :=
  ∀ value, given = some value → field.Accepts value

/-- A field **refuses** what is given for it. -/
def Refuses (field : Field) (given : Option Json) (defect : Defect) : Prop :=
  ∃ value, given = some value ∧ field.Complains value defect

/-- What a field **has** where something or nothing is given for it: what that means, or the default. -/
def Has (field : Field) (given : Option Json) (x : field.Value) : Prop :=
  match given with
  | none => x = field.standard
  | some value => field.Means value x

/-- What the reader of a field makes of what is given for it. -/
def readOr {field : Field} (default : field.Value) (given : Option Json) :
    Except Defect field.Value :=
  match given with
  | none => .ok default
  | some value => field.read value

variable {field : Field} {default : field.Value} {given : Option Json} {defect : Defect}

theorem readOr_eq_error_iff :
    readOr default given = .error defect ↔ field.Refuses given defect := by
  cases given <;> simp [readOr, Refuses, read_eq_error_iff]

theorem admits_of_readOr {x : field.Value} (read : readOr default given = .ok x) :
    field.Admits given := by
  rintro value rfl
  exact ⟨x, read_eq_ok_iff.mp read⟩

theorem not_refuses_of_admits (admits : field.Admits given) : ¬ field.Refuses given defect := by
  rintro ⟨value, rfl, refused⟩
  obtain ⟨x, accepted⟩ := admits value rfl
  cases (read_eq_error_iff.mpr refused).symm.trans (read_eq_ok_iff.mpr accepted)

end Field

/-! ### One field of a configuration -/

section Access

variable (config : Config) (field : Field)

/-- What a configuration has in a field. -/
def get (config : Config) : (field : Field) → field.Value
  | .isolation => config.isolation
  | .accessMode => config.accessMode
  | .requireSerializable => config.requireSerializable
  | .retryCodes => config.retryCodes
  | .maxRetries => config.maxRetries
  | .statementTimeoutGrace => config.statementTimeoutGrace
  | .maxPlanCost => config.maxPlanCost
  | .disableSeqscan => config.disableSeqscan
  | .statementLogLevel => config.statementLogLevel

/-- Set a field; the other fields stay. -/
def put (config : Config) : (field : Field) → field.Value → Config
  | .isolation, v => { config with isolation := v }
  | .accessMode, v => { config with accessMode := v }
  | .requireSerializable, v => { config with requireSerializable := v }
  | .retryCodes, v => { config with retryCodes := v }
  | .maxRetries, v => { config with maxRetries := v }
  | .statementTimeoutGrace, v => { config with statementTimeoutGrace := v }
  | .maxPlanCost, v => { config with maxPlanCost := v }
  | .disableSeqscan, v => { config with disableSeqscan := v }
  | .statementLogLevel, v => { config with statementLogLevel := v }

@[simp] theorem get_put (x : field.Value) : (config.put field x).get field = x := by
  cases field <;> rfl

theorem get_put_of_ne {other : Field} (apart : other ≠ field) (x : field.Value) :
    (config.put field x).get other = config.get other := by
  cases field <;> cases other <;> first | rfl | exact absurd rfl apart

@[simp] theorem put_get : config.put field (config.get field) = config := by
  cases field <;> rfl

/-- A configuration **is its fields.** -/
theorem eq_of_get {config other : Config} (same : ∀ field, config.get field = other.get field) :
    config = other := by
  obtain ⟨_, _, _, _, _, _, _, _, _⟩ := config
  obtain ⟨_, _, _, _, _, _, _, _, _⟩ := other
  simp only [Config.mk.injEq]
  exact ⟨same .isolation, same .accessMode, same .requireSerializable, same .retryCodes,
    same .maxRetries, same .statementTimeoutGrace, same .maxPlanCost, same .disableSeqscan,
    same .statementLogLevel⟩

/-- The defaults of a configuration are **those of its fields.** -/
theorem get_default : ({} : Config).get field = field.standard := by
  cases field <;> rfl

/-- What a field reads, starting from the default, is **what it has.** -/
theorem readOr_default_iff {given : Option Json} {x : field.Value} :
    Field.readOr (({} : Config).get field) given = .ok x ↔ field.Has given x := by
  cases given with
  | none => simp [Field.readOr, Field.Has, get_default, eq_comm]
  | some value => exact Field.read_eq_ok_iff

/-- To decode a field is to **read its value and to set it.** -/
theorem decode_eq (value : Json) :
    field.decode config value = (field.read value).map (config.put field) := by
  cases field <;> rfl

end Access

/-! ### Fields in a row -/

section Row

variable {given : Field → Option Json} {config result : Config} {fields rest : List Field}
  {defect : Defect}

theorem decodeFields_cons (field : Field) :
    decodeFields given config (field :: rest) =
      (Field.readOr (config.get field) (given field)).bind fun x =>
        decodeFields given (config.put field x) rest := by
  rw [decodeFields]
  cases given field with
  | none => simp [Field.readOr, Except.bind]
  | some value =>
    simp only [decode_eq, Field.readOr]
    cases field.read value <;> rfl

theorem decodeFields_congr {other : Field → Option Json}
    (same : ∀ field ∈ fields, given field = other field) :
    decodeFields given config fields = decodeFields other config fields := by
  induction fields generalizing config with
  | nil => rfl
  | cons field rest ih =>
    obtain ⟨here, later⟩ := List.forall_mem_cons.mp same
    simp only [decodeFields_cons, here, ih later]

/-- Fields in a row are decoded **each from what is given for it**; the others stay. -/
theorem decodeFields_eq_ok_iff (distinct : fields.Nodup) :
    decodeFields given config fields = .ok result ↔
      (∀ field ∈ fields, Field.readOr (config.get field) (given field) = .ok (result.get field)) ∧
        ∀ field ∉ fields, result.get field = config.get field := by
  induction fields generalizing config with
  | nil =>
    constructor
    · rintro ⟨⟩
      simp
    · rintro ⟨-, same⟩
      rw [eq_of_get fun field => same field List.not_mem_nil]
      rfl
  | cons field rest ih =>
    obtain ⟨fresh, distinct⟩ := List.nodup_cons.mp distinct
    rw [decodeFields_cons]
    cases outcome : Field.readOr (config.get field) (given field) with
    | error defect => simp [Except.bind, outcome]
    | ok x =>
      -- Setting the first field neither changes what the later ones start from, nor is it undone.
      have unchanged (other : Field) (apart : other ≠ field) :
          (config.put field x).get other = config.get other := get_put_of_ne config field apart x
      rw [Except.bind, ih distinct]
      constructor
      · rintro ⟨read, kept⟩
        refine ⟨List.forall_mem_cons.mpr ⟨?_, fun other among => ?_⟩, fun other outside => ?_⟩
        · rw [outcome, kept field fresh, get_put]
        · rw [← unchanged other (fun same => fresh (same ▸ among))]
          exact read other among
        · obtain ⟨apart, outside⟩ := List.ne_and_not_mem_of_not_mem_cons outside
          rw [kept other outside, unchanged other apart]
      · rintro ⟨read, kept⟩
        obtain ⟨here, read⟩ := List.forall_mem_cons.mp read
        refine ⟨fun other among => ?_, fun other outside => ?_⟩
        · rw [unchanged other (fun same => fresh (same ▸ among))]
          exact read other among
        · by_cases same : other = field
          · subst same
            rw [get_put]
            exact Except.ok.inj (here.symm.trans outcome)
          · rw [unchanged other same]
            exact kept other (List.not_mem_cons_of_ne_of_not_mem same outside)

/-- They are refused because of **the first one that refuses** what is given for it. -/
theorem decodeFields_eq_error_iff :
    decodeFields given config fields = .error defect ↔
      ∃ before field after, fields = before ++ field :: after ∧
        field.Refuses (given field) defect ∧
        ∀ earlier ∈ before, earlier.Admits (given earlier) := by
  induction fields generalizing config with
  | nil => simp [decodeFields]
  | cons field rest ih =>
    rw [decodeFields_cons]
    cases outcome : Field.readOr (config.get field) (given field) with
    | error first =>
      have refuses : field.Refuses (given field) first := Field.readOr_eq_error_iff.mp outcome
      constructor
      · rintro ⟨⟩
        exact ⟨[], field, rest, rfl, refuses, by simp⟩
      · rintro ⟨before, last, after, split, refused, admitted⟩
        cases before with
        | nil =>
          obtain ⟨rfl, rfl⟩ := List.cons.inj split
          rw [Field.readOr_eq_error_iff.mpr refused] at outcome
          cases outcome
          rfl
        | cons head _ =>
          obtain ⟨rfl, -⟩ := List.cons.inj split
          exact absurd refuses (Field.not_refuses_of_admits (admitted field List.mem_cons_self))
    | ok x =>
      have admits : field.Admits (given field) := Field.admits_of_readOr outcome
      rw [Except.bind, ih]
      constructor
      · rintro ⟨before, last, after, rfl, refused, admitted⟩
        exact ⟨field :: before, last, after, rfl, refused,
          List.forall_mem_cons.mpr ⟨admits, admitted⟩⟩
      · rintro ⟨before, last, after, split, refused, admitted⟩
        cases before with
        | nil =>
          obtain ⟨rfl, -⟩ := List.cons.inj split
          exact absurd refused (Field.not_refuses_of_admits admits)
        | cons head before =>
          obtain ⟨rfl, rfl⟩ := List.cons.inj split
          exact ⟨before, last, after, rfl, refused, (List.forall_mem_cons.mp admitted).2⟩

end Row

/-! ### All fields -/

/-- What comes of **a document that gives values for some fields**, `before` being the order in
which its defects are met. -/
structure Decoded (given : Field → Option Json) (before : Field → Field → Prop)
    (outcome : Except Defect Config) : Prop where
  /-- It is a configuration if no field refuses what is given for it. -/
  succeeds : (∃ config, outcome = .ok config) ↔ ∀ field, Field.Admits field (given field)
  /-- Each field of the configuration has what the value given for it means, or the default. -/
  fields : ∀ config, outcome = .ok config ↔ ∀ field, Field.Has field (given field) (config.get field)
  /-- Otherwise the first field that refuses is the reason. -/
  fails : ∀ defect, outcome = .error defect ↔
    ∃ field, Field.Refuses field (given field) defect ∧
      ∀ earlier, before earlier field → earlier.Admits (given earlier)

/-- To go through **all fields in some order** decodes a document. -/
theorem decoded_of_pairwise {before : Field → Field → Prop} {fields : List Field}
    (complete : ∀ field, field ∈ fields) (sorted : fields.Pairwise before)
    (asymm : ∀ a b, before a b → ¬ before b a) (given : Field → Option Json) :
    Decoded given before (decodeFields given {} fields) := by
  have irrefl (a : Field) : ¬ before a a := fun self => asymm a a self self
  have distinct : fields.Nodup := by
    refine List.Pairwise.imp (fun {a b} ordered => ?_) sorted
    rintro rfl
    exact irrefl a ordered
  have fieldwise (config : Config) : decodeFields given {} fields = .ok config ↔
      ∀ field, Field.Has field (given field) (config.get field) := by
    simp only [decodeFields_eq_ok_iff distinct, readOr_default_iff]
    exact ⟨fun has field => has.1 field (complete field),
      fun has => ⟨fun field _ => has field, fun field outside => absurd (complete field) outside⟩⟩
  refine ⟨⟨?_, fun admits => ?_⟩, fieldwise, fun defect => ?_⟩
  · rintro ⟨config, outcome⟩ field
    exact Field.admits_of_readOr ((readOr_default_iff field).mpr ((fieldwise config).mp outcome field))
  · cases outcome : decodeFields given {} fields with
    | ok config => exact ⟨config, rfl⟩
    | error defect =>
      obtain ⟨-, field, -, -, refused, -⟩ := decodeFields_eq_error_iff.mp outcome
      exact absurd refused (Field.not_refuses_of_admits (admits field))
  · rw [decodeFields_eq_error_iff]
    constructor
    · rintro ⟨front, field, back, rfl, refused, admitted⟩
      refine ⟨field, refused, fun earlier ordered => admitted earlier ?_⟩
      have ⟨_, behind, _⟩ := List.pairwise_append.mp sorted
      obtain among | rfl | among : earlier ∈ front ∨ earlier = field ∨ earlier ∈ back := by
        simpa using complete earlier
      · exact among
      · exact absurd ordered (irrefl _)
      · exact absurd ordered (asymm _ _ ((List.pairwise_cons.mp behind).1 earlier among))
    · rintro ⟨field, refused, admitted⟩
      obtain ⟨front, back, rfl⟩ := List.append_of_mem (complete field)
      refine ⟨front, field, back, rfl, refused, fun earlier among => admitted earlier ?_⟩
      exact (List.pairwise_append.mp sorted).2.2 earlier among field List.mem_cons_self

end TxRetry.Config
