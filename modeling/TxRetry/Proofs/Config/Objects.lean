import TxRetry.Proofs.Config.Fields

/-!
# Configurations from objects

An object is decoded by its known keys, each one on its own.  Nothing else that an object holds
matters, a key that is set changes one field, and of several defects the one under the first key is
reported.

## Main definitions

* `Config.givenByKey` — what an object says of a field
* `Config.DecodedByKey` — what comes of an object

## Main statements

* `Json.lookup_insertMember` — the members of an object after one was put there
* `Config.decoded_object` — an object is decoded field by field
* `Config.decodedByKey` — an object is decoded by its known keys
-/

namespace TxRetry

/-! ### Members of objects -/

namespace Json

/-- Putting a member **changes what is under its key** and nothing else. -/
theorem lookup_insertMember (key other : String) (value : Json) (members : List (String × Json)) :
    (insertMember key value members).lookup other =
      if other = key then some value else members.lookup other := by
  induction members with
  | nil => exact lookup_cons_eq_ite key other value []
  | cons member rest ih =>
    obtain ⟨first, content⟩ := member
    rw [insertMember, lookup_cons_eq_ite first]
    split
    · rename_i overwritten
      subst overwritten
      rw [lookup_cons_eq_ite]
      split <;> rfl
    · rename_i apart
      split
      · rw [lookup_cons_eq_ite, lookup_cons_eq_ite]
      · rw [lookup_cons_eq_ite, ih]
        by_cases same : other = key
        · subst same
          simp [apart]
        · simp [same]

end Json

namespace Config

/-! ### Objects -/

namespace Field

/-- The fields **come in the order of their keys.** -/
theorem byKey_pairwise : byKey.Pairwise fun a b => a.label < b.label := by
  decide

theorem mem_byKey (field : Field) : field ∈ byKey := by
  cases field <;> decide

theorem label_injective {a b : Field} (same : a.label = b.label) : a = b := by
  cases a <;> cases b <;> first | rfl | exact absurd same (by decide)

end Field

/-- What is said of the fields by an object. -/
def givenByKey (members : List (String × Json)) (field : Field) : Option Json :=
  members.lookup field.label

theorem ofJson_object (members : List (String × Json)) :
    ofJson (.object members) = decodeFields (givenByKey members) {} Field.byKey := by
  have named : givenByKey members = fun field => members.lookup field.key :=
    funext fun field => congrArg (List.lookup · members) field.key_eq_label.symm
  rw [named]
  rfl

/-- An object is **decoded field by field**, its defects being met in the order of the keys. -/
theorem decoded_object (members : List (String × Json)) :
    Decoded (givenByKey members) (fun a b => a.label < b.label) (ofJson (.object members)) := by
  rw [ofJson_object]
  exact decoded_of_pairwise Field.mem_byKey Field.byKey_pairwise (fun _ _ => String.lt_asymm) _

theorem givenByKey_insertMember (members : List (String × Json)) (field other : Field)
    (value : Json) :
    givenByKey (Json.insertMember field.label value members) other =
      if other = field then some value else givenByKey members other := by
  rw [givenByKey, Json.lookup_insertMember]
  exact ite_congr (propext ⟨Field.label_injective, congrArg Field.label⟩) (fun _ => rfl) fun _ => rfl

theorem ofJson_object_congr {members other : List (String × Json)}
    (same : ∀ field, givenByKey members field = givenByKey other field) :
    ofJson (.object members) = ofJson (.object other) := by
  rw [ofJson_object, ofJson_object, funext same]

section Setting

variable {members : List (String × Json)} {config : Config} {field : Field} {value : Json}

/-- To set a key in an object that is a configuration to what means something is **to set its field.** -/
theorem ofJson_insertMember_of_means (decoded : ofJson (.object members) = .ok config)
    {x : field.Value} (means : field.Means value x) :
    ofJson (.object (Json.insertMember field.label value members)) = .ok (config.put field x) := by
  refine ((decoded_object _).fields (config.put field x)).mpr fun other => ?_
  rw [givenByKey_insertMember]
  by_cases same : other = field
  · subst same
    rw [if_pos rfl, get_put]
    exact means
  · rw [if_neg same, get_put_of_ne config field same]
    exact ((decoded_object members).fields config).mp decoded other

/-- To set it to anything else is **to break the configuration** there. -/
theorem ofJson_insertMember_of_complains (decoded : ofJson (.object members) = .ok config)
    {defect : Defect} (complains : field.Complains value defect) :
    ofJson (.object (Json.insertMember field.label value members)) = .error defect := by
  refine ((decoded_object _).fails defect).mpr ⟨field, ⟨value, ?_, complains⟩, fun earlier ordered => ?_⟩
  · rw [givenByKey_insertMember, if_pos rfl]
  · have apart : earlier ≠ field := by
      rintro rfl
      exact String.lt_irrefl _ ordered
    rw [givenByKey_insertMember, if_neg apart]
    exact (decoded_object members).succeeds.mp ⟨config, decoded⟩ earlier

/-- An object with one known key is a configuration if its field accepts the value. -/
theorem ofJson_singleton_iff (field : Field) (value : Json) :
    (∃ config, ofJson (.object [(field.label, value)]) = .ok config) ↔ field.Accepts value := by
  have given (other : Field) :
      givenByKey [(field.label, value)] other = if other = field then some value else none :=
    givenByKey_insertMember [] field other value
  rw [(decoded_object _).succeeds]
  constructor
  · intro admits
    exact admits field value (by rw [given, if_pos rfl])
  · intro accepts other found there
    rw [given] at there
    split at there
    · rename_i same
      subst same
      exact Option.some.inj there ▸ accepts
    · cases there

end Setting

/-- A field accepts nothing where `null` stands, **unless it is the budget.** -/
theorem accepts_null_iff {field : Field} : field.Accepts .null ↔ field = .maxPlanCost := by
  cases field with
  | maxPlanCost => exact iff_of_true ⟨none, .inl ⟨rfl, rfl⟩⟩ rfl
  | _ => exact iff_of_false (by simp [Field.Accepts, Field.Means, Chooses]) (by decide)

/-- What comes of an object: it is **decoded by its known keys.** -/
structure DecodedByKey (members : List (String × Json)) : Prop extends
    Decoded (fun field => members.lookup field.label) (fun a b => a.label < b.label)
      (ofJson (.object members)) where
  /-- Nothing but the known keys matters. -/
  agreement : ∀ other : List (String × Json),
    (∀ field : Field, members.lookup field.label = other.lookup field.label) →
      ofJson (.object members) = ofJson (.object other)
  unknown : ∀ key value, (∀ field : Field, field.label ≠ key) →
    ofJson (.object (Json.insertMember key value members)) = ofJson (.object members)
  /-- A known key that is set changes its field and no other, -/
  setting : ∀ config, ofJson (.object members) = .ok config → ∀ (field : Field) value x,
    field.Means value x →
      ofJson (.object (Json.insertMember field.label value members)) = .ok (config.put field x)
  /-- or is what is wrong. -/
  breaking : ∀ config, ofJson (.object members) = .ok config → ∀ (field : Field) value defect,
    field.Complains value defect →
      ofJson (.object (Json.insertMember field.label value members)) = .error defect
  /-- The grace may be any number of seconds that a duration can hold. -/
  grace : ∀ value,
    (∃ config, ofJson (.object [("statement_timeout_grace", value)]) = .ok config) ↔
      ∃ n d, value = .number n ∧ Duration.ofSeconds? n.toFloat = .ok d
  /-- Only the budget may be nothing. -/
  null : ∀ field : Field, (∃ config, ofJson (.object [(field.label, .null)]) = .ok config) ↔
    field = .maxPlanCost
  /-- A log level may be written in any letter case. -/
  level : ∀ name, (∃ config, ofJson (.object [("statement_log_level", .string name)]) = .ok config) ↔
    ∃ level, name.toList.map Char.toLower = (levelWord level).toList

/-- Every object is **decoded by its known keys.** -/
theorem decodedByKey (members : List (String × Json)) : DecodedByKey members where
  toDecoded := decoded_object members
  agreement _ same := ofJson_object_congr same
  unknown key value known := ofJson_object_congr fun field => by
    rw [givenByKey, Json.lookup_insertMember, if_neg (known field), givenByKey]
  setting _ decoded _ _ _ means := ofJson_insertMember_of_means decoded means
  breaking _ decoded _ _ _ complains := ofJson_insertMember_of_complains decoded complains
  grace value := (ofJson_singleton_iff .statementTimeoutGrace value).trans exists_comm
  null field := (ofJson_singleton_iff field .null).trans accepts_null_iff
  level name := (ofJson_singleton_iff .statementLogLevel (.string name)).trans
    (exists_congr fun _ => chooses_string_iff)

end Config

end TxRetry
