import TxRetry.Proofs.Config.Objects

/-!
# Configurations from arrays

An array gives the fields by position.  It is decoded as the object that has its elements under the
keys of the fields, but its defects are met in the order of the positions.  Elements beyond the last
field are an error that is noticed last.

## Main definitions

* `Config.Field.position`, `Config.Field.labels` — the position of a field, and the keys by position
* `Config.keyed` — an array written as an object
* `Config.FormsAgree` — what comes of an array

## Main statements

* `Json.lookup_foldl_of_mem` — what is under the keys of an object made from keys and values
* `Config.decodePositions_eq` — positions are fields in a row
* `Config.formsAgree` — the two forms agree
-/

namespace TxRetry

/-! ### Objects from keys and values -/

namespace Json

variable {keys : List String} {values : List Json} {sorted : List (String × Json)} {key : String}

theorem lookup_foldl_of_notMem (outside : key ∉ keys) :
    ((keys.zip values).foldl (fun sorted (key, value) => insertMember key value sorted)
      sorted).lookup key = sorted.lookup key := by
  induction keys generalizing values sorted with
  | nil => rfl
  | cons first rest ih =>
    cases values with
    | nil => rfl
    | cons value later =>
      obtain ⟨apart, outside⟩ := List.ne_and_not_mem_of_not_mem_cons outside
      rw [List.zip_cons_cons, List.foldl_cons, ih outside, lookup_insertMember, if_neg apart]

/-- Under a key is **the value at its position**, or what was there before. -/
theorem lookup_foldl_of_mem (distinct : keys.Nodup) (among : key ∈ keys) :
    ((keys.zip values).foldl (fun sorted (key, value) => insertMember key value sorted)
      sorted).lookup key = values[keys.idxOf key]?.or (sorted.lookup key) := by
  induction keys generalizing values sorted with
  | nil => cases among
  | cons first rest ih =>
    obtain ⟨fresh, distinct⟩ := List.nodup_cons.mp distinct
    cases values with
    | nil => rfl
    | cons value later =>
      rw [List.zip_cons_cons, List.foldl_cons]
      by_cases same : key = first
      · subst same
        rw [lookup_foldl_of_notMem fresh, lookup_insertMember, if_pos rfl, List.idxOf_cons_self]
        rfl
      · have later_key : key ∈ rest := (List.mem_cons.mp among).resolve_left same
        rw [ih distinct later_key, lookup_insertMember, if_neg same, List.idxOf_cons,
          beq_false_of_ne (Ne.symm same)]
        rfl

end Json

namespace Config

namespace Field

/-- The **position of a field** in the array form. -/
def position : Field → Nat
  | .isolation => 0
  | .accessMode => 1
  | .requireSerializable => 2
  | .retryCodes => 3
  | .maxRetries => 4
  | .statementTimeoutGrace => 5
  | .maxPlanCost => 6
  | .disableSeqscan => 7
  | .statementLogLevel => 8

theorem idxOf_declared (field : Field) : declared.idxOf field = field.position := by
  cases field <;> decide

theorem declared_pairwise : declared.Pairwise fun a b => a.position < b.position := by
  decide

theorem mem_declared (field : Field) : field ∈ declared := by
  cases field <;> decide

theorem declared_nodup : declared.Nodup := by
  decide

/-- The **keys of the fields by position**, written out. -/
def labels : List String :=
  ["isolation", "access_mode", "require_serializable", "serialization_failure_codes", "max_retries",
    "statement_timeout_grace", "max_plan_cost", "disable_seqscan", "statement_log_level"]

theorem labels_nodup : labels.Nodup := by
  decide

theorem mem_labels (field : Field) : field.label ∈ labels := by
  cases field <;> decide

theorem idxOf_label (field : Field) : labels.idxOf field.label = field.position := by
  cases field <;> decide

end Field

/-! ### Arrays -/

theorem decodeFields_of_none {given : Field → Option Json} {config : Config} {fields : List Field}
    (nothing : ∀ field, given field = none) : decodeFields given config fields = .ok config := by
  induction fields with
  | nil => rfl
  | cons field rest ih => rw [decodeFields, nothing, ih]

/-- Positions are **fields in a row**, each with what stands at its position. -/
theorem decodePositions_eq {fields : List Field} (distinct : fields.Nodup) (config : Config)
    (values : List Json) :
    decodePositions config fields values =
      decodeFields (fun field => values[fields.idxOf field]?) config fields := by
  induction fields generalizing config values with
  | nil => rfl
  | cons field rest ih =>
    obtain ⟨fresh, distinct⟩ := List.nodup_cons.mp distinct
    cases values with
    | nil => exact (decodeFields_of_none fun _ => List.getElem?_nil).symm
    | cons value later =>
      have shifted (config : Config) :
          decodeFields (fun other => (value :: later)[(field :: rest).idxOf other]?) config rest =
            decodeFields (fun other => later[rest.idxOf other]?) config rest := by
        refine decodeFields_congr fun other among => ?_
        have apart : field ≠ other := fun same => fresh (same ▸ among)
        rw [List.idxOf_cons, beq_false_of_ne apart]
        rfl
      rw [decodePositions, decodeFields_cons, List.idxOf_cons_self, decode_eq]
      simp only [shifted, ← ih distinct, List.getElem?_cons_zero, Field.readOr]
      cases field.read value <;> rfl

/-- What stands for the fields in an array. -/
def givenByPosition (elements : List Json) (field : Field) : Option Json :=
  elements[field.position]?

theorem decoded_positions (elements : List Json) :
    Decoded (givenByPosition elements) (fun a b => a.position < b.position)
      (decodePositions {} Field.declared elements) := by
  rw [decodePositions_eq Field.declared_nodup]
  simp only [Field.idxOf_declared]
  exact decoded_of_pairwise Field.mem_declared Field.declared_pairwise
    (fun _ _ => Nat.lt_asymm) _

theorem ofJson_array_of_le {elements : List Json} (short : elements.length ≤ 9) :
    ofJson (.array elements) = decodePositions {} Field.declared elements := by
  rw [ofJson]
  cases decodePositions {} Field.declared elements with
  | error defect => rfl
  | ok config => exact if_pos short

theorem ofJson_array_of_lt {elements : List Json} (long : 9 < elements.length) :
    ofJson (.array elements) =
      (decodePositions {} Field.declared elements).bind fun _ =>
        .error (.tooManyElements elements.length) := by
  rw [ofJson]
  cases decodePositions {} Field.declared elements with
  | error defect => rfl
  | ok config => exact if_neg (Nat.not_le_of_lt long)

/-! ### The two forms -/

/-- An array **written as an object**, its elements being under the keys of the fields. -/
def keyed (elements : List Json) : Json :=
  .ofMembers (Field.labels.zip elements)

/-- The object is **decoded from the same values**, its defects being met in another order. -/
theorem decoded_keyed (elements : List Json) :
    Decoded (givenByPosition elements) (fun a b => a.label < b.label) (ofJson (keyed elements)) := by
  have same : givenByPosition elements = givenByKey
      ((Field.labels.zip elements).foldl
        (fun sorted (key, value) => Json.insertMember key value sorted) []) := by
    funext field
    rw [givenByKey, Json.lookup_foldl_of_mem Field.labels_nodup field.mem_labels,
      Field.idxOf_label, givenByPosition]
    simp
  rw [same]
  exact decoded_object _

/-- What comes of an array: **the two forms agree.** -/
structure FormsAgree (elements : List Json) : Prop where
  /-- An array that is not too long is decoded as the object with its elements. -/
  agree : elements.length ≤ 9 → ∀ config,
    ofJson (.array elements) = .ok config ↔ ofJson (keyed elements) = .ok config
  /-- It is decoded field by field, missing positions having the defaults; but its defects are met
  by position. -/
  decoded : elements.length ≤ 9 →
    Decoded (fun field => elements[field.position]?) (fun a b => a.position < b.position)
      (ofJson (.array elements))
  /-- A longer one is no configuration. -/
  rejected : 9 < elements.length → ∀ config, ofJson (.array elements) ≠ .ok config
  /-- The reason is its first defect, -/
  refused : 9 < elements.length → ∀ field defect,
    Field.Refuses field elements[field.position]? defect →
      (∀ earlier : Field, earlier.position < field.position →
        earlier.Admits elements[earlier.position]?) →
      ofJson (.array elements) = .error defect
  /-- or, without one, its length. -/
  tooLong : 9 < elements.length → (∀ field : Field, field.Admits elements[field.position]?) →
    ofJson (.array elements) = .error (.tooManyElements elements.length)

/-- **The two forms agree**, for every array. -/
theorem formsAgree (elements : List Json) : FormsAgree elements where
  agree short config := by
    rw [ofJson_array_of_le short, (decoded_positions elements).fields,
      (decoded_keyed elements).fields]
  decoded short := by
    rw [ofJson_array_of_le short]
    exact decoded_positions elements
  rejected long config := by
    rw [ofJson_array_of_lt long]
    cases decodePositions {} Field.declared elements <;> exact (nomatch ·)
  refused long field defect refuses admitted := by
    rw [ofJson_array_of_lt long,
      ((decoded_positions elements).fails defect).mpr ⟨field, refuses, admitted⟩]
    rfl
  tooLong long admits := by
    obtain ⟨config, decoded⟩ := (decoded_positions elements).succeeds.mpr admits
    rw [ofJson_array_of_lt long, decoded]
    rfl

end Config

end TxRetry
