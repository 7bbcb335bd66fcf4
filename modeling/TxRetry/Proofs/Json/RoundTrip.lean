import TxRetry.Json.Parser
import TxRetry.Json.Printer
import Mathlib.Data.List.Basic
import Mathlib.Tactic.SplitIfs

/-!
# Compact texts are read back

The compact text of a value is the form in which it leaves the program: inside messages, bound
arguments and setup statements.  Reading such a text gives the value again, so the text says
everything about the value.

## Main definitions

* `Json.Closes`, `Json.Opens` — what follows a value, and what a value begins with
* `Json.Legible` — the values whose texts can be read back
* `Json.Restored` — reading a value off the front of a longer text

## Main statements

* `Json.stringBody?_escapeChar` — every character of a string is read back from its escape
* `Json.numberLiteral?_integer` — whole numbers of 64 bits are read back from their digits
* `Json.Legible.restored` — a legible value is read off the front of a text
* `Json.parse?_compact` — a legible value is read back from its compact text
* `Json.compact_injective` — legible values with one text are equal

## Design notes

**A reader stops where a value closes.**  No reader looks behind the comma or the bracket after a
value.  So it is enough to read the text of a number alone: `numberLiteral?_append` puts the rest of
the text behind it.

**What is not legible.**  A whole number beyond 64 bits comes back as a double, members out of order
come back in order, and a text nested too deeply is not read at all.  A double is legible when its
own text is read as that double, which can fail in the last digit (see `Decimal.scale?`).
-/

namespace TxRetry.Json

/-! ### Strings -/

theorem hexQuad_of_lt : ∀ n < 0x20,
    hexQuad n = ['0', '0', (n / 16).digitChar, (n % 16).digitChar] := by
  decide

theorem codeUnit?_of_lt : ∀ n < 0x20,
    codeUnit? '0' '0' (n / 16).digitChar (n % 16).digitChar = some n := by
  decide

/-- A character that needs no escape stands for itself. -/
theorem stringBody?_plain {c : Char} (rest : List Char) (quote : c ≠ '"') (slash : c ≠ '\\')
    (high : 0x20 ≤ c.toNat) :
    stringBody? (c :: rest) = pushChar c (stringBody? rest) := by
  rw [stringBody?.eq_def]
  split
  case h_5 =>
    rename_i same
    obtain ⟨rfl, rfl⟩ := List.cons.inj same
    rw [if_neg (by omega)]
  all_goals simp_all

/-- Every character **is read back from its escape.** -/
theorem stringBody?_escapeChar (c : Char) (rest : List Char) :
    stringBody? (escapeChar c ++ rest) = pushChar c (stringBody? rest) := by
  unfold escapeChar
  split
  case h_8 quote slash _ _ _ _ _ =>
    split_ifs with low
    · rw [hexQuad_of_lt _ low]
      simp only [List.cons_append, List.nil_append]
      rw [stringBody?, codeUnit?_of_lt _ low]
      simp only [Char.ofNat_toNat]
      -- A character this low is no half of a surrogate pair.
      rw [if_neg (by simp; omega), if_neg (by simp; omega)]
    · exact stringBody?_plain rest quote slash (by omega)
  all_goals simp [stringBody?, shortEscape?]

theorem stringBody?_flatMap (cs rest : List Char) :
    stringBody? (cs.flatMap escapeChar ++ '"' :: rest) = some (cs, rest) := by
  induction cs with
  | nil => rfl
  | cons c cs ih =>
    rw [List.flatMap_cons, List.append_assoc, stringBody?_escapeChar, ih]
    rfl

theorem toList_stringText (s : String) (rest : List Char) :
    (stringText s).toList ++ rest = '"' :: (s.toList.flatMap escapeChar ++ '"' :: rest) := by
  simp [stringText]

/-! ### Numbers -/

/-- What may **follow a value**: nothing, or the text of an array or object around it. -/
def Closes (rest : List Char) : Prop :=
  ∀ c ∈ rest.head?, c = ',' ∨ c = ']' ∨ c = '\x7d'

section

variable {cs rest left : List Char} {n : Number} {e : Int}

theorem takeWhile_isDigit_append (closes : Closes rest) :
    (cs ++ rest).takeWhile Char.isDigit = cs.takeWhile Char.isDigit := by
  have stops : rest.takeWhile Char.isDigit = [] := by
    cases rest with
    | nil => rfl
    | cons c rest => obtain rfl | rfl | rfl := closes c rfl <;> rfl
  rw [List.takeWhile_append, stops, List.append_nil]
  split_ifs with all
  · exact ((List.takeWhile_prefix _).eq_of_length all).symm
  · rfl

theorem dropWhile_isDigit_append (closes : Closes rest) :
    (cs ++ rest).dropWhile Char.isDigit = cs.dropWhile Char.isDigit ++ rest := by
  have parts := List.takeWhile_append_dropWhile (p := Char.isDigit) (l := cs ++ rest)
  rw [takeWhile_isDigit_append closes] at parts
  apply (List.append_right_inj (cs.takeWhile Char.isDigit)).mp
  rw [parts, ← List.append_assoc, List.takeWhile_append_dropWhile]

theorem splitSign_append (closes : Closes rest) :
    splitSign (cs ++ rest) = ((splitSign cs).1, (splitSign cs).2 ++ rest) := by
  cases cs with
  | nil =>
    cases rest with
    | nil => rfl
    | cons c rest => obtain rfl | rfl | rfl := closes c rfl <;> rfl
  | cons c cs =>
    by_cases minus : c = '-'
    · subst minus
      rfl
    by_cases plus : c = '+'
    · subst plus
      rfl
    simp [splitSign, minus, plus]

theorem exponentLiteral?_append (closes : Closes rest)
    (read : exponentLiteral? cs = some (e, left)) :
    exponentLiteral? (cs ++ rest) = some (e, left ++ rest) := by
  unfold exponentLiteral? at read ⊢
  rw [splitSign_append closes]
  simp only [takeWhile_isDigit_append closes, dropWhile_isDigit_append closes] at read ⊢
  split_ifs at read ⊢ <;>
  · obtain ⟨rfl, rfl⟩ := Prod.mk.inj (Option.some.inj read)
    rfl

theorem optionalExponent?_append (closes : Closes rest)
    (read : optionalExponent? cs = some (e, left)) :
    optionalExponent? (cs ++ rest) = some (e, left ++ rest) := by
  cases cs with
  | nil =>
    obtain ⟨rfl, rfl⟩ := Prod.mk.inj (Option.some.inj read)
    cases rest with
    | nil => rfl
    | cons c rest => obtain rfl | rfl | rfl := closes c rfl <;> rfl
  | cons c cs =>
    simp only [List.cons_append, optionalExponent?] at read ⊢
    split_ifs at read ⊢
    · exact exponentLiteral?_append closes read
    · obtain ⟨rfl, rfl⟩ := Prod.mk.inj (Option.some.inj read)
      rfl

theorem map_append_rest (rest : List Char) {found : Option Number} {after : List Char}
    (read : found.map (·, after) = some (n, left)) :
    found.map (·, after ++ rest) = some (n, left ++ rest) := by
  obtain ⟨whole, rfl, same⟩ := Option.map_eq_some_iff.mp read
  obtain ⟨rfl, rfl⟩ := Prod.mk.inj same
  rfl

theorem unsignedLiteral?_append {negative : Bool} (closes : Closes rest)
    (read : unsignedLiteral? negative cs = some (n, left)) :
    unsignedLiteral? negative (cs ++ rest) = some (n, left ++ rest) := by
  unfold unsignedLiteral? at read ⊢
  simp only [takeWhile_isDigit_append closes, dropWhile_isDigit_append closes] at read ⊢
  split_ifs at read ⊢
  cases after : cs.dropWhile Char.isDigit with
  | nil =>
    rw [after] at read
    have whole := map_append_rest rest read
    cases rest with
    | nil => exact whole
    | cons c rest => obtain rfl | rfl | rfl := closes c rfl <;> exact whole
  | cons c tail =>
    rw [after] at read
    by_cases point : c = '.'
    · subst point
      simp only [List.cons_append] at read ⊢
      rw [takeWhile_isDigit_append closes, dropWhile_isDigit_append closes]
      split_ifs at read ⊢
      cases power : optionalExponent? (tail.dropWhile Char.isDigit) with
      | none =>
        rw [power] at read
        cases read
      | some found =>
        rw [power] at read
        rw [optionalExponent?_append closes power]
        exact map_append_rest rest read
    · simp only [List.cons_append] at read ⊢
      split_ifs at read ⊢
      · cases power : exponentLiteral? tail with
        | none =>
          rw [power] at read
          cases read
        | some found =>
          rw [power] at read
          rw [exponentLiteral?_append closes power]
          exact map_append_rest rest read
      · exact map_append_rest rest read

theorem numberLiteral?_of_ne {c : Char} (unsigned : c ≠ '-') :
    numberLiteral? (c :: cs) = unsignedLiteral? false (c :: cs) := by
  rw [numberLiteral?]
  rintro - ⟨⟩
  exact unsigned rfl

/-- A number **stops where the text around it goes on.** -/
theorem numberLiteral?_append (closes : Closes rest)
    (read : numberLiteral? cs = some (n, left)) :
    numberLiteral? (cs ++ rest) = some (n, left ++ rest) := by
  cases cs with
  | nil => cases read
  | cons c cs =>
    by_cases minus : c = '-'
    · subst minus
      exact unsignedLiteral?_append closes read
    · rw [numberLiteral?_of_ne minus] at read
      rw [List.cons_append, numberLiteral?_of_ne minus]
      exact unsignedLiteral?_append closes read

/-- A number begins with its sign or with a digit. -/
theorem numberLiteral?_head (read : numberLiteral? cs = some (n, left)) :
    ∃ c more, cs = c :: more ∧ (c = '-' ∨ c.isDigit = true) := by
  cases cs with
  | nil => cases read
  | cons c more =>
    refine ⟨c, more, rfl, ?_⟩
    by_contra other
    obtain ⟨unsigned, letter⟩ := not_or.mp other
    rw [numberLiteral?_of_ne unsigned, unsignedLiteral?, List.takeWhile_cons_of_neg letter] at read
    cases read

end

theorem head?_toDigits {n : Nat} : (Nat.toDigits 10 n).head? = some '0' → n = 0 := by
  induction n using Nat.strongRecOn with
  | ind n ih =>
    intro zero
    rw [Nat.toDigits_eq_if (by decide)] at zero
    split_ifs at zero with single
    · have small : ∀ d < 10, [d.digitChar].head? = some '0' → d = 0 := by decide
      exact small n single zero
    · rw [List.head?_append_of_ne_nil _ Nat.toDigits_ne_nil] at zero
      have none := ih (n / 10) (by omega) zero
      omega

theorem ofDigits_toDigits (n : Nat) : ofDigits (Nat.toDigits 10 n) = n :=
  Nat.ofDigitChars_ten_toDigits

theorem isDigit_of_mem_toDigits {n : Nat} {c : Char} (among : c ∈ Nat.toDigits 10 n) :
    c.isDigit = true :=
  Nat.isDigit_of_mem_toDigits (by decide) (by decide) among

theorem unsignedLiteral?_toDigits (negative : Bool) (n : Nat) :
    unsignedLiteral? negative (Nat.toDigits 10 n) =
      (wholeNumber? negative (Nat.toDigits 10 n)).map (·, []) := by
  have digits : ∀ c ∈ Nat.toDigits 10 n, c.isDigit = true := fun c => isDigit_of_mem_toDigits
  have all : (Nat.toDigits 10 n).takeWhile Char.isDigit = Nat.toDigits 10 n := by
    rw [← List.append_nil (Nat.toDigits 10 n), List.takeWhile_append_of_pos digits]
    rfl
  have none : (Nat.toDigits 10 n).dropWhile Char.isDigit = [] := by
    rw [← List.append_nil (Nat.toDigits 10 n), List.dropWhile_append_of_pos digits]
    rfl
  have short : (Nat.toDigits 10 n).head? = some '0' → Nat.toDigits 10 n = ['0'] := fun zero => by
    rw [head?_toDigits zero]
    rfl
  simp only [unsignedLiteral?, all, none]
  rw [if_neg]
  simpa using short

theorem numberLiteral?_toDigits (n : Nat) :
    numberLiteral? (Nat.toDigits 10 n) = unsignedLiteral? false (Nat.toDigits 10 n) := by
  cases digits : Nat.toDigits 10 n with
  | nil => cases Nat.toDigits_ne_nil digits
  | cons c rest =>
    have digit : c.isDigit = true := by
      apply isDigit_of_mem_toDigits (n := n)
      rw [digits]
      exact List.mem_cons_self
    apply numberLiteral?_of_ne
    rintro rfl
    cases digit

/-- Whole numbers of 64 bits, signed or not, **are read back from their digits.** -/
theorem numberLiteral?_integer {n : Int} (least : -(Nat.pow 2 63 : Nat) ≤ n) (greatest : n < UInt64.size) :
    numberLiteral? (Number.integer n).text.toList = some (.integer n, []) := by
  rw [Number.text, Int.toString_eq_repr, Int.repr_eq_if, Nat.repr_eq_ofList_toDigits,
    Nat.repr_eq_ofList_toDigits]
  split_ifs with sign
  · have small : n.toNat < UInt64.size := by omega
    rw [String.toList_ofList, numberLiteral?_toDigits, unsignedLiteral?_toDigits, wholeNumber?,
      ofDigits_toDigits, if_neg Bool.false_ne_true, if_pos small, Int.toNat_of_nonneg sign]
    rfl
  · have digits : ("-" ++ String.ofList (Nat.toDigits 10 (-n).toNat)).toList =
        '-' :: Nat.toDigits 10 (-n).toNat := by
      simp
    have whole : ¬ ((-n).toNat = 0 || Nat.pow 2 63 < (-n).toNat) = true := by
      simp only [Bool.or_eq_true, decide_eq_true_eq]
      omega
    have back : -((-n).toNat : Int) = n := by omega
    rw [digits, numberLiteral?, unsignedLiteral?_toDigits, wholeNumber?, ofDigits_toDigits,
      if_pos rfl, if_neg whole, back]
    rfl

/-! ### Members -/

theorem insertMember_of_lt {key : String} (value : Json) {sorted : List (String × Json)}
    (least : ∀ member ∈ sorted, member.1 < key) :
    insertMember key value sorted = sorted ++ [(key, value)] := by
  induction sorted with
  | nil => rfl
  | cons member sorted ih =>
    obtain ⟨first, content⟩ := member
    have below : first < key := least _ List.mem_cons_self
    rw [insertMember, if_neg (String.ne_of_lt below).symm, if_neg (String.lt_asymm below),
      ih fun member among => least member (List.mem_cons_of_mem _ among)]
    rfl

/-- Members in the order of their keys **are kept as they are.** -/
theorem ofMembers_of_pairwise {members : List (String × Json)}
    (sorted : members.Pairwise fun a b => a.1 < b.1) : ofMembers members = .object members := by
  have appended : ∀ later before : List (String × Json),
      (before ++ later).Pairwise (fun a b => a.1 < b.1) →
      later.foldl (fun kept member => insertMember member.1 member.2 kept) before =
        before ++ later := by
    intro later
    induction later with
    | nil =>
      intro before _
      exact (List.append_nil before).symm
    | cons member later ih =>
      intro before sorted
      have below : ∀ other ∈ before, other.1 < member.1 := fun other among =>
        (List.pairwise_append.mp sorted).2.2 other among member List.mem_cons_self
      rw [List.append_cons] at sorted ⊢
      rw [List.foldl_cons, insertMember_of_lt member.2 below]
      exact ih _ sorted
  exact congrArg Json.object (appended members [] sorted)

/-! ### Legible values -/

/-- A number **is legible**: a whole number of 64 bits, signed or not, or a double that its own text
stands for. -/
def Number.Legible : Number → Prop
  | .integer n => -(Nat.pow 2 63 : Nat) ≤ n ∧ n < UInt64.size
  | .float x => numberLiteral? (Number.float x).text.toList = some (.float x, [])

theorem Number.Legible.read {n : Number} (legible : n.Legible) :
    numberLiteral? n.text.toList = some (n, []) := by
  cases n with
  | integer n => exact numberLiteral?_integer legible.1 legible.2
  | float x => exact legible

/-- A value **is legible** where so many arrays and objects may still be opened: its numbers are, no
more are opened, and the members of its objects stand in the order of their keys. -/
inductive Legible : Nat → Json → Prop
  | null (depth : Nat) : Legible depth .null
  | bool (depth : Nat) (b : Bool) : Legible depth (.bool b)
  | number (depth : Nat) {n : Number} (legible : n.Legible) : Legible depth (.number n)
  | string (depth : Nat) (s : String) : Legible depth (.string s)
  | array {depth : Nat} {elements : List Json} (each : ∀ x ∈ elements, Legible depth x) :
      Legible (depth + 1) (.array elements)
  | object {depth : Nat} {members : List (String × Json)}
      (sorted : members.Pairwise fun a b => a.1 < b.1)
      (each : ∀ member ∈ members, Legible depth member.2) :
      Legible (depth + 1) (.object members)

/-- A text that **opens a value**: no blank and no closing bracket at its start. -/
def Opens (text : List Char) : Prop :=
  ∃ c more, text = c :: more ∧ c ∉ [' ', '\n', '\r', '\t', ']']

theorem Opens.append {text : List Char} (opens : Opens text) (more : List Char) :
    Opens (text ++ more) := by
  obtain ⟨c, later, rfl, solid⟩ := opens
  exact ⟨c, later ++ more, rfl, solid⟩

theorem Opens.skipBlanks_eq {text : List Char} (opens : Opens text) : skipBlanks text = text := by
  obtain ⟨c, more, rfl, solid⟩ := opens
  rw [skipBlanks, List.dropWhile_cons_of_neg]
  simp_all

theorem opens_of_numberLiteral? {cs left : List Char} {n : Number}
    (read : numberLiteral? cs = some (n, left)) : Opens cs := by
  obtain ⟨c, more, rfl, first⟩ := numberLiteral?_head read
  refine ⟨c, more, rfl, fun among => ?_⟩
  simp only [List.mem_cons, List.not_mem_nil, or_false] at among
  obtain rfl | rfl | rfl | rfl | rfl := among <;> obtain minus | digit := first <;> contradiction

theorem Legible.opens {depth : Nat} {value : Json} (legible : Legible depth value) :
    Opens value.compact.toList := by
  cases legible with
  | null => exact ⟨'n', _, rfl, by decide⟩
  | bool _ b => cases b <;> exact ⟨_, _, rfl, by decide⟩
  | number _ legible => exact opens_of_numberLiteral? legible.read
  | string _ s =>
    rw [compact, ← List.append_nil (stringText s).toList, toList_stringText]
    exact ⟨'"', _, rfl, by decide⟩
  | array =>
    simp only [compact, String.toList_append]
    exact ⟨'[', _, rfl, by decide⟩
  | object =>
    simp only [compact, String.toList_append]
    exact ⟨'\x7b', _, rfl, by decide⟩

/-! ### One step of the reader -/

section

variable {depth fuel : Nat} {cs rest left : List Char} {key : String} {x : Json}

theorem value?_number {n : Number} (read : numberLiteral? cs = some (n, left)) :
    value? (fuel + 1) depth cs = some (.number n, left) := by
  have solid := (opens_of_numberLiteral? read).skipBlanks_eq
  obtain ⟨c, more, rfl, first⟩ := numberLiteral?_head read
  rw [value?.eq_def]
  simp only [solid]
  split
  case h_1 same => cases same
  case h_8 =>
    rw [read]
    rfl
  -- No other value begins with a sign or a digit.
  all_goals
    rename_i same
    cases same
    obtain minus | digit := first <;> contradiction

theorem value?_string (cs : List Char) :
    value? (fuel + 1) depth ('"' :: cs) =
      (stringBody? cs).map fun (s, rest) => (.string (String.ofList s), rest) := rfl

theorem value?_array (opens : Opens cs) :
    value? (fuel + 1) (depth + 1) ('[' :: cs) =
      (elements? fuel depth cs).map fun (xs, rest) => (.array xs, rest) := by
  have solid := opens.skipBlanks_eq
  obtain ⟨c, more, rfl, other⟩ := opens
  have begins : skipBlanks ('[' :: c :: more) = '[' :: c :: more := rfl
  rw [value?]
  simp only [begins, solid]
  split
  · simp_all
  · rfl

theorem value?_object (cs : List Char) :
    value? (fuel + 1) (depth + 1) ('\x7b' :: '"' :: cs) =
      (members? fuel depth ('"' :: cs)).map fun (xs, rest) => (ofMembers xs, rest) := rfl

theorem elements?_last (read : value? fuel depth cs = some (x, ']' :: rest)) :
    elements? (fuel + 1) depth cs = some ([x], rest) := by
  rw [elements?, read]
  rfl

theorem elements?_next (read : value? fuel depth cs = some (x, ',' :: rest)) :
    elements? (fuel + 1) depth cs =
      (elements? fuel depth rest).map fun (xs, rest) => (x :: xs, rest) := by
  rw [elements?, read]
  rfl

theorem members?_last (read : value? fuel depth cs = some (x, '\x7d' :: rest)) :
    members? (fuel + 1) depth ((stringText key).toList ++ ':' :: cs) = some ([(key, x)], rest) := by
  simp [members?, toList_stringText, stringBody?_flatMap, skipBlanks, read]

theorem members?_next (read : value? fuel depth cs = some (x, ',' :: rest)) :
    members? (fuel + 1) depth ((stringText key).toList ++ ':' :: cs) =
      (members? fuel depth rest).map fun (xs, rest) => ((key, x) :: xs, rest) := by
  simp [members?, toList_stringText, stringBody?_flatMap, skipBlanks, read]

end

/-! ### Texts with commas between them -/

/-- The characters of texts with commas between them. -/
def joined (texts : List String) : List Char := (String.intercalate "," texts).toList

@[simp] theorem joined_singleton (text : String) : joined [text] = text.toList := by
  rw [joined, String.intercalate_singleton]

@[simp] theorem joined_cons_cons (text next : String) (texts : List String) :
    joined (text :: next :: texts) = text.toList ++ ',' :: joined (next :: texts) := by
  rw [joined, String.intercalate_cons_cons, String.toList_append, String.toList_append,
    List.append_assoc]
  rfl

theorem exists_joined_eq (text : String) (texts : List String) :
    ∃ more, joined (text :: texts) = text.toList ++ more := by
  cases texts with
  | nil => exact ⟨[], by simp⟩
  | cons next texts => exact ⟨_, joined_cons_cons text next texts⟩

theorem toList_array (elements : List Json) (rest : List Char) :
    (Json.array elements).compact.toList ++ rest =
      '[' :: (joined (compactElements elements) ++ ']' :: rest) := by
  simp [compact, joined]

theorem toList_object (members : List (String × Json)) (rest : List Char) :
    (Json.object members).compact.toList ++ rest =
      '\x7b' :: (joined (compactMembers members) ++ '\x7d' :: rest) := by
  simp [compact, joined]

theorem toList_member (key : String) (x : Json) (rest : List Char) :
    (stringText key ++ ":" ++ x.compact).toList ++ rest =
      (stringText key).toList ++ ':' :: (x.compact.toList ++ rest) := by
  simp

theorem length_compact_lt (key : String) (x : Json) :
    x.compact.toList.length < (stringText key ++ ":" ++ x.compact).toList.length := by
  simp only [String.toList_append, List.length_append]
  change _ < _ + 1 + _
  omega

/-! ### Reading back -/

/-- A value **is restored**: it is read off the front of every text that goes on behind it, within
twice as many steps as it has characters. -/
def Restored (depth : Nat) (value : Json) : Prop :=
  ∀ (fuel : Nat) (rest : List Char), 2 * value.compact.toList.length ≤ fuel → Closes rest →
    value? (fuel + 1) depth (value.compact.toList ++ rest) = some (value, rest)

section

variable {depth : Nat}

theorem elements?_compact {first : Json} {later : List Json}
    (each : ∀ x ∈ first :: later, Restored depth x) (fuel : Nat) (rest : List Char)
    (enough : 2 * (joined (compactElements (first :: later))).length + 1 ≤ fuel) :
    elements? (fuel + 1) depth (joined (compactElements (first :: later)) ++ ']' :: rest) =
      some (first :: later, rest) := by
  obtain ⟨fuel, rfl⟩ : ∃ m, fuel = m + 1 := ⟨fuel - 1, by omega⟩
  induction later generalizing first fuel with
  | nil =>
    simp only [compactElements, joined_singleton] at enough ⊢
    exact elements?_last
      (each first List.mem_cons_self fuel (']' :: rest) (by omega) (by simp [Closes]))
  | cons second later ih =>
    simp only [compactElements, joined_cons_cons, List.length_append, List.length_cons,
      List.append_assoc, List.cons_append] at enough ih ⊢
    have read := each first List.mem_cons_self fuel
      (',' :: (joined (second.compact :: compactElements later) ++ ']' :: rest)) (by omega)
      (by simp [Closes])
    obtain ⟨fuel, rfl⟩ : ∃ m, fuel = m + 1 := ⟨fuel - 1, by omega⟩
    have follow := ih (fun x among => each x (List.mem_cons_of_mem _ among)) fuel (by omega)
    rw [elements?_next read, follow]
    rfl

theorem members?_compact {first : String × Json} {later : List (String × Json)}
    (each : ∀ member ∈ first :: later, Restored depth member.2) (fuel : Nat) (rest : List Char)
    (enough : 2 * (joined (compactMembers (first :: later))).length + 1 ≤ fuel) :
    members? (fuel + 1) depth (joined (compactMembers (first :: later)) ++ '\x7d' :: rest) =
      some (first :: later, rest) := by
  obtain ⟨key, x⟩ := first
  have shorter := length_compact_lt key x
  have restored : Restored depth x := each (key, x) List.mem_cons_self
  obtain ⟨fuel, rfl⟩ : ∃ m, fuel = m + 1 := ⟨fuel - 1, by omega⟩
  induction later generalizing key x fuel with
  | nil =>
    rw [compactMembers, compactMembers, joined_singleton] at enough ⊢
    rw [toList_member]
    exact members?_last (restored fuel ('\x7d' :: rest) (by omega) (by simp [Closes]))
  | cons second later ih =>
    obtain ⟨next, y⟩ := second
    rw [compactMembers, compactMembers, joined_cons_cons, ← compactMembers] at enough ⊢
    rw [List.length_append, List.length_cons] at enough
    have read := restored fuel
      (',' :: (joined (compactMembers ((next, y) :: later)) ++ '\x7d' :: rest)) (by omega)
      (by simp [Closes])
    obtain ⟨fuel, rfl⟩ : ∃ m, fuel = m + 1 := ⟨fuel - 1, by omega⟩
    have follow := ih next y (fun member among => each member (List.mem_cons_of_mem _ among))
      (length_compact_lt next y) (each (next, y) (by simp)) fuel (by omega)
    rw [List.append_assoc, toList_member, List.cons_append, members?_next read, follow]
    rfl

/-- A legible value **is read off the front of a text.** -/
theorem Legible.restored {value : Json} (legible : Legible depth value) : Restored depth value := by
  induction legible with
  | null depth => exact fun fuel rest enough closes => rfl
  | bool depth b => cases b <;> exact fun fuel rest enough closes => rfl
  | number depth legible =>
    exact fun fuel rest enough closes => value?_number (numberLiteral?_append closes legible.read)
  | string depth s =>
    intro fuel rest enough closes
    rw [compact, toList_stringText, value?_string, stringBody?_flatMap]
    simp
  | @array depth elements each ih =>
    intro fuel rest enough closes
    cases elements with
    | nil => rfl
    | cons first later =>
      have length := congrArg List.length (toList_array (first :: later) [])
      simp only [List.append_nil, List.length_cons, List.length_append, List.length_nil] at length
      obtain ⟨fuel, rfl⟩ : ∃ m, fuel = m + 1 := ⟨fuel - 1, by omega⟩
      have opens : Opens (joined (compactElements (first :: later)) ++ ']' :: rest) := by
        obtain ⟨more, text⟩ := exists_joined_eq first.compact (compactElements later)
        rw [compactElements, text]
        exact ((each first List.mem_cons_self).opens.append more).append _
      rw [toList_array, value?_array opens, elements?_compact ih fuel rest (by omega)]
      rfl
  | @object depth members sorted each ih =>
    intro fuel rest enough closes
    cases members with
    | nil => rfl
    | cons first later =>
      have length := congrArg List.length (toList_object (first :: later) [])
      simp only [List.append_nil, List.length_cons, List.length_append, List.length_nil] at length
      obtain ⟨fuel, rfl⟩ : ∃ m, fuel = m + 1 := ⟨fuel - 1, by omega⟩
      obtain ⟨cs, quoted⟩ : ∃ cs,
          joined (compactMembers (first :: later)) ++ '\x7d' :: rest = '"' :: cs := by
        obtain ⟨more, text⟩ := exists_joined_eq (stringText first.1 ++ ":" ++ first.2.compact)
          (compactMembers later)
        exact ⟨_, by rw [compactMembers, text, List.append_assoc, toList_member, toList_stringText]⟩
      have read := members?_compact ih fuel rest (by omega)
      rw [quoted] at read
      rw [toList_object, quoted, value?_object, read]
      exact congrArg (fun value => some (value, rest)) (ofMembers_of_pairwise sorted)

end

variable {value other : Json}

/-- A legible value **is read back from its compact text.** -/
theorem parse?_compact (legible : Legible nestingLimit value) :
    parse? value.compact = some value := by
  have read := legible.restored (2 * value.compact.toList.length + 1) [] (by omega)
    (by simp [Closes])
  rw [List.append_nil] at read
  simp only [parse?, read]
  rfl

/-- Legible values **with one text are equal.** -/
theorem compact_injective (legible : Legible nestingLimit value)
    (likewise : Legible nestingLimit other) (same : value.compact = other.compact) :
    value = other := by
  have read := parse?_compact legible
  rw [same, parse?_compact likewise] at read
  exact (Option.some.inj read).symm

end TxRetry.Json
