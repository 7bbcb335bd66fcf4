import Mathlib.Data.List.Basic
import TxRetry.Sql.Literal
import TxRetry.Sql.SettingName

/-!
# Reading SQL

How a server reads a text of several statements: where literals begin and end, where statements end,
and which names a setting can have.  What the library writes is held against these rules.

## Main definitions

* `readLiteral?` — the text for which a literal stands
* `pieces`, `statementsIn?` — the statements of a text, which end at semicolons outside literals
* `Plain` — characters that mean nothing to this reading
* `Whole` — a text that is read as one statement, whatever comes after its semicolon
* `DottedName` — the names of settings

## Main statements

* `readLiteral?_eq_some_iff` — a literal is read back as the text that was quoted, and only that
* `statementsIn?_intercalate` — whole statements that are joined are read back one by one
* `isSettingName_iff` — the check of names is the rule for names

## Design notes

**A backslash is an ordinary character,** so the only rule inside a literal is the one for quotes:
two in a row stand for one, and a single one ends the literal.

**Blanks before a statement are not part of it,** and where there is nothing between two semicolons
there is no statement.

**Comments and other kinds of quotes are left out.**  Outside literals the library writes letters,
digits, underscores, dots, blanks and equals signs, and none of these begins one.
-/

namespace TxRetry.Sql

/-! ### Literals -/

/-- The inside of a literal read **up to the quote that closes it**: the text for which the literal
stands, and what comes after it.  A literal that is never closed has no reading. -/
def insideLiteral? : List Char → Option (List Char × List Char)
  | [] => none
  | '\'' :: '\'' :: rest => (insideLiteral? rest).map fun (text, after) => ('\'' :: text, after)
  | '\'' :: rest => some ([], rest)
  | c :: rest => (insideLiteral? rest).map fun (text, after) => (c :: text, after)

/-- The **text for which a literal stands**, if the literal is all that there is. -/
def readLiteral? (literal : String) : Option String :=
  match literal.toList with
  | '\'' :: rest =>
    match insideLiteral? rest with
    | some (text, []) => some (String.ofList text)
    | _ => none
  | _ => none

/-- A quoted text is read back, if what comes after it does not begin with a quote. -/
theorem insideLiteral?_doubleQuotes (text : List Char) {after : List Char}
    (apart : after.head? ≠ some '\'') :
    insideLiteral? (doubleQuotes text ++ '\'' :: after) = some (text, after) := by
  induction text with
  | nil =>
      cases after with
      | nil => rfl
      | cons d rest =>
          have other : d ≠ '\'' := fun same => apart (congrArg some same)
          simp [doubleQuotes, insideLiteral?, other]
  | cons c text ih =>
      by_cases quote : c = '\''
      · subst quote
        simp [doubleQuotes, insideLiteral?, ih]
      · simp [doubleQuotes, insideLiteral?, quote, ih]

/-- What is read inside a literal is **spelled in one way only.** -/
theorem eq_of_insideLiteral? {chars text after : List Char}
    (read : insideLiteral? chars = some (text, after)) :
    chars = doubleQuotes text ++ '\'' :: after := by
  induction chars using insideLiteral?.induct generalizing text with
  | case1 => cases read
  | case2 rest ih =>
      obtain ⟨⟨inner, _⟩, found, same⟩ := Option.map_eq_some_iff.mp read
      cases same
      simp [doubleQuotes, ih found]
  | case3 rest single =>
      rw [insideLiteral?] at read
      · cases read
        rfl
      · exact single
  | case4 c rest _ other ih =>
      have other : c ≠ '\'' := other
      rw [insideLiteral?] at read
      · obtain ⟨⟨inner, _⟩, found, same⟩ := Option.map_eq_some_iff.mp read
        cases same
        simp [doubleQuotes, other, ih found]
      all_goals assumption

/-- **Quoting and reading are inverse**: a text is read from its own literal, and from no other. -/
theorem readLiteral?_eq_some_iff {literal text : String} :
    readLiteral? literal = some text ↔ literal = quoteLiteral text := by
  constructor
  · intro read
    unfold readLiteral? at read
    split at read
    · rename_i rest begins
      split at read
      · rename_i inner inside
        cases read
        rw [← String.toList_inj, begins, eq_of_insideLiteral? inside]
        simp [quoteLiteral]
      · cases read
    · cases read
  · rintro rfl
    have inside : insideLiteral? (doubleQuotes text.toList ++ ['\'']) = some (text.toList, []) :=
      insideLiteral?_doubleQuotes _ (by simp)
    simp [readLiteral?, quoteLiteral, inside]

/-! ### Statements -/

/-- Characters put in front of the first of several pieces. -/
def prepend (chars : List Char) : List (List Char) → List (List Char) :=
  List.modifyHead (chars ++ ·)

/-- The **pieces of a text between its semicolons**, except those inside literals.  A text that ends
inside a literal has no reading. -/
def pieces : (inLiteral : Bool) → List Char → Option (List (List Char))
  | true, [] => none
  | true, '\'' :: '\'' :: rest => (pieces true rest).map (prepend ['\'', '\''])
  | true, '\'' :: rest => (pieces false rest).map (prepend ['\''])
  | true, c :: rest => (pieces true rest).map (prepend [c])
  | false, [] => some [[]]
  | false, ';' :: rest => (pieces false rest).map ([] :: ·)
  | false, '\'' :: rest => (pieces true rest).map (prepend ['\''])
  | false, c :: rest => (pieces false rest).map (prepend [c])

/-- The characters that may stand before a statement. -/
def isBlank (c : Char) : Bool :=
  c ∈ [' ', '\t', '\n', '\r', '\x0b', '\x0c']

/-- The statements of a text given by its characters. -/
def statementsOf? (chars : List Char) : Option (List (List Char)) :=
  (pieces false chars).map fun found => (found.map (List.dropWhile isBlank)).filter (!·.isEmpty)

/-- The **statements of a text**, in order. -/
def statementsIn? (text : String) : Option (List String) :=
  (statementsOf? text.toList).map (List.map String.ofList)

/-- Characters that **neither open a literal nor end a statement.** -/
def Plain (chars : List Char) : Prop := ∀ c ∈ chars, c ≠ ';' ∧ c ≠ '\''

instance (chars : List Char) : Decidable (Plain chars) :=
  List.decidableBAll (fun c => c ≠ ';' ∧ c ≠ '\'') chars

theorem plain_append {chars more : List Char} :
    Plain (chars ++ more) ↔ Plain chars ∧ Plain more := List.forall_mem_append

section Pieces

variable {chars rest : List Char}

@[simp] theorem prepend_nil : prepend [] = id := by
  funext found
  cases found <;> rfl

@[simp] theorem prepend_prepend (first second : List Char) (found : List (List Char)) :
    prepend first (prepend second found) = prepend (first ++ second) found := by
  cases found <;> simp [prepend]

/-- Outside literals, plain characters belong to their piece. -/
theorem pieces_plain (plain : Plain chars) :
    pieces false (chars ++ rest) = (pieces false rest).map (prepend chars) := by
  induction chars with
  | nil => simp
  | cons c chars ih =>
      obtain ⟨⟨noSemicolon, noQuote⟩, later⟩ := List.forall_mem_cons.mp plain
      simp [pieces, ih later, Function.comp_def]

/-- **A piece with a literal in it** holds all of it, and goes on after the quote that closes it. -/
theorem pieces_inLiteral (chars : List Char) :
    pieces true chars = (insideLiteral? chars).bind fun (text, after) =>
      (pieces false after).map (prepend (doubleQuotes text ++ ['\''])) := by
  induction chars using insideLiteral?.induct with
  | case1 => rfl
  | case2 rest ih =>
      simp [pieces, insideLiteral?, doubleQuotes, ih, Option.map_bind, Option.bind_map,
        Function.comp_def]
  | case3 rest single =>
      rw [pieces, insideLiteral?]
      · rfl
      all_goals exact single
  | case4 c rest _ other ih =>
      have other : c ≠ '\'' := other
      rw [pieces, insideLiteral?]
      · simp [ih, doubleQuotes, other, Option.map_bind, Option.bind_map, Function.comp_def]
      all_goals assumption

/-- A literal belongs to its piece, **whatever text it stands for.** -/
theorem pieces_literal (text : List Char) (apart : rest.head? ≠ some '\'') :
    pieces true (doubleQuotes text ++ '\'' :: rest) =
      (pieces false rest).map (prepend (doubleQuotes text ++ ['\''])) := by
  rw [pieces_inLiteral, insideLiteral?_doubleQuotes text apart, Option.bind_some]

end Pieces

/-! ### Whole statements -/

/-- A text that is read **as one statement**: it begins with a character of its own, and its last
piece is still open, and not inside a literal, when it ends. -/
structure Whole (statement : List Char) : Prop where
  begins : ∃ c rest, statement = c :: rest ∧ isBlank c = false
  pieces_append : ∀ rest, rest.head? ≠ some '\'' →
    pieces false (statement ++ rest) = (pieces false rest).map (prepend statement)

section Whole

variable {statement chars rest : List Char}

/-- A plain statement is whole. -/
theorem whole_of_plain (begins : ∃ c rest, statement = c :: rest ∧ isBlank c = false)
    (plain : Plain statement) : Whole statement :=
  ⟨begins, fun _ _ => pieces_plain plain⟩

/-- So is such a statement with a literal at its end, **whatever text the literal stands for.** -/
theorem whole_append_literal (begins : ∃ c rest, statement = c :: rest ∧ isBlank c = false)
    (plain : Plain statement) (text : String) :
    Whole (statement ++ (quoteLiteral text).toList) := by
  obtain ⟨c, tail, rfl, solid⟩ := begins
  refine ⟨⟨c, _, rfl, solid⟩, fun rest apart => ?_⟩
  have literal : pieces false ((quoteLiteral text).toList ++ rest) =
      (pieces false rest).map (prepend (quoteLiteral text).toList) := by
    simp [quoteLiteral, pieces, pieces_literal text.toList apart, Function.comp_def]
  rw [List.append_assoc, pieces_plain plain, literal, Option.map_map]
  simp [Function.comp_def]

theorem Whole.dropWhile_eq (whole : Whole statement) :
    statement.dropWhile isBlank = statement := by
  obtain ⟨c, rest, rfl, solid⟩ := whole.begins
  simp [solid]

theorem Whole.isEmpty_eq (whole : Whole statement) : statement.isEmpty = false := by
  obtain ⟨c, rest, rfl, -⟩ := whole.begins
  rfl

/-- A blank in front of a text makes no difference. -/
theorem statementsOf?_blank {c : Char} (blank : isBlank c = true) :
    statementsOf? (c :: rest) = statementsOf? rest := by
  have plain : Plain [c] := by
    refine List.forall_mem_singleton.mpr ⟨?_, ?_⟩ <;>
    · rintro rfl
      cases blank
  have first : pieces false (c :: rest) = (pieces false rest).map (prepend [c]) :=
    pieces_plain plain
  rw [statementsOf?, statementsOf?, first, Option.map_map]
  congr 1
  funext found
  cases found <;> simp [prepend, blank]

/-- A whole statement is read off the front of a text. -/
theorem Whole.statementsOf?_append (whole : Whole statement) :
    statementsOf? (statement ++ ';' :: rest) = (statementsOf? rest).map (statement :: ·) := by
  rw [statementsOf?, whole.pieces_append _ (by simp), pieces, statementsOf?]
  simp [Function.comp_def, prepend, whole.dropWhile_eq, whole.isEmpty_eq]

/-- A whole statement on its own is read as itself. -/
theorem Whole.statementsOf?_eq (whole : Whole statement) :
    statementsOf? statement = some [statement] := by
  have alone := whole.pieces_append [] (by simp)
  rw [List.append_nil] at alone
  simp [statementsOf?, alone, pieces, prepend, whole.dropWhile_eq, whole.isEmpty_eq]

/-- **Whole statements are read back one by one.**  The induction peels off the first of them, with
the semicolon and the line break after it. -/
theorem statementsOf?_intercalate (statements : List (List Char))
    (whole : ∀ statement ∈ statements, Whole statement) :
    statementsOf? ([';', '\n'].intercalate statements) = some statements := by
  induction statements with
  | nil => rfl
  | cons first later ih =>
      obtain ⟨wholeFirst, wholeLater⟩ := List.forall_mem_cons.mp whole
      cases later with
      | nil => rw [List.intercalate_singleton, wholeFirst.statementsOf?_eq]
      | cons second later =>
          rw [List.intercalate_cons_cons, List.append_assoc, List.cons_append,
            List.singleton_append, wholeFirst.statementsOf?_append, statementsOf?_blank rfl,
            ih wholeLater]
          rfl

/-- Whole statements that are **joined to one text** are read back one by one. -/
theorem statementsIn?_intercalate (statements : List String)
    (whole : ∀ statement ∈ statements, Whole statement.toList) :
    statementsIn? (String.intercalate ";\n" statements) = some statements := by
  have read := statementsOf?_intercalate (statements.map String.toList)
    (List.forall_mem_map.mpr whole)
  have spelled : (";\n" : String).toList = [';', '\n'] := rfl
  rw [statementsIn?, String.toList_intercalate, spelled, read]
  simp [Function.comp_def]

/-- Inside a literal neither a semicolon nor a quote that is written twice ends anything. -/
example : statementsIn? "SET a = 'x'';\n''';\nSET b = 1" =
    some ["SET a = 'x'';\n'''", "SET b = 1"] := by decide

end Whole

/-! ### Names -/

/-- The characters of a name: ASCII letters, digits and the underscore. -/
def NameChar (c : Char) : Prop :=
  ('a' ≤ c ∧ c ≤ 'z') ∨ ('A' ≤ c ∧ c ≤ 'Z') ∨ ('0' ≤ c ∧ c ≤ '9') ∨ c = '_'

/-- The **names of settings**: parts of such characters, none of them empty, with one dot between
any two. -/
def DottedName (name : String) : Prop :=
  ∃ parts : List (List Char), parts ≠ [] ∧ (∀ part ∈ parts, part ≠ [] ∧ ∀ c ∈ part, NameChar c) ∧
    name.toList = ['.'].intercalate parts

theorem isNameChar_iff {c : Char} : isNameChar c = true ↔ NameChar c := by
  have between (first last : Char) :
      (decide (c.val ≥ first.val) && decide (c.val ≤ last.val)) = true ↔ first ≤ c ∧ c ≤ last := by
    rw [Bool.and_eq_true, decide_eq_true_iff, decide_eq_true_iff]
    rfl
  have upper : c.isUpper = true ↔ 'A' ≤ c ∧ c ≤ 'Z' := decide_eq_true_iff
  have lower : c.isLower = true ↔ 'a' ≤ c ∧ c ≤ 'z' := between 'a' 'z'
  have digit : c.isDigit = true ↔ '0' ≤ c ∧ c ≤ '9' := between '0' '9'
  show ((c.isUpper || c.isLower || c.isDigit) || c == '_') = true ↔ _
  rw [Bool.or_eq_true, Bool.or_eq_true, Bool.or_eq_true, upper, lower, digit, beq_iff_eq]
  rw [or_assoc, or_assoc, or_left_comm, NameChar]

theorem dottedParts_eq_splitOn (chars : List Char) : dottedParts chars = chars.splitOn '.' := by
  unfold List.splitOn
  induction chars with
  | nil => rfl
  | cons c chars ih =>
      obtain ⟨part, parts, split⟩ := List.exists_cons_of_ne_nil
        (List.splitOnP_ne_nil (· == '.') chars)
      rw [dottedParts, ih, List.splitOnP_cons_eq_if_modifyHead, split]
      by_cases dot : c = '.' <;> simp [dot]

/-- A text is joined from good parts **if the parts between its dots are good**, because no dot is
inside a good part. -/
theorem exists_joined_iff {good : List Char → Prop} (apart : ∀ part, good part → '.' ∉ part)
    {chars : List Char} :
    (∃ parts : List (List Char), parts ≠ [] ∧ (∀ part ∈ parts, good part) ∧
        chars = ['.'].intercalate parts) ↔
      ∀ part ∈ chars.splitOn '.', good part := by
  constructor
  · rintro ⟨parts, some, each, rfl⟩
    rwa [List.splitOn_intercalate '.' (fun part among => apart part (each part among)) some]
  · intro each
    exact ⟨_, List.splitOnP_ne_nil _ _, each, (List.intercalate_splitOn '.').symm⟩

theorem dottedName_iff {name : String} :
    DottedName name ↔ ∀ part ∈ name.toList.splitOn '.', part ≠ [] ∧ ∀ c ∈ part, NameChar c := by
  refine exists_joined_iff fun part good dot => ?_
  simpa [NameChar] using good.2 '.' dot

/-- **The check of names is the rule for names.** -/
theorem isSettingName_iff {name : String} : isSettingName name = true ↔ DottedName name := by
  have good : ∀ part : List Char, (!part.isEmpty && part.all isNameChar) = true ↔
      part ≠ [] ∧ ∀ c ∈ part, NameChar c := by
    intro part
    simp [isNameChar_iff]
  rw [isSettingName, dottedParts_eq_splitOn, List.all_eq_true, dottedName_iff]
  simp only [good]

theorem mem_of_mem_intercalate {separator : List Char} {parts : List (List Char)} {c : Char}
    (among : c ∈ separator.intercalate parts) : c ∈ separator ∨ ∃ part ∈ parts, c ∈ part := by
  induction parts with
  | nil => cases among
  | cons part parts ih =>
      cases parts with
      | nil => exact .inr ⟨part, List.mem_singleton_self part, by simpa using among⟩
      | cons second parts =>
          rw [List.intercalate_cons_cons, List.append_assoc, List.mem_append, List.mem_append]
            at among
          rcases among with inside | between | later
          · exact .inr ⟨part, List.mem_cons_self, inside⟩
          · exact .inl between
          · rcases ih later with between | ⟨other, among, inside⟩
            · exact .inl between
            · exact .inr ⟨other, List.mem_cons_of_mem part among, inside⟩

/-- A name holds neither a semicolon nor a quote. -/
theorem DottedName.plain {name : String} (dotted : DottedName name) : Plain name.toList := by
  obtain ⟨parts, -, good, spelled⟩ := dotted
  intro c among
  rw [spelled] at among
  rcases mem_of_mem_intercalate among with dot | ⟨part, amongParts, inside⟩
  · obtain rfl := List.mem_singleton.mp dot
    decide
  · have ofName := (good part amongParts).2 c inside
    refine ⟨?_, ?_⟩ <;>
    · rintro rfl
      simp [NameChar] at ofName

end TxRetry.Sql
