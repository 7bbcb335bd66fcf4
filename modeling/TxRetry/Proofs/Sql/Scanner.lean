import TxRetry.Proofs.Sql.Reading

/-!
# Scanning literals

A scanner reads the literal at the front of a text, whatever follows it.  It takes one character at
a time and cannot look ahead: a quote inside a literal may close it, or be the first of two that
stand for one, and only the next character tells.  The literal of a text is scanned as a whole,
and as that text.

## Main definitions

* `Place` — where a scanner is in a literal
* `scan` — a scanner on the rest of its input
* `scanLiteral?` — the literal at the front of a text
* `ReadBack` — what is expected of the literal of a text

## Main statements

* `scan_doubleQuotes` — a quoted text is scanned to its end, whatever follows it
* `scanLiteral?_eq_some_iff` — literals are the only texts that are scanned
* `readBack` — every text is read back from its literal

## Design notes

**The scanner keeps what it has consumed** beside the text that it has read, so that where a literal
ends can be stated without counting characters.
-/

namespace TxRetry.Sql

/-! ### The scanner -/

/-- **Where a scanner is**: before a literal, inside it, or right after a quote that closes it unless
another one follows. -/
inductive Place
  | before
  | inside
  | onQuote
  deriving DecidableEq

/-- What a scanner found. -/
structure Scanned (σ : Type) where
  /-- What was consumed. -/
  literal : σ
  /-- The text for which it stands. -/
  text : σ
  /-- What was left. -/
  after : σ

/-- A **scanner** that has consumed `literal` and read `text`, on the rest of its input. -/
def scan (place : Place) (literal text : List Char) : List Char → Option (Scanned (List Char))
  | [] => if place = .onQuote then some ⟨literal, text, []⟩ else none
  | c :: rest =>
    match place with
    | .before => if c = '\'' then scan .inside (literal ++ [c]) text rest else none
    | .inside =>
      if c = '\'' then scan .onQuote (literal ++ [c]) text rest
      else scan .inside (literal ++ [c]) (text ++ [c]) rest
    | .onQuote =>
      if c = '\'' then scan .inside (literal ++ [c]) (text ++ [c]) rest
      else some ⟨literal, text, c :: rest⟩

/-- The **literal at the front of a text**, if there is one. -/
def scanLiteral? (sql : String) : Option (Scanned String) :=
  (scan .before [] [] sql.toList).map fun found =>
    ⟨String.ofList found.literal, String.ofList found.text, String.ofList found.after⟩

/-! ### Literals are scanned -/

/-- A quoted text is scanned **to its end, whatever follows.**  No quote in it is left undoubled, so
the scanner is inside the literal again after each of them. -/
theorem scan_doubleQuotes (literal before text rest : List Char) :
    scan .inside literal before (doubleQuotes text ++ rest) =
      scan .inside (literal ++ doubleQuotes text) (before ++ text) rest := by
  induction text generalizing literal before with
  | nil => simp [doubleQuotes]
  | cons c text ih =>
      by_cases quote : c = '\''
      · subst quote
        simp [doubleQuotes, scan, ih]
      · simp [doubleQuotes, scan, quote, ih]

/-- On the closing quote, the scanner stops **unless another quote follows.** -/
theorem scan_onQuote {literal text after : List Char} (apart : after.head? ≠ some '\'') :
    scan .onQuote literal text after = some ⟨literal, text, after⟩ := by
  cases after with
  | nil => rfl
  | cons c rest =>
      have other : c ≠ '\'' := fun same => apart (congrArg some same)
      rw [scan, if_neg other]

theorem toList_quoteLiteral (text : String) :
    (quoteLiteral text).toList = '\'' :: (doubleQuotes text.toList ++ ['\'']) := by
  rw [quoteLiteral, String.toList_ofList]

/-- After the literal of a text, the scanner is **on its closing quote, and nowhere else.** -/
theorem scan_quoteLiteral (text : String) (after : List Char) :
    scan .before [] [] ((quoteLiteral text).toList ++ after) =
      scan .onQuote (quoteLiteral text).toList text.toList after := by
  simp [toList_quoteLiteral, scan, scan_doubleQuotes]

/-- A scanner **keeps what it has consumed and read.** -/
theorem prefixes_of_scan {place : Place} {literal text chars : List Char}
    {found : Scanned (List Char)} (scanned : scan place literal text chars = some found) :
    literal <+: found.literal ∧ text <+: found.text := by
  induction chars generalizing place literal text with
  | nil =>
      rw [scan] at scanned
      split at scanned
      · cases scanned
        exact ⟨List.prefix_rfl, List.prefix_rfl⟩
      · cases scanned
  | cons c rest ih =>
      have consumed : literal <+: literal ++ [c] := List.prefix_append ..
      have read : text <+: text ++ [c] := List.prefix_append ..
      cases place with
      | before =>
          rw [scan] at scanned
          split at scanned
          · exact ⟨consumed.trans (ih scanned).1, (ih scanned).2⟩
          · cases scanned
      | inside =>
          rw [scan] at scanned
          split at scanned
          · exact ⟨consumed.trans (ih scanned).1, (ih scanned).2⟩
          · exact ⟨consumed.trans (ih scanned).1, read.trans (ih scanned).2⟩
      | onQuote =>
          rw [scan] at scanned
          split at scanned
          · exact ⟨consumed.trans (ih scanned).1, read.trans (ih scanned).2⟩
          · cases scanned
            exact ⟨List.prefix_rfl, List.prefix_rfl⟩

/-! ### Nothing else is scanned -/

/-- What a scanner found inside a literal is **the rest of a quoted text** and the quote after it. -/
def Continued (literal text chars : List Char) (found : Scanned (List Char)) : Prop :=
  ∃ inner, chars = doubleQuotes inner ++ '\'' :: found.after ∧
    found.literal = literal ++ doubleQuotes inner ++ ['\''] ∧ found.text = text ++ inner ∧
    found.after.head? ≠ some '\''

theorem continued_of_quote {literal text rest : List Char} {found : Scanned (List Char)}
    (continued : Continued (literal ++ ['\'', '\'']) (text ++ ['\'']) rest found) :
    Continued literal text ('\'' :: '\'' :: rest) found := by
  obtain ⟨inner, rfl, consumed, read, apart⟩ := continued
  refine ⟨'\'' :: inner, ?_, ?_, ?_, apart⟩
  · simp [doubleQuotes]
  · simp [doubleQuotes, consumed]
  · simp [read]

theorem continued_of_other {c : Char} (other : c ≠ '\'') {literal text rest : List Char}
    {found : Scanned (List Char)} (continued : Continued (literal ++ [c]) (text ++ [c]) rest found) :
    Continued literal text (c :: rest) found := by
  obtain ⟨inner, rfl, consumed, read, apart⟩ := continued
  refine ⟨c :: inner, ?_, ?_, ?_, apart⟩
  · simp [doubleQuotes, other]
  · simp [doubleQuotes, other, consumed]
  · simp [read]

theorem continued_of_closed {literal text after : List Char} (apart : after.head? ≠ some '\'') :
    Continued literal text ('\'' :: after) ⟨literal ++ ['\''], text, after⟩ :=
  ⟨[], by simp [doubleQuotes], by simp [doubleQuotes], by simp, apart⟩

/-- By induction on the input.  On a quote the scanner does not know yet what it has read, so that
quote is counted among what is still to come. -/
theorem continued_of_scan {literal text chars : List Char} {found : Scanned (List Char)} :
    (scan .inside literal text chars = some found → Continued literal text chars found) ∧
      (scan .onQuote (literal ++ ['\'']) text chars = some found →
        Continued literal text ('\'' :: chars) found) := by
  induction chars generalizing literal text with
  | nil =>
      constructor
      · nofun
      · intro scanned
        cases scanned
        exact continued_of_closed nofun
  | cons c rest ih =>
      by_cases quote : c = '\''
      · subst quote
        constructor
        · intro scanned
          exact ih.2 scanned
        · intro scanned
          rw [scan, if_pos rfl, List.append_assoc] at scanned
          exact continued_of_quote (ih.1 scanned)
      · constructor
        · intro scanned
          rw [scan, if_neg quote] at scanned
          exact continued_of_other quote (ih.1 scanned)
        · intro scanned
          rw [scan, if_neg quote] at scanned
          cases scanned
          exact continued_of_closed (by simpa using quote)

/-- **Literals are the only texts that are scanned**: what is consumed is the literal of what is
read, and the quote at its end is not followed by another. -/
theorem scanLiteral?_eq_some_iff {sql literal text after : String} :
    scanLiteral? sql = some ⟨literal, text, after⟩ ↔
      sql = literal ++ after ∧ literal = quoteLiteral text ∧ after.toList.head? ≠ some '\'' := by
  constructor
  · intro scanned
    obtain ⟨found, inside, same⟩ := Option.map_eq_some_iff.mp scanned
    cases same
    cases begins : sql.toList with
    | nil =>
        rw [begins] at inside
        cases inside
    | cons c rest =>
        rw [begins, scan] at inside
        split at inside
        · rename_i quote
          obtain ⟨inner, spelled, consumed, read, apart⟩ := continued_of_scan.1 inside
          refine ⟨?_, ?_, ?_⟩
          · rw [← String.toList_inj, begins]
            simp [quote, spelled, consumed]
          · rw [← String.toList_inj, toList_quoteLiteral]
            simp [quote, consumed, read]
          · simpa using apart
        · cases inside
  · rintro ⟨rfl, rfl, apart⟩
    rw [scanLiteral?, String.toList_append, scan_quoteLiteral, scan_onQuote apart]
    simp

/-- Where there is nothing but a literal, **scanning it is reading it.** -/
theorem readLiteral?_eq_some_iff_scan {literal text : String} :
    readLiteral? literal = some text ↔ scanLiteral? literal = some ⟨literal, text, ""⟩ := by
  rw [readLiteral?_eq_some_iff, scanLiteral?_eq_some_iff]
  simp

/-! ### Every text is read back -/

/-- What is expected of **the literal of a text.** -/
structure ReadBack (text : String) : Prop where
  /-- It is scanned as a whole and as the text, if no quote follows. -/
  scanned : ∀ after : String, after.toList.head? ≠ some '\'' →
    scanLiteral? (quoteLiteral text ++ after) = some ⟨quoteLiteral text, text, after⟩
  /-- It never ends early, whatever follows. -/
  notEarly : ∀ after found, scanLiteral? (quoteLiteral text ++ after) = some found →
    (∃ more, found.literal = quoteLiteral text ++ more) ∧ ∃ more, found.text = text ++ more
  /-- It is the literal of no other text. -/
  injective : ∀ other, quoteLiteral other = quoteLiteral text → other = text

/-- **Every text is read back from its literal.** -/
theorem readBack (text : String) : ReadBack text := by
  have scanned (text after : String) (apart : after.toList.head? ≠ some '\'') :
      scanLiteral? (quoteLiteral text ++ after) = some ⟨quoteLiteral text, text, after⟩ :=
    scanLiteral?_eq_some_iff.mpr ⟨rfl, rfl, apart⟩
  constructor
  · exact scanned text
  · intro after found scanned
    obtain ⟨found, rest, rfl⟩ := Option.map_eq_some_iff.mp scanned
    rw [String.toList_append, scan_quoteLiteral] at rest
    obtain ⟨⟨more, consumed⟩, ⟨more', read⟩⟩ := prefixes_of_scan rest
    constructor
    · refine ⟨String.ofList more, ?_⟩
      rw [← String.toList_inj]
      simp [consumed]
    · refine ⟨String.ofList more', ?_⟩
      rw [← String.toList_inj]
      simp [read]
  · intro other same
    have others := scanned other "" nofun
    rw [same, scanned text "" nofun] at others
    cases others
    rfl

end TxRetry.Sql
