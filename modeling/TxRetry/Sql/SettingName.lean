/-!
# Names of settings

The names under which a statement may set a parameter of the session: parts of letters, digits and
underscores, joined by dots.  Nothing that ends a name or starts another token gets through.
-/

namespace TxRetry.Sql

/-- A character of a name, dots aside: an ASCII letter, a digit or an underscore. -/
def isNameChar (c : Char) : Bool :=
  c.isAlphanum || c == '_'

/-- The parts of a text between its dots; a text without dots is one part. -/
def dottedParts : List Char → List (List Char)
  | [] => [[]]
  | c :: rest =>
    if c = '.' then [] :: dottedParts rest
    else match dottedParts rest with
      | [] => [[c]]
      | part :: parts => (c :: part) :: parts

/-- Whether a text is **the name of a setting**: every part between its dots has at least one
character, and only characters of names. -/
def isSettingName (name : String) : Bool :=
  (dottedParts name.toList).all fun part => !part.isEmpty && part.all isNameChar

end TxRetry.Sql
