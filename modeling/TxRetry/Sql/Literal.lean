/-!
# String literals

The text of a string constant in SQL, under the rule that a backslash is an ordinary character.
-/

namespace TxRetry.Sql

/-- The inside of a literal: a quote is written twice, every other character once. -/
def doubleQuotes : List Char → List Char
  | [] => []
  | c :: rest => if c = '\'' then '\'' :: '\'' :: doubleQuotes rest else c :: doubleQuotes rest

/-- The **literal that stands for a text.** -/
def quoteLiteral (text : String) : String :=
  String.ofList ('\'' :: (doubleQuotes text.toList ++ ['\'']))

end TxRetry.Sql
