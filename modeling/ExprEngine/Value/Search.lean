import ExprEngine.Regex.Move
import ExprEngine.Regex.Reading
import ExprEngine.Value.Basic

/-!
# Searching texts
-/

namespace ExprEngine.Value

/-- Whether a text has a match of a pattern anywhere. -/
def search (text pattern : Value) : Value :=
  strict [text, pattern] <|
    match text, pattern with
    | string text, string pattern =>
      match Regex.Pattern.read? pattern with
      | some p => bool (p.matchesIn text)
      | none => failure .invalidArgument ("invalid regular expression '" ++ pattern ++ "'")
    | text, pattern => noSuchOverload "matches" [text, pattern]

end ExprEngine.Value
