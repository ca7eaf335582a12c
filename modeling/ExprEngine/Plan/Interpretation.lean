/-!
# Interpretations of dotted names

In `a.b.c` the variable may be `a.b.c`, or `a.b` with the field `c`, or `a` with the fields `b` and
`c`. The longest name comes first.
-/

namespace ExprEngine

/-- The id of a qualifier, with the name of the field if it selects one. -/
structure Label where
  id : Int
  field : Option String
deriving DecidableEq, Inhabited

structure Interpretation where
  id : Int
  /-- The full names that the variable may have. -/
  names : List String
  /-- How many of the leading qualifiers belong to the variable's name. -/
  taken : Nat
deriving DecidableEq, Inhabited

namespace Interpretation

/-- The interpretations of a name with its qualifiers, of which `taken` are used up already. The
qualifier that a name ends in gives it its id. -/
def all (id : Int) (names : List String) (taken : Nat) : List Label → List Interpretation
  | [] => [⟨id, names, taken⟩]
  | label :: rest =>
    match label.field with
    | some field =>
      if names.isEmpty then [⟨id, names, taken⟩]
      else all label.id (names.map (· ++ "." ++ field)) (taken + 1) rest ++ [⟨id, names, taken⟩]
    | none => [⟨id, names, taken⟩]

end Interpretation

end ExprEngine
