import ExprEngine.Overload.Registry

/-!
# Planning errors

Why an expression has no plan.
-/

namespace ExprEngine

inductive PlanError where
  | unknownFunction (function : String) (id : Int)
  | arityMismatch (function : String) (found : Nat) (id : Int)
  | unknownType (typeName : String) (id : Int)
  | malformed (id : Int) (reason : String)
deriving DecidableEq, Inhabited

namespace PlanError

def id : PlanError → Int
  | unknownFunction _ id | arityMismatch _ _ id | unknownType _ id | malformed id _ => id

def message : PlanError → String
  | unknownFunction function id =>
    "undeclared reference to function '" ++ function ++ "' (expression " ++ toString id ++ ")"
  | arityMismatch function found id =>
    "no overload of '" ++ function ++ "' takes " ++ toString found
      ++ " argument(s) (expression " ++ toString id ++ ")"
  | unknownType typeName id =>
    "unknown type '" ++ typeName ++ "' (expression " ++ toString id ++ ")"
  | malformed id reason => "malformed expression " ++ toString id ++ ": " ++ reason

end PlanError

end ExprEngine
