import ExprEngine.Value.Shown

/-!
# Unknown patterns

A pattern marks a variable, or what lies under a path of keys below it, as unknown.
-/

namespace ExprEngine

inductive PatternStep where
  | anything
  | key (k : Key)
deriving DecidableEq, Inhabited

namespace PatternStep

def covers (s : PatternStep) (v : Value) : Bool :=
  match s with
  | anything => true
  | key k => Key.ofValue? v == some k

def dumped : PatternStep → String
  | anything => "Wildcard"
  | key k => "Value(" ++ k.dumped ++ ")"

end PatternStep

structure UnknownPattern where
  name : String
  steps : List PatternStep := []
deriving DecidableEq, Inhabited

namespace UnknownPattern

def dumped (p : UnknownPattern) : String :=
  recordText "AttributePattern" [("variable", Text.quoted p.name),
    ("qualifiers", listText (p.steps.map PatternStep.dumped))]

end UnknownPattern

end ExprEngine
