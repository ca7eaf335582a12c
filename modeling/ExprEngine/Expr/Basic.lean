import ExprEngine.Value.Basic

/-!
# Expressions

Every node of an expression has an id, by which errors, unknowns and annotations refer to it.
-/

namespace ExprEngine

mutual

inductive Expr where
  | literal (id : Int) (value : Value)
  | ident (id : Int) (name : String)
  | select (id : Int) (operand : Expr) (field : String)
  /-- Whether the operand has the field. -/
  | presence (id : Int) (operand : Expr) (field : String)
  | call (id : Int) (function : String) (args : List Expr)
  /-- A call on a target. -/
  | member (id : Int) (target : Expr) (function : String) (args : List Expr)
  | list (id : Int) (elements : List Expr)
  | mapping (id : Int) (entries : List Entry)
  | object (id : Int) (typeName : String) (entries : List Entry)
  /-- A loop over the range: from `init`, each element makes a step of the accumulator while the
  condition is not false. -/
  | loop (id : Int) (iterVar : String) (range : Expr) (accuVar : String)
      (init condition step result : Expr)

inductive Entry where
  | field (id : Int) (name : String) (value : Expr)
  | keyed (id : Int) (key value : Expr)

end

namespace Entry

def id : Entry → Int
  | field id .. | keyed id .. => id

end Entry

namespace Expr

instance : Inhabited Expr := ⟨literal 0 .null⟩

def id : Expr → Int
  | literal id .. | ident id .. | select id .. | presence id .. | call id .. | member id ..
  | list id .. | mapping id .. | object id .. | loop id .. => id

mutual

def nodeCount : Expr → Nat
  | literal .. | ident .. => 1
  | select _ operand _ | presence _ operand _ => 1 + nodeCount operand
  | call _ _ args => 1 + nodeCounts args
  | member _ target _ args => 1 + (nodeCount target + nodeCounts args)
  | list _ elements => 1 + nodeCounts elements
  | mapping _ entries | object _ _ entries => 1 + entryNodeCounts entries
  | loop _ _ range _ init condition step result =>
    1 + (nodeCount range + nodeCount init + nodeCount condition + nodeCount step
      + nodeCount result)
termination_by structural e => e

def nodeCounts : List Expr → Nat
  | [] => 0
  | e :: rest => nodeCount e + nodeCounts rest
termination_by structural es => es

def entryNodeCounts : List Entry → Nat
  | [] => 0
  | .field _ _ value :: rest => nodeCount value + entryNodeCounts rest
  | .keyed _ key value :: rest => nodeCount key + nodeCount value + entryNodeCounts rest
termination_by structural entries => entries

end

end Expr

end ExprEngine
