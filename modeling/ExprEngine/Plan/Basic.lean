import ExprEngine.Host.ObjectType
import ExprEngine.Overload.Basic
import ExprEngine.Plan.Interpretation
import ExprEngine.Regex.Pattern

/-!
# Plans

A plan is an expression made ready for evaluation: names and selections are attributes, calls hold
the overloads they may reach, and wrappers ask for exhaustive evaluation and for recording.
-/

namespace ExprEngine

mutual

inductive Plan where
  | const (id : Int) (value : Value)
  | attr (id : Int) (a : Attribute)
  | both (id : Int) (left right : Plan)
  | either (id : Int) (left right : Plan)
  | conditional (id : Int) (guard whenTrue whenFalse : Plan)
  | call (id : Int) (function : String) (args : List Plan) (overloads : List Overload)
  | list (id : Int) (elements : List Plan)
  | mapping (id : Int) (entries : List (Plan × Plan))
  | object (id : Int) (typeName : String) (fields : List (String × Plan))
  /-- Objects of the named type are tested through the access of their declared field. -/
  | presence (id : Int) (operand : Plan) (field : String) (access : Option (String × FieldAccess))
  | loop (id : Int) (iterVar : String) (range : Plan) (accuVar : String)
      (init condition step result : Plan)
  /-- Membership in a constant list of keys; other elements go to the overloads. -/
  | membership (id : Int) (element : Plan) (items : List Value) (keys : List Key)
      (function : String) (overloads : List Overload)
  /-- Search for a constant pattern; what is no text goes to the overloads. -/
  | search (id : Int) (text : Plan) (source : String) (pattern : Regex.Pattern)
      (function : String) (overloads : List Overload)
  /-- Evaluates all parts of the inner plan, also where some decide the result. -/
  | exhaustive (inner : Plan)
  /-- Records the value of the inner plan. -/
  | observed (inner : Plan)

/-- A reference to a variable or to the value of a plan, with qualifiers. -/
inductive Attribute where
  /-- A variable by one of several full names; a local one belongs to a loop. -/
  | absolute (id : Int) (isLocal : Bool) (names : List String) (qualifiers : List Qualifier)
  /-- An unchecked name: some of the fields after it may belong to the variable's name. -/
  | ambiguous (id : Int) (names : List String) (qualifiers : List Qualifier)
  | relative (id : Int) (operand : Plan) (qualifiers : List Qualifier)
  | conditional (id : Int) (guard : Plan) (whenTrue whenFalse : Attribute)

inductive Qualifier where
  /-- Objects of the named type are read through the access of their declared field. -/
  | field (id : Int) (name : String) (access : Option (String × FieldAccess))
  | constant (id : Int) (key : Value)
  | computed (id : Int) (key : Plan)

end

namespace Qualifier

instance : Inhabited Qualifier := ⟨constant 0 .null⟩

def label : Qualifier → Label
  | field id name _ => ⟨id, some name⟩
  | constant id _ | computed id _ => ⟨id, none⟩

end Qualifier

namespace Attribute

instance : Inhabited Attribute := ⟨absolute 0 true [] []⟩

@[elab_as_elim, induction_eliminator]
theorem branchInduction {motive : Attribute → Prop}
    (absolute : ∀ id isLocal names qs, motive (.absolute id isLocal names qs))
    (ambiguous : ∀ id names qs, motive (.ambiguous id names qs))
    (relative : ∀ id operand qs, motive (.relative id operand qs))
    (conditional : ∀ id g t f, motive t → motive f → motive (.conditional id g t f)) :
    ∀ a, motive a
  | .absolute id isLocal names qs => absolute id isLocal names qs
  | .ambiguous id names qs => ambiguous id names qs
  | .relative id operand qs => relative id operand qs
  | .conditional id g t f =>
    conditional id g t f
      (branchInduction absolute ambiguous relative conditional t)
      (branchInduction absolute ambiguous relative conditional f)

def id : Attribute → Int
  | absolute id .. | ambiguous id .. | relative id .. | conditional id .. => id

/-- The attribute with one more qualifier; a conditional one has it in both branches. -/
def qualify : Attribute → Qualifier → Attribute
  | absolute id isLocal names qs, q => absolute id isLocal names (qs ++ [q])
  | ambiguous id names qs, q => ambiguous id names (qs ++ [q])
  | relative id operand qs, q => relative id operand (qs ++ [q])
  | conditional id guard whenTrue whenFalse, q =>
    conditional id guard (whenTrue.qualify q) (whenFalse.qualify q)

def qualifierCount : Attribute → Nat
  | absolute _ _ _ qs | ambiguous _ _ qs | relative _ _ qs => qs.length
  | conditional _ _ whenTrue whenFalse => Nat.max whenTrue.qualifierCount whenFalse.qualifierCount

end Attribute

namespace Plan

instance : Inhabited Plan := ⟨const 0 .null⟩

/-- The id of the expression that the plan was made from; wrappers have that of the inner plan. -/
def id : Plan → Int
  | const id _ | attr id _ | both id .. | either id .. | conditional id .. | call id ..
  | list id _ | mapping id _ | object id .. | presence id .. | loop id .. | membership id ..
  | search id .. => id
  | exhaustive inner | observed inner => inner.id

def asConst? : Plan → Option Value
  | const _ v => some v
  | observed inner => inner.asConst?
  | _ => none

def isConst (p : Plan) : Bool := p.asConst?.isSome

def sizeHint? : Plan → Option Nat
  | const _ (.string s) => some s.length
  | const _ (.bytes b) => some b.size
  | const _ (.list items) => some items.length
  | const _ (.map entries) => some entries.size
  | list _ elements => some elements.length
  | mapping _ entries => some entries.length
  | exhaustive inner | observed inner => inner.sizeHint?
  | _ => none

mutual

/-- The number of nodes; an attribute is one, and wrappers do not count. -/
def nodeCount : Plan → Nat
  | const .. | attr .. => 1
  | both _ l r | either _ l r => 1 + (nodeCount l + nodeCount r)
  | conditional _ g t f => 1 + (nodeCount g + nodeCount t + nodeCount f)
  | call _ _ args _ => 1 + nodeCounts args
  | list _ elements => 1 + nodeCounts elements
  | mapping _ entries => 1 + entryNodeCounts entries
  | object _ _ fields => 1 + fieldNodeCounts fields
  | presence _ operand _ _ => 1 + nodeCount operand
  | loop _ _ range _ init condition step result =>
    1 + (nodeCount range + nodeCount init + nodeCount condition + nodeCount step
      + nodeCount result)
  | membership _ element _ _ _ _ => 1 + (nodeCount element + 1)
  | search _ text _ _ _ _ => 1 + (nodeCount text + 1)
  | exhaustive inner | observed inner => nodeCount inner
termination_by structural p => p

def nodeCounts : List Plan → Nat
  | [] => 0
  | p :: rest => nodeCount p + nodeCounts rest
termination_by structural ps => ps

def entryNodeCounts : List (Plan × Plan) → Nat
  | [] => 0
  | (k, v) :: rest => nodeCount k + nodeCount v + entryNodeCounts rest
termination_by structural entries => entries

def fieldNodeCounts : List (String × Plan) → Nat
  | [] => 0
  | (_, v) :: rest => nodeCount v + fieldNodeCounts rest
termination_by structural fields => fields

end

end Plan

end ExprEngine
