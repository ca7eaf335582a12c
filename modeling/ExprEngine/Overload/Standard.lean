import ExprEngine.Overload.Operator
import ExprEngine.Overload.Registry
import ExprEngine.Value.Conversion
import ExprEngine.Value.Order
import ExprEngine.Value.Receiver
import ExprEngine.Value.Search

/-!
# The standard library

The overloads of operators, string functions and conversions.
-/

namespace ExprEngine.Standard

variable [HostObjects]

/-- Linear in the size of the first argument, and unbounded when that is not known. -/
def linearCost : CallCost :=
  .sized fun sizes =>
    match sizes.head?.join with
    | some n => ⟨1, Nat.max n 1⟩
    | none => ⟨1, Cost.unbounded⟩

def unary (id : String) (f : Value → Value) : Overload :=
  { id, implementation := .unary fun a => .ok (f a) }

def binary (id : String) (f : Value → Value → Value) : Overload :=
  { id, implementation := .binary fun a b => .ok (f a b) }

def guardedAt (place : Nat) (o : Overload) (t : Trait) : Overload :=
  { o with required := some [t], guarded := place }

def guardedBy : Overload → Trait → Overload := guardedAt 0

/-- What a comparison answers; operands that cannot be compared name the operator. -/
def ordered (id : String) (holds : Int → Bool) (a b : Value) : Value :=
  match a.compare b with
  | .int c => .bool (holds c.toInt)
  | .error e => if e.kind = .noSuchOverload then .noSuchOverload id [a, b] else .error e
  | other => other

def ordering (id : String) (holds : Int → Bool) : Overload :=
  guardedBy (binary id (ordered id holds)) .comparer

def conversion (id : String) (target : ValueType) : Overload :=
  { id, implementation := .unary fun v => v.convert target }

def stringFunction (id : String) : Overload :=
  let received : Overload := { id, implementation := .binary fun a b => a.receive id [b] }
  { guardedBy received .receiver with cost := linearCost }

/-- True for all but a definite `false`. -/
def unlessFalse : Value → Value
  | .bool b => .bool b
  | _ => .bool true

def notStrictlyFalse (id : String) : Overload := { unary id unlessFalse with nonStrict := true }

def overloads : List Overload :=
  [guardedBy (binary Operator.add Value.add) .adder,
   guardedBy (binary Operator.subtract Value.subtract) .subtractor,
   guardedBy (binary Operator.multiply Value.multiply) .multiplier,
   guardedBy (binary Operator.divide Value.divide) .divider,
   guardedBy (binary Operator.modulo Value.modulo) .modder,
   guardedBy (unary Operator.negate Value.negate) .negater,
   unary Operator.logicalNot Value.logicalNot,
   binary Operator.equals Value.equal,
   binary Operator.notEquals fun a b => (a.equal b).logicalNot,
   ordering Operator.less (· < 0),
   ordering Operator.lessEquals (· ≤ 0),
   ordering Operator.greater (· > 0),
   ordering Operator.greaterEquals (· ≥ 0),
   guardedBy (binary Operator.index Value.index) .indexer,
   guardedAt 1 (binary Operator.member fun elem v => v.contains elem) .container,
   guardedAt 1 (binary Operator.memberOld fun elem v => v.contains elem) .container,
   { guardedBy (unary Operator.size Value.size) .sizer with cost := linearCost },
   { guardedBy (binary Operator.search Value.search) .matcher with cost := linearCost },
   stringFunction Operator.contains,
   stringFunction Operator.startsWith,
   stringFunction Operator.endsWith,
   notStrictlyFalse Operator.notStrictlyFalse,
   notStrictlyFalse Operator.notStrictlyFalseOld,
   conversion "int" .int,
   conversion "uint" .uint,
   conversion "double" .double,
   conversion "string" .string,
   conversion "bytes" .bytes,
   conversion "bool" .bool,
   conversion "timestamp" .timestamp,
   conversion "duration" .duration,
   conversion "type" .type,
   unary "dyn" id]

end ExprEngine.Standard

namespace ExprEngine.Registry

variable [HostObjects]

/-- The registry with the standard overloads that collide with none of its own. -/
def withStandard (r : Registry) : Registry := r.addAll Standard.overloads

def standard : Registry := empty.withStandard

end ExprEngine.Registry
