import ExprEngine.Cost
import ExprEngine.Value.Shown

/-!
# Overloads

An overload is one implementation of a function name, guarded by a trait that one of its operands
must have.
-/

namespace ExprEngine

/-- What an overload does with its arguments; it may panic. -/
inductive Implementation where
  | unary (f : Value → Except Panic Value)
  | binary (f : Value → Value → Except Panic Value)
  | variadic (f : List Value → Except Panic Value)
deriving Inhabited

inductive CallCost where
  | fixed (units : Nat)
  | sized (f : List (Option Nat) → Cost)
deriving Inhabited

structure Overload where
  id : String
  /-- The traits that the guarded operand must have. -/
  required : Option (List Trait) := none
  /-- The place of the guarded operand. -/
  guarded : Nat := 0
  /-- A non-strict overload also takes errors and unknowns. -/
  nonStrict : Bool := false
  implementation : Implementation
  cost : CallCost := .fixed 1
deriving Inhabited

namespace Overload

def arity (o : Overload) : Option Nat :=
  match o.implementation with
  | .unary _ => some 1
  | .binary _ => some 2
  | .variadic _ => none

def takes (o : Overload) (n : Nat) : Bool :=
  match o.arity with
  | some m => m == n
  | none => true

def accepts (o : Overload) (args : List Value) : Bool :=
  o.takes args.length &&
    match o.required with
    | none => true
    | some traits =>
      match args[o.guarded]? with
      | some v => v.valueType.hasTraits traits
      | none => false

def aritiesOverlap (a b : Overload) : Bool :=
  match a.arity, b.arity with
  | some m, some n => m == n
  | _, _ => true

def guardsOverlap (a b : Overload) : Bool :=
  match a.required, b.required with
  | some s, some t => a.guarded == b.guarded && s.any (· ∈ t)
  | _, _ => true

/-- Overlapping overloads cannot share a name. -/
def overlaps (a b : Overload) : Bool := a.aritiesOverlap b && a.guardsOverlap b

def callCost (o : Overload) (sizes : List (Option Nat)) : Cost :=
  match o.cost with
  | .fixed n => .constant n
  | .sized f => f sizes

def panicked (o : Overload) (p : Panic) : Value :=
  .error { kind := .internal, message := "overload '" ++ o.id ++ "' failed", cause := some p }

def run? (o : Overload) (args : List Value) : Option (Except Panic Value) :=
  match o.implementation, args with
  | .unary f, [a] => some (f a)
  | .binary f, [a, b] => some (f a b)
  | .variadic f, args => some (f args)
  | _, _ => none

/-- What a call evaluates to; a panic becomes an error. -/
def result (o : Overload) (args : List Value) : Value :=
  match o.run? args with
  | some (.ok v) => v
  | some (.error p) => o.panicked p
  | none => .noSuchOverload o.id args

def dumped (o : Overload) : String :=
  recordText "Overload" [("id", Text.quoted o.id),
    ("operand_trait", optionText (o.required.map Trait.shown)),
    ("arity", optionText (o.arity.map toString)),
    ("cost", match o.cost with
      | .fixed n => "Const(" ++ toString n ++ ")"
      | .sized _ => "Fn(..)")]

end Overload

end ExprEngine
