/-!
# Evaluation errors

What went wrong while an expression was evaluated: a kind, a message, the expression that failed
first, and the panic behind it when an overload panicked. A panic outside of overloads ends the
evaluation.
-/

namespace ExprEngine

inductive ErrorKind where
  | noSuchOverload
  | noSuchAttribute
  | noSuchField
  | noSuchKey
  | divideByZero
  | indexOutOfBounds
  | unsupportedConversion
  | overflow
  | invalidArgument
  | internal
deriving DecidableEq, Inhabited

namespace ErrorKind

def name : ErrorKind → String
  | noSuchOverload => "NoSuchOverload"
  | noSuchAttribute => "NoSuchAttribute"
  | noSuchField => "NoSuchField"
  | noSuchKey => "NoSuchKey"
  | divideByZero => "DivideByZero"
  | indexOutOfBounds => "IndexOutOfBounds"
  | unsupportedConversion => "UnsupportedConversion"
  | overflow => "Overflow"
  | invalidArgument => "InvalidArgument"
  | internal => "Internal"

def all : List ErrorKind :=
  [noSuchOverload, noSuchAttribute, noSuchField, noSuchKey, divideByZero, indexOutOfBounds,
   unsupportedConversion, overflow, invalidArgument, internal]

def ofName? (name : String) : Option ErrorKind := all.find? (·.name == name)

def shown : ErrorKind → String
  | noSuchOverload => "no such overload"
  | noSuchAttribute => "no such attribute"
  | noSuchField => "no such field"
  | noSuchKey => "no such key"
  | divideByZero => "divide by zero"
  | indexOutOfBounds => "index out of bounds"
  | unsupportedConversion => "unsupported conversion"
  | overflow => "overflow"
  | invalidArgument => "invalid argument"
  | internal => "internal error"

end ErrorKind

structure Panic where
  message : String
deriving DecidableEq, Inhabited

namespace Panic

/-- The message of a panic that carries no text. -/
def withoutText : Panic := ⟨"unknown panic payload"⟩

def shown (p : Panic) : String := "overload panicked: " ++ p.message

end Panic

structure EvalError where
  kind : ErrorKind
  message : String
  exprId : Option Int := none
  cause : Option Panic := none
deriving DecidableEq, Inhabited

namespace EvalError

/-- Records the failing expression; the first to record itself stays. -/
def withExprId (e : EvalError) (id : Int) : EvalError := { e with exprId := e.exprId.or (some id) }

def shown (e : EvalError) : String :=
  e.message ++ match e.exprId with
    | some id => " (expression " ++ toString id ++ ")"
    | none => ""

end EvalError

end ExprEngine
