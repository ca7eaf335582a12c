import ExprEngine.Run.Basic
import ExprEngine.Value.Receiver

/-!
# Dispatch

A call goes to the overload that accepts the arguments, or else to the first argument, if that
receives calls. Errors and unknowns reach non-strict overloads only. An overload that panics ends in
an error; a value that panics ends the evaluation.
-/

namespace ExprEngine

namespace Overload

def invoke (o : Overload) (args : List Value) : Run Value :=
  match o.run? args with
  | some _ => do
    Run.emit (.invoked o args)
    return o.result args
  | none => return o.result args

@[simp] theorem value_invoke (o : Overload) (args : List Value) :
    (o.invoke args).value = o.result args := by
  unfold invoke
  split <;> rfl

end Overload

variable [HostObjects]

def receiveCall (function : String) (args : List Value) : Run Value :=
  match args with
  | receiver :: rest =>
    if receiver.valueType.hasTrait .receiver then do
      Run.emit (.received function receiver rest)
      Run.attempt (receiver.receive function rest)
    else return .noSuchOverload function args
  | [] => return .noSuchOverload function args

def dispatch (function : String) (candidates : List Overload) (args : List Value) : Run Value :=
  match candidates.find? (·.accepts args) with
  | some o =>
    if o.nonStrict then o.invoke args
    else match Value.propagate args with
      | some v => return v
      | none => o.invoke args
  | none =>
    match Value.propagate args with
    | some v => return v
    | none => receiveCall function args

end ExprEngine
