import ExprEngine.Overload.Basic

/-!
# Runs

A run is the value of an evaluation with the log of what was done for it. Work is what a cost
bound counts; the other events tell what was looked up, what was recorded, and where it panicked.
-/

namespace ExprEngine

inductive Event where
  /-- The evaluation of a planned node began. -/
  | reached (id : Int)
  /-- The implementation of an overload was called. -/
  | invoked (overload : Overload) (args : List Value)
  /-- A value was asked to answer a call. -/
  | received (function : String) (receiver : Value) (args : List Value)
  /-- An object was built. -/
  | constructed (typeName : String) (fields : List (String × Value))
  /-- A qualifier was applied. -/
  | qualified (id : Int)
  /-- The presence of a field was tested. -/
  | tested (id : Int)
  /-- A value was looked up in a constant set. -/
  | lookedUp (id : Int)
  /-- A text was searched for a constant pattern. -/
  | searched (id : Int)
  /-- The lazy binding of a cell was resolved to the value. -/
  | demanded (cell : Nat) (name : String) (value : Value)
  /-- The value of a node was recorded. -/
  | recorded (id : Int) (value : Value)
  /-- The evaluation ended in a panic; what is logged after it does not happen. -/
  | panicked (p : Panic)

namespace Event

def isWork : Event → Bool
  | invoked .. | received .. | qualified .. | tested .. | lookedUp .. | searched .. => true
  | _ => false

def panic? : Event → Option Panic
  | panicked p => some p
  | _ => none

end Event

structure Run (α : Type) where
  value : α
  log : List Event

namespace Run

variable {α β : Type}

instance : Monad Run where
  pure a := ⟨a, []⟩
  bind r f :=
    let next := f r.value
    ⟨next.value, r.log ++ next.log⟩

@[simp] theorem value_pure (a : α) : (pure a : Run α).value = a := rfl

@[simp] theorem log_pure (a : α) : (pure a : Run α).log = [] := rfl

@[simp] theorem value_bind (r : Run α) (f : α → Run β) : (r >>= f).value = (f r.value).value := rfl

@[simp] theorem log_bind (r : Run α) (f : α → Run β) :
    (r >>= f).log = r.log ++ (f r.value).log := rfl

@[ext] theorem ext {r s : Run α} (value : r.value = s.value) (log : r.log = s.log) : r = s := by
  cases r; cases s; subst value log; rfl

instance : LawfulMonad Run :=
  LawfulMonad.mk' Run (fun _ => Run.ext rfl (List.append_nil _)) (fun _ _ => Run.ext rfl rfl)
    (fun _ _ _ => Run.ext rfl (List.append_assoc ..))

@[simp] theorem value_map (f : α → β) (r : Run α) : (f <$> r).value = f r.value := rfl

@[simp] theorem log_map (f : α → β) (r : Run α) : (f <$> r).log = r.log := List.append_nil _

def emit (e : Event) : Run Unit := ⟨(), [e]⟩

@[simp] theorem log_emit (e : Event) : (emit e).log = [e] := rfl

def reach (id : Int) : Run Unit := emit (.reached id)

/-- Goes on with a stand-in for the value, which nobody sees. -/
def panic (p : Panic) : Run Value := do
  emit (.panicked p)
  return .error { kind := .internal, message := p.message, cause := some p }

def attempt : Except Panic Value → Run Value
  | .ok v => pure v
  | .error p => panic p

/-- What the run comes to: its first panic, or else its value. -/
def ending (r : Run α) : Except Panic α :=
  match r.log.findSome? Event.panic? with
  | some p => .error p
  | none => .ok r.value

theorem ending_bind (r : Run α) (f : α → Run β) :
    (r >>= f).ending = r.ending >>= fun a => (f a).ending := by
  simp only [ending, log_bind, List.findSome?_append, value_bind]
  cases r.log.findSome? Event.panic? <;> rfl

theorem ending_attempt (x : Except Panic Value) : (attempt x).ending = x := by cases x <;> rfl

def work (r : Run α) : Nat := r.log.countP Event.isWork

def each (f : α → Run β) : List α → Run (List β)
  | [] => pure []
  | a :: rest => do
    let b ← f a
    let bs ← each f rest
    return b :: bs

end Run

end ExprEngine
