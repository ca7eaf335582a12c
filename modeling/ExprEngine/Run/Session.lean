import ExprEngine.Run.Basic

/-!
# Sessions

A lazy binding has a cell, shared by all copies of the binding. The cell is empty until the binding
is resolved for the first time; then its initialiser runs, and the cell keeps what it gives. A
session is the state of the cells through successive runs.
-/

namespace ExprEngine

structure Session where
  /-- The values of the cells that are not empty. -/
  cells : List (Nat × Value) := []
deriving Inhabited

namespace Session

variable (s : Session)

def held? (cell : Nat) : Option Value := s.cells.lookup cell

def fill (cell : Nat) (v : Value) : Session := ⟨(cell, v) :: s.cells⟩

/-- Resolves the binding of a cell, and tells whether the initialiser had to run. -/
def demand (cell : Nat) (initialise : Unit → Value) : Value × Session × Bool :=
  match s.held? cell with
  | some v => (v, s, false)
  | none =>
    let v := initialise ()
    (v, s.fill cell v, true)

theorem demand_of_held {s : Session} {cell : Nat} {v : Value} (held : s.held? cell = some v)
    (initialise : Unit → Value) : s.demand cell initialise = (v, s, false) := by
  rw [demand, held]

theorem demand_of_empty {s : Session} {cell : Nat} (empty : s.held? cell = none)
    (initialise : Unit → Value) :
    s.demand cell initialise = (initialise (), s.fill cell (initialise ()), true) := by
  rw [demand, empty]

theorem held?_fill (s : Session) (cell : Nat) (v : Value) (other : Nat) :
    (s.fill cell v).held? other = if other = cell then some v else s.held? other := by
  rw [held?, fill, List.lookup_cons, held?]
  by_cases same : other = cell
  · rw [same, beq_self_eq_true, if_pos rfl]
  · rw [beq_false_of_ne same, if_neg same]

/-- The session after an event, with the names of the bindings whose initialisers ran. -/
def step (s : Session) : Event → Session × List String
  | .demanded cell name v =>
    let (_, t, ran) := s.demand cell fun _ => v
    (t, if ran then [name] else [])
  | _ => (s, [])

def follow (s : Session) : List Event → Session × List String
  | [] => (s, [])
  | e :: rest =>
    let (t, names) := s.step e
    let (u, more) := t.follow rest
    (u, names ++ more)

theorem follow_append (s : Session) (l m : List Event) :
    s.follow (l ++ m) =
      (((s.follow l).1.follow m).1, (s.follow l).2 ++ ((s.follow l).1.follow m).2) := by
  induction l generalizing s with
  | nil => rfl
  | cons e rest ih => simp [follow, ih]

end Session

end ExprEngine
