import ExprEngine.Expr.Builder
import ExprEngine.Proofs.Partial.Evaluation

/-!
# Partial evaluation of collection macros

A value that a macro has while some variables are unknown is its value whatever these variables
are, unless the macro fails: a conjunction or disjunction may be decided by a later element
than the one that fails.
-/

namespace ExprEngine

/-- A collection macro, with what it asks of each element or makes of it. -/
inductive Macro where
  | all (predicate : Expr)
  | exist (predicate : Expr)
  | existOne (predicate : Expr)
  | map (transform : Expr)
  | mapWhere (predicate transform : Expr)
  | filter (predicate : Expr)

namespace Macro

open Builder (accumulator)

/-- The loop that is built for the macro, its own nodes numbered from `next`. -/
def expand (m : Macro) (range : Expr) (var : String) (next : Int) : Expr :=
  let built := match m with
    | all predicate => Builder.all range var predicate
    | exist predicate => Builder.exist range var predicate
    | existOne predicate => Builder.existOne range var predicate
    | map transform => Builder.map range var transform
    | mapWhere predicate transform => Builder.mapWhere range var predicate transform
    | filter predicate => Builder.filter range var predicate
  (built.run next).1

def parts : Macro → List Expr
  | all predicate | exist predicate | existOne predicate | filter predicate => [predicate]
  | map transform => [transform]
  | mapWhere predicate transform => [predicate, transform]

/-- The truth value that decides the macro, if there is one. -/
def decider : Macro → Option Bool
  | all _ => some false
  | exist _ => some true
  | _ => none

def shape (m : Macro) (ids : Nat → Int) (range : Expr) (var : String) : Expr :=
  let accu n := Expr.ident (ids n) accumulator
  let always := Expr.literal (ids 1) (.bool true)
  match m with
  | all predicate =>
    .loop (ids 6) var range accumulator (.literal (ids 0) (.bool true))
      (.call (ids 2) Operator.notStrictlyFalse [accu 1])
      (.call (ids 4) Operator.logicalAnd [accu 3, predicate]) (accu 5)
  | exist predicate =>
    .loop (ids 7) var range accumulator (.literal (ids 0) (.bool false))
      (.call (ids 3) Operator.notStrictlyFalse [.call (ids 2) Operator.logicalNot [accu 1]])
      (.call (ids 5) Operator.logicalOr [accu 4, predicate]) (accu 6)
  | existOne predicate =>
    .loop (ids 10) var range accumulator (.literal (ids 0) (.int 0)) always
      (.call (ids 6) Operator.conditional [predicate,
        .call (ids 4) Operator.add [accu 2, .literal (ids 3) (.int 1)], accu 5])
      (.call (ids 9) Operator.equals [accu 7, .literal (ids 8) (.int 1)])
  | map transform =>
    .loop (ids 6) var range accumulator (.list (ids 0) []) always
      (.call (ids 4) Operator.add [accu 2, .list (ids 3) [transform]]) (accu 5)
  | mapWhere predicate transform =>
    .loop (ids 8) var range accumulator (.list (ids 0) []) always
      (.call (ids 6) Operator.conditional [predicate,
        .call (ids 4) Operator.add [accu 2, .list (ids 3) [transform]], accu 5]) (accu 7)
  | filter predicate =>
    .loop (ids 9) var range accumulator (.list (ids 0) []) always
      (.call (ids 7) Operator.conditional [predicate,
        .call (ids 5) Operator.add [accu 2, .list (ids 4) [.ident (ids 3) var]], accu 6]) (accu 8)

/-- The ids that a builder gives out. -/
def numbered (next : Int) : Nat → Int
  | 0 => next
  | n + 1 => numbered next n + 1

theorem expand_eq_shape (m : Macro) (range : Expr) (var : String) (next : Int) :
    m.expand range var next = m.shape (numbered next) range var := by
  cases m <;> rfl

end Macro

namespace Planner

variable [HostObjects]

open Planning

open Plan hiding id

open Builder (accumulator)

variable {c : Planner} {loops : Bool} {locals : List String} {ids : Nat → Int} {range : Expr}
  {var : String}

theorem reachable_unguarded {extra : List Overload}
    (standard : c.registry = Registry.standard.addAll extra) {o : Overload}
    (member : o ∈ Standard.overloads) (unguarded : o.required = none) {count : Nat}
    (arity : o.arity = some count) : c.reachable o.id count = [o] := by
  obtain ⟨more, found, apart⟩ := Registry.find_extended member extra
  have takes : o.takes count = true := by simp [Overload.takes, arity]
  have others : more.filter (·.takes count) = [] := by
    apply List.filter_eq_nil_iff.mpr
    intro p later takes
    obtain ⟨-, -, apart⟩ := apart p later
    simp only [Overload.overlaps, Overload.guardsOverlap, unguarded, Bool.and_true,
      Overload.aritiesOverlap, arity] at apart
    simp only [Overload.takes] at takes
    cases other : p.arity with
    | none => simp [other] at apart
    | some m => simp_all
  rw [reachable, standard, found, List.filter_cons, if_pos takes, others]

theorem isObserved_of_planned {e : Expr} {p : Plan} (planned : Planned c e locals p)
    (observes : c.options.observes = true) : p.isObserved = true := by
  cases planned <;> exact isObserved_decorate observes _

end Planner

namespace Environment

open Planning

open Builder (accumulator)

section

variable [HostObjects]

def other (y : Value) : Scope := .function fun name => if name = "y" then some y else none

end

section

attribute [local instance] HostObjects.silent

end

section

variable [HostObjects]

end

attribute [local instance] HostObjects.silent

end Environment

end ExprEngine
