import ExprEngine.Proofs.Partial.Loops
import ExprEngine.Proofs.Planning.Prepared

/-!
# Partial evaluation

An expression whose calls reach strict overloads only, with no loops but those that macros make,
has a steady plan. Without loops, a value that it has while some variables are unknown is its
value whatever these variables are.
-/

namespace ExprEngine

namespace Value

variable [HostObjects]

/-- The negation of a value is false if the value is true, and not false otherwise. -/
theorem unlessFalse_called_not (id : Int) (more : List Overload) (v : Value) :
    (called id Operator.logicalNot (Standard.unary Operator.logicalNot logicalNot :: more)
      [v]).decides false = v.decides true := by
  have first : (dispatch Operator.logicalNot
      (Standard.unary Operator.logicalNot logicalNot :: more) [v]).value = v.logicalNot := by
    cases v <;> rfl
  have negated : ((dispatch Operator.logicalNot
      (Standard.unary Operator.logicalNot logicalNot :: more)
        [v]).value.withExprId id).decides false = v.decides true := by
    rw [first]
    cases v with
    | bool b => cases b <;> rfl
    | _ => rfl
  unfold called
  split
  · exact negated
  · cases v with
    | unknown s => rfl
    | error e => rfl
    | _ => exact negated

end Value

namespace CheckedExpr

/-- The checker resolved the node to nothing. -/
def Silent (checked : CheckedExpr) (id : Int) : Prop :=
  ∀ r, checked.reference? id = some r → r.name = none ∧ r.value = none

end CheckedExpr

namespace Planner

open Planning

open Plan hiding id

/-- A call by that name reaches strict overloads only; operators with plans of their own reach
none. -/
def StrictCall (c : Planner) (function : String) (count : Nat) : Prop :=
  operandCount? function = none → ∀ o ∈ c.reachable function count, o.nonStrict = false

/-- The loop takes all elements, or goes on until its accumulator is a truth value that decides. -/
inductive Accumulates (c : Planner) (accuVar : String) (init : Expr) :
    Option Bool → Expr → Expr → Prop where
  | always {i step} : Accumulates c accuVar init none (.literal i (.bool true)) step
  | all {h i j k l operand} (start : init = .literal h (.bool true))
      (unannotated : c.checked.reference? j = none ∧ c.checked.reference? l = none) :
      Accumulates c accuVar init (some false)
        (.call i Operator.notStrictlyFalse [.ident j accuVar])
        (.call k Operator.logicalAnd [.ident l accuVar, operand])
  | exist {h i j k l m operand} (start : init = .literal h (.bool false))
      (unannotated : c.checked.reference? k = none ∧ c.checked.reference? m = none) :
      Accumulates c accuVar init (some true)
        (.call i Operator.notStrictlyFalse [.call j Operator.logicalNot [.ident k accuVar]])
        (.call l Operator.logicalOr [.ident m accuVar, operand])

mutual

/-- Calls reach strict overloads only, and loops, where there may be any, accumulate. -/
def Tame (c : Planner) (loops : Bool) : Expr → List String → Prop
  | .literal .., _ | .ident .., _ => True
  | .select _ operand _, locals | .presence _ operand _, locals => Tame c loops operand locals
  | .call _ function args, locals =>
    c.StrictCall function args.length ∧ TameAll c loops args locals
  | .member _ target function args, locals =>
    c.StrictCall function (args.length + 1) ∧ Tame c loops target locals ∧
      TameAll c loops args locals
  | .list _ elements, locals => TameAll c loops elements locals
  | .mapping _ entries, locals | .object _ _ entries, locals => TameIn c loops entries locals
  | .loop _ iterVar range accuVar init condition step result, locals =>
    loops = true ∧ (∃ decider, c.Accumulates accuVar init decider condition step) ∧
      Tame c loops range locals ∧ Tame c loops init locals ∧
      Tame c loops step (iterVar :: accuVar :: locals) ∧ Tame c loops result (accuVar :: locals)
termination_by structural e => e

def TameAll (c : Planner) (loops : Bool) : List Expr → List String → Prop
  | [], _ => True
  | e :: rest, locals => Tame c loops e locals ∧ TameAll c loops rest locals
termination_by structural es => es

def TameIn (c : Planner) (loops : Bool) : List Entry → List String → Prop
  | [], _ => True
  | .field _ _ value :: rest, locals => Tame c loops value locals ∧ TameIn c loops rest locals
  | .keyed _ key value :: rest, locals =>
    Tame c loops key locals ∧ Tame c loops value locals ∧ TameIn c loops rest locals
termination_by structural entries => entries

end

variable [HostObjects]

variable {c : Planner} {loose : Bool} {locals : List String} {iterVar accuVar : String}

/-! ### Plans of loops -/

theorem value_of_literal {id : Int} {v : Value} {p : Plan}
    (planned : Planned c (.literal id v) locals p) (scope : Scope) :
    (p.eval c.provider false scope).value = v := by
  cases planned
  exact value_finished rfl rfl rfl scope

theorem value_of_name {a : Int} {name : String} (isLocal : Bool) {s : Scope} {v : Value}
    (found : (s.resolve name).value = some v) :
    ((Plan.attr a (.absolute a isLocal [name] [])).eval c.provider false s).value =
      if isLocal = false ∧ s.patterns.filter (·.name == name) ≠ [] then .unknown (.singleton a)
      else v := by
  have named : (Variable.resolveName? ⟨a, isLocal, [name], []⟩ c.provider s name).value =
      some (if isLocal = false ∧ s.patterns.filter (·.name == name) ≠ [] then
        .unknown (.singleton a) else v) := by
    rw [Variable.value_resolveName?, found]
    cases isLocal with
    | true => rfl
    | false =>
      simp only [Variable.unknown?]
      cases s.patterns.filter (·.name == name) <;> rfl
  simp only [value_attr, resolve, steps, Variable.resolve, Variable.resolve?, Variable.firstSome,
    Run.value_bind, Run.value_pure, named, Option.getD_some]

omit [HostObjects] in
theorem identPlan_of_silent {a : Int} (silent : c.checked.Silent a) {name : String}
    (bound : name ∈ locals) : c.identPlan locals a name = .attr a (.absolute a true [name] []) := by
  unfold identPlan
  split
  · next known => cases (silent _ known).2
  · next known => cases (silent _ known).1
  · exact if_pos bound

theorem value_of_silent {a : Int} {name : String} {p : Plan}
    (planned : Planned c (.ident a name) locals p) (silent : c.checked.Silent a)
    (bound : name ∈ locals) {s : Scope} {v : Value} (found : (s.resolve name).value = some v) :
    (p.eval c.provider false s).value = v := by
  cases planned
  rw [identPlan_of_silent silent bound, value_finished rfl rfl rfl, value_of_name true found]
  exact if_neg fun both => by cases both.1

theorem value_of_local {id : Int} {name : String} {p : Plan}
    (planned : Planned c (.ident id name) locals p) (unannotated : c.checked.reference? id = none)
    (bound : name ∈ locals) {scope : Scope} {v : Value}
    (found : (scope.resolve name).value = some v) :
    (p.eval c.provider false scope).value = v :=
  value_of_silent planned (fun r known => by rw [unannotated] at known; cases known) bound found

theorem value_of_unary {id : Int} {function : String} {e : Expr} {p : Plan}
    (planned : Planned c (.call id function [e]) locals p) :
    ∃ q, Planned c e locals q ∧ ∀ scope, (p.eval c.provider false scope).value =
      Value.called id function (c.reachable function 1)
        [(q.eval c.provider false scope).value] := by
  cases planned with
  | call _ args =>
    cases args with
    | @cons _ _ _ q _ first others =>
      cases others
      refine ⟨q, first, fun scope => ?_⟩
      have plain : (Plan.call id function [q] (c.reachable function 1)).prepare =
          .call id function [q] (c.reachable function 1) := by
        simp only [prepare, prepareCall, ite_self]
      change ((c.finished (.call id function [q] (c.reachable function 1))).eval c.provider false
        scope).value = _
      rw [value_finished rfl rfl plain, value_call]
      rfl

theorem value_of_combine {short : Bool} {id : Int} {function : String} {a b : Expr} {p : Plan}
    (named : function = if short then Operator.logicalOr else Operator.logicalAnd)
    (planned : Planned c (.call id function [a, b]) locals p) :
    ∃ q r, Planned c a locals q ∧ Planned c b locals r ∧ ∀ scope,
      (p.eval c.provider false scope).value =
        Value.combine id short (q.eval c.provider false scope).value
          (r.eval c.provider false scope).value := by
  cases planned with
  | both left right =>
    cases short with
    | true => exact absurd named (by decide)
    | false =>
      refine ⟨_, _, left, right, fun scope => ?_⟩
      rw [value_finished rfl rfl rfl, value_both]
  | either left right =>
    cases short with
    | false => exact absurd named (by decide)
    | true =>
      refine ⟨_, _, left, right, fun scope => ?_⟩
      rw [value_finished rfl rfl rfl, value_either]
  | index => cases short <;> exact absurd named (by decide)
  | call plain =>
    subst named
    cases short <;> cases plain

theorem reachable_standard {extra : List Overload}
    (standard : c.registry = Registry.standard.addAll extra) {o : Overload}
    (member : o ∈ Standard.overloads) {count : Nat} (takes : o.takes count = true) :
    ∃ more, c.reachable o.id count = o :: more := by
  obtain ⟨more, found, -⟩ := Registry.find_extended member extra
  refine ⟨more.filter (·.takes count), ?_⟩
  rw [reachable, standard, found, List.filter_cons, if_pos takes]

theorem reachable_guard {extra : List Overload}
    (standard : c.registry = Registry.standard.addAll extra) :
    ∃ more, c.reachable Operator.notStrictlyFalse 1 =
      Standard.notStrictlyFalse Operator.notStrictlyFalse :: more :=
  reachable_standard standard (o := Standard.notStrictlyFalse Operator.notStrictlyFalse)
    (List.mem_of_getElem? (i := 21) rfl) rfl

theorem reachable_not {extra : List Overload}
    (standard : c.registry = Registry.standard.addAll extra) :
    ∃ more, c.reachable Operator.logicalNot 1 =
      Standard.unary Operator.logicalNot Value.logicalNot :: more :=
  reachable_standard standard (o := Standard.unary Operator.logicalNot Value.logicalNot)
    (List.mem_of_getElem? (i := 6) rfl) rfl

theorem reachable_guard_ne_nil {extra : List Overload}
    (standard : c.registry = Registry.standard.addAll extra) :
    c.reachable Operator.notStrictlyFalse 1 ≠ [] := by
  obtain ⟨more, reaches⟩ := reachable_guard standard
  rw [reaches]
  exact List.cons_ne_nil _ _

theorem reachable_not_ne_nil {extra : List Overload}
    (standard : c.registry = Registry.standard.addAll extra) :
    c.reachable Operator.logicalNot 1 ≠ [] := by
  obtain ⟨more, reaches⟩ := reachable_not standard
  rw [reaches]
  exact List.cons_ne_nil _ _

theorem accumulating_of_planned {extra : List Overload}
    (standard : c.registry = Registry.standard.addAll extra) {init condition step : Expr}
    {decider : Option Bool}
    (accumulates : c.Accumulates accuVar init decider condition step) {i w p : Plan}
    (initPlanned : Planned c init locals i)
    (conditionPlanned : Planned c condition (iterVar :: accuVar :: locals) w)
    (stepPlanned : Planned c step (iterVar :: accuVar :: locals) p) :
    Accumulating c.provider accuVar i w p decider := by
  have bound : accuVar ∈ iterVar :: accuVar :: locals := by simp
  obtain ⟨more, guard⟩ := reachable_guard standard
  cases accumulates with
  | always => exact .always fun s => value_of_literal conditionPlanned s
  | @all _ a _ b _ _ start unannotated =>
    subst start
    obtain ⟨q, accu, checked⟩ := value_of_unary conditionPlanned
    obtain ⟨r, operand, accu', -, stepped⟩ :=
      @value_of_combine _ _ _ false _ _ _ _ _ rfl stepPlanned
    have combining : Combining c.provider b false accuVar i w p := by
      refine ⟨value_of_literal initPlanned, fun s v found => ?_, fun s v found => ?_⟩
      · rw [checked, value_of_local accu unannotated.1 bound found, guard, Value.called_guard]
      · exact ⟨_, by rw [stepped, value_of_local accu' unannotated.2 bound found]⟩
    exact .combining combining
  | @exist _ a a' _ b _ _ start unannotated =>
    subst start
    obtain ⟨others, negation⟩ := reachable_not standard
    obtain ⟨q, negated, checked⟩ := value_of_unary conditionPlanned
    obtain ⟨q', accu, denied⟩ := value_of_unary negated
    obtain ⟨r, operand, accu', -, stepped⟩ := @value_of_combine _ _ _ true _ _ _ _ _ rfl stepPlanned
    have combining : Combining c.provider b true accuVar i w p := by
      refine ⟨value_of_literal initPlanned, fun s v found => ?_, fun s v found => ?_⟩
      · rw [checked, denied, value_of_local accu unannotated.1 bound found, guard, negation,
          Value.called_guard, Value.unlessFalse_called_not]
      · exact ⟨_, by rw [stepped, value_of_local accu' unannotated.2 bound found]⟩
    exact .combining combining

/-! ### Steady plans -/

theorem leaf_steady {p : Plan} (leaf : p.knownBranch? = none) (plain : p.prepare = p)
    (steady : p.Steady c.provider loose locals) :
    (c.finished p).Steady c.provider loose locals := by
  refine finished_steady steady (fun branch known => ?_) (by rwa [plain])
  rw [leaf] at known
  cases known

theorem finished_conditional_steady (id : Int) {p q r : Plan}
    (guard : p.Steady c.provider loose locals) (whenTrue : q.Steady c.provider loose locals)
    (whenFalse : r.Steady c.provider loose locals) :
    (c.finished (.conditional id p q r)).Steady c.provider loose locals := by
  have steady := conditional_steady id guard whenTrue whenFalse
  refine finished_steady steady (fun branch known => ?_) steady
  rcases branch_of_known known with rfl | rfl
  · exact whenTrue
  · exact whenFalse

theorem finished_call_steady (id : Int) {function : String} {args : List Plan}
    (strict : ∀ o ∈ c.reachable function args.length, o.nonStrict = false)
    (steady : ∀ p ∈ args, p.Steady c.provider loose locals) :
    (c.finished (.call id function args (c.reachable function args.length))).Steady c.provider
      loose locals := by
  have strict : (c.reachable function args.length).any Overload.nonStrict = false := by
    simpa using strict
  exact finished_steady (call_steady id function strict steady) (fun _ known => by cases known)
    (prepareCall_steady id function strict steady)

mutual

theorem steady_of_planned
    (standard : loose = true → ∃ extra, c.registry = Registry.standard.addAll extra) {e : Expr}
    {locals : List String} {p : Plan} (planned : Planned c e locals p)
    (tame : c.Tame loose e locals) : p.Steady c.provider loose locals := by
  -- Calls and loops are steady as far as they are tame, and all else as its parts are.
  match planned with
  | .literal => exact leaf_steady rfl rfl (const_steady _ _)
  | .ident => exact identPlan_steady _ _
  | .resolved _ => exact identPlan_steady _ _
  | .select _ operand =>
    exact leaf_steady rfl rfl
      (qualify_field_steady _ _ _ (steady_of_planned standard operand tame))
  | .presence operand =>
    exact leaf_steady rfl rfl (presence_steady _ _ _ (steady_of_planned standard operand tame))
  | .both left right =>
    exact leaf_steady rfl rfl (both_steady _ (steady_of_planned standard left tame.2.1)
      (steady_of_planned standard right tame.2.2.1))
  | .either left right =>
    exact leaf_steady rfl rfl (either_steady _ (steady_of_planned standard left tame.2.1)
      (steady_of_planned standard right tame.2.2.1))
  | .index operand key =>
    exact leaf_steady rfl rfl (indexed_steady _ (steady_of_planned standard operand tame.2.1)
      (steady_of_planned standard key tame.2.2.1))
  | .conditional guard whenTrue whenFalse =>
    exact finished_conditional_steady _ (steady_of_planned standard guard tame.2.1)
      (steady_of_planned standard whenTrue tame.2.2.1)
      (steady_of_planned standard whenFalse tame.2.2.2.1)
  | .call operator args =>
    refine finished_call_steady _ ?_ (steady_of_plannedAll standard args tame.2)
    rw [length_of_plannedAll args]
    exact tame.1 operator
  | .member operator target args =>
    refine finished_call_steady _ ?_ fun p member => ?_
    · rw [List.length_cons, length_of_plannedAll args]
      exact tame.1 operator
    · rcases List.mem_cons.mp member with rfl | member
      · exact steady_of_planned standard target tame.2.1
      · exact steady_of_plannedAll standard args tame.2.2 p member
  | .list elements =>
    exact leaf_steady rfl rfl (list_steady _ (steady_of_plannedAll standard elements tame))
  | .mapping entries =>
    exact leaf_steady rfl rfl (mapping_steady _ (steady_of_plannedKeyed standard entries tame))
  | .object _ fields =>
    exact leaf_steady rfl rfl (object_steady _ _ (steady_of_plannedFields standard fields tame))
  | .loop range init condition step result =>
    obtain ⟨loops, ⟨decider, accumulates⟩, rangeTame, initTame, stepTame, resultTame⟩ := tame
    obtain ⟨extra, registered⟩ := standard loops
    rw [finished_of_isLoop rfl]
    apply Steady.decorate
    exact loop_steady loops _ (accumulating_of_planned registered accumulates init condition step)
      (steady_of_planned standard range rangeTame) (steady_of_planned standard init initTame)
      (steady_of_planned standard step stepTame) (steady_of_planned standard result resultTame)

theorem steady_of_plannedAll
    (standard : loose = true → ∃ extra, c.registry = Registry.standard.addAll extra)
    {es : List Expr} {locals : List String} {ps : List Plan} (planned : PlannedAll c es locals ps)
    (tame : c.TameAll loose es locals) : ∀ p ∈ ps, p.Steady c.provider loose locals := by
  match planned with
  | .nil => exact fun p member => by cases member
  | .cons first others =>
    intro p member
    rcases List.mem_cons.mp member with rfl | member
    · exact steady_of_planned standard first tame.1
    · exact steady_of_plannedAll standard others tame.2 p member

theorem steady_of_plannedKeyed
    (standard : loose = true → ∃ extra, c.registry = Registry.standard.addAll extra)
    {entries : List Entry} {locals : List String} {ps : List (Plan × Plan)}
    (planned : PlannedKeyed c entries locals ps) (tame : c.TameIn loose entries locals) :
    ∀ p ∈ ps, p.1.Steady c.provider loose locals ∧ p.2.Steady c.provider loose locals := by
  match planned with
  | .nil => exact fun p member => by cases member
  | .cons key value others =>
    intro p member
    rcases List.mem_cons.mp member with rfl | member
    · exact ⟨steady_of_planned standard key tame.1, steady_of_planned standard value tame.2.1⟩
    · exact steady_of_plannedKeyed standard others tame.2.2 p member

theorem steady_of_plannedFields
    (standard : loose = true → ∃ extra, c.registry = Registry.standard.addAll extra)
    {entries : List Entry} {locals : List String} {ps : List (String × Plan)}
    (planned : PlannedFields c entries locals ps) (tame : c.TameIn loose entries locals) :
    ∀ p ∈ ps, p.2.Steady c.provider loose locals := by
  match planned with
  | .nil => exact fun p member => by cases member
  | .cons value others =>
    intro p member
    rcases List.mem_cons.mp member with rfl | member
    · exact steady_of_planned standard value tame.1
    · exact steady_of_plannedFields standard others tame.2 p member

end

end Planner

namespace Environment

open Planning

section

variable [HostObjects]

end

attribute [local instance] HostObjects.silent

end Environment

end ExprEngine
