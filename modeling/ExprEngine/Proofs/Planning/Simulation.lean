import ExprEngine.Proofs.Expr.Everywhere
import ExprEngine.Proofs.Planning.Outcome
import Mathlib.Data.List.Forall2

/-!
# Two planners side by side

Two planners that agree on which nodes are resolved, on names of types and on overloads fail alike,
or make plans of the same form. `Simulates` asks of a relation that it holds of the final plans of
a node whenever it holds of those of its parts, with one rule for each form, and
`agree_of_simulates` concludes that it holds of the plans of every expression.
-/

namespace ExprEngine

namespace Planning

variable {α β γ δ : Type}

/-- Outcomes with the same error, or with results that are related. -/
inductive Agree (R : α → β → Prop) : Except PlanError α → Except PlanError β → Prop where
  | ok {a b} (related : R a b) : Agree R (.ok a) (.ok b)
  | error (e) : Agree R (.error e) (.error e)

variable {R : α → β → Prop} {x : Except PlanError α} {y : Except PlanError β}

theorem Agree.imp {S : α → β → Prop} (agree : Agree R x y) (weaker : ∀ a b, R a b → S a b) :
    Agree S x y := by
  cases agree with
  | ok related => exact .ok (weaker _ _ related)
  | error e => exact .error e

theorem Agree.located (agree : Agree R x y) :
    Agree (fun a b => x = .ok a ∧ y = .ok b ∧ R a b) x y := by
  cases agree with
  | ok related => exact .ok ⟨rfl, rfl, related⟩
  | error e => exact .error e

theorem Agree.related {a : α} {b : β} (agree : Agree R (.ok a) (.ok b)) : R a b := by
  cases agree with
  | ok related => exact related

theorem Agree.eq {y : Except PlanError α} (agree : Agree (fun a b => a = b) x y) : x = y := by
  cases agree with
  | ok same => rw [same]
  | error e => rfl

theorem Agree.common {S : γ → β → Prop} {z : Except PlanError γ} (left : Agree R x y)
    (right : Agree S z y) : Agree (fun a c => ∃ b, R a b ∧ S c b) x z := by
  cases left with
  | ok related =>
    cases right with
    | ok other => exact .ok ⟨_, related, other⟩
  | error e =>
    cases right with
    | error => exact .error e

theorem Agree.bind {S : γ → δ → Prop} {f : α → Except PlanError γ} {g : β → Except PlanError δ}
    (first : Agree R x y) (next : ∀ a b, R a b → Agree S (f a) (g b)) :
    Agree S (x.bind f) (y.bind g) := by
  cases first with
  | ok related => exact next _ _ related
  | error e => exact .error e

end Planning

namespace Planner

variable [HostObjects]

open Planning

open Plan hiding id

section Pairs

variable (c d : Planner) (R : Expr → List String → Plan → Plan → Prop)

structure Pair (e : Expr) (locals : List String) (p q : Plan) : Prop where
  left : outcome (c.planExpr e locals) = .ok p
  right : outcome (d.planExpr e locals) = .ok q
  related : R e locals p q

inductive PairAll : List Expr → List String → List Plan → List Plan → Prop where
  | nil {locals} : PairAll [] locals [] []
  | cons {e rest locals p q ps qs} (first : Pair c d R e locals p q)
      (others : PairAll rest locals ps qs) : PairAll (e :: rest) locals (p :: ps) (q :: qs)

inductive PairKeyed :
    List Entry → List String → List (Plan × Plan) → List (Plan × Plan) → Prop where
  | nil {locals} : PairKeyed [] locals [] []
  | cons {id key value rest locals p p' q q' ps qs} (keys : Pair c d R key locals p p')
      (values : Pair c d R value locals q q') (others : PairKeyed rest locals ps qs) :
      PairKeyed (.keyed id key value :: rest) locals ((p, q) :: ps) ((p', q') :: qs)

inductive PairFields :
    List Entry → List String → List (String × Plan) → List (String × Plan) → Prop where
  | nil {locals} : PairFields [] locals [] []
  | cons {id name value rest locals p q ps qs} (values : Pair c d R value locals p q)
      (others : PairFields rest locals ps qs) :
      PairFields (.field id name value :: rest) locals ((name, p) :: ps) ((name, q) :: qs)

/-- The relation holds of the plans of a node when it holds of those of its parts. -/
structure Follows : Prop where
  finds : ∀ function, c.registry.find function = d.registry.find function
  literal : ∀ id v locals,
    R (.literal id v) locals (c.finished (.const id v)) (d.finished (.const id v))
  resolved : ∀ id operand field locals, c.isResolved id = true →
    R (.select id operand field) locals (c.finished (c.identPlan locals id field))
      (d.finished (d.identPlan locals id field))
  select : ∀ id field {operand locals p q}, c.isResolved id = false →
    Pair c d R operand locals p q →
    R (.select id operand field) locals
      (c.finished (p.qualify id (.field id field (c.fieldAccess operand.id field))))
      (d.finished (q.qualify id (.field id field (d.fieldAccess operand.id field))))
  presence : ∀ id field {operand locals p q}, Pair c d R operand locals p q →
    R (.presence id operand field) locals
      (c.finished (.presence id p field (c.fieldAccess operand.id field)))
      (d.finished (.presence id q field (d.fieldAccess operand.id field)))
  both : ∀ id {a b locals p p' q q'}, Pair c d R a locals p p' → Pair c d R b locals q q' →
    R (.call id Operator.logicalAnd [a, b]) locals (c.finished (.both id p q))
      (d.finished (.both id p' q'))
  either : ∀ id {a b locals p p' q q'}, Pair c d R a locals p p' → Pair c d R b locals q q' →
    R (.call id Operator.logicalOr [a, b]) locals (c.finished (.either id p q))
      (d.finished (.either id p' q'))
  index : ∀ id {a b locals p p' q q'}, Pair c d R a locals p p' → Pair c d R b locals q q' →
    R (.call id Operator.index [a, b]) locals (c.finished (p.indexed id q))
      (d.finished (p'.indexed id q'))
  conditional : ∀ id {g a b locals o o' p p' q q'}, Pair c d R g locals o o' →
    Pair c d R a locals p p' → Pair c d R b locals q q' →
    R (.call id Operator.conditional [g, a, b]) locals (c.finished (.conditional id o p q))
      (d.finished (.conditional id o' p' q'))
  call : ∀ id function {args locals ps qs}, operandCount? function = none →
    PairAll c d R args locals ps qs →
    R (.call id function args) locals
      (c.finished (.call id function ps (c.reachable function ps.length)))
      (d.finished (.call id function qs (c.reachable function ps.length)))
  member : ∀ id function {target args locals p q ps qs}, operandCount? function = none →
    Pair c d R target locals p q → PairAll c d R args locals ps qs →
    R (.member id target function args) locals
      (c.finished (.call id function (p :: ps) (c.reachable function (p :: ps).length)))
      (d.finished (.call id function (q :: qs) (c.reachable function (p :: ps).length)))
  list : ∀ id {elements locals ps qs}, PairAll c d R elements locals ps qs →
    R (.list id elements) locals (c.finished (.list id ps)) (d.finished (.list id qs))
  mapping : ∀ id {entries locals ps qs}, PairKeyed c d R entries locals ps qs →
    R (.mapping id entries) locals (c.finished (.mapping id ps)) (d.finished (.mapping id qs))
  object : ∀ id name full {entries locals ps qs}, outcome (c.typeName id name) = .ok full →
    PairFields c d R entries locals ps qs →
    R (.object id name entries) locals (c.finished (.object id full ps))
      (d.finished (.object id full qs))
  loop : ∀ id iterVar accuVar {range init condition step result locals o o' i i' w w' s s' r r'},
    Pair c d R range locals o o' → Pair c d R init locals i i' →
    Pair c d R condition (iterVar :: accuVar :: locals) w w' →
    Pair c d R step (iterVar :: accuVar :: locals) s s' →
    Pair c d R result (accuVar :: locals) r r' →
    R (.loop id iterVar range accuVar init condition step result) locals
      (c.finished (.loop id iterVar o accuVar i w s r))
      (d.finished (.loop id iterVar o' accuVar i' w' s' r'))

/-- The planners also agree on what they know of a node, and the relation holds of its plans. -/
structure Simulates : Prop extends Follows c d R where
  resolves : ∀ id, c.isResolved id = d.isResolved id
  names : ∀ id name, outcome (c.typeName id name) = outcome (d.typeName id name)
  ident : ∀ id name locals,
    R (.ident id name) locals (c.finished (c.identPlan locals id name))
      (d.finished (d.identPlan locals id name))

structure SimulatesWhere (P : Expr → List String → Prop) : Prop extends Follows c d R where
  resolves : ∀ {id operand field locals}, P (.select id operand field) locals →
    c.isResolved id = d.isResolved id
  names : ∀ {id name entries locals}, P (.object id name entries) locals →
    outcome (c.typeName id name) = outcome (d.typeName id name)
  ident : ∀ {id name locals}, P (.ident id name) locals →
    R (.ident id name) locals (c.finished (c.identPlan locals id name))
      (d.finished (d.identPlan locals id name))

end Pairs

variable {c d : Planner} {R : Expr → List String → Plan → Plan → Prop}

variable {locals : List String}

theorem PairAll.length_eq {es : List Expr} {ps qs : List Plan}
    (pairs : PairAll c d R es locals ps qs) : ps.length = qs.length := by
  induction pairs with
  | nil => rfl
  | cons _ _ ih => rw [List.length_cons, List.length_cons, ih]

section Related

variable {S : Plan → Plan → Prop}

theorem PairAll.forall₂ {es : List Expr} {ps qs : List Plan}
    (pairs : PairAll c d (fun _ _ => S) es locals ps qs) : List.Forall₂ S ps qs := by
  induction pairs with
  | nil => exact .nil
  | cons first _ ih => exact .cons first.related ih

theorem PairKeyed.forall₂ {entries : List Entry} {ps qs : List (Plan × Plan)}
    (pairs : PairKeyed c d (fun _ _ => S) entries locals ps qs) :
    List.Forall₂ (fun p q => S p.1 q.1 ∧ S p.2 q.2) ps qs := by
  induction pairs with
  | nil => exact .nil
  | cons keys values _ ih => exact .cons ⟨keys.related, values.related⟩ ih

theorem PairFields.forall₂ {entries : List Entry} {ps qs : List (String × Plan)}
    (pairs : PairFields c d (fun _ _ => S) entries locals ps qs) :
    List.Forall₂ (fun p q => p.1 = q.1 ∧ S p.2 q.2) ps qs := by
  induction pairs with
  | nil => exact .nil
  | cons values _ ih => exact .cons ⟨rfl, values.related⟩ ih

end Related

namespace Follows

variable (follows : Follows c d R)

include follows

theorem reachable_eq (function : String) (count : Nat) :
    d.reachable function count = c.reachable function count := by
  rw [reachable, reachable, follows.finds]

theorem agree_operator (id : Int) (function : String) (e : PlanError) {args : List Expr}
    {ps qs : List Plan} (pairs : PairAll c d R args locals ps qs) :
    Agree (R (.call id function args) locals)
      (outcome (match operatorPlan? id function ps with
        | some p => c.finish p
        | none => throw e))
      (outcome (match operatorPlan? id function qs with
        | some q => d.finish q
        | none => throw e)) := by
  rcases pairs with _ | ⟨first, _ | ⟨second, _ | ⟨third, _ | _⟩⟩⟩
  · exact .error _
  · exact .error _
  · unfold operatorPlan?
    simp only
    by_cases isAnd : function = Operator.logicalAnd
    · subst isAnd
      simp only [↓reduceIte, outcome_finish]
      exact .ok (follows.both id first second)
    · by_cases isOr : function = Operator.logicalOr
      · subst isOr
        simp only [isAnd, ↓reduceIte, outcome_finish]
        exact .ok (follows.either id first second)
      · by_cases isIndex : function = Operator.index
        · subst isIndex
          simp only [isAnd, isOr, ↓reduceIte, outcome_finish]
          exact .ok (follows.index id first second)
        · simp only [isAnd, isOr, isIndex, ↓reduceIte]
          exact .error _
  · unfold operatorPlan?
    simp only
    by_cases isConditional : function = Operator.conditional
    · subst isConditional
      simp only [↓reduceIte, outcome_finish]
      exact .ok (follows.conditional id first second third)
    · simp only [isConditional, ↓reduceIte]
      exact .error _
  · exact .error _

theorem agree_callPlan (id : Int) (function : String) (onTarget : Bool) {S : Plan → Plan → Prop}
    {ps qs : List Plan} (length : ps.length = qs.length)
    (related : S (c.finished (.call id function ps (c.reachable function ps.length)))
      (d.finished (.call id function qs (c.reachable function ps.length)))) :
    Agree S (outcome (c.callPlan id function onTarget ps))
      (outcome (d.callPlan id function onTarget qs)) := by
  rw [outcome_callPlan, outcome_callPlan, follows.reachable_eq, ← follows.finds, ← length]
  split
  · exact .error _
  · split
    · exact .error _
    · exact .ok related

end Follows

section Where

variable {P : Expr → List String → Prop}

mutual

/-- Related planners fail alike, or make related plans, where every node meets the condition. -/
theorem agree_where (simulates : SimulatesWhere c d R P) (e : Expr) (locals : List String)
    (meets : e.Everywhere P locals) :
    Agree (Pair c d R e locals) (outcome (c.planExpr e locals))
      (outcome (d.planExpr e locals)) := by
  -- The results are paired with the outcomes that they are, which the plans of larger nodes need.
  suffices related : Agree (R e locals) (outcome (c.planExpr e locals))
      (outcome (d.planExpr e locals)) from
    related.located.imp fun _ _ ⟨left, right, related⟩ => ⟨left, right, related⟩
  match e with
  | .literal id v =>
    rw [planExpr, planExpr, outcome_finish, outcome_finish]
    exact .ok (simulates.literal id v locals)
  | .ident id name =>
    rw [planExpr, planExpr, outcome_finish, outcome_finish]
    exact .ok (simulates.ident meets)
  | .select id operand field =>
    rw [planExpr, planExpr, ← simulates.resolves meets.1]
    cases known : c.isResolved id with
    | true =>
      simp only [↓reduceIte, outcome_finish]
      exact .ok (simulates.resolved id operand field locals known)
    | false =>
      simp only [Bool.false_eq_true, ↓reduceIte, outcome_bind, outcome_finish]
      refine (agree_where simulates operand locals meets.2).bind fun p q pair => ?_
      exact .ok (simulates.select id field known pair)
  | .presence id operand field =>
    rw [planExpr, planExpr, outcome_bind, outcome_bind]
    refine (agree_where simulates operand locals meets.2).bind fun p q pair => ?_
    rw [outcome_finish, outcome_finish]
    exact .ok (simulates.presence id field pair)
  | .call id function args =>
    rw [planExpr, planExpr]
    split
    · split
      · exact .error _
      · rw [outcome_bind, outcome_bind]
        refine (agreeAll_where simulates args locals meets.2).bind fun ps qs pairs => ?_
        exact simulates.agree_operator id function _ pairs
    · next plain =>
      rw [outcome_bind, outcome_bind]
      refine (agreeAll_where simulates args locals meets.2).bind fun ps qs pairs => ?_
      exact simulates.agree_callPlan id function false pairs.length_eq
        (simulates.call id function plain pairs)
  | .member id target function args =>
    rw [planExpr, planExpr]
    split
    · exact .error _
    · next plain =>
      rw [outcome_bind, outcome_bind]
      refine (agree_where simulates target locals meets.2.1).bind fun p q pair => ?_
      rw [outcome_bind, outcome_bind]
      refine (agreeAll_where simulates args locals meets.2.2).bind fun ps qs pairs => ?_
      have length : (p :: ps).length = (q :: qs).length := by
        rw [List.length_cons, List.length_cons, pairs.length_eq]
      exact simulates.agree_callPlan id function true length
        (simulates.member id function plain pair pairs)
  | .list id elements =>
    rw [planExpr, planExpr, outcome_bind, outcome_bind]
    refine (agreeAll_where simulates elements locals meets.2).bind fun ps qs pairs => ?_
    rw [outcome_finish, outcome_finish]
    exact .ok (simulates.list id pairs)
  | .mapping id entries =>
    rw [planExpr, planExpr, outcome_bind, outcome_bind]
    refine (agreeKeyed_where simulates entries locals meets.2).bind fun ps qs pairs => ?_
    rw [outcome_finish, outcome_finish]
    exact .ok (simulates.mapping id pairs)
  | .object id name entries =>
    rw [planExpr, planExpr, outcome_bind, outcome_bind, ← simulates.names meets.1]
    cases named : outcome (c.typeName id name) with
    | error e => exact .error e
    | ok full =>
      simp only [Except.bind, outcome_bind]
      refine (agreeFields_where simulates full entries locals meets.2).bind fun ps qs pairs => ?_
      rw [outcome_finish, outcome_finish]
      exact .ok (simulates.object id name full named pairs)
  | .loop id iterVar range accuVar init condition step result =>
    obtain ⟨-, inRange, inInit, inCondition, inStep, inResult⟩ := meets
    rw [planExpr, planExpr, outcome_bind, outcome_bind]
    refine (agree_where simulates range locals inRange).bind fun o o' ranges => ?_
    rw [outcome_bind, outcome_bind]
    refine (agree_where simulates init locals inInit).bind fun i i' inits => ?_
    rw [outcome_bind, outcome_bind]
    refine (agree_where simulates condition _ inCondition).bind fun w w' conditions => ?_
    rw [outcome_bind, outcome_bind]
    refine (agree_where simulates step _ inStep).bind fun s s' steps => ?_
    rw [outcome_bind, outcome_bind]
    refine (agree_where simulates result _ inResult).bind fun r r' results => ?_
    rw [outcome_finish, outcome_finish]
    exact .ok (simulates.loop id iterVar accuVar ranges inits conditions steps results)

theorem agreeAll_where (simulates : SimulatesWhere c d R P) (es : List Expr)
    (locals : List String) (meets : Expr.EverywhereAll P es locals) :
    Agree (PairAll c d R es locals) (outcome (c.planAll es locals))
      (outcome (d.planAll es locals)) := by
  match es with
  | [] => exact .ok .nil
  | e :: rest =>
    rw [planAll, planAll, outcome_bind, outcome_bind]
    refine (agree_where simulates e locals meets.1).bind fun p q pair => ?_
    rw [outcome_bind, outcome_bind]
    refine (agreeAll_where simulates rest locals meets.2).bind fun ps qs pairs => ?_
    exact .ok (.cons pair pairs)

theorem agreeKeyed_where (simulates : SimulatesWhere c d R P) (entries : List Entry)
    (locals : List String) (meets : Expr.EverywhereIn P entries locals) :
    Agree (PairKeyed c d R entries locals) (outcome (c.planKeyed entries locals))
      (outcome (d.planKeyed entries locals)) := by
  match entries with
  | [] => exact .ok .nil
  | .field id name value :: rest => exact .error _
  | .keyed id key value :: rest =>
    rw [planKeyed, planKeyed, outcome_bind, outcome_bind]
    refine (agree_where simulates key locals meets.1).bind fun p p' keys => ?_
    rw [outcome_bind, outcome_bind]
    refine (agree_where simulates value locals meets.2.1).bind fun q q' values => ?_
    rw [outcome_bind, outcome_bind]
    refine (agreeKeyed_where simulates rest locals meets.2.2).bind fun ps qs pairs => ?_
    exact .ok (.cons keys values pairs)

theorem agreeFields_where (simulates : SimulatesWhere c d R P) (typeName : String)
    (entries : List Entry) (locals : List String) (meets : Expr.EverywhereIn P entries locals) :
    Agree (PairFields c d R entries locals) (outcome (c.planFields typeName entries locals))
      (outcome (d.planFields typeName entries locals)) := by
  match entries with
  | [] => exact .ok .nil
  | .keyed id key value :: rest => exact .error _
  | .field id name value :: rest =>
    rw [planFields, planFields, outcome_bind, outcome_bind]
    refine (agree_where simulates value locals meets.1).bind fun p q values => ?_
    rw [outcome_bind, outcome_bind]
    refine (agreeFields_where simulates typeName rest locals meets.2).bind fun ps qs pairs => ?_
    exact .ok (.cons values pairs)

end

end Where

theorem agree_of_simulates (simulates : Simulates c d R) (e : Expr) (locals : List String) :
    Agree (Pair c d R e locals) (outcome (c.planExpr e locals))
      (outcome (d.planExpr e locals)) := by
  have everywhere : SimulatesWhere c d R fun _ _ => True :=
    { simulates.toFollows with
      resolves := fun _ => simulates.resolves _
      names := fun _ => simulates.names _ _
      ident := fun _ => simulates.ident _ _ _ }
  exact agree_where everywhere e locals (Expr.everywhere_of_forall (fun _ _ => trivial) e locals)

end Planner

end ExprEngine
