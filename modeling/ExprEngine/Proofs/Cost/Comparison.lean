import ExprEngine.Proofs.Cost.Plans
import ExprEngine.Proofs.Planning.Specialized

/-!
# Comparing costs of plans

A plan is leaner than another one if it has no more nodes, if its maximal cost is no greater, if it
knows every size that the other knows, and if the same holds of the cost of what is selected from
it. Plans of one form are leaner when their parts are. A size that becomes known makes repetition
cheaper, and the calls of overloads whose cost grows with the size of their first argument.
-/

namespace ExprEngine

namespace Cost

/-- The maximum of `b` admits all that the maximum of `a` bounds. -/
def Within (a b : Cost) : Prop := b.Admits a.max

variable {a b c d : Cost}

namespace Within

theorem refl (c : Cost) : c.Within c := admits_of_le (Nat.le_refl _)

theorem trans (first : a.Within b) (second : b.Within c) : a.Within c := by
  have clamped : clamp a.max ≤ clamp b.max := Nat.le_min.mpr ⟨first, clamp_le_unbounded _⟩
  exact Nat.le_trans clamped second

theorem of_eq_zero (h : a.max = 0) (b : Cost) : a.Within b := by
  rw [Within, h]
  exact admits_zero b

theorem add (first : a.Within c) (second : b.Within d) : (a + b).Within (c + d) :=
  (Admits.add first second).mono (clamp_le _)

theorem either (first : a.Within c) (second : b.Within d) : (a.either b).Within (c.either d) := by
  rcases Nat.le_total a.max b.max with h | h
  · have larger : (a.either b).max = b.max := Nat.max_eq_right h
    rw [Within, larger]
    exact Admits.either_right second c
  · have larger : (a.either b).max = a.max := Nat.max_eq_left h
    rw [Within, larger]
    exact Admits.either_left first d

theorem add_left (b : Cost) (within : a.Within c) : a.Within (b + c) := by
  have total := (admits_zero b).add within
  rwa [Nat.zero_add] at total

theorem add_right (c : Cost) (within : a.Within b) : a.Within (b + c) :=
  Admits.add within (admits_zero c)

theorem sum_head (c : Cost) (rest : List Cost) : c.Within (Cost.sum (c :: rest)) :=
  (refl c).sum_cons (admits_zero _)

theorem sum {as bs : List Cost} (each : List.Forall₂ Within as bs) : (sum as).Within (sum bs) := by
  induction each with
  | nil => exact refl _
  | @cons a b as bs first _ ih =>
    refine (Admits.sum_cons first ih).mono ?_
    rw [max_sum, max_sum, List.map_cons, List.sum_cons]
    simp only [clamp_eq]
    split_ifs <;> omega

theorem foldl_either {as bs : List Cost} (each : List.Forall₂ Within as bs) (start : a.Within b) :
    (as.foldl Cost.either a).Within (bs.foldl Cost.either b) := by
  induction each generalizing a b with
  | nil => exact start
  | cons first _ ih => exact ih (start.either first)

theorem anyOf {as bs : List Cost} (each : List.Forall₂ Within as bs) (other : Cost) :
    ((anyOf? as).getD other).Within ((anyOf? bs).getD other) := by
  cases each with
  | nil => exact refl other
  | cons first rest => exact foldl_either rest first

theorem repeated {known other : Option Nat} (each : a.Within b)
    (sized : ∀ n, other = some n → known = some n) :
    (a.repeated known).Within (b.repeated other) := by
  cases known with
  | some n =>
    have total : (b.repeated other).Admits (a.max * n) := by
      refine Admits.repeated each (fun k is => ?_) (Nat.le_refl _)
      exact Nat.le_of_eq (Option.some.inj (sized k is))
    exact total.mono (clamp_le _)
  | none =>
    cases other with
    | some n => cases sized n rfl
    | none =>
      -- Repeated without a known end, only what costs nothing has a bound.
      by_cases idle : b.max = 0
      · refine of_eq_zero ?_ _
        have none : a.max = 0 := by
          rcases admits_iff.mp each with within | endless
          · omega
          · rw [idle] at endless
            exact absurd endless (by decide)
        show (if a.max = 0 then 0 else unbounded) = 0
        exact if_pos none
      · refine admits_iff.mpr (.inr ?_)
        show unbounded ≤ (if b.max = 0 then 0 else unbounded)
        exact Nat.le_of_eq (if_neg idle).symm

end Within

end Cost

/-- A size of the first argument that becomes known does not raise the cost of a call. -/
def Overload.Frugal (o : Overload) : Prop :=
  ∀ known other : List (Option Nat),
    (∀ n, other.head?.join = some n → known.head?.join = some n) →
      (o.callCost known).Within (o.callCost other)

namespace Qualifier

structure Leaner (qs rs : List Qualifier) : Prop where
  labels : qs.map label = rs.map label
  costs : List.Forall₂ Cost.Within (Plan.qualifierCosts qs) (Plan.qualifierCosts rs)

theorem costs_append (qs rs : List Qualifier) :
    Plan.qualifierCosts (qs ++ rs) = Plan.qualifierCosts qs ++ Plan.qualifierCosts rs := by
  induction qs with
  | nil => rfl
  | cons q rest ih => cases q <;> simp only [List.cons_append, Plan.qualifierCosts, ih]

namespace Leaner

theorem refl (qs : List Qualifier) : Leaner qs qs :=
  ⟨rfl, List.forall₂_same.mpr fun c _ => .refl c⟩

theorem append {before after qs rs : List Qualifier} (first : Leaner before after)
    (more : Leaner qs rs) : Leaner (before ++ qs) (after ++ rs) := by
  constructor
  · rw [List.map_append, List.map_append, first.labels, more.labels]
  · rw [costs_append, costs_append]
    exact List.rel_append first.costs more.costs

end Leaner

end Qualifier

namespace Attribute

def Leaner (a b : Attribute) : Prop :=
  ∀ qs rs, Qualifier.Leaner qs rs →
    (Plan.attributeCost (a.qualifyAll qs)).Within (Plan.attributeCost (b.qualifyAll rs))

section Parts

variable {before after : List Qualifier} (qualifiers : Qualifier.Leaner before after)

include qualifiers in
theorem absolute_leaner (id : Int) (isLocal : Bool) (names : List String) :
    (absolute id isLocal names before).Leaner (absolute id isLocal names after) := by
  intro qs rs more
  rw [qualifyAll_absolute, qualifyAll_absolute]
  exact .sum (qualifiers.append more).costs

include qualifiers in
theorem ambiguous_leaner (id : Int) (names : List String) :
    (ambiguous id names before).Leaner (ambiguous id names after) := by
  intro qs rs more
  have all := qualifiers.append more
  rw [qualifyAll_ambiguous, qualifyAll_ambiguous, Plan.attributeCost, Plan.attributeCost,
    all.labels]
  refine .anyOf ?_ _
  rw [List.forall₂_map_left_iff, List.forall₂_map_right_iff, List.forall₂_same]
  exact fun i _ => .sum (List.forall₂_drop i.taken all.costs)

include qualifiers in
theorem relative_leaner {id other : Int} {p q : Plan} (cheaper : p.cost.Within q.cost) :
    (relative id p before).Leaner (relative other q after) := by
  intro qs rs more
  rw [qualifyAll_relative, qualifyAll_relative]
  exact cheaper.add (.sum (qualifiers.append more).costs)

end Parts

theorem conditional_leaner {id other : Int} {g g' : Plan} {t t' f f' : Attribute}
    (guard : g.cost.Within g'.cost) (whenTrue : t.Leaner t') (whenFalse : f.Leaner f') :
    (conditional id g t f).Leaner (conditional other g' t' f') := by
  intro qs rs more
  rw [qualifyAll_conditional, qualifyAll_conditional]
  exact guard.add ((whenTrue qs rs more).either (whenFalse qs rs more))

theorem leaner_refl (a : Attribute) : a.Leaner a := by
  cases a with
  | absolute id isLocal names qs => exact absolute_leaner (.refl qs) id isLocal names
  | ambiguous id names qs => exact ambiguous_leaner (.refl qs) id names
  | relative id p qs => exact relative_leaner (.refl qs) (.refl _)
  | conditional id g t f => exact conditional_leaner (.refl _) (leaner_refl t) (leaner_refl f)

end Attribute

namespace Plan

/-- A plan that has no more nodes and costs no more, evaluated exhaustively or not. -/
structure Leaner (everything : Bool) (p q : Plan) : Prop where
  fewer : p.nodeCount ≤ q.nodeCount
  cheaper : (p.costOf everything).Within (q.costOf everything)
  sized : ∀ n, q.sizeHint? = some n → p.sizeHint? = some n
  selected : p.toAttribute.Leaner q.toAttribute

variable {p p' q q' r r' s s' t t' : Plan} {everything : Bool}

theorem Leaner.refl (everything : Bool) (p : Plan) : Leaner everything p p :=
  ⟨Nat.le_refl _, .refl _, fun _ known => known, Attribute.leaner_refl _⟩

theorem Leaner.trans (first : Leaner everything p q) (second : Leaner everything q r) :
    Leaner everything p r where
  fewer := Nat.le_trans first.fewer second.fewer
  cheaper := first.cheaper.trans second.cheaper
  sized n known := first.sized n (second.sized n known)
  selected qs rs more := (first.selected qs qs (.refl qs)).trans (second.selected qs rs more)

theorem Leaner.of_cost (left : p.toAttribute = .relative p.id p [])
    (right : q.toAttribute = .relative q.id q []) (fewer : p.nodeCount ≤ q.nodeCount)
    (cheaper : ∀ everything, (p.costOf everything).Within (q.costOf everything))
    (sized : ∀ n, q.sizeHint? = some n → p.sizeHint? = some n) (everything : Bool) :
    Leaner everything p q where
  fewer
  cheaper := cheaper everything
  sized
  selected := by
    rw [left, right]
    exact Attribute.relative_leaner (.refl []) (cheaper false)

theorem Leaner.of_attribute {id other : Int} {a b : Attribute} (leaner : a.Leaner b)
    (everything : Bool) : Leaner everything (attr id a) (attr other b) where
  fewer := Nat.le_refl 1
  cheaper := by
    have cost := leaner [] [] (.refl [])
    cases everything <;> exact cost
  sized n known := by cases known
  selected := leaner

section Lists

variable {ps qs : List Plan}

theorem nodeCounts_le (parts : List.Forall₂ (Leaner false) ps qs) :
    nodeCounts ps ≤ nodeCounts qs := by
  induction parts with
  | nil => exact Nat.le_refl _
  | cons first _ ih => exact Nat.add_le_add first.fewer ih

theorem costs_within (parts : List.Forall₂ (Leaner false) ps qs) :
    List.Forall₂ Cost.Within (costs ps) (costs qs) := by
  induction parts with
  | nil => exact .nil
  | cons first _ ih => exact .cons first.cheaper ih

theorem list_leaner (id : Int) (parts : List.Forall₂ (Leaner false) ps qs) (everything : Bool) :
    Leaner everything (list id ps) (list id qs) := by
  have fewer : (list id ps).nodeCount ≤ (list id qs).nodeCount :=
    Nat.add_le_add_left (nodeCounts_le parts) 1
  refine .of_cost rfl rfl fewer (fun everything => ?_) (fun n known => ?_) everything
  · cases everything <;> exact .sum (costs_within parts)
  · rw [sizeHint?, parts.length_eq]
    exact known

theorem callCost_within {overloads : List Overload} (frugal : ∀ o ∈ overloads, o.Frugal)
    {known other : List (Option Nat)}
    (sized : ∀ n, other.head?.join = some n → known.head?.join = some n) :
    (callCost overloads known).Within (callCost overloads other) := by
  refine .anyOf ?_ _
  rw [List.forall₂_map_left_iff, List.forall₂_map_right_iff, List.forall₂_same]
  exact fun o member => frugal o member known other sized

theorem call_leaner (id : Int) (function : String) {overloads : List Overload}
    (frugal : ∀ o ∈ overloads, o.Frugal) (parts : List.Forall₂ (Leaner false) ps qs)
    (everything : Bool) :
    Leaner everything (call id function ps overloads) (call id function qs overloads) := by
  have sized : ∀ n, (qs.map sizeHint?).head?.join = some n →
      (ps.map sizeHint?).head?.join = some n := by
    intro n known
    cases parts with
    | nil => exact known
    | cons first _ => exact first.sized n known
  have fewer : (call id function ps overloads).nodeCount ≤
      (call id function qs overloads).nodeCount :=
    Nat.add_le_add_left (nodeCounts_le parts) 1
  have cheaper := (Cost.Within.sum (costs_within parts)).add (callCost_within frugal sized)
  refine .of_cost rfl rfl fewer (fun everything => ?_) (fun n known => by cases known) everything
  cases everything <;> exact cheaper

end Lists

section Keyed

variable {ps qs : List (Plan × Plan)}

variable (parts : List.Forall₂ (fun p q => Leaner false p.1 q.1 ∧ Leaner false p.2 q.2) ps qs)

include parts

theorem entryNodeCounts_le : entryNodeCounts ps ≤ entryNodeCounts qs := by
  induction parts with
  | nil => exact Nat.le_refl _
  | cons first _ ih => exact Nat.add_le_add (Nat.add_le_add first.1.fewer first.2.fewer) ih

theorem entryCosts_within : List.Forall₂ Cost.Within (entryCosts ps) (entryCosts qs) := by
  induction parts with
  | nil => exact .nil
  | cons first _ ih => exact .cons (first.1.cheaper.add first.2.cheaper) ih

theorem mapping_leaner (id : Int) (everything : Bool) :
    Leaner everything (mapping id ps) (mapping id qs) := by
  have fewer : (mapping id ps).nodeCount ≤ (mapping id qs).nodeCount :=
    Nat.add_le_add_left (entryNodeCounts_le parts) 1
  refine .of_cost rfl rfl fewer (fun everything => ?_) (fun n known => ?_) everything
  · cases everything <;> exact .sum (entryCosts_within parts)
  · rw [sizeHint?, parts.length_eq]
    exact known

end Keyed

section Fields

variable {ps qs : List (String × Plan)}

variable (parts : List.Forall₂ (fun p q => p.1 = q.1 ∧ Leaner false p.2 q.2) ps qs)

include parts

theorem fieldNodeCounts_le : fieldNodeCounts ps ≤ fieldNodeCounts qs := by
  induction parts with
  | nil => exact Nat.le_refl _
  | cons first _ ih => exact Nat.add_le_add first.2.fewer ih

theorem fieldCosts_within : List.Forall₂ Cost.Within (fieldCosts ps) (fieldCosts qs) := by
  induction parts with
  | nil => exact .nil
  | cons first _ ih => exact .cons first.2.cheaper ih

theorem object_leaner (id : Int) (typeName : String) (everything : Bool) :
    Leaner everything (object id typeName ps) (object id typeName qs) := by
  have fewer : (object id typeName ps).nodeCount ≤ (object id typeName qs).nodeCount :=
    Nat.add_le_add_left (fieldNodeCounts_le parts) 1
  refine .of_cost rfl rfl fewer (fun everything => ?_) (fun n known => by cases known) everything
  cases everything <;> exact .sum (fieldCosts_within parts)

end Fields

section Operators

theorem max_shortCircuitCost (left right : Cost) :
    (shortCircuitCost left right).max = (left + right + .one).max :=
  (Cost.clamp_add_clamp (left.max + right.max) 1).symm

variable (first : Leaner false p p') (second : Leaner false q q')

include first in
theorem presence_leaner (id : Int) (field : String) (access : Option (String × FieldAccess))
    (everything : Bool) :
    Leaner everything (presence id p field access) (presence id p' field access) := by
  have fewer : (presence id p field access).nodeCount ≤ (presence id p' field access).nodeCount :=
    Nat.add_le_add_left first.fewer 1
  have cheaper := first.cheaper.add (.refl .one)
  refine .of_cost rfl rfl fewer (fun everything => ?_) (fun n known => by cases known) everything
  cases everything <;> exact cheaper

include first second

theorem shortCircuitCost_within :
    (shortCircuitCost p.cost q.cost).Within (shortCircuitCost p'.cost q'.cost) := by
  rw [Cost.Within, Cost.Admits, max_shortCircuitCost, max_shortCircuitCost]
  exact (first.cheaper.add second.cheaper).add (.refl .one)

theorem both_leaner (id : Int) (everything : Bool) :
    Leaner everything (both id p q) (both id p' q') := by
  have fewer : (both id p q).nodeCount ≤ (both id p' q').nodeCount :=
    Nat.add_le_add_left (Nat.add_le_add first.fewer second.fewer) 1
  refine .of_cost rfl rfl fewer (fun everything => ?_) (fun n known => by cases known) everything
  cases everything with
  | false => exact shortCircuitCost_within first second
  | true => exact (first.cheaper.add second.cheaper).add (.refl .one)

theorem either_leaner (id : Int) (everything : Bool) :
    Leaner everything (either id p q) (either id p' q') := by
  have both := both_leaner first second id
  have fewer : (either id p q).nodeCount ≤ (either id p' q').nodeCount := (both false).fewer
  refine .of_cost rfl rfl fewer (fun everything => ?_) (fun n known => by cases known) everything
  cases everything with
  | false => exact (both false).cheaper
  | true => exact (both true).cheaper

theorem conditional_leaner (third : Leaner false r r') (id : Int) (everything : Bool) :
    Leaner everything (conditional id p q r) (conditional id p' q' r') where
  fewer := by
    have parts := Nat.add_le_add (Nat.add_le_add first.fewer second.fewer) third.fewer
    exact Nat.add_le_add_left parts 1
  cheaper := by
    cases everything with
    | false => exact first.cheaper.add (second.cheaper.either third.cheaper)
    | true => exact (first.cheaper.add second.cheaper).add third.cheaper
  sized n known := by cases known
  selected := Attribute.conditional_leaner first.cheaper second.selected third.selected

theorem loop_leaner (third : Leaner false r r') (fourth : Leaner false s s')
    (fifth : Leaner false t t') (id : Int) (iterVar accuVar : String) (everything : Bool) :
    Leaner everything (loop id iterVar p accuVar q r s t)
      (loop id iterVar p' accuVar q' r' s' t') := by
  have fewer : (loop id iterVar p accuVar q r s t).nodeCount ≤
      (loop id iterVar p' accuVar q' r' s' t').nodeCount := by
    have outside := Nat.add_le_add first.fewer second.fewer
    have inside := Nat.add_le_add (Nat.add_le_add outside third.fewer) fourth.fewer
    exact Nat.add_le_add_left (Nat.add_le_add inside fifth.fewer) 1
  have repeated := (third.cheaper.add fourth.cheaper).repeated first.sized
  have cheaper := ((first.cheaper.add second.cheaper).add repeated).add fifth.cheaper
  refine .of_cost rfl rfl fewer (fun everything => ?_) (fun n known => by cases known) everything
  cases everything <;> exact cheaper

end Operators

/-! ### Selections -/

theorem qualify_leaner (operand : Leaner false p q) {a b : Qualifier}
    (qualifiers : Qualifier.Leaner [a] [b]) (id : Int) (everything : Bool) :
    Leaner everything (p.qualify id a) (q.qualify id b) := by
  refine .of_attribute (fun qs rs more => ?_) everything
  have selected := operand.selected _ _ (qualifiers.append more)
  simpa only [List.singleton_append, Attribute.qualifyAll_cons] using selected

theorem cost_of_asConst {p : Plan} {v : Value} (known : p.asConst? = some v) : p.cost = .zero := by
  match p with
  | const _ _ => rfl
  | observed inner =>
    rw [cost]
    exact cost_of_asConst (by simpa only [asConst?] using known)

theorem nodeCount_of_asConst {p : Plan} {v : Value} (known : p.asConst? = some v) :
    p.nodeCount = 1 := by
  match p with
  | const _ _ => rfl
  | observed inner =>
    rw [nodeCount]
    exact nodeCount_of_asConst (by simpa only [asConst?] using known)

theorem indexed_eq_qualify (id : Int) (operand key : Plan) :
    ∃ q : Qualifier, operand.indexed id key = operand.qualify id q ∧ q.label = ⟨id, none⟩ ∧
      qualifierCosts [q] = [key.cost + .one] := by
  unfold indexed
  cases known : key.asConst? with
  | none => exact ⟨_, rfl, rfl, rfl⟩
  | some v =>
    refine ⟨_, rfl, rfl, ?_⟩
    rw [cost_of_asConst known]
    rfl

theorem indexed_leaner (operand : Leaner false p q) (key : Leaner false r s) (id : Int)
    (everything : Bool) : Leaner everything (p.indexed id r) (q.indexed id s) := by
  obtain ⟨a, left, label, cost⟩ := indexed_eq_qualify id p r
  obtain ⟨b, right, other, costs⟩ := indexed_eq_qualify id q s
  rw [left, right]
  refine qualify_leaner operand ⟨?_, ?_⟩ id everything
  · rw [List.map_singleton, List.map_singleton, label, other]
  · rw [cost, costs]
    exact .cons (key.cheaper.add (.refl .one)) .nil

/-! ### Wrappers -/

theorem nodeCount_decorate (options : PlanOptions) (p : Plan) :
    (p.decorate options).nodeCount = p.nodeCount :=
  apply_decorate nodeCount (fun _ => rfl) (fun _ => rfl) options p

theorem sizeHint?_decorate (options : PlanOptions) (p : Plan) :
    (p.decorate options).sizeHint? = p.sizeHint? :=
  apply_decorate sizeHint? (fun _ => rfl) (fun _ => rfl) options p

theorem cost_decorate (options : PlanOptions) (p : Plan) :
    (p.decorate options).cost = p.costOf options.exhaustive := by
  have observed : ∀ q : Plan,
      (if options.observes && !q.isObserved then q.observed else q).cost = q.cost := by
    intro q
    split <;> rfl
  unfold decorate
  rw [observed]
  cases options.exhaustive with
  | false => rfl
  | true => cases p <;> first | rfl | (rename_i a; cases a <;> rfl)

theorem Leaner.decorate {options : PlanOptions} (leaner : Leaner options.exhaustive p q) :
    Leaner false (p.decorate options) (q.decorate options) where
  fewer := by
    rw [nodeCount_decorate, nodeCount_decorate]
    exact leaner.fewer
  cheaper := by
    have cheaper := leaner.cheaper
    rw [← cost_decorate, ← cost_decorate] at cheaper
    exact cheaper
  sized n known := by
    rw [sizeHint?_decorate] at known ⊢
    exact leaner.sized n known
  selected := by
    rw [toAttribute_decorate, toAttribute_decorate]
    exact leaner.selected

/-! ### Folding -/

theorem nodeCount_pos (p : Plan) : 1 ≤ p.nodeCount := by
  match p with
  | exhaustive inner | observed inner =>
    rw [nodeCount]
    exact nodeCount_pos inner
  | const .. | attr .. => exact Nat.le_refl 1
  | both .. | either .. | conditional .. | call .. | list .. | mapping .. | object ..
  | presence .. | loop .. | membership .. | search .. => exact Nat.le_add_right ..

/-- What a strict operation gives, it gives by itself, unless it fails. -/
theorem strict_of_regular {vs : List Value} {result : Value}
    (regular : (Value.strict vs result).isFailure = false) : Value.strict vs result = result := by
  rw [Value.strict] at regular ⊢
  cases passed : Value.propagate vs with
  | none => rfl
  | some v =>
    rw [passed, Option.getD_some, Value.isFailure_of_propagate passed] at regular
    cases regular

theorem elements?_mapOf {entries : List (Value × Value)} {id : Int}
    (regular : ((Value.mapOf entries).withExprId id).isFailure = false) :
    ((Value.mapOf entries).withExprId id).elements?.isSome = true := by
  unfold Value.mapOf at regular ⊢
  split at regular
  · cases regular
  · split at regular
    · cases regular
    · rfl

theorem sizeHint?_const {v : Value} {elements : List Value} (id : Int)
    (iterable : v.elements? = some elements) : (const id v).sizeHint? = some elements.length := by
  cases v with
  | list items =>
    obtain rfl := Option.some.inj iterable
    rfl
  | map entries =>
    obtain rfl := Option.some.inj iterable
    rw [sizeHint?, List.length_map]
    rfl
  | _ => cases iterable

section

variable [HostObjects]

theorem elements?_of_sizeHint {provider : Provider} {scope : Scope} {n : Nat}
    (foldable : p.isFoldable = true) (known : p.sizeHint? = some n)
    (regular : (eval provider p false scope).value.isFailure = false) :
    (eval provider p false scope).value.elements?.isSome = true := by
  cases p with
  | list id elements =>
    rw [value_list] at regular ⊢
    rw [strict_of_regular regular]
    rfl
  | mapping id entries =>
    rw [value_mapping] at regular ⊢
    have plain := strict_of_regular regular
    rw [plain] at regular ⊢
    exact elements?_mapOf regular
  | _ => first | cases foldable | cases known

theorem constant_leaner {provider : Provider} (foldable : p.isFoldable = true)
    (regular : (eval provider p false .empty).value.isFailure = false) (everything : Bool) :
    Leaner everything (const p.id (eval provider p false .empty).value) p := by
  refine .of_cost rfl (toAttribute_of_isFoldable foldable) ?_ (fun everything => ?_)
    (fun n known => ?_) everything
  · exact nodeCount_pos p
  · refine .of_eq_zero ?_ _
    cases everything <;> rfl
  · obtain ⟨elements, iterable⟩ :=
      Option.isSome_iff_exists.mp (elements?_of_sizeHint foldable known regular)
    rw [sizeHint?_const p.id iterable, length_of_sizeHint known iterable]

end

/-- A prepared call is leaner than the plain one, if a call through its overloads has a cost. -/
theorem prepareCall_leaner (id : Int) (function : String) (args : List Plan)
    {overloads : List Overload} (priced : ∀ o ∈ overloads, o.Priced)
    (frugal : ∀ o ∈ overloads, o.Frugal) (everything : Bool) :
    Leaner everything (prepareCall id function args overloads)
      (call id function args overloads) := by
  rcases prepareCall_cases id function args overloads with plain | ⟨-, operand, constant, rfl,
    ⟨items, keys, known, prepared⟩ | ⟨source, pattern, known, prepared⟩⟩
  · rw [plain]
    exact .refl everything _
  · rw [prepared]
    refine .of_cost rfl rfl ?_ (fun everything => ?_) (fun n known => by cases known) everything
    · simp only [nodeCount, nodeCounts, nodeCount_of_asConst known, Nat.add_zero, Nat.le_refl]
    · -- A look-up takes one unit, and so does the cheapest call.
      have once : Cost.one.Within (callCost overloads [operand.sizeHint?, constant.sizeHint?]) :=
        callCost_admits priced _ (Nat.le_refl 1)
      have cheaper := (Cost.Within.sum_head operand.cost [constant.cost]).add once
      cases everything <;> exact cheaper
  · rw [prepared]
    refine .of_cost rfl rfl ?_ (fun everything => ?_) (fun n known => by cases known) everything
    · simp only [nodeCount, nodeCounts, nodeCount_of_asConst known, Nat.add_zero, Nat.le_refl]
    · have once : (callCost overloads [operand.sizeHint?, none]).Within
          (callCost overloads [operand.sizeHint?, constant.sizeHint?]) :=
        callCost_within frugal fun n known => known
      have cheaper := (Cost.Within.sum_head operand.cost [constant.cost]).add once
      cases everything <;> exact cheaper

theorem branch_leaner (options : PlanOptions) (id : Int) (g : Plan) {branch t f : Plan}
    (chosen : branch = t ∨ branch = f) :
    Leaner false branch ((conditional id g t f).decorate options) where
  fewer := by
    rw [nodeCount_decorate, nodeCount]
    rcases chosen with rfl | rfl <;> omega
  cheaper := by
    change branch.cost.Within ((conditional id g t f).decorate options).cost
    rw [cost_decorate]
    cases options.exhaustive with
    | false =>
      refine .add_left g.cost ?_
      rcases chosen with rfl | rfl
      · exact Cost.Admits.either_left (Cost.Within.refl _) _
      · exact Cost.Admits.either_right (Cost.Within.refl _) _
    | true =>
      change branch.cost.Within (g.cost + t.cost + f.cost)
      rcases chosen with rfl | rfl
      · exact .add_right _ (.add_left _ (.refl _))
      · exact .add_left _ (.refl _)
  sized n known := by
    rw [sizeHint?_decorate] at known
    cases known
  selected := by
    rw [toAttribute_decorate]
    intro qs rs more
    rw [toAttribute, Attribute.qualifyAll_conditional, attributeCost]
    have leaner := Attribute.leaner_refl branch.toAttribute qs rs more
    refine .add_left g.cost ?_
    rcases chosen with rfl | rfl
    · exact Cost.Admits.either_left leaner _
    · exact Cost.Admits.either_right leaner _

variable [HostObjects]

/-- Folding makes a plan leaner, where it does not choose a branch. -/
theorem folded_leaner (provider : Provider) (leaf : p.knownBranch? = none)
    (prepared : Leaner everything p.prepare p) : Leaner everything (p.fold provider).value p := by
  rw [fold, leaf]
  by_cases foldable : p.isFoldable = true
  · simp only [foldable, ↓reduceIte, Run.value_bind, Run.value_pure]
    cases regular : (eval provider p false .empty).value.isFailure with
    | true => exact .refl everything p
    | false => exact constant_leaner foldable regular everything
  · simpa only [foldable, Bool.false_eq_true, ↓reduceIte, Run.value_pure] using prepared

end Plan

end ExprEngine
