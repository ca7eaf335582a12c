import ExprEngine.Environment
import ExprEngine.Proofs.Expr.Everywhere
import ExprEngine.Proofs.Planning.Congruence
import ExprEngine.Proofs.Planning.Simulation

/-!
# Optimization

Planning with folding and planning without it fail alike, or lead to plans of the same values. The
plans are compared node by node: `Twin` relates the two plans of one expression. A range that
cannot be iterated is reported under the id of its plan, and a conditional that folds to one of
its branches loses its id, so ranges have to keep theirs.
-/

namespace ExprEngine

namespace Planner

variable [HostObjects]

open Planning

open Plan hiding id

def optimizing (c : Planner) (optimize : Bool) : Planner :=
  { c with options := { c.options with optimize } }

/-- The plan of a range has the id of the range, or its values can be iterated. -/
def RangeKept (c : Planner) : Expr → List String → Prop
  | .loop _ _ range _ _ _ _ _, locals =>
    ∀ p, outcome ((c.optimizing true).planExpr range locals) = .ok p →
      p.id = range.id ∨ ∀ scope, (p.eval c.provider false scope).value.isFailure = true ∨
        (p.eval c.provider false scope).value.elements?.isSome = true
  | _, _ => True

theorem id_finished {c : Planner} {p : Plan} (leaf : p.knownBranch? = none) :
    (c.finished p).id = p.id := by
  rw [Planner.finished, id_decorate]
  split
  · rcases fold_cases c.provider p with ⟨branch, known, -⟩ | ⟨-, -, folded⟩ | ⟨-, -, folded⟩ |
      ⟨-, folded⟩
    · rw [leaf] at known
      cases known
    · rw [folded]
      rfl
    · rw [folded]
    · rw [folded]
      cases p with
      | call id function args overloads => exact (prepareCall_form id function args overloads).2.1
      | _ => rfl
  · rfl

/-- A plan has the id of its expression, unless that is a conditional whose guard is settled. -/
theorem id_of_planned {c : Planner} {e : Expr} {locals : List String} {p : Plan}
    (planned : Planned c e locals p) :
    p.id = e.id ∨ c.options.optimize = true ∧
      ∃ id g t f, e = .call id Operator.conditional [g, t, f] ∧
        ∃ o, Planned c g locals o ∧ (o.asConst?.bind Value.asBool?).isSome = true := by
  have ident : ∀ id name, (c.finished (c.identPlan locals id name)).id = id := by
    intro id name
    unfold identPlan
    split
    · rw [id_finished rfl]; rfl
    · rw [id_finished rfl]; rfl
    · split <;> (rw [id_finished rfl]; rfl)
  cases planned with
  | ident => exact .inl (ident _ _)
  | resolved => exact .inl (ident _ _)
  | @conditional id g t f locals o p q guard whenTrue whenFalse =>
    cases settled : (o.asConst?.bind Value.asBool?).isSome with
    | true =>
      cases optimize : c.options.optimize with
      | true => exact .inr ⟨rfl, id, g, t, f, rfl, o, guard, settled⟩
      | false =>
        left
        rw [Planner.finished, id_decorate, optimize]
        rfl
    | false =>
      left
      rw [id_finished]
      · rfl
      · simp only [Option.isSome_eq_false_iff, Option.isNone_iff_eq_none] at settled
        simp only [knownBranch?, settled]
  | _ => exact .inl (id_finished rfl)

variable {c : Planner} {kept : Prop} {p q : Plan}

/-- Two final plans of one expression, with and without folding. The values need the ranges of
the expression to be kept. -/
structure Twin (c : Planner) (kept : Prop) (p q : Plan) : Prop where
  wrapped : c.options.observes = true → p.isObserved = true
  same : kept → Same c.provider p q

theorem finished_twin (single : p.isLoop = false) (alone : q.isLoop = false)
    (wrapped : c.options.observes = true →
      ∀ branch, p.knownBranch? = some branch → branch.isObserved = true)
    (prepared : Same c.provider p.prepare p) (same : kept → Same c.provider p q) :
    Twin c kept ((c.optimizing true).finished p) ((c.optimizing false).finished q) := by
  refine ⟨fun observes => isObserved_decorate observes _, fun h => ?_⟩
  have folded := finished_same (c := c.optimizing true) single wrapped prepared
  exact folded.trans ((same h).trans (decorate_same _ alone).symm)

theorem leaf_twin (single : p.isLoop = false) (alone : q.isLoop = false)
    (leaf : p.knownBranch? = none) (plain : p.prepare = p) (same : kept → Same c.provider p q) :
    Twin c kept ((c.optimizing true).finished p) ((c.optimizing false).finished q) := by
  refine finished_twin single alone (fun _ branch known => ?_) ?_ same
  · rw [leaf] at known
    cases known
  · rw [plain]
    exact .refl p

theorem identPlan_twin (locals : List String) (id : Int) (name : String) :
    Twin c kept ((c.optimizing true).finished (c.identPlan locals id name))
      ((c.optimizing false).finished (c.identPlan locals id name)) := by
  obtain ⟨single, leaf, plain⟩ := identPlan_form c locals id name
  exact leaf_twin single single leaf plain fun _ => .refl _

theorem loop_twin (id : Int) (iterVar accuVar : String) {p p' q q' r r' s s' t t' : Plan}
    (range : kept → Same c.provider p p') (init : kept → Same c.provider q q')
    (condition : kept → Same c.provider r r') (step : kept → Same c.provider s s')
    (result : kept → Same c.provider t t')
    (named : kept → p.id = p'.id ∨ ∀ scope, (eval c.provider p false scope).value.isFailure = true ∨
      (eval c.provider p false scope).value.elements?.isSome = true) :
    Twin c kept ((c.optimizing true).finished (.loop id iterVar p accuVar q r s t))
      ((c.optimizing false).finished (.loop id iterVar p' accuVar q' r' s' t')) := by
  rw [finished_of_isLoop rfl, finished_of_isLoop rfl]
  refine ⟨fun observes => isObserved_decorate observes _, fun h => ?_⟩
  have value : ∀ everything scope,
      (eval c.provider (.loop id iterVar p accuVar q r s t) everything scope).value =
        (eval c.provider (.loop id iterVar p' accuVar q' r' s' t') everything scope).value :=
    fun everything scope =>
      loop_value (range h) (init h) (condition h) (step h) (result h) (named h) scope
  constructor
  · intro scope
    rw [value_decorate, value_decorate]
    exact value _ scope
  · rw [toAttribute_decorate, toAttribute_decorate]
    exact Attribute.relative_same (value false) .nil

section Pairs

abbrev Twins (c : Planner) (e : Expr) (locals : List String) : Plan → Plan → Prop :=
  Twin c (e.Everywhere c.RangeKept locals)

variable {locals : List String}

theorem twins_of_pairs {es : List Expr} {ps qs : List Plan}
    (pairs : PairAll (c.optimizing true) (c.optimizing false) c.Twins es locals ps qs)
    (kept : Expr.EverywhereAll c.RangeKept es locals) :
    List.Forall₂ (Same c.provider) ps qs := by
  induction pairs with
  | nil => exact .nil
  | cons first _ ih => exact .cons (first.related.same kept.1) (ih kept.2)

theorem keyed_twins_of_pairs {entries : List Entry} {ps qs : List (Plan × Plan)}
    (pairs : PairKeyed (c.optimizing true) (c.optimizing false) c.Twins entries locals ps qs)
    (kept : Expr.EverywhereIn c.RangeKept entries locals) :
    List.Forall₂ (fun p q => Same c.provider p.1 q.1 ∧ Same c.provider p.2 q.2) ps qs := by
  induction pairs with
  | nil => exact .nil
  | cons keys values _ ih =>
    exact .cons ⟨keys.related.same kept.1, values.related.same kept.2.1⟩ (ih kept.2.2)

theorem field_twins_of_pairs {entries : List Entry} {ps qs : List (String × Plan)}
    (pairs : PairFields (c.optimizing true) (c.optimizing false) c.Twins entries locals ps qs)
    (kept : Expr.EverywhereIn c.RangeKept entries locals) :
    List.Forall₂ (fun p q => p.1 = q.1 ∧ Same c.provider p.2 q.2) ps qs := by
  induction pairs with
  | nil => exact .nil
  | cons values _ ih => exact .cons ⟨rfl, values.related.same kept.1⟩ (ih kept.2)

end Pairs

theorem optimizing_simulates {c : Planner} {extra : List Overload}
    (standard : c.registry = Registry.standard.addAll extra) :
    Simulates (c.optimizing true) (c.optimizing false) c.Twins where
  resolves _ := rfl
  finds _ := rfl
  names _ _ := rfl
  literal id v locals := leaf_twin rfl rfl rfl rfl fun _ => .refl _
  ident id name locals := identPlan_twin locals id name
  resolved id operand field locals _ := identPlan_twin locals id field
  select id field _ _ _ _ _ pair :=
    leaf_twin rfl rfl rfl rfl fun h =>
      qualify_same id (pair.related.same h.2) (steps_same_refl _ _)
  presence id field _ _ _ _ pair :=
    leaf_twin rfl rfl rfl rfl fun h => presence_same id field _ (pair.related.same h.2)
  both id _ _ _ _ _ _ _ left right :=
    leaf_twin rfl rfl rfl rfl fun h =>
      both_same id (left.related.same h.2.1) (right.related.same h.2.2.1)
  either id _ _ _ _ _ _ _ left right :=
    leaf_twin rfl rfl rfl rfl fun h =>
      either_same id (left.related.same h.2.1) (right.related.same h.2.2.1)
  index id _ _ _ _ _ _ _ operand key :=
    leaf_twin rfl rfl rfl rfl fun h =>
      indexed_same id (operand.related.same h.2.1) (key.related.same h.2.2.1)
  conditional id _ _ _ _ _ _ _ _ _ _ guard whenTrue whenFalse := by
    refine finished_twin rfl rfl (fun observes branch known => ?_) (.refl _) fun h =>
      conditional_same id (guard.related.same h.2.1) (whenTrue.related.same h.2.2.1)
        (whenFalse.related.same h.2.2.2.1)
    rcases branch_of_known known with rfl | rfl
    · exact whenTrue.related.wrapped observes
    · exact whenFalse.related.wrapped observes
  call id function _ _ ps _ _ pairs :=
    finished_twin rfl rfl (fun _ _ known => by cases known)
      (prepareCall_same standard id function ps)
      fun h => call_same id function _ (twins_of_pairs pairs h.2)
  member id function _ _ _ p _ ps _ _ target pairs :=
    finished_twin rfl rfl (fun _ _ known => by cases known)
      (prepareCall_same standard id function (p :: ps))
      fun h => call_same id function _
        (.cons (target.related.same h.2.1) (twins_of_pairs pairs h.2.2))
  list id _ _ _ _ pairs :=
    leaf_twin rfl rfl rfl rfl fun h => list_same id (twins_of_pairs pairs h.2)
  mapping id _ _ _ _ pairs :=
    leaf_twin rfl rfl rfl rfl fun h => mapping_same id (keyed_twins_of_pairs pairs h.2)
  object id name full _ _ _ _ _ pairs :=
    leaf_twin rfl rfl rfl rfl fun h => object_same id full (field_twins_of_pairs pairs h.2)
  loop id iterVar accuVar range _ _ _ _ _ _ _ _ _ _ _ _ _ _ _ ranges inits conditions steps
      results := by
    -- Without folding the range keeps its id, so that only the folded one is asked about.
    have plain := (id_of_planned (planned_of_outcome _ _ _ ranges.right)).resolve_right
      fun h => by cases h.1
    refine loop_twin id iterVar accuVar (fun h => ranges.related.same h.2.1)
      (fun h => inits.related.same h.2.2.1) (fun h => conditions.related.same h.2.2.2.1)
      (fun h => steps.related.same h.2.2.2.2.1) (fun h => results.related.same h.2.2.2.2.2) ?_
    intro h
    rw [plain]
    exact h.1 _ ranges.left

theorem planExpr_twin {c : Planner} {extra : List Overload}
    (standard : c.registry = Registry.standard.addAll extra) (e : Expr) (locals : List String) :
    Agree (Twin c (e.Everywhere c.RangeKept locals))
      (outcome ((c.optimizing true).planExpr e locals))
      (outcome ((c.optimizing false).planExpr e locals)) :=
  (agree_of_simulates (optimizing_simulates standard) e locals).imp fun _ _ pair => pair.related

theorem loop_of_outcome {c : Planner} {id : Int} {iterVar accuVar : String}
    {range init condition step result : Expr} {locals : List String} {p : Plan}
    (made :
      outcome (c.planExpr (.loop id iterVar range accuVar init condition step result) locals) =
        .ok p) :
    ∃ o i w s r, outcome (c.planExpr range locals) = .ok o ∧
      p = (Plan.loop id iterVar o accuVar i w s r).decorate c.options := by
  rw [planExpr, outcome_bind] at made
  obtain ⟨o, ranged, made⟩ := ok_of_bind made
  rw [outcome_bind] at made
  obtain ⟨i, -, made⟩ := ok_of_bind made
  rw [outcome_bind] at made
  obtain ⟨w, -, made⟩ := ok_of_bind made
  rw [outcome_bind] at made
  obtain ⟨s, -, made⟩ := ok_of_bind made
  rw [outcome_bind] at made
  obtain ⟨r, -, made⟩ := ok_of_bind made
  obtain rfl := Except.ok.inj ((outcome_finish ..).symm.trans made)
  exact ⟨o, i, w, s, r, ranged, finished_of_isLoop rfl⟩

/-- Ranges have to be kept: where folding changes the id of a range that cannot be iterated, it
changes the value of the loop. -/
theorem range_misreported {c : Planner} {extra : List Overload}
    (standard : c.registry = Registry.standard.addAll extra) {id : Int} {iterVar accuVar : String}
    {range init condition step result : Expr} {locals : List String}
    (kept : range.Everywhere c.RangeKept locals) {p optimized plain : Plan}
    (made : outcome ((c.optimizing true).planExpr range locals) = .ok p)
    (folded : outcome ((c.optimizing true).planExpr
      (.loop id iterVar range accuVar init condition step result) locals) = .ok optimized)
    (unfolded : outcome ((c.optimizing false).planExpr
      (.loop id iterVar range accuVar init condition step result) locals) = .ok plain)
    (renamed : p.id ≠ range.id) {scope : Scope}
    (regular : (p.eval c.provider false scope).value.isFailure = false)
    (rigid : (p.eval c.provider false scope).value.elements? = none) :
    (optimized.eval c.provider false scope).value ≠ (plain.eval c.provider false scope).value := by
  obtain ⟨o, i, w, s, r, ranged, rfl⟩ := loop_of_outcome folded
  obtain ⟨o', i', w', s', r', ranged', rfl⟩ := loop_of_outcome unfolded
  obtain rfl := Except.ok.inj (made.symm.trans ranged)
  have twin := planExpr_twin standard range locals
  rw [ranged, ranged'] at twin
  have plainId : o'.id = range.id :=
    (id_of_planned (planned_of_outcome _ _ _ ranged')).resolve_right fun h => by cases h.1
  rw [value_decorate, value_decorate]
  exact loop_value_apart ((twin.related.same kept).value scope) regular rigid (by rwa [plainId])

end Planner

namespace Environment

open Planning

section

variable [HostObjects]

def optimizing (e : Environment) (optimize : Bool) : Environment :=
  { e with options := { e.options with optimize } }

end

section

attribute [local instance] HostObjects.silent

end

section

variable [HostObjects]

end

attribute [local instance] HostObjects.silent

end Environment

end ExprEngine
