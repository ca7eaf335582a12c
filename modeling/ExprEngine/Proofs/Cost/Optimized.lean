import ExprEngine.Proofs.Cost.Comparison
import ExprEngine.Proofs.Cost.Maximum
import ExprEngine.Proofs.Planning.Optimization

/-!
# Costs of optimized programs

Folding makes no program look more expensive. Every final plan that is made with folding is leaner
than the one that is made without it, node by node, so that the two programs compare as their roots
do.
-/

namespace ExprEngine

section

variable [HostObjects]

namespace Standard

theorem overloads_frugal : ∀ o ∈ overloads, o.Frugal := by
  intro o member known other sized
  rcases cost_cases o member with fixed | linear
  · simp only [Overload.callCost, fixed]
    exact .refl _
  · simp only [Overload.callCost, linear, linearCost]
    cases size : other.head?.join with
    | some n =>
      rw [sized n size]
      exact .refl _
    | none => exact Cost.admits_iff.mpr (.inr (Nat.le_refl _))

end Standard

namespace Planner

open Planning

open Plan hiding id

variable {c : Planner} {p q : Plan}

/-- A final plan made with folding, beside the one made without it. -/
structure Thinner (c : Planner) (p q : Plan) : Prop where
  wrapped : c.options.observes = true → p.isObserved = true
  leaner : Leaner false p q

theorem finished_thinner (leaf : p.knownBranch? = none)
    (prepared : Leaner c.options.exhaustive p.prepare p)
    (leaner : Leaner c.options.exhaustive p q) :
    Thinner c ((c.optimizing true).finished p) ((c.optimizing false).finished q) := by
  refine ⟨fun observes => isObserved_decorate observes _, ?_⟩
  have folded := folded_leaner c.provider leaf prepared
  exact (folded.trans leaner).decorate

theorem leaf_thinner (leaf : p.knownBranch? = none) (plain : p.prepare = p)
    (leaner : ∀ everything, Leaner everything p q) :
    Thinner c ((c.optimizing true).finished p) ((c.optimizing false).finished q) := by
  refine finished_thinner leaf ?_ (leaner _)
  rw [plain]
  exact .refl _ p

theorem identPlan_thinner (locals : List String) (id : Int) (name : String) :
    Thinner c ((c.optimizing true).finished (c.identPlan locals id name))
      ((c.optimizing false).finished (c.identPlan locals id name)) := by
  obtain ⟨-, leaf, plain⟩ := identPlan_form c locals id name
  exact leaf_thinner leaf plain fun everything => .refl everything _

/-- A conditional whose guard is known gives way to its branch, which is final. -/
theorem conditional_thinner (id : Int) {g g' t t' f f' : Plan} (guard : Thinner c g g')
    (whenTrue : Thinner c t t') (whenFalse : Thinner c f f') :
    Thinner c ((c.optimizing true).finished (.conditional id g t f))
      ((c.optimizing false).finished (.conditional id g' t' f')) := by
  cases known : (conditional id g t f).knownBranch? with
  | none =>
    exact leaf_thinner known rfl
      (conditional_leaner guard.leaner whenTrue.leaner whenFalse.leaner id)
  | some branch =>
    refine ⟨fun observes => isObserved_decorate observes _, ?_⟩
    have folded : ((conditional id g t f).fold c.provider).value = branch := by
      rw [fold, known]
      rfl
    -- The branch has been finished already, so wrapping it again would add nothing.
    have final : branch.decorate c.options = branch := by
      refine decorate_of_isObserved fun observes => ?_
      rcases branch_of_known known with rfl | rfl
      · exact whenTrue.wrapped observes
      · exact whenFalse.wrapped observes
    change Leaner false (Plan.decorate c.options ((conditional id g t f).fold c.provider).value)
      ((conditional id g' t' f').decorate c.options)
    rw [folded, final]
    rcases branch_of_known known with rfl | rfl
    · exact whenTrue.leaner.trans (branch_leaner c.options id g' (.inl rfl))
    · exact whenFalse.leaner.trans (branch_leaner c.options id g' (.inr rfl))

theorem call_thinner (id : Int) (function : String) {overloads : List Overload}
    {ps qs : List Plan} (standard : ∀ o ∈ overloads, o ∈ Standard.overloads)
    (parts : List.Forall₂ (Thinner c) ps qs) :
    Thinner c ((c.optimizing true).finished (.call id function ps overloads))
      ((c.optimizing false).finished (.call id function qs overloads)) := by
  have priced : ∀ o ∈ overloads, o.Priced :=
    fun o member => Standard.overloads_priced o (standard o member)
  have frugal : ∀ o ∈ overloads, o.Frugal :=
    fun o member => Standard.overloads_frugal o (standard o member)
  refine finished_thinner rfl (prepareCall_leaner id function ps priced frugal _) ?_
  exact call_leaner id function frugal (parts.imp fun _ _ pair => pair.leaner) _

theorem standard_of_reachable (standard : c.registry = .standard) (function : String)
    (count : Nat) : ∀ o ∈ c.reachable function count, o ∈ Standard.overloads := by
  intro o member
  have registered := (List.mem_filter.mp member).1
  have listed := (List.mem_filter.mp registered).1
  rwa [standard, Registry.standard_overloads] at listed

/-- Planning with folding makes leaner plans of every expression. -/
theorem optimizing_thins {c : Planner} (standard : c.registry = .standard) :
    Simulates (c.optimizing true) (c.optimizing false) fun _ _ => Thinner c where
  resolves _ := rfl
  finds _ := rfl
  names _ _ := rfl
  literal _ _ _ := leaf_thinner rfl rfl fun everything => .refl everything _
  ident id name locals := identPlan_thinner locals id name
  resolved id _ field locals _ := identPlan_thinner locals id field
  select id _ _ _ _ _ _ pair :=
    leaf_thinner rfl rfl (qualify_leaner pair.related.leaner (.refl _) id)
  presence id field _ _ _ _ pair :=
    leaf_thinner rfl rfl (presence_leaner pair.related.leaner id field _)
  both id _ _ _ _ _ _ _ left right :=
    leaf_thinner rfl rfl (both_leaner left.related.leaner right.related.leaner id)
  either id _ _ _ _ _ _ _ left right :=
    leaf_thinner rfl rfl (either_leaner left.related.leaner right.related.leaner id)
  index id _ _ _ _ _ _ _ operand key :=
    leaf_thinner rfl rfl (indexed_leaner operand.related.leaner key.related.leaner id)
  conditional id _ _ _ _ _ _ _ _ _ _ guard whenTrue whenFalse :=
    conditional_thinner id guard.related whenTrue.related whenFalse.related
  call id function _ _ ps _ _ pairs :=
    call_thinner id function (standard_of_reachable standard function ps.length) pairs.forall₂
  member id function _ _ _ p _ ps _ _ target pairs :=
    call_thinner id function (standard_of_reachable standard function (p :: ps).length)
      (.cons target.related pairs.forall₂)
  list id _ _ _ _ pairs :=
    leaf_thinner rfl rfl (list_leaner id (pairs.forall₂.imp fun _ _ pair => pair.leaner))
  mapping id _ _ _ _ pairs :=
    leaf_thinner rfl rfl (mapping_leaner
      (pairs.forall₂.imp fun _ _ pair => ⟨pair.1.leaner, pair.2.leaner⟩) id)
  object id _ full _ _ _ _ _ pairs :=
    leaf_thinner rfl rfl (object_leaner
      (pairs.forall₂.imp fun _ _ pair => ⟨pair.1, pair.2.leaner⟩) id full)
  loop id iterVar accuVar _ _ _ _ _ _ _ _ _ _ _ _ _ _ _ _ range init condition step result :=
    leaf_thinner rfl rfl
      (loop_leaner range.related.leaner init.related.leaner condition.related.leaner
        step.related.leaner result.related.leaner id iterVar accuVar)

end Planner

end

namespace Environment

open Planning

section

variable [HostObjects]

/-- With folding a program has no more nodes and no greater maximal cost, and its root has every
size that is known without folding. The two are planned alike, or fail to be planned alike. -/
theorem optimization_never_costlier (env : Environment) (standard : env.registry = .standard)
    (checked : CheckedExpr) :
    Agree (fun optimized plain =>
        optimized.nodeCount ≤ plain.nodeCount ∧ optimized.cost.max ≤ plain.cost.max ∧
        ∀ n, plain.root.sizeHint? = some n → optimized.root.sizeHint? = some n)
      (outcome ((env.optimizing true).plan checked))
      (outcome ((env.optimizing false).plan checked)) := by
  have simulates := Planner.optimizing_thins (c := env.planner checked) standard
  have agree := Planner.agree_of_simulates simulates checked.expr []
  rw [plan, plan, outcome_bind, outcome_bind]
  refine agree.bind fun p q pair => .ok ⟨pair.related.leaner.fewer, ?_, pair.related.leaner.sized⟩
  have bounded := Plan.max_cost_le p
  rcases Cost.admits_iff.mp pair.related.leaner.cheaper with within | endless
  · exact within
  · exact Nat.le_trans bounded endless

def listOfSum : Expr :=
  .list 5 [.literal 1 (.int 1), .call 4 Operator.add [.literal 2 (.int 1), .literal 3 (.int 1)]]

def dimensions (env : Environment) (e : Expr) : Option (Nat × Nat × Option Nat) :=
  (outcome (env.plan (.unchecked e))).toOption.map fun program =>
    (program.nodeCount, program.cost.max, program.root.sizeHint?)

end

attribute [local instance] HostObjects.silent

theorem listOfSum_never_costlier :
    let env : Environment := { options := { trackState := true, exhaustive := true } }
    env.registry = .standard ∧
      (env.optimizing true).dimensions listOfSum = some (1, 0, some 2) ∧
      (env.optimizing false).dimensions listOfSum = some (5, 1, some 2) ∧
      Agree (fun optimized plain =>
          optimized.nodeCount ≤ plain.nodeCount ∧ optimized.cost.max ≤ plain.cost.max ∧
          ∀ n, plain.root.sizeHint? = some n → optimized.root.sizeHint? = some n)
        (outcome ((env.optimizing true).plan (.unchecked listOfSum)))
        (outcome ((env.optimizing false).plan (.unchecked listOfSum))) := by
  intro env
  have standard : env.registry = .standard := by dsimp only [env]
  exact ⟨standard, by decide +kernel, by decide +kernel,
    optimization_never_costlier env standard (.unchecked listOfSum)⟩

end Environment

end ExprEngine
