import ExprEngine.Proofs.Evaluation.Steps
import ExprEngine.Proofs.Planning.Outcome

/-!
# Values of finished plans

Folding a plan and wrapping it keep its value. `Plan.Same` relates plans that cannot be told apart
by their values, nor by the values of what is selected from them, and `finished_same` says that a
finished plan is the same as the plan that was to be finished. Loops are left out, since
exhaustive evaluation goes on where a loop would stop.
-/

namespace ExprEngine

section

variable [HostObjects]

namespace Attribute

def Same (provider : Provider) (a b : Attribute) : Prop :=
  ∀ qs rs, List.Forall₂ Step.Same (Plan.steps provider qs) (Plan.steps provider rs) →
    ∀ everything scope, (Plan.resolve provider (a.qualifyAll qs) everything scope).value =
      (Plan.resolve provider (b.qualifyAll rs) everything scope).value

end Attribute

namespace Plan

theorem steps_same_refl (provider : Provider) (qs : List Qualifier) :
    List.Forall₂ Step.Same (steps provider qs) (steps provider qs) :=
  List.forall₂_same.mpr fun s _ => .refl s

end Plan

namespace Attribute

section Parts

variable {provider : Provider} {before after : List Qualifier}

theorem steps_append_same
    (steps : List.Forall₂ Step.Same (Plan.steps provider before) (Plan.steps provider after))
    {qs rs : List Qualifier}
    (more : List.Forall₂ Step.Same (Plan.steps provider qs) (Plan.steps provider rs)) :
    List.Forall₂ Step.Same (Plan.steps provider (before ++ qs))
      (Plan.steps provider (after ++ rs)) := by
  rw [Plan.steps_append, Plan.steps_append]
  exact List.rel_append steps more

theorem absolute_same (id : Int) (isLocal : Bool) (names : List String)
    (steps : List.Forall₂ Step.Same (Plan.steps provider before) (Plan.steps provider after)) :
    (absolute id isLocal names before).Same provider (absolute id isLocal names after) := by
  intro qs rs more everything scope
  rw [qualifyAll_absolute, qualifyAll_absolute]
  exact Variable.resolve_congr (x := ⟨id, isLocal, names, Plan.steps provider (before ++ qs)⟩)
    (y := ⟨id, isLocal, names, Plan.steps provider (after ++ rs)⟩)
    ⟨rfl, rfl, rfl, steps_append_same steps more⟩ provider scope

theorem ambiguous_same (id : Int) (names : List String)
    (steps : List.Forall₂ Step.Same (Plan.steps provider before) (Plan.steps provider after)) :
    (ambiguous id names before).Same provider (ambiguous id names after) := by
  intro qs rs more everything scope
  rw [qualifyAll_ambiguous, qualifyAll_ambiguous]
  exact Variable.resolveUnchecked_congr (steps_append_same steps more) id names provider scope

theorem relative_same {id other : Int} {p q : Plan}
    (value : ∀ scope, (p.eval provider false scope).value = (q.eval provider false scope).value)
    (steps : List.Forall₂ Step.Same (Plan.steps provider before) (Plan.steps provider after)) :
    (relative id p before).Same provider (relative other q after) := by
  intro qs rs more everything scope
  rw [qualifyAll_relative, qualifyAll_relative, Plan.value_relative, Plan.value_relative, value,
    Step.walk_congr (steps_append_same steps more)]

theorem conditional_same (id : Int) {g g' : Plan} {t t' f f' : Attribute}
    (guard : ∀ scope, (g.eval provider false scope).value = (g'.eval provider false scope).value)
    (whenTrue : t.Same provider t') (whenFalse : f.Same provider f') :
    (conditional id g t f).Same provider (conditional id g' t' f') := by
  intro qs rs more everything scope
  rw [qualifyAll_conditional, qualifyAll_conditional, Plan.value_conditionalAttribute,
    Plan.value_conditionalAttribute, guard, whenTrue qs rs more, whenFalse qs rs more]

end Parts

theorem same_refl {provider : Provider} (a : Attribute) : a.Same provider a := by
  cases a with
  | absolute id isLocal names qs =>
    exact absolute_same id isLocal names (Plan.steps_same_refl provider qs)
  | ambiguous id names qs => exact ambiguous_same id names (Plan.steps_same_refl provider qs)
  | relative id operand qs => exact relative_same (fun _ => rfl) (Plan.steps_same_refl provider qs)
  | conditional id g t f => exact conditional_same id (fun _ => rfl) (same_refl t) (same_refl f)

end Attribute

end

namespace Plan

variable {provider : Provider} {p q : Plan}

section

variable [HostObjects]

/-! ### Constants -/

theorem value_of_asConst {p : Plan} {v : Value} (known : p.asConst? = some v) (everything : Bool)
    (scope : Scope) : (eval provider p everything scope).value = v := by
  match p with
  | const id w => exact Option.some.inj known
  | observed inner =>
    rw [value_observed]
    exact value_of_asConst (by simpa only [asConst?] using known) false scope

theorem value_of_isConst (known : p.isConst = true) (everything other : Bool)
    (scope elsewhere : Scope) :
    (eval provider p everything scope).value = (eval provider p other elsewhere).value := by
  obtain ⟨v, isValue⟩ := Option.isSome_iff_exists.mp known
  rw [value_of_asConst isValue, value_of_asConst isValue]

theorem map_value_of_isConst {ps : List Plan} (known : ps.all isConst = true)
    (scope elsewhere : Scope) :
    ps.map (fun p => (eval provider p false scope).value) =
      ps.map fun p => (eval provider p false elsewhere).value :=
  List.map_congr_left fun p member =>
    value_of_isConst (List.all_eq_true.mp known p member) false false scope elsewhere

theorem value_of_isFoldable (known : p.isFoldable = true) (everything other : Bool)
    (scope elsewhere : Scope) :
    (eval provider p everything scope).value = (eval provider p other elsewhere).value := by
  cases p with
  | call id function args overloads =>
    rw [value_call, value_call, map_value_of_isConst known scope elsewhere]
  | both id l r =>
    obtain ⟨left, right⟩ := Bool.and_eq_true_iff.mp known
    rw [value_both, value_both, value_of_isConst left false false scope elsewhere,
      value_of_isConst right false false scope elsewhere]
  | either id l r =>
    obtain ⟨left, right⟩ := Bool.and_eq_true_iff.mp known
    rw [value_either, value_either, value_of_isConst left false false scope elsewhere,
      value_of_isConst right false false scope elsewhere]
  | list id elements =>
    rw [value_list, value_list, map_value_of_isConst known scope elsewhere]
  | mapping id entries =>
    have pairs : entries.map (fun e => ((eval provider e.1 false scope).value,
        (eval provider e.2 false scope).value)) =
        entries.map fun e => ((eval provider e.1 false elsewhere).value,
          (eval provider e.2 false elsewhere).value) := by
      apply List.map_congr_left
      intro e member
      obtain ⟨key, value⟩ := Bool.and_eq_true_iff.mp (List.all_eq_true.mp known e member)
      rw [value_of_isConst key false false scope elsewhere,
        value_of_isConst value false false scope elsewhere]
    rw [value_mapping, value_mapping, pairs]
  | _ => simp [isFoldable] at known

/-! ### Wrappers -/

def isLoop : Plan → Bool
  | loop .. => true
  | _ => false

theorem value_everything (single : p.isLoop = false) (everything other : Bool) (scope : Scope) :
    (eval provider p everything scope).value = (eval provider p other scope).value := by
  cases p with
  | loop => simp [isLoop] at single
  | attr id a => exact resolve_everything provider a everything other scope
  | both => rw [value_both, value_both]
  | either => rw [value_either, value_either]
  | conditional => rw [value_conditional, value_conditional]
  | _ => rfl

theorem value_decorate (options : PlanOptions) (p : Plan) (scope : Scope) :
    (eval provider (p.decorate options) false scope).value =
      (eval provider p (options.exhaustive && p.mayStopEarly) scope).value := by
  unfold decorate
  cases options.exhaustive && p.mayStopEarly <;>
    simp only [Bool.false_eq_true, ↓reduceIte] <;> split <;> rfl

/-- A wrapped plan evaluates as the plan in it, for some choice of what to evaluate. -/
theorem value_decorate_some (options : PlanOptions) (p : Plan) (everything : Bool) :
    ∃ flag, ∀ scope, (eval provider (p.decorate options) everything scope).value =
      (eval provider p flag scope).value := by
  unfold decorate
  cases options.exhaustive && p.mayStopEarly <;>
    simp only [Bool.false_eq_true, ↓reduceIte] <;> split <;> exact ⟨_, fun _ => rfl⟩

end

theorem apply_decorate {α : Type} (f : Plan → α) (exhaustive : ∀ q, f (.exhaustive q) = f q)
    (observed : ∀ q, f (.observed q) = f q) (options : PlanOptions) (p : Plan) :
    f (p.decorate options) = f p := by
  unfold decorate
  cases options.exhaustive && p.mayStopEarly <;>
    simp only [Bool.false_eq_true, ↓reduceIte] <;> split <;> simp only [exhaustive, observed]

theorem toAttribute_decorate (options : PlanOptions) (p : Plan) :
    (p.decorate options).toAttribute = p.toAttribute :=
  apply_decorate toAttribute (fun _ => rfl) (fun _ => rfl) options p

theorem id_decorate (options : PlanOptions) (p : Plan) : (p.decorate options).id = p.id :=
  apply_decorate id (fun _ => rfl) (fun _ => rfl) options p

theorem isObserved_decorate {options : PlanOptions} (observes : options.observes = true)
    (p : Plan) : (p.decorate options).isObserved = true := by
  unfold decorate
  cases options.exhaustive && p.mayStopEarly <;>
    simp only [observes, Bool.false_eq_true, ↓reduceIte, Bool.true_and, Bool.not_eq_true'] <;>
    split <;> first | rfl | simp_all

theorem decorate_of_isObserved {options : PlanOptions}
    (seen : options.observes = true → p.isObserved = true) : p.decorate options = p := by
  cases observes : options.observes with
  | true =>
    cases p with
    | observed inner => simp [decorate, mayStopEarly, isObserved]
    | _ => simp [isObserved] at seen; simp [observes] at seen
  | false =>
    have plain : options.exhaustive = false := (Bool.or_eq_false_iff.mp observes).2
    simp [decorate, plain, observes]

theorem branch_of_known {id : Int} {guard whenTrue whenFalse branch : Plan}
    (known : (conditional id guard whenTrue whenFalse).knownBranch? = some branch) :
    branch = whenTrue ∨ branch = whenFalse := by
  rw [knownBranch?] at known
  split at known
  · exact .inl (Option.some.inj known).symm
  · exact .inr (Option.some.inj known).symm
  · cases known

section

variable [HostObjects]

/-! ### Plans that cannot be told apart -/

/-- Plans with the same values, also of what is selected from them. -/
structure Same (provider : Provider) (p q : Plan) : Prop where
  value : ∀ scope, (eval provider p false scope).value = (eval provider q false scope).value
  selected : p.toAttribute.Same provider q.toAttribute

theorem Same.symm (same : Same provider p q) : Same provider q p where
  value scope := (same.value scope).symm
  selected qs rs steps everything scope :=
    (same.selected rs qs (steps.flip.imp fun _ _ s =>
      ⟨s.label.symm, fun scope => (s.key scope).symm, fun scope v => (s.apply scope v).symm⟩)
      everything scope).symm

theorem Same.trans {r : Plan} (first : Same provider p q) (second : Same provider q r) :
    Same provider p r where
  value scope := (first.value scope).trans (second.value scope)
  selected qs rs steps everything scope :=
    (first.selected qs qs (steps_same_refl provider qs) everything scope).trans
      (second.selected qs rs steps everything scope)

theorem Same.of_value (left : p.toAttribute = .relative p.id p [])
    (right : q.toAttribute = .relative q.id q [])
    (value : ∀ scope, (eval provider p false scope).value = (eval provider q false scope).value) :
    Same provider p q :=
  ⟨value, by rw [left, right]; exact Attribute.relative_same value .nil⟩

theorem Same.of_attribute {id other : Int} {a b : Attribute} (same : a.Same provider b) :
    Same provider (attr id a) (attr other b) :=
  ⟨same [] [] .nil false, same⟩

theorem Same.refl (p : Plan) : Same provider p p := ⟨fun _ => rfl, Attribute.same_refl _⟩

theorem knownBranch?_same {branch : Plan} (known : p.knownBranch? = some branch) :
    Same provider branch p := by
  match p with
  | conditional id g t f =>
    rw [knownBranch?] at known
    cases constant : g.asConst? with
    | none => simp [constant] at known
    | some v =>
      have guard (everything : Bool) (scope : Scope) :
          (eval provider g everything scope).value = v := value_of_asConst constant everything scope
      cases v with
      | bool b =>
        simp only [constant, Option.bind_some, Value.asBool?] at known
        have chosen : branch = if b then t else f := by
          cases b <;> exact (Option.some.inj known).symm
        subst chosen
        constructor
        · intro scope
          rw [value_conditional, guard]
          cases b <;> rfl
        · intro qs rs steps everything scope
          rw [toAttribute, Attribute.qualifyAll_conditional, value_conditionalAttribute, guard]
          cases b
          · exact Attribute.same_refl _ qs rs steps everything scope
          · exact Attribute.same_refl _ qs rs steps everything scope
      | _ => simp [constant, Value.asBool?] at known

theorem fold_cases (provider : Provider) (p : Plan) :
    (∃ branch, p.knownBranch? = some branch ∧ (p.fold provider).value = branch) ∨
    (p.knownBranch? = none ∧ p.isFoldable = true ∧
      (p.fold provider).value = const p.id (eval provider p false .empty).value) ∨
    (p.knownBranch? = none ∧ p.isFoldable = true ∧ (p.fold provider).value = p) ∨
    (p.knownBranch? = none ∧ (p.fold provider).value = p.prepare) := by
  unfold fold
  cases known : p.knownBranch? with
  | some branch => exact .inl ⟨branch, rfl, rfl⟩
  | none =>
    right
    by_cases foldable : p.isFoldable = true
    · simp only [foldable, ↓reduceIte, Run.value_bind, Run.value_pure, true_and]
      cases (eval provider p false .empty).value.isFailure <;> simp
    · simp [foldable]

theorem decorate_same (options : PlanOptions) (single : p.isLoop = false) :
    Same provider (p.decorate options) p where
  value scope := by rw [value_decorate]; exact value_everything single _ _ scope
  selected := by
    rw [toAttribute_decorate]
    exact (Same.refl p).selected

end

theorem toAttribute_of_isFoldable (known : p.isFoldable = true) :
    p.toAttribute = .relative p.id p [] := by
  cases p <;> first | rfl | simp [isFoldable] at known

theorem prepareCall_form (id : Int) (function : String) (args : List Plan)
    (overloads : List Overload) :
    let p := prepareCall id function args overloads
    p.isLoop = false ∧ p.id = id ∧ p.toAttribute = .relative id p [] ∧
      p.mayStopEarly = false := by
  unfold prepareCall
  split
  · exact ⟨rfl, rfl, rfl, rfl⟩
  · split
    · split
      · split
        · split <;> exact ⟨rfl, rfl, rfl, rfl⟩
        · exact ⟨rfl, rfl, rfl, rfl⟩
      · split
        · split <;> exact ⟨rfl, rfl, rfl, rfl⟩
        · exact ⟨rfl, rfl, rfl, rfl⟩
      · exact ⟨rfl, rfl, rfl, rfl⟩
    · exact ⟨rfl, rfl, rfl, rfl⟩

theorem isLoop_prepare (single : p.isLoop = false) : p.prepare.isLoop = false := by
  cases p with
  | call id function args overloads => exact (prepareCall_form id function args overloads).1
  | _ => exact single

end Plan

namespace Planner

/-- The plan of a name is a constant or a reference, with nothing to fold. -/
theorem identPlan_form (c : Planner) (locals : List String) (id : Int) (name : String) :
    (c.identPlan locals id name).isLoop = false ∧
      (c.identPlan locals id name).knownBranch? = none ∧
      (c.identPlan locals id name).prepare = c.identPlan locals id name := by
  unfold identPlan
  split
  · exact ⟨rfl, rfl, rfl⟩
  · exact ⟨rfl, rfl, rfl⟩
  · split <;> exact ⟨rfl, rfl, rfl⟩

variable [HostObjects]

open Plan

variable {c : Planner} {p : Plan}

/-- A finished plan is the same as the plan that was to be finished. The branches of a conditional
are final plans, so they have their wrappers. -/
theorem finished_same (single : p.isLoop = false)
    (wrapped : c.options.observes = true →
      ∀ branch, p.knownBranch? = some branch → branch.isObserved = true)
    (prepared : Same c.provider p.prepare p) : Same c.provider (c.finished p) p := by
  unfold finished
  split
  · rcases fold_cases c.provider p with ⟨branch, known, folded⟩ | ⟨-, foldable, folded⟩ |
      ⟨-, -, folded⟩ | ⟨-, folded⟩
    · rw [folded, decorate_of_isObserved fun observes => wrapped observes branch known]
      exact knownBranch?_same known
    · rw [folded]
      refine (decorate_same c.options rfl).trans ?_
      exact .of_value rfl (toAttribute_of_isFoldable foldable) fun scope =>
        value_of_isFoldable foldable false false .empty scope
    · rw [folded]
      exact decorate_same c.options single
    · rw [folded]
      exact (decorate_same c.options (isLoop_prepare single)).trans prepared
  · exact decorate_same c.options single

theorem value_finished_cases (single : p.isLoop = false) (leaf : p.knownBranch? = none)
    (scope : Scope) :
    ((c.finished p).eval c.provider false scope).value = (p.eval c.provider false scope).value ∨
      ((c.finished p).eval c.provider false scope).value =
        (p.prepare.eval c.provider false scope).value := by
  have wrapped : ∀ q : Plan, q.isLoop = false →
      ((q.decorate c.options).eval c.provider false scope).value =
        (q.eval c.provider false scope).value :=
    fun q single => (decorate_same c.options single).value scope
  unfold finished
  split
  · rcases fold_cases c.provider p with ⟨branch, known, -⟩ | ⟨-, foldable, folded⟩ |
      ⟨-, -, folded⟩ | ⟨-, folded⟩
    · rw [leaf] at known
      cases known
    · rw [folded, wrapped _ rfl]
      exact .inl (value_of_isFoldable foldable false false .empty scope)
    · rw [folded]
      exact .inl (wrapped p single)
    · rw [folded]
      exact .inr (wrapped p.prepare (isLoop_prepare single))
  · exact .inl (wrapped p single)

theorem value_finished (single : p.isLoop = false) (leaf : p.knownBranch? = none)
    (plain : p.prepare = p) (scope : Scope) :
    ((c.finished p).eval c.provider false scope).value = (p.eval c.provider false scope).value := by
  rcases value_finished_cases (c := c) single leaf scope with value | value
  · exact value
  · rwa [plain] at value

theorem finished_of_isLoop (isLoop : p.isLoop = true) :
    c.finished p = p.decorate c.options := by
  cases p with
  | loop => unfold finished; split <;> rfl
  | _ => simp [Plan.isLoop] at isLoop

end Planner

end ExprEngine
