import ExprEngine.Proofs.Cost.Arithmetic
import ExprEngine.Proofs.Evaluation.Steps
import ExprEngine.Proofs.Partial.Covers

/-!
# Work

The work of a run is that of its parts. A call is one unit of work at most, and exactly one where
its value is no failure. A variable costs the walk from its value, whichever name it is found under,
because looking names up is no work where no names are marked. A loop costs what its iterations do.
-/

namespace ExprEngine

namespace Run

variable {α β : Type}

@[simp] theorem work_pure (a : α) : (pure a : Run α).work = 0 := rfl

@[simp] theorem work_bind (r : Run α) (f : α → Run β) :
    (r >>= f).work = r.work + (f r.value).work := by
  simp only [work, log_bind, List.countP_append]

@[simp] theorem work_map (f : α → β) (r : Run α) : (f <$> r).work = r.work := by
  simp only [work, log_map]

@[simp] theorem work_reach (id : Int) : (reach id).work = 0 := rfl

theorem work_emit (e : Event) : (emit e).work = if e.isWork then 1 else 0 := by
  simp only [work, log_emit, List.countP_singleton]

@[simp] theorem work_attempt (x : Except Panic Value) : (attempt x).work = 0 := by cases x <;> rfl

end Run

open Run

/-! ### Calls -/

namespace Overload

theorem work_invoke_le (o : Overload) (args : List Value) : (o.invoke args).work ≤ 1 := by
  unfold invoke
  split
  · exact Nat.le_refl 1
  · exact Nat.zero_le 1

theorem work_invoke_of_regular {o : Overload} {args : List Value}
    (regular : (o.invoke args).value.isFailure = false) : (o.invoke args).work = 1 := by
  rw [value_invoke] at regular
  unfold invoke
  cases ran : o.run? args with
  | some r => rfl
  | none => simp [result, ran, Value.noSuchOverload, Value.failure, Value.isFailure] at regular

end Overload

section

variable [HostObjects]

theorem work_receiveCall_le (function : String) (args : List Value) :
    (receiveCall function args).work ≤ 1 := by
  unfold receiveCall
  split
  · split
    · rw [work_bind, work_attempt]
      exact Nat.le_refl 1
    · exact Nat.zero_le 1
  · exact Nat.zero_le 1

theorem work_receiveCall_of_regular {function : String} {args : List Value}
    (regular : (receiveCall function args).value.isFailure = false) :
    (receiveCall function args).work = 1 := by
  unfold receiveCall at regular ⊢
  split
  · split
    · rw [work_bind, work_attempt]
      rfl
    · next deaf => simp [deaf, Value.noSuchOverload, Value.failure, Value.isFailure] at regular
  · simp [Value.noSuchOverload, Value.failure, Value.isFailure] at regular

theorem work_dispatch_le (function : String) (candidates : List Overload) (args : List Value) :
    (dispatch function candidates args).work ≤ 1 := by
  unfold dispatch
  split
  · next o _ =>
    have invoked := o.work_invoke_le args
    split
    · exact invoked
    · split
      · exact Nat.zero_le 1
      · exact invoked
  · split
    · exact Nat.zero_le 1
    · exact work_receiveCall_le function args

theorem work_dispatch_of_regular {function : String} {candidates : List Overload}
    {args : List Value} (regular : (dispatch function candidates args).value.isFailure = false) :
    (dispatch function candidates args).work = 1 := by
  unfold dispatch at regular ⊢
  split at regular
  · next o _ =>
    split at regular
    · next nonStrict =>
      rw [if_pos nonStrict]
      exact Overload.work_invoke_of_regular regular
    · next strict =>
      rw [if_neg strict]
      split at regular
      · next v passed =>
        have failed := Value.isFailure_of_propagate passed
        rw [value_pure, failed] at regular
        cases regular
      · exact Overload.work_invoke_of_regular regular
  · split at regular
    · next v passed =>
      have failed := Value.isFailure_of_propagate passed
      rw [value_pure, failed] at regular
      cases regular
    · exact work_receiveCall_of_regular regular

end

/-! ### Names -/

namespace Scope

theorem work_resolve (s : Scope) (name : String) : (s.resolve name).work = 0 := by
  induction s with
  | empty | function => rfl
  | table t =>
    unfold resolve Table.resolve
    split
    · next b _ =>
      rw [work_map]
      cases b <;> rfl
    · rfl
  | layered parent child above below =>
    simp only [resolve, work_bind, below, Nat.zero_add]
    split
    · rfl
    · exact above
  | frame parent n v above =>
    rw [resolve]
    split
    · rfl
    · exact above
  | marked inner ps within => exact within
  | recording inner within => exact within

@[simp] theorem work_record (s : Scope) (id : Int) (v : Value) : (s.record id v).work = 0 := by
  unfold record
  split <;> rfl

end Scope

namespace Step

/-- No application of the step, counted as a unit of work itself, exceeds the cost. -/
def Admitted (c : Cost) (s : Step) : Prop :=
  ∀ scope, scope.patterns = [] → ∀ v, c.Admits ((s.apply scope v).work + 1)

/-- In the scope, every application of the step that succeeds, counted as a unit of work itself,
does no less work than the cost says. -/
def Worth (scope : Scope) (c : Cost) (s : Step) : Prop :=
  ∀ v, (s.apply scope v).value.isFailure = false → c.min ≤ (s.apply scope v).work + 1

variable {costs : List Cost} {steps : List Step} {scope : Scope}

theorem walk_admitted (each : List.Forall₂ Admitted costs steps) (unmarked : scope.patterns = [])
    (v : Value) : (Cost.sum costs).Admits (walk scope steps v).work := by
  induction each generalizing v with
  | nil => exact Cost.admits_zero _
  | @cons c s costs rest first _ ih =>
    rw [walk]
    split
    · exact Cost.admits_zero _
    · have applied := first scope unmarked v
      have later := ih ((s.apply scope v).value.withExprId s.id)
      have total := applied.sum_cons later
      simp only [work_bind, work_emit, Event.isWork, ↓reduceIte]
      rwa [← Nat.add_assoc]

theorem walk_worth (each : List.Forall₂ (Worth scope) costs steps) {v : Value}
    (regular : (walk scope steps v).value.isFailure = false) :
    (costs.map Cost.min).sum ≤ (walk scope steps v).work := by
  induction each generalizing v with
  | nil => exact Nat.zero_le _
  | @cons c s costs rest first _ ih =>
    rw [walk] at regular ⊢
    split at regular
    · next failed =>
      rw [value_pure, failed] at regular
      cases regular
    · next sound =>
      have succeeded : (s.apply scope v).value.isFailure = false := by
        by_contra failed
        have failed : ((s.apply scope v).value.withExprId s.id).isFailure = true := by
          simpa using failed
        have ended := walk_of_failure scope rest failed
        change (walk scope rest ((s.apply scope v).value.withExprId s.id)).value.isFailure = _
          at regular
        rw [ended, failed] at regular
        cases regular
      have applied := first v succeeded
      have later := ih regular
      simp only [if_neg sound, List.map_cons, List.sum_cons, work_bind, work_emit, Event.isWork,
        ↓reduceIte]
      omega

end Step

namespace Variable

variable {x : Variable} {scope : Scope} {costs : List Cost}

/-- How the resolution of a variable ends where no names are marked, and the work it takes. -/
inductive Ends (x : Variable) (scope : Scope) : Option Value → Nat → Prop where
  | unresolved : Ends x scope none 0
  | walked (v : Value) :
      Ends x scope (some (Step.walk scope x.steps v).value) (Step.walk scope x.steps v).work
  /-- The provider knows the name, but not what is selected from it. -/
  | provided {v : Value} (plain : x.steps = [] ∨ v.isFailure = true) : Ends x scope (some v) 0

theorem unknown?_unmarked (unmarked : scope.patterns = []) (x : Variable) (name : String) :
    x.unknown? scope name = pure none := by
  unfold unknown?
  rw [unmarked]
  rfl

theorem resolveName?_ends (unmarked : scope.patterns = []) (x : Variable) (provider : Provider)
    (name : String) :
    x.Ends scope (x.resolveName? provider scope name).value
      (x.resolveName? provider scope name).work := by
  simp only [resolveName?, unknown?_unmarked unmarked, ite_self, pure_bind, value_bind, work_bind,
    Scope.work_resolve, Nat.zero_add]
  split
  · next v _ =>
    rw [value_map, work_map]
    exact .walked v
  · split
    · split
      · next plain => exact .provided (.inl (List.isEmpty_iff.mp plain))
      · exact .provided (.inr rfl)
    · exact .unresolved

theorem firstSome_ends {α : Type} {f : α → Run (Option Value)} {as : List α}
    {P : α → Option Value → Nat → Prop} (idle : ∀ a n, P a none n → n = 0)
    (each : ∀ a ∈ as, P a (f a).value (f a).work) :
    (firstSome f as).value = none ∧ (firstSome f as).work = 0 ∨
      ∃ a ∈ as, ∃ v, (firstSome f as).value = some v ∧ P a (some v) (firstSome f as).work := by
  induction as with
  | nil => exact .inl ⟨rfl, rfl⟩
  | cons a rest ih =>
    have first := each a List.mem_cons_self
    simp only [firstSome, value_bind, work_bind]
    cases found : (f a).value with
    | some v =>
      rw [found] at first
      exact .inr ⟨a, List.mem_cons_self, v, rfl, first⟩
    | none =>
      rw [found] at first
      have unworked : (f a).work = 0 := idle a _ first
      simp only [unworked, Nat.zero_add]
      rcases ih fun b member => each b (List.mem_cons_of_mem a member) with nothing | later
      · exact .inl nothing
      · obtain ⟨b, member, v, answered, ended⟩ := later
        exact .inr ⟨b, List.mem_cons_of_mem a member, v, answered, ended⟩

theorem Ends.idle {n : Nat} (ends : x.Ends scope none n) : n = 0 := by
  cases ends
  rfl

theorem resolve?_ends (unmarked : scope.patterns = []) (x : Variable) (provider : Provider) :
    x.Ends scope (x.resolve? provider scope).value (x.resolve? provider scope).work := by
  have each := fun name (_ : name ∈ x.names) => resolveName?_ends unmarked x provider name
  unfold resolve?
  rcases firstSome_ends (P := fun _ => x.Ends scope) (fun _ _ ends => ends.idle) each with
    ⟨unanswered, unworked⟩ | ⟨_, _, v, answered, ended⟩
  · rw [unanswered, unworked]
    exact .unresolved
  · rwa [answered]

theorem Ends.admitted {found : Option Value} {n : Nat} (ends : x.Ends scope found n)
    (each : List.Forall₂ Step.Admitted costs x.steps) (unmarked : scope.patterns = []) :
    (Cost.sum costs).Admits n := by
  cases ends with
  | unresolved => exact Cost.admits_zero _
  | walked v => exact Step.walk_admitted each unmarked v
  | provided => exact Cost.admits_zero _

theorem Ends.worth {v : Value} {n : Nat} (ends : x.Ends scope (some v) n)
    (each : List.Forall₂ (Step.Worth scope) costs x.steps) (regular : v.isFailure = false) :
    (Cost.sum costs).min ≤ n := by
  have least := Cost.min_sum_le costs
  cases ends with
  | walked w => exact Nat.le_trans least (Step.walk_worth each regular)
  | provided plain =>
    rcases plain with bare | failed
    · rw [bare] at each
      cases each
      exact least
    · rw [failed] at regular
      cases regular

theorem resolve_admitted (unmarked : scope.patterns = []) (provider : Provider)
    (each : List.Forall₂ Step.Admitted costs x.steps) :
    (Cost.sum costs).Admits (x.resolve provider scope).work := by
  have ends := resolve?_ends unmarked x provider
  simp only [resolve, work_bind, work_pure, Nat.add_zero]
  exact ends.admitted each unmarked

theorem resolve_worth (unmarked : scope.patterns = []) {provider : Provider}
    (each : List.Forall₂ (Step.Worth scope) costs x.steps)
    (regular : (x.resolve provider scope).value.isFailure = false) :
    (Cost.sum costs).min ≤ (x.resolve provider scope).work := by
  have ends := resolve?_ends unmarked x provider
  simp only [resolve, value_bind, value_pure, work_bind, work_pure, Nat.add_zero] at regular ⊢
  cases found : (x.resolve? provider scope).value with
  | none =>
    simp [found, noSuchAttribute, Value.failure, Value.withExprId, Value.isFailure] at regular
  | some v =>
    rw [found] at ends regular
    exact ends.worth each regular

variable {id : Int} {names : List String} {steps : List Step}

/-- The cost of an unchecked name with steps: that of the steps which one of its readings leaves. -/
def uncheckedCost (id : Int) (names : List String) (labels : List Label) (costs : List Cost) :
    Cost :=
  (Cost.anyOf? ((Interpretation.all id names 0 labels).map fun i =>
    .sum (costs.drop i.taken))).getD .zero

theorem resolveUnchecked_ends (id : Int) (names : List String) (steps : List Step)
    (unmarked : scope.patterns = []) (provider : Provider) :
    (firstSome (·.resolve? provider scope) (ofUnchecked id names steps)).value = none ∧
        (firstSome (·.resolve? provider scope) (ofUnchecked id names steps)).work = 0 ∨
      ∃ i ∈ Interpretation.all id names 0 (steps.map Step.label), ∃ v,
        (firstSome (·.resolve? provider scope) (ofUnchecked id names steps)).value = some v ∧
          (Variable.mk i.id false i.names (steps.drop i.taken)).Ends scope (some v)
            (firstSome (·.resolve? provider scope) (ofUnchecked id names steps)).work := by
  have each := fun x (_ : x ∈ ofUnchecked id names steps) => resolve?_ends unmarked x provider
  rcases firstSome_ends (P := fun (x : Variable) => x.Ends scope) (fun _ _ ends => ends.idle)
      each with
    nothing | ⟨x, member, v, answered, ended⟩
  · exact .inl nothing
  · obtain ⟨i, listed, rfl⟩ := List.mem_map.mp member
    exact .inr ⟨i, listed, v, answered, ended⟩

theorem resolveUnchecked_admitted (unmarked : scope.patterns = []) (provider : Provider)
    (each : List.Forall₂ Step.Admitted costs steps) :
    (uncheckedCost id names (steps.map Step.label) costs).Admits
      (resolveUnchecked id names steps provider scope).work := by
  simp only [resolveUnchecked, work_bind, work_pure, Nat.add_zero]
  rcases resolveUnchecked_ends id names steps unmarked provider with
    ⟨-, unworked⟩ | ⟨i, listed, v, -, ended⟩
  · rw [unworked]
    exact Cost.admits_zero _
  · have remaining := List.forall₂_drop i.taken each
    exact (ended.admitted remaining unmarked).anyOf
      (List.mem_map.mpr ⟨i, listed, rfl⟩) _

theorem resolveUnchecked_worth (unmarked : scope.patterns = []) {provider : Provider}
    (each : List.Forall₂ (Step.Worth scope) costs steps)
    (regular : (resolveUnchecked id names steps provider scope).value.isFailure = false) :
    (uncheckedCost id names (steps.map Step.label) costs).min ≤
      (resolveUnchecked id names steps provider scope).work := by
  simp only [resolveUnchecked, value_bind, value_pure, work_bind, work_pure, Nat.add_zero]
    at regular ⊢
  rcases resolveUnchecked_ends id names steps unmarked provider with
    ⟨unanswered, -⟩ | ⟨i, listed, v, answered, ended⟩
  · simp [unanswered, noSuchAttribute, Value.failure, Value.withExprId, Value.isFailure] at regular
  · rw [answered] at regular
    have remaining := List.forall₂_drop i.taken each
    have least := ended.worth remaining regular
    exact Cost.min_anyOf_le (List.mem_map.mpr ⟨i, listed, rfl⟩) least _

end Variable

/-! ### Loops -/

section Loops

variable {everything : Bool} {condition step : Value → Value → Run Value} {elements : List Value}
  {m : Nat}

theorem work_iterate_le
    (each : ∀ accu x, x ∈ elements → (condition accu x).work + (step accu x).work ≤ m)
    (accu : Value) :
    (iterate everything condition step elements accu).work ≤ m * elements.length := by
  induction elements generalizing accu with
  | nil => exact Nat.zero_le _
  | cons x rest ih =>
    have first := each accu x List.mem_cons_self
    have later := ih (fun accu y member => each accu y (List.mem_cons_of_mem x member))
      (step accu x).value
    rw [iterate, work_bind, List.length_cons, Nat.mul_add, Nat.mul_one]
    split
    · rw [work_pure]
      omega
    · split
      · rw [work_pure]
        omega
      · rw [work_bind]
        split
        · rw [work_pure]
          omega
        · omega

/-- A loop costs no more than its iterations, of which there is one for every element at most. -/
theorem iterate_admitted {c : Cost} {known : Option Nat}
    (each : ∀ accu x, x ∈ elements → c.Admits ((condition accu x).work + (step accu x).work))
    (counted : ∀ k, known = some k → elements.length ≤ k) (accu : Value) :
    (c.repeated known).Admits (iterate everything condition step elements accu).work := by
  by_cases endless : Cost.unbounded ≤ c.max
  · cases elements with
    | nil => exact Cost.admits_zero _
    | cons x rest =>
      have admits : c.Admits (iterate everything condition step (x :: rest) accu).work :=
        Cost.admits_iff.mpr (.inr endless)
      exact admits.repeated counted (Nat.le_mul_of_pos_right _ (Nat.succ_pos _))
  · refine Cost.Admits.repeated (Cost.admits_of_le (Nat.le_refl c.max)) counted ?_
    refine work_iterate_le (fun accu x member => ?_) accu
    rcases Cost.admits_iff.mp (each accu x member) with within | reached
    · exact within
    · exact absurd reached endless

end Loops

end ExprEngine
