import ExprEngine.Proofs.Partial.Iteration
import ExprEngine.Proofs.Partial.Steady

/-!
# Loops under unknowns

A loop whose condition is always true, or asks whether the accumulator is decided, goes the same
way in a scope and in its completions, up to errors: its value in a completion is the value that
it has in the scope, if that is not unknown, or an error.
-/

namespace ExprEngine

namespace Plan

theorem completes_inside {s t : Scope} (completes : Scope.Completes loose locals s t) {v u : Value}
    (covers : v.Covers loose u) (x : Value) :
    Scope.Completes loose (iterVar :: accuVar :: locals) (inside s accuVar iterVar v x)
      (inside t accuVar iterVar u x) :=
  (completes.frame accuVar covers).frame iterVar (.refl loose x)

theorem resolve_inside_accu (s : Scope) (apart : iterVar ≠ accuVar) (v x : Value) :
    ((inside s accuVar iterVar v x).resolve accuVar).value = some v := by
  simp [inside, Scope.resolve, Ne.symm apart]

theorem resolve_inside_iter (s : Scope) (v x : Value) :
    ((inside s accuVar iterVar v x).resolve iterVar).value = some x := by
  simp [inside, Scope.resolve]

variable [HostObjects]

def concluded (provider : Provider) (accuVar : String) (result : Plan) (scope : Scope) :
    Except Value Value → Value
  | .ok accu => (eval provider result false (.frame scope accuVar accu)).value
  | .error e => e

def iterated (provider : Provider) (everything : Bool) (iterVar accuVar : String)
    (init condition step : Plan) (scope : Scope) (elements : List Value) : Except Value Value :=
  (iterate everything
    (fun accu x => eval provider condition false (inside scope accuVar iterVar accu x))
    (fun accu x => eval provider step false (inside scope accuVar iterVar accu x))
    elements (eval provider init false scope).value).value

structure Combining (provider : Provider) (id : Int) (short : Bool) (accuVar : String)
    (init condition step : Plan) : Prop where
  init : ∀ s, (eval provider init false s).value = .bool (!short)
  condition : ∀ s v, (s.resolve accuVar).value = some v →
    (eval provider condition false s).value = .bool (!v.decides short)
  step : ∀ s v, (s.resolve accuVar).value = some v →
    ∃ r, (eval provider step false s).value = Value.combine id short v r

inductive Accumulating (provider : Provider) (accuVar : String) (init condition step : Plan) :
    Option Bool → Prop where
  | always (holds : ∀ s, (eval provider condition false s).value = .bool true) :
      Accumulating provider accuVar init condition step none
  | combining {id short} (combining : Combining provider id short accuVar init condition step) :
      Accumulating provider accuVar init condition step (some short)

variable {provider : Provider} {loose : Bool} {locals : List String} {iterVar accuVar : String}
  {o i w p r : Plan} {decider : Option Bool} {gone : Except Value Value → Prop}

theorem value_loop_iterated (id : Int) (everything : Bool) (scope : Scope) :
    (eval provider (loop id iterVar o accuVar i w p r) everything scope).value =
      if (eval provider o false scope).value.isFailure then (eval provider o false scope).value
      else match (eval provider o false scope).value.elements? with
        | none => Value.notIterable o.id (eval provider o false scope).value
        | some elements => concluded provider accuVar r scope
            (iterated provider everything iterVar accuVar i w p scope elements) := by
  rw [value_loop]
  rfl

theorem value_loop_of_failure (id : Int) (everything : Bool) {scope : Scope}
    (failed : (eval provider o false scope).value.isFailure = true) :
    (eval provider (loop id iterVar o accuVar i w p r) everything scope).value =
      (eval provider o false scope).value := by
  rw [value_loop_iterated, if_pos failed]

theorem Combining.combines {id : Int} {short : Bool}
    (combining : Combining provider id short accuVar i w p) (apart : iterVar ≠ accuVar)
    (s : Scope) :
    Combines id short (fun accu x => eval provider w false (inside s accuVar iterVar accu x))
      fun accu x => eval provider p false (inside s accuVar iterVar accu x) where
  condition v x := combining.condition _ v (resolve_inside_accu s apart v x)
  step v x := combining.step _ v (resolve_inside_accu s apart v x)

/-- Both runs of a loop end alike, whatever holds of runs with an unknown accumulator. -/
theorem Accumulating.ends (accumulating : Accumulating provider accuVar i w p decider)
    (init : i.Steady provider loose locals)
    (step : p.Steady provider loose (iterVar :: accuVar :: locals)) (everything : Bool)
    {s t : Scope} (completes : Scope.Completes loose locals s t)
    (on : ∀ rest v, v.isUnknown = true ∨ loose = true → gone (iterate everything
      (fun accu x => eval provider w false (inside s accuVar iterVar accu x))
      (fun accu x => eval provider p false (inside s accuVar iterVar accu x)) rest v).value)
    (elements : List Value) :
    Ends loose gone (iterated provider everything iterVar accuVar i w p s elements)
      (iterated provider everything iterVar accuVar i w p t elements) := by
  have start := init.value false s t completes
  have steps : ∀ v u x, v.Covers loose u →
      (eval provider p false (inside s accuVar iterVar v x)).value.Covers loose
        (eval provider p false (inside t accuVar iterVar u x)).value := fun v u x covers =>
    step.value false _ _ (completes_inside completes covers x)
  cases accumulating with
  | always holds =>
    refine iterate_covers (fun v u x _ => ?_) steps on elements start
    rw [holds, holds]
  | @combining id short combining =>
    by_cases same : iterVar = accuVar
    -- The accumulator is hidden by the element, which is the same in both runs.
    · subst same
      refine iterate_covers (fun v u x _ => ?_) steps on elements start
      rw [combining.condition _ x (resolve_inside_iter s v x),
        combining.condition _ x (resolve_inside_iter t u x)]
    · have regular : ∀ scope, (eval provider i false scope).value.isError = false := fun scope => by
        rw [combining.init]
        rfl
      exact (combining.combines same s).covers (combining.combines same t) steps on elements start
        (regular s) (regular t)

/-- The values of a loop in a scope and in a completion: covering, or an error in the completion
where the loop has gone on in the scope. -/
theorem loop_covers (gone : Value → Prop) (id : Int) (range : o.Steady provider loose locals)
    (result : r.Steady provider loose (accuVar :: locals)) (everything : Bool) {s t : Scope}
    (completes : Scope.Completes loose locals s t)
    (ends : ∀ elements, Ends loose (fun x => gone (concluded provider accuVar r s x))
      (iterated provider everything iterVar accuVar i w p s elements)
      (iterated provider everything iterVar accuVar i w p t elements)) :
    (eval provider (loop id iterVar o accuVar i w p r) everything s).value.Covers loose
        (eval provider (loop id iterVar o accuVar i w p r) everything t).value ∨
      (eval provider (loop id iterVar o accuVar i w p r) everything t).value.isError = true ∧
        gone (eval provider (loop id iterVar o accuVar i w p r) everything s).value := by
  have known := range.value false s t completes
  rcases known with unknown | same | ⟨isLoose, failed⟩
  · left; left
    rwa [value_loop_of_failure id everything (Value.isFailure_of_isUnknown unknown)]
  · rw [value_loop_iterated, value_loop_iterated, ← same]
    split
    · exact .inl (.refl loose _)
    · split
      · exact .inl (.refl loose _)
      · next elements _ =>
        have ended := ends elements
        revert ended
        generalize iterated provider everything iterVar accuVar i w p s elements = x
        generalize iterated provider everything iterVar accuVar i w p t elements = y
        intro ended
        cases ended with
        | ok covers => exact .inl (result.value false _ _ (completes.frame accuVar covers))
        | same => exact .inl (.refl loose _)
        | stopped isError on => exact .inr ⟨isError, on⟩
        | loosely isLoose isError =>
          exact .inl (.of_failure isLoose (.inl (Value.isFailure_of_isError isError)))
  · refine .inl (.of_failure isLoose (failed.imp (fun failed => ?_) fun failed => ?_))
    · rwa [value_loop_of_failure id everything failed]
    · rwa [value_loop_of_failure id everything failed]

/-- Up to errors, loops are as steady as their parts. -/
theorem loop_steady (isLoose : loose = true) (id : Int)
    (accumulating : Accumulating provider accuVar i w p decider)
    (range : o.Steady provider loose locals) (init : i.Steady provider loose locals)
    (step : p.Steady provider loose (iterVar :: accuVar :: locals))
    (result : r.Steady provider loose (accuVar :: locals)) :
    (loop id iterVar o accuVar i w p r).Steady provider loose locals :=
  .of_value rfl fun everything s t completes => by
    have ends : ∀ elements, Ends loose (fun _ => True)
        (iterated provider everything iterVar accuVar i w p s elements)
        (iterated provider everything iterVar accuVar i w p t elements) :=
      accumulating.ends init step everything completes fun _ _ _ => trivial
    rcases loop_covers (fun _ => True) id range result everything completes ends with
      covers | ⟨isError, -⟩
    · exact covers
    · exact .of_failure isLoose (.inr (Value.isFailure_of_isError isError))

end Plan

end ExprEngine
