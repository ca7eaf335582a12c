import ExprEngine.Proofs.Evaluation.Steps
import ExprEngine.Proofs.Partial.Covers

/-!
# Completions of scopes

A scope completes another one when it has no unknowns of its own and finds what the other one
finds, except under the names that are marked. What a name resolves to in a scope covers what it
resolves to in a completion.
-/

namespace ExprEngine

/-- What is found covers what is found in a completion; under an unknown anything may be. -/
inductive Found (loose : Bool) : Option Value → Option Value → Prop where
  | nothing : Found loose none none
  | value {v w} (covers : v.Covers loose w) : Found loose (some v) (some w)
  | unknown {v o} (isUnknown : v.isUnknown = true) : Found loose (some v) o

namespace Found

variable {loose : Bool} {o o' : Option Value}

theorem refl (loose : Bool) (o : Option Value) : Found loose o o := by
  cases o with
  | none => exact .nothing
  | some v => exact .value (.refl loose v)

theorem getD (found : Found loose o o') (d : Value) :
    (o.getD d).Covers loose (o'.getD d) := by
  cases found with
  | nothing => exact .refl loose d
  | value covers => exact covers
  | unknown isUnknown => exact .inl isUnknown

theorem orElse {f g : Value → Value} {d d' : Option Value} (found : Found loose o o')
    (covers : ∀ v w, v.Covers loose w → (f v).Covers loose (g w))
    (kept : ∀ v, v.isUnknown = true → (f v).isUnknown = true) (otherwise : Found loose d d') :
    Found loose ((o.map f).or d) ((o'.map g).or d') := by
  cases found with
  | nothing => exact otherwise
  | value first => exact .value (covers _ _ first)
  | unknown isUnknown => exact .unknown (kept _ isUnknown)

end Found

namespace Scope

/-- Everything that `s` marks as unknown is bound in `t` at will; the variables of loops are the
same in both. -/
structure Completes (loose : Bool) (locals : List String) (s t : Scope) : Prop where
  whole : ∀ x ∈ s.patterns, x.steps = []
  plain : t.patterns = []
  found : ∀ name, (name ∈ locals ∨ ∀ x ∈ s.patterns, x.name ≠ name) →
    Found loose (s.resolve name).value (t.resolve name).value

theorem Completes.frame {loose : Bool} {locals : List String} {s t : Scope}
    (completes : Completes loose locals s t) (name : String) {v w : Value}
    (covers : v.Covers loose w) :
    Completes loose (name :: locals) (.frame s name v) (.frame t name w) where
  whole := completes.whole
  plain := completes.plain
  found other known := by
    simp only [resolve]
    by_cases same : other = name
    · simp only [same, ↓reduceIte, Run.value_pure]
      exact .value covers
    · simp only [same, ↓reduceIte]
      exact completes.found other (known.imp_left fun member =>
        (List.mem_cons.mp member).resolve_left same)

end Scope

namespace Step

variable {loose : Bool} {locals : List String}

def Steady (loose : Bool) (locals : List String) (x : Step) : Prop :=
  ∀ s t, Scope.Completes loose locals s t →
    ∀ v, (x.apply s v).value.Covers loose (x.apply t v).value

theorem walk_covers {steps : List Step} (steady : ∀ x ∈ steps, x.Steady loose locals) {s t : Scope}
    (completes : Scope.Completes loose locals s t) {v w : Value} (covers : v.Covers loose w) :
    (walk s steps v).value.Covers loose (walk t steps w).value := by
  induction steps generalizing v w with
  | nil => exact covers
  | cons x rest ih =>
    rcases covers with unknown | rfl | ⟨isLoose, failed⟩
    · left
      rwa [walk_of_failure s _ (Value.isFailure_of_isUnknown unknown)]
    · rw [value_walk_cons, value_walk_cons]
      split
      · exact .refl loose v
      · have applied := steady x List.mem_cons_self s t completes v
        exact ih (fun y member => steady y (List.mem_cons_of_mem _ member))
          (applied.withExprId x.id)
    · refine .of_failure isLoose (failed.imp (fun failed => ?_) fun failed => ?_)
      · rwa [walk_of_failure s _ failed]
      · rwa [walk_of_failure t _ failed]

end Step

namespace Variable

variable {loose : Bool} {locals : List String} {s t : Scope}

theorem unknown?_eq_pure (x : Variable) {name : String}
    (unnamed : ∀ p ∈ s.patterns, p.name ≠ name) : x.unknown? s name = pure none := by
  have no : s.patterns.filter (·.name == name) = [] := by
    apply List.filter_eq_nil_iff.mpr
    intro p member
    simpa using unnamed p member
  rw [unknown?, no]

theorem unknown?_of_unnamed (x : Variable) {name : String}
    (unnamed : ∀ p ∈ s.patterns, p.name ≠ name) : (x.unknown? s name).value = none := by
  rw [unknown?_eq_pure x unnamed]
  rfl

theorem unknown?_of_named (x : Variable) {name : String} (whole : ∀ p ∈ s.patterns, p.steps = [])
    {p : UnknownPattern} (member : p ∈ s.patterns) (named : p.name = name) :
    ∃ u, (x.unknown? s name).value = some u ∧ u.isUnknown = true := by
  unfold unknown?
  have present : p ∈ s.patterns.filter (·.name == name) := by simp [member, named]
  cases found : s.patterns.filter (·.name == name) with
  | nil => simp [found] at present
  | cons q rest =>
    have bare : q.steps = [] :=
      whole q (List.mem_filter.mp (found ▸ List.mem_cons_self : q ∈ s.patterns.filter _)).1
    simp only [apply_ite Run.value]
    split
    · exact ⟨_, rfl, rfl⟩
    · simp only [Run.value_bind]
      cases keys : (Step.keys s x.steps).value with
      | error u =>
        obtain ⟨-, -, -, isUnknown⟩ := Step.key_of_keys_error keys
        exact ⟨u, rfl, isUnknown⟩
      | ok ks =>
        refine ⟨.unknown (.singleton x.id), ?_, rfl⟩
        simp [bare, PatternStep.cover]

/-- A name that is not marked is bound to covering values, or looked up with the provider. -/
theorem bound_found {x : Variable} (steady : ∀ y ∈ x.steps, y.Steady loose locals)
    (completes : Scope.Completes loose locals s t) (provider : Provider) {name : String}
    (free : name ∈ locals ∨ ∀ p ∈ s.patterns, p.name ≠ name) :
    Found loose (match (s.resolve name).value with
        | some v => some (Step.walk s x.steps v).value
        | none => x.unbound? provider name)
      (match (t.resolve name).value with
        | some v => some (Step.walk t x.steps v).value
        | none => x.unbound? provider name) := by
  have kept : ∀ v : Value, v.isUnknown = true → (Step.walk s x.steps v).value.isUnknown = true := by
    intro v unknown
    rwa [Step.walk_of_failure s _ (Value.isFailure_of_isUnknown unknown)]
  have walked := (completes.found name free).orElse
    (fun v w => Step.walk_covers steady completes) kept
    (.refl loose (x.unbound? provider name))
  revert walked
  cases (s.resolve name).value <;> cases (t.resolve name).value <;> exact fun walked => walked

theorem resolveName?_found {x : Variable} (steady : ∀ y ∈ x.steps, y.Steady loose locals)
    (completes : Scope.Completes loose locals s t) (provider : Provider) {name : String}
    (bound : x.isLocal = true → name ∈ locals) :
    Found loose (x.resolveName? provider s name).value (x.resolveName? provider t name).value := by
  rw [value_resolveName?, value_resolveName?]
  have nothing : (x.unknown? t name).value = none :=
    unknown?_of_unnamed x (by simp [completes.plain])
  by_cases isLocal : x.isLocal = true
  · simp only [isLocal, ↓reduceIte]
    exact bound_found steady completes provider (.inl (bound isLocal))
  · simp only [isLocal, nothing, Bool.false_eq_true, ↓reduceIte]
    by_cases named : ∃ p ∈ s.patterns, p.name = name
    · obtain ⟨p, member, named⟩ := named
      obtain ⟨u, marked, isUnknown⟩ := unknown?_of_named x completes.whole member named
      simp only [marked]
      exact .unknown isUnknown
    · have unnamed : ∀ p ∈ s.patterns, p.name ≠ name := fun p member same =>
        named ⟨p, member, same⟩
      simp only [unknown?_of_unnamed x unnamed]
      exact bound_found steady completes provider (.inr unnamed)

theorem firstSome_found {α : Type} {f g : α → Run (Option Value)} {as : List α}
    (found : ∀ a ∈ as, Found loose (f a).value (g a).value) :
    Found loose (firstSome f as).value (firstSome g as).value := by
  induction as with
  | nil => exact .nothing
  | cons a rest ih =>
    have later := ih fun b member => found b (List.mem_cons_of_mem _ member)
    have first := (found a List.mem_cons_self).orElse (f := fun v => v) (g := fun v => v)
      (fun _ _ covers => covers) (fun _ unknown => unknown) later
    simp only [firstSome, Run.value_bind]
    revert first
    cases (f a).value <;> cases (g a).value <;> exact fun first => first

theorem resolve?_found {x : Variable} (steady : ∀ y ∈ x.steps, y.Steady loose locals)
    (completes : Scope.Completes loose locals s t) (provider : Provider)
    (bound : x.isLocal = true → ∀ name ∈ x.names, name ∈ locals) :
    Found loose (x.resolve? provider s).value (x.resolve? provider t).value :=
  firstSome_found fun name member =>
    resolveName?_found steady completes provider fun isLocal => bound isLocal name member

theorem resolve_covers {x : Variable} (steady : ∀ y ∈ x.steps, y.Steady loose locals)
    (completes : Scope.Completes loose locals s t) (provider : Provider)
    (bound : x.isLocal = true → ∀ name ∈ x.names, name ∈ locals) :
    (x.resolve provider s).value.Covers loose (x.resolve provider t).value :=
  (resolve?_found steady completes provider bound).getD _

theorem resolveUnchecked_covers (id : Int) (names : List String) {steps : List Step}
    (steady : ∀ y ∈ steps, y.Steady loose locals) (completes : Scope.Completes loose locals s t)
    (provider : Provider) :
    (resolveUnchecked id names steps provider s).value.Covers loose
      (resolveUnchecked id names steps provider t).value := by
  refine Found.getD (firstSome_found fun x member => ?_) _
  obtain ⟨i, -, rfl⟩ := List.mem_map.mp member
  exact resolve?_found (fun y later => steady y (List.mem_of_mem_drop later)) completes provider
    (fun isLocal => by cases isLocal)

end Variable

end ExprEngine
