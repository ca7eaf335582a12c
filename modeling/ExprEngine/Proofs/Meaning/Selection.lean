import ExprEngine.Proofs.Evaluation.Steps
import ExprEngine.Proofs.Meaning.Alike
import ExprEngine.Proofs.Meaning.Basic
import ExprEngine.Proofs.Planning.Congruence

/-!
# Selections from names

Where no longer name is bound, an unchecked name with steps leads to what the steps select from
the value of the name.
-/

namespace ExprEngine

namespace Interpretation

/-- The names that the leading fields of a path make of a name. -/
def extensions (names : List String) : List (Option String) → List String
  | some field :: rest =>
    let longer := names.map (· ++ "." ++ field)
    longer ++ extensions longer rest
  | _ => []

theorem all_eq (id : Int) (names : List String) (taken : Nat) (labels : List Label) :
    ∃ longer, all id names taken labels = longer ++ [⟨id, names, taken⟩] ∧
      ∀ i ∈ longer, ∀ name ∈ i.names, name ∈ extensions names (labels.map Label.field) := by
  induction labels generalizing id names taken with
  | nil => exact ⟨[], rfl, fun i member => by cases member⟩
  | cons label rest ih =>
    rw [all]
    cases selects : label.field with
    | none => exact ⟨[], rfl, fun i member => by cases member⟩
    | some field =>
      simp only [List.map_cons, selects, extensions]
      split
      · exact ⟨[], rfl, fun i member => by cases member⟩
      · obtain ⟨longer, eq, extended⟩ := ih label.id (names.map (· ++ "." ++ field)) (taken + 1)
        refine ⟨longer ++ [⟨label.id, names.map (· ++ "." ++ field), taken + 1⟩], by rw [eq], ?_⟩
        intro i member name named
        rcases List.mem_append.mp member with member | member
        · exact List.mem_append_right _ (extended i member name named)
        · obtain rfl := List.mem_singleton.mp member
          exact List.mem_append_left _ named

end Interpretation

namespace Scope

variable [TrustedObjects]

/-- The name is a variable of a loop around, or bound outside of all loops. -/
def Binds (base : Scope) (locals : List String) (name : String) : Prop :=
  name ∈ locals ∨ (base.resolve name).value.isSome = true

structure Mirrors (base : Scope) (locals : List String) (s t : Scope) : Prop where
  plain : s.patterns = []
  bound : ∀ name, base.Binds locals name → ∃ v w, (s.resolve name).value = some v ∧
    (t.resolve name).value = some w ∧ v.Alike w
  free : ∀ name, ¬ base.Binds locals name → (s.resolve name).value = none ∧
    (t.resolve name).value = none

theorem Mirrors.frame {base s t : Scope} {locals : List String} (mirrors : Mirrors base locals s t)
    (name : String) {v w : Value} (alike : v.Alike w) :
    Mirrors base (name :: locals) (.frame s name v) (.frame t name w) where
  plain := mirrors.plain
  bound other binds := by
    simp only [resolve]
    by_cases same : other = name
    · simp only [same, ↓reduceIte]
      exact ⟨v, w, rfl, rfl, alike⟩
    · simp only [same, ↓reduceIte]
      refine mirrors.bound other (binds.imp_left fun member => ?_)
      exact (List.mem_cons.mp member).resolve_left same
  free other unbound := by
    simp only [resolve]
    have different : other ≠ name := fun same => unbound (.inl (same ▸ List.mem_cons_self))
    simp only [different, ↓reduceIte]
    exact mirrors.free other fun binds => unbound (binds.imp_left (List.mem_cons_of_mem _))

end Scope

namespace Step

variable [TrustedObjects]

/-- The step does to a whole value what the function does, and the function keeps errors. -/
structure Mirrors (s : Scope) (x : Step) (f : Value → Value) : Prop where
  whole : ∀ v : Value, v.isWhole = true → ((x.apply s v).value.withExprId x.id).Alike (f v)
  error : ∀ (e : EvalError) (id : Int), e.exprId = some id → f (.error e) = .error e

def applyAll (fs : List (Value → Value)) (v : Value) : Value := fs.foldl (fun w f => f w) v

variable {s : Scope} {steps : List Step} {fs : List (Value → Value)}

theorem applyAll_error (mirrors : List.Forall₂ (Mirrors s) steps fs) {e : EvalError} {id : Int}
    (known : e.exprId = some id) : applyAll fs (.error e) = .error e := by
  induction mirrors with
  | nil => rfl
  | @cons x f xs fs first _ ih =>
    change applyAll fs (f (.error e)) = _
    rw [first.error e id known, ih]

theorem walk_alike (mirrors : List.Forall₂ (Mirrors s) steps fs) {v w : Value}
    (alike : v.Alike w) : (walk s steps v).value.Alike (applyAll fs w) := by
  induction mirrors generalizing v w with
  | nil => exact alike
  | @cons x f xs fs first others ih =>
    rcases alike with ⟨rfl, whole⟩ | ⟨e, e', id, rfl, rfl, kind, left, right⟩
    · rw [value_walk_cons, Value.isFailure_of_isWhole whole]
      exact ih (first.whole v whole)
    · rw [walk_of_failure s _ rfl, applyAll_error (.cons first others) right]
      exact Value.alike_error kind left right

end Step

namespace Variable

variable {base s t : Scope} {locals : List String} {provider : Provider}

theorem value_resolveName?_plain (x : Variable) (plain : s.patterns = []) (name : String) :
    (x.resolveName? provider s name).value =
      match (s.resolve name).value with
      | some v => some (Step.walk s x.steps v).value
      | none => x.unbound? provider name := by
  have unmarked : (if x.isLocal then none else (x.unknown? s name).value) = none := by
    split
    · rfl
    · rw [unknown?, plain]
      rfl
  have resolved := value_resolveName? x provider s name
  rw [unmarked] at resolved
  exact resolved

theorem exprId_noSuchAttribute (id : Int) (name : String) :
    ∃ e : EvalError, noSuchAttribute id name = .error e ∧ e.exprId = some id := ⟨_, rfl, rfl⟩

theorem noSuchAttribute_alike [TrustedObjects] (id : Int) (name other : String) :
    (noSuchAttribute id name).Alike (noSuchAttribute id other) :=
  .inr ⟨_, _, id, rfl, rfl, rfl, rfl, rfl⟩

/-- No extension of the names is bound or known to the provider, and what is selected from is
bound. -/
structure Direct (base : Scope) (locals : List String) (provider : Provider) (names : List String)
    (trail : List (Option String)) : Prop where
  extended : ∀ name ∈ Interpretation.extensions names trail,
    ¬ base.Binds locals name ∧ provider.findIdent name = none
  untyped : trail ≠ [] → ∀ before name after, names = before ++ name :: after →
    (∀ other ∈ before, ¬ base.Binds locals other ∧ provider.findIdent other = none) →
    (provider.findIdent name).isSome = true → base.Binds locals name

/-- Outside of loops, names of nothing that the provider knows are direct where their extensions
are free. -/
theorem direct_of_free {names : List String} {trail : List (Option String)}
    (free : ∀ name ∈ Interpretation.extensions names trail,
      (base.resolve name).value.isSome = false ∧ (provider.findIdent name).isSome = false)
    (untyped : ∀ name ∈ names, (provider.findIdent name).isSome = false) :
    Direct base [] provider names trail where
  extended name extension := by
    obtain ⟨unbound, unknown⟩ := free name extension
    refine ⟨fun binds => ?_, Option.not_isSome_iff_eq_none.mp (by simp [unknown])⟩
    rcases binds with bound | bound
    · cases bound
    · rw [unbound] at bound
      cases bound
  untyped _ before name after split _ known := by
    rw [untyped name (split ▸ by simp)] at known
    cases known

theorem value_firstSome_append {α : Type} (f : α → Run (Option Value)) (as bs : List α) :
    (firstSome f (as ++ bs)).value = (firstSome f as).value.or (firstSome f bs).value := by
  rw [value_firstSome, value_firstSome, value_firstSome, List.findSome?_append]

theorem firstSome_none {α : Type} {f : α → Run (Option Value)} {as : List α}
    (nothing : ∀ a ∈ as, (f a).value = none) : (firstSome f as).value = none := by
  rw [value_firstSome]
  exact List.findSome?_eq_none_iff.mpr nothing

variable [TrustedObjects]

theorem resolve?_unbound (mirrors : Scope.Mirrors base locals s t) {x : Variable}
    (unbound : ∀ name ∈ x.names, ¬ base.Binds locals name ∧ provider.findIdent name = none) :
    (x.resolve? provider s).value = none :=
  firstSome_none fun name member => by
    obtain ⟨free, unknown⟩ := unbound name member
    rw [value_resolveName?_plain x mirrors.plain, (mirrors.free name free).1, unbound?, unknown]
    rfl

section Names

variable {steps : List Step} {fs : List (Value → Value)}

theorem resolve?_names (mirrors : Scope.Mirrors base locals s t)
    (known : ∀ name v, provider.findIdent name = some v → v.isWhole = true)
    (applied : List.Forall₂ (Step.Mirrors s) steps fs) {x : Variable} (has : x.steps = steps)
    {names : List String}
    (untyped : steps ≠ [] → ∀ before name after, names = before ++ name :: after →
      (∀ other ∈ before, ¬ base.Binds locals other ∧ provider.findIdent other = none) →
      (provider.findIdent name).isSome = true → base.Binds locals name) :
    ((firstSome (x.resolveName? provider s) names).value = none ∧ t.named? provider names = none) ∨
      ∃ v w, (firstSome (x.resolveName? provider s) names).value = some v ∧
        t.named? provider names = some w ∧ v.Alike (Step.applyAll fs w) := by
  induction names with
  | nil => exact .inl ⟨rfl, rfl⟩
  | cons name rest ih =>
    simp only [firstSome, Run.value_bind, value_resolveName?_plain x mirrors.plain, has,
      Scope.named?, List.findSome?_cons]
    by_cases binds : base.Binds locals name
    · obtain ⟨v, w, left, right, alike⟩ := mirrors.bound name binds
      rw [left, right]
      exact .inr ⟨_, w, rfl, rfl, Step.walk_alike applied alike⟩
    · obtain ⟨left, right⟩ := mirrors.free name binds
      rw [left, right, unbound?, has]
      cases found : provider.findIdent name with
      | none =>
        refine ih fun selects before other after split unbound => ?_
        refine untyped selects (name :: before) other after (by rw [split]; rfl)
          fun earlier member => ?_
        rcases List.mem_cons.mp member with rfl | member
        · exact ⟨binds, found⟩
        · exact unbound earlier member
      | some v =>
        have bare : steps = [] := by
          by_contra selects
          exact binds (untyped selects [] name rest rfl (by simp) (by rw [found]; rfl))
        subst bare
        cases applied
        exact .inr ⟨v, v, rfl, rfl, Value.alike_of_whole (known name v found)⟩

/-- An unchecked name with steps leads to what they select from the value of the name. -/
theorem resolveUnchecked_alike (mirrors : Scope.Mirrors base locals s t)
    (known : ∀ name v, provider.findIdent name = some v → v.isWhole = true)
    (applied : List.Forall₂ (Step.Mirrors s) steps fs) (id : Int) {names : List String}
    (direct : Direct base locals provider names (steps.map fun x => x.label.field)) :
    (resolveUnchecked id names steps provider s).value.Alike
      (Step.applyAll fs ((t.named? provider names).getD
        (noSuchAttribute id (names.getLast?.getD "")))) := by
  obtain ⟨longer, eq, extended⟩ := Interpretation.all_eq id names 0 (steps.map Step.label)
  have readings : ofUnchecked id names steps =
      longer.map (fun i => ⟨i.id, false, i.names, steps.drop i.taken⟩) ++
        [⟨id, false, names, steps⟩] := by
    rw [ofUnchecked, eq, List.map_append]
    rfl
  have unextended : (firstSome (·.resolve? provider s)
      (longer.map fun i =>
        (⟨i.id, false, i.names, steps.drop i.taken⟩ : Variable))).value = none := by
    refine firstSome_none fun x member => ?_
    obtain ⟨i, listed, rfl⟩ := List.mem_map.mp member
    refine resolve?_unbound mirrors fun name named => direct.extended name ?_
    have extension := extended i listed name named
    rwa [List.map_map] at extension
  simp only [resolveUnchecked, Run.value_bind, Run.value_pure, readings, value_firstSome_append,
    unextended, Option.none_or]
  have single : (firstSome (·.resolve? provider s)
      [(⟨id, false, names, steps⟩ : Variable)]).value =
      (firstSome ((⟨id, false, names, steps⟩ : Variable).resolveName? provider s) names).value := by
    simp only [firstSome, Run.value_bind, resolve?]
    cases
      (firstSome ((⟨id, false, names, steps⟩ : Variable).resolveName? provider s) names).value <;>
      rfl
  rw [single]
  have untyped := direct.untyped
  rcases resolve?_names mirrors known applied (x := ⟨id, false, names, steps⟩) rfl
    (fun selects => untyped (by simpa using selects)) with
    ⟨left, right⟩ | ⟨v, w, left, right, alike⟩
  · rw [left, right, Option.getD_none, Option.getD_none]
    have kept : Step.applyAll fs (noSuchAttribute id (names.getLast?.getD "")) =
        noSuchAttribute id (names.getLast?.getD "") := by
      obtain ⟨e, isError, known⟩ := exprId_noSuchAttribute id (names.getLast?.getD "")
      rw [isError, Step.applyAll_error applied known]
    rw [kept]
    exact noSuchAttribute_alike id _ _
  · rw [left, right]
    exact alike

theorem resolve_local_alike (mirrors : Scope.Mirrors base locals s t)
    (applied : List.Forall₂ (Step.Mirrors s) steps fs) (id : Int) {name : String}
    (bound : name ∈ locals) :
    ((⟨id, true, [name], steps⟩ : Variable).resolve provider s).value.Alike
      (Step.applyAll fs ((t.named? provider [name]).getD (noSuchAttribute id name))) := by
  obtain ⟨v, w, left, right, alike⟩ := mirrors.bound name (.inl bound)
  have found : t.named? provider [name] = some w := by
    simp only [Scope.named?, List.findSome?_cons, right, Option.some_or]
  simp only [resolve, resolve?, firstSome, Run.value_bind, Run.value_pure,
    value_resolveName?_plain _ mirrors.plain, left, found]
  exact Step.walk_alike applied alike

end Names

end Variable

end ExprEngine
