import ExprEngine.Proofs.Evaluation.Value
import Mathlib.Data.List.Forall2

/-!
# Values of attributes

What an attribute refers to depends on its steps only through the values of their keys and of
their applications. `Step.Same` is this equivalence, and `resolve_congr` and
`resolveUnchecked_congr` say that names resolve alike through equivalent steps.
-/

namespace ExprEngine

namespace Attribute

theorem qualify_absolute (id : Int) (isLocal : Bool) (names : List String) (qs : List Qualifier)
    (q : Qualifier) :
    (absolute id isLocal names qs).qualify q = absolute id isLocal names (qs ++ [q]) := rfl

theorem qualify_ambiguous (id : Int) (names : List String) (qs : List Qualifier) (q : Qualifier) :
    (ambiguous id names qs).qualify q = ambiguous id names (qs ++ [q]) := rfl

theorem qualify_relative (id : Int) (operand : Plan) (qs : List Qualifier) (q : Qualifier) :
    (relative id operand qs).qualify q = relative id operand (qs ++ [q]) := rfl

theorem qualify_conditional (id : Int) (g : Plan) (t f : Attribute) (q : Qualifier) :
    (conditional id g t f).qualify q = conditional id g (t.qualify q) (f.qualify q) := rfl

/-- The attribute with more qualifiers, one after the other. -/
def qualifyAll (a : Attribute) (qs : List Qualifier) : Attribute := qs.foldl qualify a

@[simp] theorem qualifyAll_nil (a : Attribute) : a.qualifyAll [] = a := rfl

theorem qualifyAll_cons (a : Attribute) (q : Qualifier) (qs : List Qualifier) :
    a.qualifyAll (q :: qs) = (a.qualify q).qualifyAll qs := rfl

theorem qualifyAll_absolute (id : Int) (isLocal : Bool) (names : List String)
    (qs more : List Qualifier) :
    (absolute id isLocal names qs).qualifyAll more = absolute id isLocal names (qs ++ more) := by
  induction more generalizing qs with
  | nil => simp
  | cons q rest ih => rw [qualifyAll_cons, qualify_absolute, ih, List.append_assoc,
      List.singleton_append]

theorem qualifyAll_ambiguous (id : Int) (names : List String) (qs more : List Qualifier) :
    (ambiguous id names qs).qualifyAll more = ambiguous id names (qs ++ more) := by
  induction more generalizing qs with
  | nil => simp
  | cons q rest ih => rw [qualifyAll_cons, qualify_ambiguous, ih, List.append_assoc,
      List.singleton_append]

theorem qualifyAll_relative (id : Int) (operand : Plan) (qs more : List Qualifier) :
    (relative id operand qs).qualifyAll more = relative id operand (qs ++ more) := by
  induction more generalizing qs with
  | nil => simp
  | cons q rest ih => rw [qualifyAll_cons, qualify_relative, ih, List.append_assoc,
      List.singleton_append]

theorem qualifyAll_conditional (id : Int) (g : Plan) (t f : Attribute) (qs : List Qualifier) :
    (conditional id g t f).qualifyAll qs =
      conditional id g (t.qualifyAll qs) (f.qualifyAll qs) := by
  induction qs generalizing t f with
  | nil => rfl
  | cons q rest ih =>
    rw [qualifyAll_cons, qualify_conditional, ih, qualifyAll_cons, qualifyAll_cons]

variable [HostObjects]

/-- The attribute that the guards of conditionals lead to. -/
def chosen (provider : Provider) (scope : Scope) : Attribute → Attribute
  | conditional id g t f =>
    match (g.eval provider false scope).value with
    | .bool true => t.chosen provider scope
    | .bool false => f.chosen provider scope
    | _ => conditional id g t f
  | a => a

end Attribute

namespace Step

theorem value_walk_cons (scope : Scope) (s : Step) (rest : List Step) (v : Value) :
    (walk scope (s :: rest) v).value =
      if v.isFailure then v
      else (walk scope rest ((s.apply scope v).value.withExprId s.id)).value := by
  simp only [walk]
  split <;> rfl

theorem walk_of_failure (scope : Scope) (steps : List Step) {v : Value}
    (failed : v.isFailure = true) : (walk scope steps v).value = v := by
  cases steps with
  | nil => rfl
  | cons s rest => simp [value_walk_cons, failed]

/-- Steps that cannot be told apart by the values that they lead to. -/
structure Same (s t : Step) : Prop where
  label : s.label = t.label
  key : ∀ scope, (s.key scope).value = (t.key scope).value
  apply : ∀ scope v, (s.apply scope v).value = (t.apply scope v).value

theorem Same.refl (s : Step) : s.Same s := ⟨rfl, fun _ => rfl, fun _ _ => rfl⟩

theorem Same.id {s t : Step} (same : s.Same t) : s.id = t.id := congrArg Label.id same.label

variable {ss ts : List Step}

theorem walk_congr (same : List.Forall₂ Same ss ts) (scope : Scope) (v : Value) :
    (walk scope ss v).value = (walk scope ts v).value := by
  induction same generalizing v with
  | nil => rfl
  | cons first _ ih =>
    simp only [value_walk_cons, first.id, first.apply, ih]

theorem keys_congr (same : List.Forall₂ Same ss ts) (scope : Scope) :
    (keys scope ss).value = (keys scope ts).value := by
  induction same with
  | nil => rfl
  | cons first _ ih =>
    simp only [keys, Run.value_bind, first.key, apply_ite Run.value, ih]

theorem key_of_keys_error {scope : Scope} {steps : List Step} {u : Value}
    (stopped : (keys scope steps).value = .error u) :
    ∃ x ∈ steps, (x.key scope).value = u ∧ u.isUnknown = true := by
  induction steps with
  | nil => cases stopped
  | cons x rest ih =>
    simp only [keys, Run.value_bind, apply_ite Run.value, Run.value_pure] at stopped
    split at stopped
    · next unknown =>
      obtain rfl := Except.error.inj stopped
      exact ⟨x, List.mem_cons_self, rfl, unknown⟩
    · cases later : (keys scope rest).value with
      | ok ks =>
        rw [later] at stopped
        cases stopped
      | error e =>
        rw [later] at stopped
        obtain rfl := Except.error.inj stopped
        obtain ⟨y, member, found⟩ := ih later
        exact ⟨y, List.mem_cons_of_mem _ member, found⟩

theorem labels_congr (same : List.Forall₂ Same ss ts) : ss.map label = ts.map label := by
  induction same with
  | nil => rfl
  | cons first _ ih => simp [first.label, ih]

theorem map_id_eq (steps : List Step) : steps.map id = (steps.map label).map Label.id := by
  simp [id]

theorem text_eq (steps : List Step) :
    text steps = String.join ((steps.map label).map fun l =>
      match l.field with
      | some name => "." ++ name
      | none => "[..]") := by
  rw [text, List.map_map]
  rfl

theorem text_congr (same : List.Forall₂ Same ss ts) : text ss = text ts := by
  rw [text_eq, text_eq, labels_congr same]

theorem isEmpty_congr (same : List.Forall₂ Same ss ts) : ss.isEmpty = ts.isEmpty := by
  cases same <;> rfl

theorem drop_congr (same : List.Forall₂ Same ss ts) (n : Nat) :
    List.Forall₂ Same (ss.drop n) (ts.drop n) := by
  induction n generalizing ss ts with
  | zero => simpa using same
  | succ n ih =>
    cases same with
    | nil => simp
    | cons _ rest => simpa using ih rest

end Step

namespace Plan

variable [HostObjects]

theorem labels_steps (provider : Provider) (qs : List Qualifier) :
    (steps provider qs).map Step.label = qs.map Qualifier.label := by
  induction qs with
  | nil => rfl
  | cons q rest ih =>
    cases q <;> simp only [steps, List.map_cons, ih, Qualifier.label]

end Plan

namespace Variable

theorem value_firstSome {α : Type} (f : α → Run (Option Value)) (as : List α) :
    (firstSome f as).value = as.findSome? fun a => (f a).value := by
  induction as with
  | nil => rfl
  | cons a rest ih =>
    simp only [firstSome, Run.value_bind, List.findSome?_cons]
    cases (f a).value with
    | some v => rfl
    | none => exact ih

theorem firstSome_append {α : Type} (f : α → Run (Option Value)) (as bs : List α) :
    firstSome f (as ++ bs) = (do
      match ← firstSome f as with
      | some v => return some v
      | none => firstSome f bs) := by
  induction as with
  | nil => simp [firstSome]
  | cons a rest ih =>
    rw [List.cons_append, firstSome, firstSome, ih, bind_assoc]
    congr 1
    funext found
    cases found <;> simp

theorem firstSome_map {α β : Type} (f : β → Run (Option Value)) (g : α → β) (as : List α) :
    firstSome f (as.map g) = firstSome (fun a => f (g a)) as := by
  induction as with
  | nil => rfl
  | cons a rest ih => rw [List.map_cons, firstSome, firstSome, ih]

theorem firstSome_flatMap {α β : Type} (f : β → Run (Option Value)) (g : α → List β)
    (as : List α) :
    firstSome f (as.flatMap g) = firstSome (fun a => firstSome f (g a)) as := by
  induction as with
  | nil => rfl
  | cons a rest ih =>
    rw [List.flatMap_cons, firstSome_append, ih]
    rfl

theorem firstSome_congr {α β : Type} {f : α → Run (Option Value)} {g : β → Run (Option Value)}
    {as : List α} {bs : List β}
    (same : List.Forall₂ (fun a b => (f a).value = (g b).value) as bs) :
    (firstSome f as).value = (firstSome g bs).value := by
  induction same with
  | nil => rfl
  | @cons a b as bs first _ ih =>
    simp only [firstSome, Run.value_bind, first]
    cases (g b).value with
    | some v => rfl
    | none => exact ih

structure Same (x y : Variable) : Prop where
  id : x.id = y.id
  isLocal : x.isLocal = y.isLocal
  names : x.names = y.names
  steps : List.Forall₂ Step.Same x.steps y.steps

variable {x y : Variable}

theorem unknown?_congr (same : x.Same y) (scope : Scope) (name : String) :
    (x.unknown? scope name).value = (y.unknown? scope name).value := by
  simp only [unknown?]
  cases scope.patterns.filter (·.name == name) with
  | nil => rfl
  | cons p ps =>
    simp only [Step.isEmpty_congr same.steps, same.id, apply_ite Run.value]
    split
    · rfl
    · simp only [Run.value_bind, Step.keys_congr same.steps, Step.map_id_eq,
        Step.labels_congr same.steps]

/-- What the variable is under a name that nothing binds. -/
def unbound? (x : Variable) (provider : Provider) (name : String) : Option Value :=
  (provider.findIdent name).map fun v =>
    if x.steps.isEmpty then v else noSuchAttribute x.id (x.written ++ Step.text x.steps)

theorem unbound?_congr (same : x.Same y) (provider : Provider) (name : String) :
    x.unbound? provider name = y.unbound? provider name := by
  simp only [unbound?, Step.isEmpty_congr same.steps, Step.text_congr same.steps, written,
    same.names, same.id]

/-- The unknown that patterns make of the variable, unless it is one of a loop. -/
def marked? (x : Variable) (scope : Scope) (name : String) : Run (Option Value) :=
  if x.isLocal then pure none else x.unknown? scope name

def found? (x : Variable) (provider : Provider) (scope : Scope) (name : String) :
    Run (Option Value) := do
  match ← scope.resolve name with
  | some v => some <$> Step.walk scope x.steps v
  | none => return x.unbound? provider name

/-- Unknown patterns come first, then bindings, then the names that the provider knows. -/
theorem resolveName?_eq (x : Variable) (provider : Provider) (scope : Scope) (name : String) :
    x.resolveName? provider scope name = (do
      match ← x.marked? scope name with
      | some unknown => return some unknown
      | none => x.found? provider scope name) := by
  have found : (do
        match ← scope.resolve name with
        | some v => some <$> Step.walk scope x.steps v
        | none => match provider.findIdent name with
          | some v =>
            if x.steps.isEmpty then pure (some v)
            else pure (some (noSuchAttribute x.id (x.written ++ Step.text x.steps)))
          | none => pure none : Run (Option Value)) = x.found? provider scope name := by
    unfold found? unbound?
    congr 1
    funext bound
    cases bound with
    | some v => rfl
    | none =>
      cases provider.findIdent name with
      | none => rfl
      | some v => simp only [Option.map_some]; split <;> rfl
  unfold resolveName? marked?
  rw [← found]
  cases x.isLocal <;> rfl

theorem value_resolveName? (x : Variable) (provider : Provider) (scope : Scope) (name : String) :
    (x.resolveName? provider scope name).value =
      match if x.isLocal then none else (x.unknown? scope name).value with
      | some unknown => some unknown
      | none =>
        match (scope.resolve name).value with
        | some v => some (Step.walk scope x.steps v).value
        | none => x.unbound? provider name := by
  have found : (x.found? provider scope name).value =
      match (scope.resolve name).value with
      | some v => some (Step.walk scope x.steps v).value
      | none => x.unbound? provider name := by
    rw [found?, Run.value_bind]
    cases (scope.resolve name).value <;> rfl
  have marked : (x.marked? scope name).value =
      if x.isLocal then none else (x.unknown? scope name).value := apply_ite ..
  rw [resolveName?_eq, ← found, ← marked, Run.value_bind]
  cases (x.marked? scope name).value <;> rfl

theorem resolveName?_congr (same : x.Same y) (provider : Provider) (scope : Scope)
    (name : String) :
    (x.resolveName? provider scope name).value = (y.resolveName? provider scope name).value := by
  simp only [value_resolveName?, same.isLocal, unknown?_congr same, Step.walk_congr same.steps,
    unbound?_congr same]

theorem resolve?_congr (same : x.Same y) (provider : Provider) (scope : Scope) :
    (x.resolve? provider scope).value = (y.resolve? provider scope).value := by
  rw [resolve?, resolve?, same.names]
  apply firstSome_congr
  rw [List.forall₂_same]
  exact fun name _ => resolveName?_congr same provider scope name

theorem resolve_congr (same : x.Same y) (provider : Provider) (scope : Scope) :
    (x.resolve provider scope).value = (y.resolve provider scope).value := by
  simp only [resolve, Run.value_bind, Run.value_pure, resolve?_congr same, same.id, written,
    same.names]

theorem resolveUnchecked_congr {ss ts : List Step} (same : List.Forall₂ Step.Same ss ts) (id : Int)
    (names : List String) (provider : Provider) (scope : Scope) :
    (resolveUnchecked id names ss provider scope).value =
      (resolveUnchecked id names ts provider scope).value := by
  have readings : List.Forall₂ Same (ofUnchecked id names ss) (ofUnchecked id names ts) := by
    simp only [ofUnchecked, Step.labels_congr same, List.forall₂_map_left_iff,
      List.forall₂_map_right_iff, List.forall₂_same]
    exact fun i _ => ⟨rfl, rfl, rfl, Step.drop_congr same i.taken⟩
  simp only [resolveUnchecked, Run.value_bind, Run.value_pure, Step.text_congr same]
  rw [firstSome_congr (readings.imp fun _ _ same => resolve?_congr same provider scope)]

end Variable

namespace Plan

variable [HostObjects]

variable (provider : Provider)

theorem steps_cons (q : Qualifier) (qs : List Qualifier) :
    steps provider (q :: qs) = steps provider [q] ++ steps provider qs := by
  cases q <;> rfl

theorem steps_append (qs more : List Qualifier) :
    steps provider (qs ++ more) = steps provider qs ++ steps provider more := by
  induction qs with
  | nil => rfl
  | cons q rest ih => rw [List.cons_append, steps_cons, ih, steps_cons provider q rest,
      List.append_assoc]

theorem value_relative (id : Int) (operand : Plan) (qs : List Qualifier) (everything : Bool)
    (scope : Scope) :
    (resolve provider (.relative id operand qs) everything scope).value =
      (Step.walk scope (steps provider qs) (eval provider operand false scope).value).value := rfl

theorem value_conditionalAttribute (id : Int) (g : Plan) (t f : Attribute) (everything : Bool)
    (scope : Scope) :
    (resolve provider (.conditional id g t f) everything scope).value =
      Value.select id (eval provider g false scope).value
        (resolve provider t everything scope).value
        (resolve provider f everything scope).value := by
  cases everything with
  | true => rfl
  | false =>
    simp only [resolve, Run.value_bind]
    cases (eval provider g false scope).value with
    | bool b => cases b <;> rfl
    | _ => rfl

/-- Resolving both branches of a conditional does not change which one counts. -/
theorem resolve_everything (a : Attribute) (everything other : Bool) (scope : Scope) :
    (resolve provider a everything scope).value = (resolve provider a other scope).value := by
  cases a with
  | absolute | ambiguous | relative => rfl
  | conditional id g t f =>
    rw [value_conditionalAttribute, value_conditionalAttribute,
      resolve_everything t everything other, resolve_everything f everything other]

end Plan

end ExprEngine
