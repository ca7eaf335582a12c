import ExprEngine.Proofs.Evaluation.Demand
import ExprEngine.Proofs.Evaluation.Steps

/-!
# Values in scopes

The value of a plan depends on its scope only through the values of the names that it reads and
through the patterns in force. So it is the same in a scope that has values recorded, and in a scope
that has a variable more that the plan does not read.
-/

namespace ExprEngine

namespace Scope

/-- Scopes that resolve every name to the same value, and mark the same as unknown. -/
structure Same (s t : Scope) : Prop where
  resolve : ∀ name, (s.resolve name).value = (t.resolve name).value
  patterns : s.patterns = t.patterns

theorem recording_same (s : Scope) : Same (.recording s) s := ⟨fun _ => rfl, rfl⟩

/-- Scopes that are the same as far as they can be seen: in the names that are bound further in, and
in the visible ones. -/
structure Agree (bound : List String) (visible : String → Prop) (s t : Scope) : Prop where
  resolve : ∀ name, name ∈ bound ∨ visible name → (s.resolve name).value = (t.resolve name).value
  patterns : s.patterns = t.patterns

variable {bound : List String} {visible : String → Prop} {s t : Scope}

theorem Same.agree (same : s.Same t) (bound : List String) (visible : String → Prop) :
    s.Agree bound visible t :=
  ⟨fun name _ => same.resolve name, same.patterns⟩

theorem Agree.frame (agree : s.Agree bound visible t) (name : String) (v : Value) :
    Agree (name :: bound) visible (.frame s name v) (.frame t name v) where
  resolve other seen := by
    simp only [Scope.resolve, apply_ite Run.value]
    split
    · rfl
    · next apart =>
      apply agree.resolve
      exact seen.imp_left fun member => (List.mem_cons.mp member).resolve_left apart
  patterns := agree.patterns

end Scope

namespace Interpretation

/-- The names of an interpretation are the given ones, or they are longer. -/
theorem of_mem_all {P : String → Prop} (dotted : ∀ name field, P (name ++ "." ++ field))
    (id : Int) {names : List String} (given : ∀ name ∈ names, P name) (taken : Nat)
    (labels : List Label) : ∀ i ∈ all id names taken labels, ∀ name ∈ i.names, P name := by
  induction labels generalizing id names taken with
  | nil =>
    intro i member
    obtain rfl := List.mem_singleton.mp member
    exact given
  | cons label rest ih =>
    have single : ∀ i ∈ [(⟨id, names, taken⟩ : Interpretation)], ∀ name ∈ i.names, P name := by
      intro i member
      obtain rfl := List.mem_singleton.mp member
      exact given
    rw [all]
    split
    · next field _ =>
      split
      · exact single
      · intro i member
        rcases List.mem_append.mp member with member | member
        · refine ih label.id (fun name named => ?_) (taken + 1) i member
          obtain ⟨shorter, -, rfl⟩ := List.mem_map.mp named
          exact dotted shorter field
        · exact single i member
    · exact single

end Interpretation

variable {s t : Scope}

namespace Step

structure Agrees (s t : Scope) (x : Step) : Prop where
  key : (x.key s).value = (x.key t).value
  apply : ∀ v, (x.apply s v).value = (x.apply t v).value

variable {steps : List Step}

theorem walk_agree (agree : ∀ x ∈ steps, x.Agrees s t) (v : Value) :
    (walk s steps v).value = (walk t steps v).value := by
  induction steps generalizing v with
  | nil => rfl
  | cons x rest ih =>
    have first := (agree x List.mem_cons_self).apply
    have others := ih fun y member => agree y (List.mem_cons_of_mem x member)
    simp only [value_walk_cons, first, others]

theorem keys_agree (agree : ∀ x ∈ steps, x.Agrees s t) :
    (keys s steps).value = (keys t steps).value := by
  induction steps with
  | nil => rfl
  | cons x rest ih =>
    have first := (agree x List.mem_cons_self).key
    have others := ih fun y member => agree y (List.mem_cons_of_mem x member)
    simp only [keys, Run.value_bind, first, apply_ite Run.value, others]

end Step

namespace Variable

variable {bound : List String} {visible : String → Prop}

theorem unknown?_agree {x : Variable} (steps : ∀ y ∈ x.steps, y.Agrees s t)
    (patterns : s.patterns = t.patterns) (name : String) :
    (x.unknown? s name).value = (x.unknown? t name).value := by
  simp only [unknown?, patterns]
  cases t.patterns.filter (·.name == name) with
  | nil => rfl
  | cons p ps =>
    simp only [apply_ite Run.value, Run.value_bind, Step.keys_agree steps]

theorem resolveName?_agree {x : Variable} {name : String} (steps : ∀ y ∈ x.steps, y.Agrees s t)
    (marked : (x.unknown? s name).value = (x.unknown? t name).value)
    (found : (s.resolve name).value = (t.resolve name).value) (provider : Provider) :
    (x.resolveName? provider s name).value = (x.resolveName? provider t name).value := by
  simp only [value_resolveName?, marked, found, Step.walk_agree steps]

section Names

variable {provider : Provider}

theorem resolve?_of_names {x : Variable} (same : ∀ name ∈ x.names,
    (x.resolveName? provider s name).value = (x.resolveName? provider t name).value) :
    (x.resolve? provider s).value = (x.resolve? provider t).value := by
  unfold resolve?
  apply firstSome_congr
  rw [List.forall₂_same]
  exact same

theorem resolve_of_names {x : Variable} (same : ∀ name ∈ x.names,
    (x.resolveName? provider s name).value = (x.resolveName? provider t name).value) :
    (x.resolve provider s).value = (x.resolve provider t).value := by
  simp only [resolve, Run.value_bind, Run.value_pure, resolve?_of_names same]

theorem of_mem_ofUnchecked {id : Int} {names : List String} {steps : List Step} {x : Variable}
    (member : x ∈ ofUnchecked id names steps) :
    x.isLocal = false ∧ ∀ y ∈ x.steps, y ∈ steps := by
  obtain ⟨i, -, rfl⟩ := List.mem_map.mp member
  exact ⟨rfl, fun y kept => List.mem_of_mem_drop kept⟩

theorem resolveUnchecked_of_names {id : Int} {names : List String} {steps : List Step}
    (same : ∀ x ∈ ofUnchecked id names steps, ∀ name ∈ x.names,
      (x.resolveName? provider s name).value = (x.resolveName? provider t name).value) :
    (resolveUnchecked id names steps provider s).value =
      (resolveUnchecked id names steps provider t).value := by
  have readings : (firstSome (·.resolve? provider s) (ofUnchecked id names steps)).value =
      (firstSome (·.resolve? provider t) (ofUnchecked id names steps)).value := by
    apply firstSome_congr
    rw [List.forall₂_same]
    exact fun x member => resolve?_of_names (same x member)
  simp only [resolveUnchecked, Run.value_bind, Run.value_pure, readings]

end Names

theorem resolve_agree {x : Variable} (agree : s.Agree bound visible t)
    (reads : ∀ name ∈ x.names, name ∈ bound ∨ visible name) (steps : ∀ y ∈ x.steps, y.Agrees s t)
    (provider : Provider) : (x.resolve provider s).value = (x.resolve provider t).value :=
  resolve_of_names fun name member =>
    resolveName?_agree steps (unknown?_agree steps agree.patterns name)
      (agree.resolve name (reads name member)) provider

/-- The names that come from fields have dots, so a visible name cannot hide them. -/
theorem resolveUnchecked_agree (dotted : ∀ name field, visible (name ++ "." ++ field))
    (agree : s.Agree bound visible t) {names : List String}
    (reads : ∀ name ∈ names, name ∈ bound ∨ visible name) {steps : List Step}
    (agreeing : ∀ y ∈ steps, y.Agrees s t) (id : Int) (provider : Provider) :
    (resolveUnchecked id names steps provider s).value =
      (resolveUnchecked id names steps provider t).value := by
  refine resolveUnchecked_of_names fun x member name named => ?_
  have kept : ∀ y ∈ x.steps, y.Agrees s t := fun y taken =>
    agreeing y ((of_mem_ofUnchecked member).2 y taken)
  obtain ⟨i, listed, rfl⟩ := List.mem_map.mp member
  have longer : name ∈ bound ∨ visible name :=
    Interpretation.of_mem_all (fun name field => .inr (dotted name field)) id reads 0 _ i listed
      name named
  exact resolveName?_agree kept (unknown?_agree kept agree.patterns name)
    (agree.resolve name longer) provider

end Variable

namespace Plan

variable [HostObjects]

/-! ### Congruences of scopes -/

/-- A relation of scopes that the variables of plans made on demand cannot tell apart, through
whatever steps that lead to the same values. It extends to the frames of loops. -/
structure Congruence (k : Demand) (provider : Provider)
    (R : List String → Scope → Scope → Prop) : Prop where
  frame : ∀ {bound s t}, R bound s t → ∀ name v,
    R (name :: bound) (.frame s name v) (.frame t name v)
  absolute : ∀ {bound s t id isLocal names qs}, R bound s t → k.names bound isLocal names →
    (∀ x ∈ steps provider qs, x.Agrees s t) →
    (resolve provider (.absolute id isLocal names qs) false s).value =
      (resolve provider (.absolute id isLocal names qs) false t).value
  ambiguous : ∀ {bound s t id names qs}, R bound s t → k.names bound false names →
    (∀ x ∈ steps provider qs, x.Agrees s t) →
    (resolve provider (.ambiguous id names qs) false s).value =
      (resolve provider (.ambiguous id names qs) false t).value

section Congruence

variable {k : Demand} {provider : Provider} {R : List String → Scope → Scope → Prop}

mutual

theorem value_congruent (congruence : Congruence k provider R) {p : Plan} {bound : List String}
    (made : p.Made k bound) (everything : Bool) {s t : Scope} (related : R bound s t) :
    (eval provider p everything s).value = (eval provider p everything t).value := by
  match p with
  | const id v => rfl
  | attr id a => exact resolve_congruent congruence made everything related
  | both id l r =>
    rw [value_both, value_both, value_congruent congruence made.1 false related,
      value_congruent congruence made.2 false related]
  | either id l r =>
    rw [value_either, value_either, value_congruent congruence made.1 false related,
      value_congruent congruence made.2 false related]
  | conditional id g t f =>
    obtain ⟨guard, whenTrue, whenFalse⟩ := made
    rw [value_conditional, value_conditional, value_congruent congruence guard false related,
      value_congruent congruence whenTrue false related,
      value_congruent congruence whenFalse false related]
  | call id function args overloads =>
    rw [value_call, value_call, values_congruent congruence made.2 related]
  | list id elements => rw [value_list, value_list, values_congruent congruence made related]
  | mapping id entries =>
    rw [value_mapping, value_mapping, entries_congruent congruence made related]
  | object id typeName fields =>
    rw [value_object, value_object, fields_congruent congruence made related]
  | presence id operand field access =>
    have same := value_congruent (p := operand) congruence made false related
    rw [value_presence, value_presence, same]
  | loop id iterVar range accuVar init condition step result =>
    obtain ⟨ranged, started, conditioned, stepped, resulted⟩ := made
    have framed (accu x : Value) :=
      congruence.frame (congruence.frame related accuVar accu) iterVar x
    have iterated (elements : List Value) (start : Value) := @iterate_congr everything _ _ _ _
      (fun accu x => value_congruent congruence conditioned false (framed accu x))
      (fun accu x => value_congruent congruence stepped false (framed accu x)) elements start
    have ended (accu : Value) :=
      value_congruent congruence resulted false (congruence.frame related accuVar accu)
    simp only [value_loop, inside, value_congruent congruence ranged false related,
      value_congruent congruence started false related, iterated, ended]
  | membership id element items keys function overloads =>
    rw [value_membership, value_membership, value_congruent congruence made.2 false related]
  | search id text source pattern function overloads =>
    rw [value_search, value_search, value_congruent congruence made.2 false related]
  | exhaustive inner => exact value_congruent congruence made.2 true related
  | observed inner =>
    have same := value_congruent (p := inner) congruence made false related
    rw [value_observed, value_observed, same]

theorem values_congruent (congruence : Congruence k provider R) {ps : List Plan}
    {bound : List String} (made : MadeAll k ps bound) {s t : Scope} (related : R bound s t) :
    (ps.map fun p => (eval provider p false s).value) =
      ps.map fun p => (eval provider p false t).value := by
  match ps with
  | [] => rfl
  | p :: rest =>
    rw [List.map_cons, List.map_cons, value_congruent congruence made.1 false related,
      values_congruent congruence made.2 related]

theorem entries_congruent (congruence : Congruence k provider R) {entries : List (Plan × Plan)}
    {bound : List String} (made : MadeKeyed k entries bound) {s t : Scope}
    (related : R bound s t) :
    (entries.map fun e => ((eval provider e.1 false s).value, (eval provider e.2 false s).value)) =
      entries.map fun e => ((eval provider e.1 false t).value, (eval provider e.2 false t).value) :=
      by
  match entries with
  | [] => rfl
  | (k, v) :: rest =>
    obtain ⟨key, value, others⟩ := made
    rw [List.map_cons, List.map_cons, value_congruent congruence key false related,
      value_congruent congruence value false related, entries_congruent congruence others related]

theorem fields_congruent (congruence : Congruence k provider R) {fields : List (String × Plan)}
    {bound : List String} (made : MadeFields k fields bound) {s t : Scope}
    (related : R bound s t) :
    (fields.map fun f => (f.1, (eval provider f.2 false s).value)) = fields.map fun f =>
      (f.1, (eval provider f.2 false t).value) := by
  match fields with
  | [] => rfl
  | (name, v) :: rest =>
    rw [List.map_cons, List.map_cons, value_congruent congruence made.1 false related,
      fields_congruent congruence made.2 related]

theorem resolve_congruent (congruence : Congruence k provider R) {a : Attribute}
    {bound : List String} (made : MadeAttribute k a bound) (everything : Bool) {s t : Scope}
    (related : R bound s t) :
    (resolve provider a everything s).value = (resolve provider a everything t).value := by
  match a with
  | .absolute id isLocal names qs =>
    exact congruence.absolute related made.1 (steps_congruent congruence made.2 related)
  | .ambiguous id names qs =>
    exact congruence.ambiguous related made.1 (steps_congruent congruence made.2 related)
  | .relative id operand qs =>
    rw [value_relative, value_relative, value_congruent congruence made.1 false related,
      Step.walk_agree (steps_congruent congruence made.2 related)]
  | .conditional id g t f =>
    obtain ⟨guard, whenTrue, whenFalse⟩ := made
    rw [value_conditionalAttribute, value_conditionalAttribute,
      value_congruent congruence guard false related,
      resolve_congruent congruence whenTrue everything related,
      resolve_congruent congruence whenFalse everything related]

theorem steps_congruent (congruence : Congruence k provider R) {qs : List Qualifier}
    {bound : List String} (made : MadeQualifiers k qs bound) {s t : Scope}
    (related : R bound s t) : ∀ x ∈ steps provider qs, x.Agrees s t := by
  match qs with
  | [] => exact fun _ member => nomatch member
  | .field id name access :: rest =>
    have others : MadeQualifiers k rest bound := made
    intro x member
    rcases List.mem_cons.mp member with rfl | member
    · exact ⟨rfl, fun _ => rfl⟩
    · exact steps_congruent congruence others related x member
  | .constant id key :: rest =>
    have others : MadeQualifiers k rest bound := made
    intro x member
    rcases List.mem_cons.mp member with rfl | member
    · exact ⟨rfl, fun _ => rfl⟩
    · exact steps_congruent congruence others related x member
  | .computed id key :: rest =>
    have keys := value_congruent congruence made.1 false related
    intro x member
    rcases List.mem_cons.mp member with rfl | member
    · exact ⟨keys, fun v => by simp [keys]⟩
    · exact steps_congruent congruence made.2 related x member

end

end Congruence

/-! ### Scopes that agree on what is read -/

def reading (visible : String → Prop) : Demand where
  calls _ := True
  names bound _ names := ∀ name ∈ names, name ∈ bound ∨ visible name
  wraps _ := True

variable {visible : String → Prop}

theorem agree_congruence (dotted : ∀ name field, visible (name ++ "." ++ field))
    (provider : Provider) :
    Congruence (reading visible) provider fun bound => Scope.Agree bound visible where
  frame agree := agree.frame
  absolute {_ _ _ id isLocal names qs} agree reads steps :=
    Variable.resolve_agree (x := ⟨id, isLocal, names, Plan.steps provider qs⟩) agree reads steps
      provider
  ambiguous {_ _ _ id _ _} agree reads steps :=
    Variable.resolveUnchecked_agree dotted agree reads steps id provider

theorem value_agree (dotted : ∀ name field, visible (name ++ "." ++ field)) (provider : Provider)
    {p : Plan} {bound : List String} (reads : p.Made (reading visible) bound) (everything : Bool)
    {s t : Scope} (agree : s.Agree bound visible t) :
    (eval provider p everything s).value = (eval provider p everything t).value :=
  value_congruent (agree_congruence dotted provider) reads everything agree

omit [HostObjects] in
theorem reading_always : (reading fun _ => True).Always :=
  ⟨fun _ => trivial, fun _ _ _ _ _ => .inr trivial, fun _ => trivial⟩

theorem value_stable (provider : Provider) (p : Plan) (everything : Bool) {s t : Scope}
    (same : s.Same t) :
    (eval provider p everything s).value = (eval provider p everything t).value :=
  value_agree (fun _ _ => trivial) provider (made_of_always reading_always p []) everything
    (same.agree [] _)

end Plan

end ExprEngine
