import ExprEngine.Plan.Bounds
import ExprEngine.Proofs.Evaluation.Logs
import ExprEngine.Proofs.Scope.Readings
import Mathlib.Data.List.Perm.Subperm

/-!
# Evaluations of keys

The computed keys of a variable are evaluated to select from its value. Where patterns name the
variable, they are evaluated before that to compare them with the patterns, for each of its names
anew, and nothing is kept of them. So one resolution evaluates a key once, and once more for each
name that is tried and that patterns name.
-/

namespace ExprEngine

/-! ### Traces -/

namespace Run

variable {α β : Type}

/-- The log without look-ups: what is left is of plans and of calls. -/
def trace (r : Run α) : List Event := r.log.filter fun e => !e.isPlain

@[simp] theorem trace_pure (a : α) : (pure a : Run α).trace = [] := rfl

@[simp] theorem trace_bind (r : Run α) (f : α → Run β) :
    (r >>= f).trace = r.trace ++ (f r.value).trace := by
  rw [trace, log_bind, List.filter_append]
  rfl

@[simp] theorem trace_map (f : α → β) (r : Run α) : (f <$> r).trace = r.trace := by
  rw [trace, log_map]
  rfl

theorem trace_emit {e : Event} (plain : e.isPlain = true) : (emit e).trace = [] := by
  simp [trace, plain]

end Run

theorem accumulates_untraced :
    Accumulates fun log => log.filter (fun e => !e.isPlain) = [] where
  nil := rfl
  append first rest := by rw [List.filter_append, first, rest, List.append_nil]
  plain e plain := by simp [plain]

@[simp] theorem Scope.trace_resolve (s : Scope) (name : String) : (s.resolve name).trace = [] :=
  accumulates_untraced.resolve s name

section

variable [HostObjects]

/-- The trace of plans that are evaluated one after the other. -/
def Plan.traces (provider : Provider) (scope : Scope) (ps : List Plan) : List Event :=
  ps.flatMap fun p => (p.eval provider false scope).trace

namespace Plan

variable (provider : Provider) (scope : Scope)

@[simp] theorem traces_cons (p : Plan) (ps : List Plan) :
    traces provider scope (p :: ps) =
      (p.eval provider false scope).trace ++ traces provider scope ps := rfl

@[simp] theorem traces_append (ps qs : List Plan) :
    traces provider scope (ps ++ qs) = traces provider scope ps ++ traces provider scope qs :=
  List.flatMap_append

end Plan

/-! ### Keys of steps -/

namespace Qualifier

variable (provider : Provider) (scope : Scope)

def computed? : Qualifier → Option Plan
  | computed _ key => some key
  | _ => none

def keys (qs : List Qualifier) : List Plan := qs.filterMap computed?

/-- The computed keys that are evaluated to compare them with patterns: those up to an unknown
key. -/
def compared : List Qualifier → List Plan
  | [] => []
  | q :: rest =>
    q.computed?.toList ++ if (q.key provider scope).isUnknown then [] else compared rest

/-- The computed keys that are evaluated to select from a value: those up to a failure. -/
def applied : List Qualifier → Value → List Plan
  | [], _ => []
  | q :: rest, v =>
    if v.isFailure then []
    else q.computed?.toList ++
      applied rest (Step.walk scope (Plan.steps provider [q]) v).value

omit [HostObjects] in
theorem keys_cons (q : Qualifier) (rest : List Qualifier) :
    keys (q :: rest) = q.computed?.toList ++ keys rest := by
  rw [keys, List.filterMap_cons]
  cases q.computed? <;> rfl

variable {provider scope}

theorem compared_sublist (qs : List Qualifier) :
    (compared provider scope qs).Sublist (keys qs) := by
  induction qs with
  | nil => exact List.Sublist.refl _
  | cons q rest ih =>
    rw [compared, keys_cons]
    refine List.Sublist.append_left ?_ _
    split
    · exact List.nil_sublist _
    · exact ih

theorem applied_sublist (qs : List Qualifier) (v : Value) :
    (applied provider scope qs v).Sublist (keys qs) := by
  induction qs generalizing v with
  | nil => exact List.Sublist.refl _
  | cons q rest ih =>
    rw [applied, keys_cons]
    split
    · exact List.nil_sublist _
    · exact (ih _).append_left _

theorem exists_step (provider : Provider) (scope : Scope) (q : Qualifier) :
    ∃ s : Step, Plan.steps provider [q] = [s] ∧ (s.key scope).value = q.key provider scope ∧
      (s.key scope).trace = Plan.traces provider scope q.computed?.toList ∧
      ∀ v, (s.apply scope v).trace = Plan.traces provider scope q.computed?.toList := by
  cases q with
  | field id name access => exact ⟨_, rfl, rfl, rfl, fun v => rfl⟩
  | constant id key => exact ⟨_, rfl, rfl, rfl, fun v => rfl⟩
  | computed id key =>
    exact ⟨_, rfl, rfl, (List.append_nil _).symm, fun v => Run.trace_bind _ _⟩

theorem trace_keys (qs : List Qualifier) :
    (Step.keys scope (Plan.steps provider qs)).trace =
      Plan.traces provider scope (compared provider scope qs) := by
  induction qs with
  | nil => rfl
  | cons q rest ih =>
    obtain ⟨s, single, key, trace, -⟩ := exists_step provider scope q
    rw [Plan.steps_cons, single, List.singleton_append, Step.keys, compared, Run.trace_bind, trace,
      key, Plan.traces_append]
    congr 1
    split
    · rfl
    · rw [Run.trace_bind, ih]
      split <;> exact List.append_nil _

/-- All keys are compared where none of them is unknown. -/
theorem compared_of_ok {qs : List Qualifier} {vs : List Value}
    (known : (Step.keys scope (Plan.steps provider qs)).value = .ok vs) :
    compared provider scope qs = keys qs := by
  induction qs generalizing vs with
  | nil => rfl
  | cons q rest ih =>
    obtain ⟨s, single, key, -⟩ := exists_step provider scope q
    rw [Plan.steps_cons, single, List.singleton_append, Step.keys, Run.value_bind, key] at known
    rw [compared, keys_cons]
    split at known
    · cases known
    · next present =>
      rw [if_neg present]
      congr 1
      cases later : (Step.keys scope (Plan.steps provider rest)).value with
      | ok ws => exact ih later
      | error u =>
        rw [Run.value_bind, later] at known
        cases known

theorem trace_walk (qs : List Qualifier) (v : Value) :
    (Step.walk scope (Plan.steps provider qs) v).trace =
      Plan.traces provider scope (applied provider scope qs v) := by
  induction qs generalizing v with
  | nil => rfl
  | cons q rest ih =>
    obtain ⟨s, single, -, -, trace⟩ := exists_step provider scope q
    rw [Plan.steps_cons, single, List.singleton_append, Step.walk, applied, single]
    split
    · rfl
    · next regular =>
      rw [Run.trace_bind, Run.trace_bind, Run.trace_emit rfl, List.nil_append, trace, ih,
        Plan.traces_append, Step.value_walk_cons, if_neg regular]
      rfl

end Qualifier

/-! ### Attempts -/

namespace Variable

variable {α : Type}

/-- The items up to the first one that leads anywhere. -/
def upToFirst (f : α → Run (Option Value)) : List α → List α
  | [] => []
  | a :: rest => a :: if (f a).value.isSome then [] else upToFirst f rest

omit [HostObjects] in
theorem trace_firstSome (f : α → Run (Option Value)) (as : List α) :
    (firstSome f as).trace = (upToFirst f as).flatMap fun a => (f a).trace := by
  induction as with
  | nil => rfl
  | cons a rest ih =>
    rw [firstSome, upToFirst, Run.trace_bind, List.flatMap_cons]
    congr 1
    cases (f a).value with
    | some v => rfl
    | none => exact ih

end Variable

def Scope.hasPatterns (s : Scope) (name : String) : Bool :=
  !(s.patterns.filter (·.name == name)).isEmpty

namespace Variable

variable {provider : Provider} {scope : Scope} {x : Variable} {qs : List Qualifier} {name : String}

theorem trace_unknown? (has : x.steps = Plan.steps provider qs) :
    (x.unknown? scope name).trace =
      Plan.traces provider scope
        (if scope.hasPatterns name then Qualifier.compared provider scope qs else []) := by
  rw [unknown?, Scope.hasPatterns]
  cases scope.patterns.filter (·.name == name) with
  | nil => rfl
  | cons p ps =>
    rw [List.isEmpty_cons, Bool.not_false, if_pos rfl]
    simp only [has, Reading.isEmpty_steps]
    split
    · next bare =>
      rw [List.isEmpty_iff.mp bare]
      rfl
    · rw [Run.trace_bind, Qualifier.trace_keys]
      split <;> exact List.append_nil _

theorem compared_of_unmarked (has : x.steps = Plan.steps provider qs)
    (named : scope.hasPatterns name = true) (unmarked : (x.unknown? scope name).value = none) :
    Qualifier.compared provider scope qs = Qualifier.keys qs := by
  unfold unknown? at unmarked
  split at unmarked
  · next none =>
    rw [Scope.hasPatterns, none] at named
    cases named
  · split at unmarked
    · cases unmarked
    · rw [Run.value_bind] at unmarked
      split at unmarked
      · cases unmarked
      · next known => exact Qualifier.compared_of_ok (has ▸ known)

theorem trace_found? (has : x.steps = Plan.steps provider qs) :
    (x.found? provider scope name).trace =
      Plan.traces provider scope (match (scope.resolve name).value with
        | some v => Qualifier.applied provider scope qs v
        | none => []) := by
  rw [found?, Run.trace_bind, Scope.trace_resolve, List.nil_append]
  cases (scope.resolve name).value with
  | some v => exact (Run.trace_map _ _).trans (has ▸ Qualifier.trace_walk qs v)
  | none => rfl

end Variable

namespace Attribute

variable (provider : Provider) (scope : Scope)

/-- Whether an attempt compares its keys with patterns. -/
def compares (a : Attribute) (p : Reading × String) : Bool := !a.isLocal && scope.hasPatterns p.2

/-- The computed keys by which an attempt selects from the value of its name. -/
def selected (a : Attribute) (p : Reading × String) : List Plan :=
  match ((a.variableOf provider p.1).marked? scope p.2).value, (scope.resolve p.2).value with
  | none, some v => Qualifier.applied provider scope p.1.qualifiers v
  | _, _ => []

/-- The computed keys that an attempt evaluates. -/
def searched (a : Attribute) (p : Reading × String) : List Plan :=
  (if a.compares scope p then Qualifier.compared provider scope p.1.qualifiers else []) ++
    a.selected provider scope p

/-- The attempts up to the first one that leads anywhere. -/
def tried (a : Attribute) : List (Reading × String) :=
  Variable.upToFirst (a.attempt provider scope) a.attempts

/-- The plans that resolution evaluates, one after the other. -/
def evaluated (everything : Bool) : Attribute → List Plan
  | relative _ operand qs =>
    operand :: Qualifier.applied provider scope qs (operand.eval provider false scope).value
  | conditional _ g t f =>
    g :: if everything then t.evaluated true ++ f.evaluated true
      else match (g.eval provider false scope).value with
        | .bool true => t.evaluated false
        | .bool false => f.evaluated false
        | _ => []
  | a => (a.tried provider scope).flatMap (a.searched provider scope)

variable {provider scope}

theorem trace_attempt (a : Attribute) (p : Reading × String) :
    (a.attempt provider scope p).trace =
      Plan.traces provider scope (a.searched provider scope p) := by
  rw [attempt, Variable.resolveName?_eq, Run.trace_bind, searched, Plan.traces_append, selected]
  congr 1
  · rw [Variable.marked?, compares]
    change Run.trace (if a.isLocal then _ else _) = _
    cases a.isLocal with
    | true => rfl
    | false => exact Variable.trace_unknown? rfl
  · cases ((a.variableOf provider p.1).marked? scope p.2).value with
    | some u => rfl
    | none => exact (Variable.trace_found? rfl).trans (by cases (scope.resolve p.2).value <;> rfl)

theorem trace_resolve_named (everything : Bool) {a : Attribute} (named : a.isNamed = true) :
    (Plan.resolve provider a everything scope).trace =
      Plan.traces provider scope
        ((a.tried provider scope).flatMap (a.searched provider scope)) := by
  obtain ⟨id, written, resolved⟩ := resolve_attempts provider everything scope named
  rw [resolved, Run.trace_bind, Run.trace_pure, List.append_nil, Variable.trace_firstSome,
    Plan.traces, List.flatMap_assoc]
  congr 1
  exact funext fun p => trace_attempt a p

/-- Resolution evaluates these plans, and nothing else. -/
theorem trace_resolve (everything : Bool) (a : Attribute) :
    (Plan.resolve provider a everything scope).trace =
      Plan.traces provider scope (a.evaluated provider scope everything) := by
  induction a generalizing everything with
  | absolute id isLocal names qs => exact trace_resolve_named everything rfl
  | ambiguous id names qs => exact trace_resolve_named everything rfl
  | relative id operand qs =>
    rw [Plan.resolve, Run.trace_bind, Qualifier.trace_walk, evaluated, Plan.traces_cons]
  | conditional id g t f whenTrue whenFalse =>
    rw [Plan.resolve, Run.trace_bind, evaluated, Plan.traces_cons]
    congr 1
    cases everything with
    | true =>
      simp only [if_true, Run.trace_bind, whenTrue, whenFalse, Run.trace_pure, List.append_nil,
        Plan.traces_append]
    | false =>
      rw [if_neg Bool.false_ne_true, if_neg Bool.false_ne_true]
      cases (g.eval provider false scope).value with
      | bool b =>
        cases b with
        | true => exact whenTrue false
        | false => exact whenFalse false
      | _ => rfl

variable (provider scope)

def qualifiers : Attribute → List Qualifier
  | absolute _ _ _ qs | ambiguous _ _ qs | relative _ _ qs => qs
  | conditional .. => []

/-- The guards, the operand and the computed keys on the way to the value. -/
def parts : Attribute → List Plan
  | relative _ operand qs => operand :: Qualifier.keys qs
  | conditional _ g t f =>
    g :: match (g.eval provider false scope).value with
      | .bool true => t.parts
      | .bool false => f.parts
      | _ => []
  | a => Qualifier.keys a.qualifiers

/-- The number of names tried that patterns name. -/
def comparisons (a : Attribute) : Nat := (a.tried provider scope).countP (a.compares scope)

/-- The computed keys by which a variable selects from its value. -/
def selections (a : Attribute) : List Plan :=
  (a.tried provider scope).flatMap (a.selected provider scope)

variable {provider scope}

theorem selected_sublist (a : Attribute) (p : Reading × String) :
    (a.selected provider scope p).Sublist (Qualifier.keys p.1.qualifiers) := by
  unfold selected
  split
  · exact Qualifier.applied_sublist ..
  · exact List.nil_sublist _

theorem compared_of_unmarked {a : Attribute} {p : Reading × String}
    (compares : a.compares scope p = true)
    (unmarked : ((a.variableOf provider p.1).marked? scope p.2).value = none) :
    Qualifier.compared provider scope p.1.qualifiers = Qualifier.keys p.1.qualifiers := by
  obtain ⟨free, named⟩ := Bool.and_eq_true_iff.mp compares
  have isGlobal : (a.variableOf provider p.1).isLocal = false := Bool.not_eq_true' _ |>.mp free
  rw [Variable.marked?, isGlobal, if_neg Bool.false_ne_true] at unmarked
  exact Variable.compared_of_unmarked rfl named unmarked

theorem unmarked_of_selected {a : Attribute} {p : Reading × String}
    (selects : a.selected provider scope p ≠ []) :
    ((a.variableOf provider p.1).marked? scope p.2).value = none := by
  by_contra marked
  obtain ⟨u, marked⟩ := Option.ne_none_iff_exists'.mp marked
  exact selects (by rw [selected, marked])

theorem unmarked_of_nowhere {a : Attribute} {p : Reading × String}
    (nowhere : (a.attempt provider scope p).value = none) :
    ((a.variableOf provider p.1).marked? scope p.2).value = none ∧
      a.selected provider scope p = [] := by
  rw [attempt, Variable.resolveName?_eq, Run.value_bind] at nowhere
  cases marked : ((a.variableOf provider p.1).marked? scope p.2).value with
  | some u =>
    rw [marked] at nowhere
    cases nowhere
  | none =>
    rw [marked] at nowhere
    refine ⟨rfl, ?_⟩
    cases bound : (scope.resolve p.2).value with
    | none => rw [selected, marked, bound]
    | some v =>
      simp only [Variable.found?, Run.value_bind, bound, Run.value_map] at nowhere
      cases nowhere

variable (provider scope)

/-- The keys that attempts evaluate, all of which have those of the qualifiers: the keys up to an
unknown one for each name that patterns name, and then those by which is selected. Where that is
more than one round, no key is unknown. -/
structure Rounds (a : Attribute) (qs : List Qualifier) (tried : List (Reading × String)) :
    Prop where
  searched : tried.flatMap (a.searched provider scope) =
    (List.replicate (tried.countP (a.compares scope))
      (Qualifier.compared provider scope qs)).flatten ++
      tried.flatMap (a.selected provider scope)
  selected : (tried.flatMap (a.selected provider scope)).Sublist (Qualifier.keys qs)
  repeated : 1 < tried.countP (a.compares scope) ∨ 0 < tried.countP (a.compares scope) ∧
      tried.flatMap (a.selected provider scope) ≠ [] →
    Qualifier.compared provider scope qs = Qualifier.keys qs

variable {provider scope}

theorem rounds_upToFirst (a : Attribute) {as : List (Reading × String)} {qs : List Qualifier}
    (alike : ∀ p ∈ as, Qualifier.keys p.1.qualifiers = Qualifier.keys qs ∧
      Qualifier.compared provider scope p.1.qualifiers = Qualifier.compared provider scope qs) :
    Rounds provider scope a qs (Variable.upToFirst (a.attempt provider scope) as) := by
  induction as with
  | nil =>
    refine ⟨rfl, List.nil_sublist _, fun more => ?_⟩
    rcases more with more | ⟨more, -⟩ <;> exact absurd more (Nat.not_lt_zero _)
  | cons p rest ih =>
    obtain ⟨⟨all, read⟩, others⟩ := List.forall_mem_cons.mp alike
    have once : a.searched provider scope p =
        (if a.compares scope p then Qualifier.compared provider scope qs else []) ++
          a.selected provider scope p := by
      rw [Attribute.searched, read]
    have whole : a.compares scope p = true →
        ((a.variableOf provider p.1).marked? scope p.2).value = none →
          Qualifier.compared provider scope qs = Qualifier.keys qs :=
      fun compares unmarked => by rw [← all, ← read, compared_of_unmarked compares unmarked]
    rw [Variable.upToFirst]
    cases found : (a.attempt provider scope p).value with
    | some v =>
      -- The search ends here, so this attempt alone may select.
      rw [Option.isSome_some, if_pos rfl]
      refine ⟨?_, ?_, fun more => ?_⟩
      · rw [List.flatMap_singleton, List.flatMap_singleton, once, List.countP_singleton]
        cases a.compares scope p <;> simp
      · rw [List.flatMap_singleton, ← all]
        exact a.selected_sublist p
      · rw [List.countP_singleton, List.flatMap_singleton] at more
        cases compares : a.compares scope p with
        | false => simp [compares] at more
        | true =>
          have selects : a.selected provider scope p ≠ [] := by simpa [compares] using more
          exact whole compares (unmarked_of_selected selects)
    | none =>
      obtain ⟨unmarked, nothing⟩ := unmarked_of_nowhere found
      have later := ih others
      rw [Option.isSome_none, if_neg Bool.false_ne_true]
      refine ⟨?_, ?_, fun more => ?_⟩
      · rw [List.flatMap_cons, List.flatMap_cons, once, nothing, later.searched, List.append_nil,
          List.nil_append, List.countP_cons]
        cases a.compares scope p <;> simp [List.replicate_succ]
      · rw [List.flatMap_cons, nothing, List.nil_append]
        exact later.selected
      · cases compares : a.compares scope p with
        | true => exact whole compares unmarked
        | false =>
          rw [List.countP_cons, List.flatMap_cons, nothing, List.nil_append] at more
          exact later.repeated (by simpa [compares] using more)

variable {a : Attribute} {qs : List Qualifier} {tried : List (Reading × String)}

theorem Rounds.subperm_iff (rounds : Rounds provider scope a qs tried) :
    (tried.flatMap (a.searched provider scope)).Subperm (Qualifier.keys qs) ↔
      Qualifier.keys qs = [] ∨ tried.countP (a.compares scope) = 0 ∨
        tried.countP (a.compares scope) = 1 ∧ tried.flatMap (a.selected provider scope) = [] := by
  rw [rounds.searched]
  constructor
  · intro once
    by_contra more
    obtain ⟨keyed, more⟩ := not_or.mp more
    obtain ⟨compares, more⟩ := not_or.mp more
    have twice : 1 < tried.countP (a.compares scope) ∨ 0 < tried.countP (a.compares scope) ∧
        tried.flatMap (a.selected provider scope) ≠ [] := by
      by_cases single : tried.countP (a.compares scope) = 1
      · exact .inr ⟨by omega, fun nothing => more ⟨single, nothing⟩⟩
      · exact .inl (by omega)
    -- No key is unknown, so the rounds are longer than the list of the keys.
    rw [rounds.repeated twice] at once
    have fits := once.length_le
    rw [List.length_append, List.length_flatten, List.map_replicate, List.sum_replicate_nat] at fits
    have some := List.length_pos_iff.mpr keyed
    rcases twice with many | ⟨one, selects⟩
    · have rounds := Nat.mul_le_mul_right (Qualifier.keys qs).length many
      omega
    · have rounds := Nat.mul_le_mul_right (Qualifier.keys qs).length one
      have selection := List.length_pos_iff.mpr selects
      omega
  · rintro (none | never | ⟨single, nothing⟩)
    · have unkeyed : (Qualifier.compared provider scope qs).Sublist (Qualifier.keys qs) :=
        Qualifier.compared_sublist qs
      have unselected := rounds.selected
      rw [none, List.sublist_nil] at unkeyed unselected
      rw [unkeyed, unselected]
      simp
    · rw [never]
      exact rounds.selected.subperm
    · rw [single, nothing, List.append_nil]
      simpa using (Qualifier.compared_sublist qs).subperm

omit [HostObjects] in
theorem sublist_flatten_replicate {α : Type} {as bs : List α} (sub : as.Sublist bs) (n : Nat) :
    (List.replicate n as).flatten.Sublist (List.replicate n bs).flatten := by
  induction n with
  | zero => exact List.Sublist.refl _
  | succ n ih =>
    rw [List.replicate_succ, List.replicate_succ, List.flatten_cons, List.flatten_cons]
    exact sub.append ih

/-- Each key is evaluated once for each name that patterns name, and once more. -/
theorem Rounds.sublist_replicate (rounds : Rounds provider scope a qs tried) :
    (tried.flatMap (a.searched provider scope)).Sublist
      (List.replicate (tried.countP (a.compares scope) + 1) (Qualifier.keys qs)).flatten := by
  rw [rounds.searched, List.replicate_succ', List.flatten_append, List.flatten_singleton]
  exact (sublist_flatten_replicate (Qualifier.compared_sublist qs) _).append rounds.selected

end Attribute

/-- The fields that a reading takes into its name have no computed keys. -/
theorem Reading.keys_of_mem_all {provider : Provider} {scope : Scope} {id : Int}
    {names : List String} {qs : List Qualifier} {r : Reading} (member : r ∈ all id names qs) :
    Qualifier.keys r.qualifiers = Qualifier.keys qs ∧
      Qualifier.compared provider scope r.qualifiers = Qualifier.compared provider scope qs := by
  induction qs generalizing id names with
  | nil =>
    obtain rfl := List.mem_singleton.mp member
    exact ⟨rfl, rfl⟩
  | cons q rest ih =>
    rw [all] at member
    cases q with
    | field other name access =>
      simp only [Qualifier.label] at member
      split at member
      · obtain rfl := List.mem_singleton.mp member
        exact ⟨rfl, rfl⟩
      · rcases List.mem_append.mp member with longer | single
        · exact ih longer
        · obtain rfl := List.mem_singleton.mp single
          exact ⟨rfl, rfl⟩
    | constant | computed =>
      obtain rfl := List.mem_singleton.mp member
      exact ⟨rfl, rfl⟩

namespace Attribute

variable {provider : Provider} {scope : Scope}

theorem rounds_tried {a : Attribute} (named : a.isNamed = true) :
    Rounds provider scope a a.qualifiers (a.tried provider scope) := by
  refine rounds_upToFirst a fun p member => ?_
  cases a with
  | relative | conditional => cases named
  | absolute id isLocal names qs =>
    obtain ⟨name, -, rfl⟩ := List.mem_map.mp member
    exact ⟨rfl, rfl⟩
  | ambiguous id names qs =>
    obtain ⟨r, reading, attempt⟩ := List.mem_flatMap.mp member
    obtain ⟨name, -, rfl⟩ := List.mem_map.mp attempt
    exact Reading.keys_of_mem_all (readings_ambiguous id names qs ▸ reading)

theorem subperm_parts_iff (a : Attribute) :
    let b := a.chosen provider scope
    (a.evaluated provider scope false).Subperm (a.parts provider scope) ↔
      Qualifier.keys b.qualifiers = [] ∨ b.comparisons provider scope = 0 ∨
        b.comparisons provider scope = 1 ∧ b.selections provider scope = [] := by
  induction a with
  | absolute id isLocal names qs => exact (rounds_tried rfl).subperm_iff
  | ambiguous id names qs => exact (rounds_tried rfl).subperm_iff
  | relative id operand qs =>
    refine iff_of_true ?_ (.inr (.inl rfl))
    exact ((Qualifier.applied_sublist ..).cons_cons operand).subperm
  | conditional id g t f whenTrue whenFalse =>
    rw [evaluated, parts, chosen, if_neg Bool.false_ne_true, List.subperm_cons]
    cases (g.eval provider false scope).value with
    | bool b =>
      cases b with
      | true => exact whenTrue
      | false => exact whenFalse
    | _ => exact iff_of_true (List.Subperm.refl []) (.inl rfl)

theorem sublist_replicate (a : Attribute) :
    (a.evaluated provider scope false).Sublist
      (List.replicate ((a.chosen provider scope).comparisons provider scope + 1)
        (a.parts provider scope)).flatten := by
  induction a with
  | absolute id isLocal names qs => exact (rounds_tried rfl).sublist_replicate
  | ambiguous id names qs => exact (rounds_tried rfl).sublist_replicate
  | relative id operand qs =>
    change List.Sublist _ (List.flatten [operand :: Qualifier.keys qs])
    rw [List.flatten_singleton]
    exact (Qualifier.applied_sublist ..).cons_cons operand
  | conditional id g t f whenTrue whenFalse =>
    have guarded : ∀ {ps qs : List Plan} {n : Nat},
        ps.Sublist (List.replicate (n + 1) qs).flatten →
          (g :: ps).Sublist (List.replicate (n + 1) (g :: qs)).flatten := by
      intro ps qs n sub
      rw [List.replicate_succ, List.flatten_cons] at sub ⊢
      have others := sublist_flatten_replicate (List.sublist_cons_self g qs) n
      exact (sub.trans (others.append_left qs)).cons_cons g
    rw [evaluated, parts, chosen, if_neg Bool.false_ne_true]
    cases (g.eval provider false scope).value with
    | bool b =>
      cases b with
      | true => exact guarded whenTrue
      | false => exact guarded whenFalse
    | _ => exact guarded (List.nil_sublist _)

end Attribute

end

namespace Plan

section

variable [HostObjects]

/-- A resolution evaluates these plans, and nothing else. It evaluates each guard, operand and
computed key at most once if and only if, for the attribute that the guards lead to, no name is
tried that patterns name, or there is a single one and nothing is selected by a computed key. In
general it evaluates each of them at most once for each of these names, and once more. -/
theorem resolve_evaluates_once_iff (provider : Provider) (scope : Scope) (a : Attribute) :
    let b := a.chosen provider scope
    let evaluated := a.evaluated provider scope false
    (∀ everything, (resolve provider a everything scope).trace =
        traces provider scope (a.evaluated provider scope everything)) ∧
      (evaluated.Subperm (a.parts provider scope) ↔
        Qualifier.keys b.qualifiers = [] ∨ b.comparisons provider scope = 0 ∨
          b.comparisons provider scope = 1 ∧ b.selections provider scope = []) ∧
      evaluated.Sublist
        (List.replicate (b.comparisons provider scope + 1) (a.parts provider scope)).flatten :=
  ⟨fun everything => a.trace_resolve everything, a.subperm_parts_iff, a.sublist_replicate⟩

end

attribute [local instance] HostObjects.silent

def sameOverload : Overload where
  id := "same"
  implementation := .unary fun v => .ok v

def sameB : Plan := .call 3 "same" [.const 2 (.string "b")] [sameOverload]

/-- `x[same("b")]` -/
def fieldB : Attribute := .ambiguous 1 ["x"] [.computed 4 sameB]

/-- Binds `x` to a map, and marks another of its fields. -/
def besideMark : Scope :=
  .marked (.table (Table.empty.bind "x" (.value (.map (Entries.single (.string "b") (.int 1))))))
    [⟨"x", [.key (.string "a")]⟩]

/-- A key is evaluated to compare it with a pattern, and again to select by it; the cost counts it
once. -/
theorem key_evaluated_twice :
    let calls (log : List Event) := log.countP fun | .invoked .. => true | _ => false
    fieldB.parts TypeTable.empty.provider besideMark = [sameB] ∧
      calls (sameB.eval TypeTable.empty.provider false besideMark).log = 1 ∧
      (resolve TypeTable.empty.provider fieldB false besideMark).value = .int 1 ∧
      calls (resolve TypeTable.empty.provider fieldB false besideMark).log = 2 ∧
      (Plan.attr 4 fieldB).cost = ⟨2, 2⟩ ∧
      ((Plan.attr 4 fieldB).eval TypeTable.empty.provider false besideMark).work = 3 :=
  ⟨rfl, rfl, rfl, rfl, rfl, rfl⟩

end Plan

end ExprEngine
