import ExprEngine.Environment
import ExprEngine.Expr.Builder
import ExprEngine.Proofs.Planning.Outcome
import ExprEngine.Proofs.Planning.Folding

/-!
# Absolute names in loops

A name with a leading dot is looked for in no namespace, and it is never planned as the variable of
a loop. Its dot is gone when the plan runs. So the patterns of the caller still see it as a name of
the caller, but in the bindings the frames of the loops come first, and a loop variable of that
name captures it.
-/

namespace ExprEngine

namespace Namespace

theorem candidates_absolute (n : Namespace) (x : String) : n.candidates ("." ++ x) = [x] := by
  have dotted : ("." ++ x).toList = '.' :: x.toList := by simp
  unfold candidates
  rw [dotted]
  simp

end Namespace

namespace Scope

/-- The scope inside loops that bind these variables, the innermost first. -/
def within (outer : Scope) (bound : List (String × Value)) : Scope :=
  bound.foldr (fun b inner => .frame inner b.1 b.2) outer

variable {s : Scope} {name : String}

theorem patterns_within (s : Scope) (bound : List (String × Value)) :
    (s.within bound).patterns = s.patterns := by
  induction bound with
  | nil => rfl
  | cons b rest ih => exact ih

theorem resolve_within (s : Scope) (bound : List (String × Value)) (name : String) :
    ((s.within bound).resolve name).value =
      (bound.lookup name).or (s.resolve name).value := by
  induction bound with
  | nil => rfl
  | cons b rest ih =>
    change ((Scope.frame (s.within rest) b.1 b.2).resolve name).value = _
    rw [resolve, List.lookup_cons]
    by_cases same : name = b.1
    · simp [same]
    · rw [if_neg same, beq_false_of_ne same, ih]

def names (s : Scope) (name : String) : Bool := s.patterns.any (·.name == name)

theorem names_within (s : Scope) (bound : List (String × Value)) (name : String) :
    (s.within bound).names name = s.names name := by
  rw [names, patterns_within, names]

end Scope

namespace Planner

open Planning

open Plan hiding id

variable {c : Planner}

/-- The full name that an absolute name stands for, unless the checker found a constant. -/
def absolute? (c : Planner) (id : Int) (x : String) : Option String :=
  match c.checked.reference? id with
  | some { value := some _, .. } => none
  | some { name := some full, .. } => some full
  | _ => some x

/-- A variable by its full name, outside of any loop: unknown where a pattern names it, or else
what it is bound to, or else the type of that name. -/
def variableValue (c : Planner) (scope : Scope) (id : Int) (full : String) : Value :=
  if scope.names full then .unknown (.singleton id)
  else ((scope.resolve full).value.or (c.provider.findIdent full)).getD
    (Variable.noSuchAttribute id full)

theorem unknown?_bare (scope : Scope) (id : Int) (full : String) :
    ((⟨id, false, [full], []⟩ : Variable).unknown? scope full).value =
      if scope.names full then some (.unknown (.singleton id)) else none := by
  unfold Variable.unknown? Scope.names
  split
  · next none =>
    rw [List.filter_eq_nil_iff] at none
    have unnamed : scope.patterns.any (·.name == full) = false := by simpa using none
    rw [unnamed]
    rfl
  · next some =>
    obtain ⟨p, member⟩ := List.exists_mem_of_ne_nil _ some
    obtain ⟨listed, named⟩ := List.mem_filter.mp member
    rw [if_pos (List.any_eq_true.mpr ⟨p, listed, named⟩)]
    rfl

theorem value_resolve_single (c : Planner) (scope : Scope) (id : Int) (full : String) :
    ((⟨id, false, [full], []⟩ : Variable).resolve c.provider scope).value =
      c.variableValue scope id full := by
  simp only [Variable.resolve, Variable.resolve?, Run.value_bind, Run.value_pure,
    Variable.value_firstSome, List.findSome?_cons, List.findSome?_nil, Variable.value_resolveName?,
    unknown?_bare, variableValue, Bool.false_eq_true, ↓reduceIte]
  cases scope.names full with
  | true => rfl
  | false =>
    cases (scope.resolve full).value with
    | some v => rfl
    | none =>
      cases known : c.provider.findIdent full <;>
        simp [Variable.unbound?, known, Variable.written]

theorem variableValue_within (c : Planner) (scope : Scope) (bound : List (String × Value))
    (id : Int) (full : String) :
    c.variableValue (scope.within bound) id full =
      if scope.names full then c.variableValue scope id full
      else (bound.lookup full).getD (c.variableValue scope id full) := by
  rw [variableValue, Scope.names_within, Scope.resolve_within]
  cases marked : scope.names full with
  | true => simp [variableValue, marked]
  | false => cases bound.lookup full <;> simp [variableValue, marked]

section

variable [HostObjects]

theorem value_resolve_unchecked (c : Planner) (scope : Scope) (id : Int) (full : String) :
    (Plan.resolve c.provider (.ambiguous id [full] []) false scope).value =
      c.variableValue scope id full := by
  have single : Variable.ofUnchecked id [full] [] = [⟨id, false, [full], []⟩] := rfl
  have found : (Variable.firstSome (·.resolve? c.provider scope)
        (Variable.ofUnchecked id [full] [])).value =
      ((⟨id, false, [full], []⟩ : Variable).resolve? c.provider scope).value := by
    rw [single, Variable.value_firstSome, List.findSome?_cons, List.findSome?_nil]
    split <;> simp [*]
  rw [← value_resolve_single, Plan.resolve, steps, Variable.resolveUnchecked, Run.value_bind, found]
  simp [Variable.resolve, Variable.written, Step.text]

/-- What an absolute name is, inside loops that have no variable with the dot in its name. -/
theorem value_absolute (n : Namespace) (candidates : c.candidates = n.candidates) (id : Int)
    {x : String} {locals : List String} (free : "." ++ x ∉ locals) (scope : Scope) :
    ((c.finished (c.identPlan locals id ("." ++ x))).eval c.provider false scope).value =
      match c.absolute? id x with
      | some full => c.variableValue scope id full
      | none => ((c.checked.reference? id).bind Reference.value).getD .null := by
  obtain ⟨single, leaf, plain⟩ := identPlan_form c locals id ("." ++ x)
  rw [value_finished single leaf plain]
  match known : c.checked.reference? id with
  | some ⟨_, some v⟩ => simp [identPlan, absolute?, known, Plan.eval]
  | some ⟨some full, none⟩ =>
    simp only [identPlan, absolute?, known, value_attr]
    exact value_resolve_single c scope id full
  | some ⟨none, none⟩ | none =>
    simp only [identPlan, absolute?, known, free, candidates, Namespace.candidates_absolute,
      value_attr, ↓reduceIte]
    exact value_resolve_unchecked c scope id x

/-- Inside loops of any depth, an absolute name is what it is outside of them exactly where a
pattern names the variable, or no loop has a variable of the name without the dot, or the innermost
one happens to have the same value. Otherwise it is the innermost of these variables. -/
theorem absolute_in_loops (n : Namespace) (candidates : c.candidates = n.candidates) (id : Int)
    (x : String) (bound : List (String × Value)) (locals : List String)
    (free : "." ++ x ∉ bound.map Prod.fst ++ locals) :
    ∃ p q, outcome (c.planExpr (.ident id ("." ++ x)) locals) = .ok p ∧
      outcome (c.planExpr (.ident id ("." ++ x)) (bound.map Prod.fst ++ locals)) = .ok q ∧
      ∀ scope,
        let outside := (p.eval c.provider false scope).value
        let inside := (q.eval c.provider false (scope.within bound)).value
        (∀ full, c.absolute? id x = some full → outside = c.variableValue scope id full) ∧
        (inside = outside ↔
          ∀ full, c.absolute? id x = some full → scope.names full = false →
            ∀ v, bound.lookup full = some v → v = outside) ∧
        (inside ≠ outside →
          ∃ full, c.absolute? id x = some full ∧ bound.lookup full = some inside) := by
  have planned (locals : List String) : outcome (c.planExpr (.ident id ("." ++ x)) locals) =
      .ok (c.finished (c.identPlan locals id ("." ++ x))) := by
    rw [planExpr, outcome_finish]
  refine ⟨_, _, planned locals, planned _, fun scope => ?_⟩
  have apart : "." ++ x ∉ locals := fun member => free (List.mem_append_right _ member)
  rw [value_absolute n candidates id free, value_absolute n candidates id apart]
  cases stands : c.absolute? id x with
  | none => simp
  | some full =>
    simp only [Option.some.injEq, forall_eq', variableValue_within]
    cases marked : scope.names full with
    | true => simp
    | false => cases found : bound.lookup full <;> simp [found]

end

attribute [local instance] HostObjects.silent

def oneForX : List (String × Value) := [("x", .int 1), ("last", .null)]

def fiveForX : Scope := .table (Table.empty.bind "x" (.value (.int 5)))

theorem absolute_in_loops_oneForX :
    let c := Environment.planner {} (.unchecked (.ident 3 ".x"))
    c.candidates = Namespace.root.candidates ∧
      "." ++ "x" ∉ oneForX.map Prod.fst ++ [] ∧
      ∃ q, outcome (c.planExpr (.ident 3 ".x") (oneForX.map Prod.fst)) = .ok q ∧
        (q.eval c.provider false (fiveForX.within oneForX)).value = .int 1 := by
  intro c
  have free : "." ++ "x" ∉ oneForX.map Prod.fst ++ [] := by decide
  obtain ⟨p, q, outer, inner, reads⟩ :=
    absolute_in_loops (c := c) Namespace.root rfl 3 "x" oneForX [] free
  refine ⟨rfl, free, q, inner, ?_⟩
  obtain ⟨outside, same, captured⟩ := reads fiveForX
  have five : (p.eval c.provider false fiveForX).value = .int 5 := outside "x" rfl
  have differs : (q.eval c.provider false (fiveForX.within oneForX)).value ≠
      (p.eval c.provider false fiveForX).value := by
    intro equal
    have one := same.mp equal "x" rfl rfl (.int 1) rfl
    rw [five] at one
    exact absurd one (by simp)
  obtain ⟨full, stands, found⟩ := captured differs
  cases stands
  exact (Option.some.inj found).symm

/-- A loop over `[1]` that keeps `.x` of its last element. -/
def lastAbsolute : CheckedExpr :=
  .unchecked (.loop 7 "x" (.list 2 [.literal 1 (.int 1)]) "last" (.literal 3 .null)
    (.literal 4 (.bool true)) (.ident 5 ".x") (.ident 6 "last"))

/-- In the loop the name is its element, and outside of it the caller's variable. -/
theorem loop_captures_absolute :
    let env : Environment := {}
    ∃ inner outer, outcome (env.plan lastAbsolute) = .ok inner ∧
      outcome (env.plan (.unchecked (.ident 5 ".x"))) = .ok outer ∧
      (outer.eval fiveForX).value = .int 5 ∧
      (inner.eval fiveForX).value = .int 1 :=
  ⟨_, _, rfl, rfl, rfl, rfl⟩

end Planner

end ExprEngine
