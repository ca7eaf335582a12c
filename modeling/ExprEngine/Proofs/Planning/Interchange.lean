import ExprEngine.Proofs.Planning.Made
import ExprEngine.Proofs.Planning.Simulation
import ExprEngine.Proofs.Renaming.Plans

/-!
# Plans with the same runs

`InterchangesIn` relates plans that run alike in every scope of a region, logs and records included,
and that look alike to planning. A plan in progress is looked at more closely, since it may still be
folded; `finished_interchanges` says that finishing keeps the relation, whatever the options are.
-/

namespace ExprEngine

/-- Scopes among which plans are compared: with a scope those of the loops in it, and the one that
constants are folded in. -/
structure Scope.Region where
  Holds : Scope → Prop
  empty : Holds .empty
  frame : ∀ {s}, Holds s → ∀ name v, Holds (.frame s name v)

def Scope.Region.all : Scope.Region := ⟨fun _ => True, trivial, fun _ _ _ => trivial⟩

open Scope

section

variable [HostObjects]

def Qualifier.MatchIn (region : Region) (provider : Provider) (qs rs : List Qualifier) : Prop :=
  ∀ ⦃scope⦄, region.Holds scope →
    List.Forall₂ (Step.Matches scope scope) (Plan.steps provider qs) (Plan.steps provider rs)

namespace Qualifier

variable {region : Region} {provider : Provider} {qs rs qs' rs' : List Qualifier}

theorem MatchIn.of_eq (same : Plan.steps provider qs = Plan.steps provider rs) :
    MatchIn region provider qs rs := by
  intro scope _
  rw [same, List.forall₂_same]
  exact fun _ _ => ⟨rfl, rfl, fun _ => rfl⟩

theorem MatchIn.append (first : MatchIn region provider qs rs)
    (others : MatchIn region provider qs' rs') :
    MatchIn region provider (qs ++ qs') (rs ++ rs') := by
  intro scope inside
  rw [Plan.steps_append, Plan.steps_append]
  exact List.rel_append (first inside) (others inside)

end Qualifier

end

namespace Variable

variable {s : Scope} {xs ys : List Step} {isLocal isLocal' : Bool} {names : List String}

theorem unknown?_matches (same : List.Forall₂ (Step.Matches s s) xs ys) (id : Int) (name : String) :
    (Variable.mk id isLocal names xs).unknown? s name =
      (Variable.mk id isLocal' names ys).unknown? s name := by
  have isEmpty : xs.isEmpty = ys.isEmpty := by cases same <;> rfl
  simp only [unknown?, isEmpty, Step.keys_matches same, Step.map_id_eq, Step.labels_matches same]

/-- Variables have the same runs if they are both local or both not, or if no pattern names them. -/
theorem resolve_matches (same : List.Forall₂ (Step.Matches s s) xs ys) (id : Int)
    (provider : Provider)
    (alike : isLocal = isLocal' ∨ ∀ name ∈ names, ∀ p ∈ s.patterns, p.name ≠ name) :
    (Variable.mk id isLocal names xs).resolve provider s =
      (Variable.mk id isLocal' names ys).resolve provider s := by
  have text : Step.text xs = Step.text ys := by
    rw [Step.text_eq, Step.text_eq, Step.labels_matches same]
  have isEmpty : xs.isEmpty = ys.isEmpty := by cases same <;> rfl
  have walked (v : Value) : Step.walk s xs v = Step.walk s ys v := Step.walk_matches same v
  have marked (name : String) (member : name ∈ names) :
      (Variable.mk id isLocal names xs).marked? s name =
        (Variable.mk id isLocal' names ys).marked? s name := by
    unfold marked?
    rcases alike with rfl | unnamed
    · rw [unknown?_matches same]
    · rw [unknown?_eq_pure _ (unnamed name member), unknown?_eq_pure _ (unnamed name member),
        ite_self, ite_self]
  have found : (Variable.mk id isLocal names xs).resolve? provider s =
      (Variable.mk id isLocal' names ys).resolve? provider s := by
    apply firstSome_eq
    rw [List.forall₂_same]
    intro name member
    simp only [resolveName?_eq, marked name member, found?, walked, unbound?, isEmpty, text,
      written]
  simp only [resolve, found, written]

theorem resolveUnchecked_matches (same : List.Forall₂ (Step.Matches s s) xs ys) (id : Int)
    (names : List String) (provider : Provider) :
    resolveUnchecked id names xs provider s = resolveUnchecked id names ys provider s :=
  resolveUnchecked_eq same id provider s.renamed_refl fun _ _ => rfl

end Variable

variable [HostObjects]

namespace Attribute

structure InterchangesIn (region : Region) (provider : Provider) (a b : Attribute) : Prop where
  forks : a.forks = b.forks
  /-- The runs are the same through more qualifiers, too. -/
  resolve : ∀ {qs rs}, Qualifier.MatchIn region provider qs rs → ∀ everything {scope},
    region.Holds scope →
    Plan.resolve provider (a.qualifyAll qs) everything scope =
      Plan.resolve provider (b.qualifyAll rs) everything scope

variable {region : Region} {provider : Provider} {before after : List Qualifier}

theorem absolute_interchanges (id : Int) {isLocal isLocal' : Bool} {names : List String}
    (alike : isLocal = isLocal' ∨
      ∀ {scope}, region.Holds scope → ∀ name ∈ names, ∀ p ∈ scope.patterns, p.name ≠ name)
    (steps : Qualifier.MatchIn region provider before after) :
    (absolute id isLocal names before).InterchangesIn region provider
      (absolute id isLocal' names after) where
  forks := rfl
  resolve {qs rs} more everything scope inside := by
    rw [qualifyAll_absolute, qualifyAll_absolute, Plan.resolve, Plan.resolve]
    exact Variable.resolve_matches (steps.append more inside) id provider
      (alike.imp_right (· inside))

theorem ambiguous_interchanges (id : Int) (names : List String)
    (steps : Qualifier.MatchIn region provider before after) :
    (ambiguous id names before).InterchangesIn region provider (ambiguous id names after) where
  forks := rfl
  resolve {qs rs} more everything scope inside := by
    rw [qualifyAll_ambiguous, qualifyAll_ambiguous, Plan.resolve, Plan.resolve]
    exact Variable.resolveUnchecked_matches (steps.append more inside) id names provider

theorem relative_interchanges (id other : Int) {p q : Plan}
    (operand : ∀ {scope}, region.Holds scope →
      p.eval provider false scope = q.eval provider false scope)
    (steps : Qualifier.MatchIn region provider before after) :
    (relative id p before).InterchangesIn region provider (relative other q after) where
  forks := rfl
  resolve {qs rs} more everything scope inside := by
    have walked (v : Value) := Step.walk_matches (steps.append more inside) v
    rw [qualifyAll_relative, qualifyAll_relative, Plan.resolve, Plan.resolve]
    simp only [operand inside, walked]

theorem conditional_interchanges (id : Int) {g g' : Plan} {t t' f f' : Attribute}
    (guard : ∀ {scope}, region.Holds scope →
      g.eval provider false scope = g'.eval provider false scope)
    (whenTrue : t.InterchangesIn region provider t')
    (whenFalse : f.InterchangesIn region provider f') :
    (conditional id g t f).InterchangesIn region provider (conditional id g' t' f') where
  forks := rfl
  resolve {qs rs} more everything scope inside := by
    rw [qualifyAll_conditional, qualifyAll_conditional]
    simp only [Plan.resolve, guard inside, whenTrue.resolve more _ inside,
      whenFalse.resolve more _ inside]

theorem InterchangesIn.refl (a : Attribute) : a.InterchangesIn region provider a := by
  have same {qs : List Qualifier} : Qualifier.MatchIn region provider qs qs :=
    Qualifier.MatchIn.of_eq rfl
  cases a with
  | absolute id isLocal names qs => exact absolute_interchanges id (.inl rfl) same
  | ambiguous id names qs => exact ambiguous_interchanges id names same
  | relative id operand qs => exact relative_interchanges id id (fun _ => rfl) same
  | conditional id g t f => exact conditional_interchanges id (fun _ => rfl) (refl t) (refl f)

theorem InterchangesIn.qualify {a b : Attribute} (same : a.InterchangesIn region provider b)
    {x y : Qualifier} (step : Qualifier.MatchIn region provider [x] [y]) :
    (a.qualify x).InterchangesIn region provider (b.qualify y) where
  forks := by rw [forks_qualify, forks_qualify, same.forks]
  resolve {qs rs} more := by
    rw [← qualifyAll_cons, ← qualifyAll_cons]
    exact same.resolve (step.append more)

end Attribute

namespace Plan

structure InterchangesIn (region : Region) (provider : Provider) (p q : Plan) : Prop where
  id : p.id = q.id
  asConst? : p.asConst? = q.asConst?
  mayStopEarly : p.mayStopEarly = q.mayStopEarly
  isObserved : p.isObserved = q.isObserved
  eval_in : ∀ everything {scope}, region.Holds scope →
    p.eval provider everything scope = q.eval provider everything scope
  selected : p.toAttribute.InterchangesIn region provider q.toAttribute

/-- The plans run alike in every scope. -/
abbrev Interchanges (provider : Provider) : Plan → Plan → Prop := InterchangesIn .all provider

theorem Interchanges.eval {provider : Provider} {p q : Plan} (same : Interchanges provider p q) :
    p.eval provider = q.eval provider := by
  funext everything scope
  exact same.eval_in everything trivial

variable {region : Region} {provider : Provider} {p p' q q' r r' : Plan}

theorem InterchangesIn.refl (p : Plan) : InterchangesIn region provider p p :=
  ⟨rfl, rfl, rfl, rfl, fun _ _ _ => rfl, .refl _⟩

theorem InterchangesIn.isConst (same : InterchangesIn region provider p q) :
    p.isConst = q.isConst := by
  rw [Plan.isConst, Plan.isConst, same.asConst?]

theorem InterchangesIn.exhaustive (same : InterchangesIn region provider p q) :
    InterchangesIn region provider (.exhaustive p) (.exhaustive q) where
  id := same.id
  asConst? := rfl
  mayStopEarly := rfl
  isObserved := rfl
  eval_in _ _ inside := same.eval_in true inside
  selected := same.selected

theorem InterchangesIn.observed (same : InterchangesIn region provider p q) :
    InterchangesIn region provider (.observed p) (.observed q) where
  id := same.id
  asConst? := same.asConst?
  mayStopEarly := rfl
  isObserved := rfl
  eval_in _ _ inside := by simp only [Plan.eval, same.eval_in _ inside, same.id]
  selected := same.selected

theorem InterchangesIn.decorate (same : InterchangesIn region provider p q)
    (options : PlanOptions) :
    InterchangesIn region provider (p.decorate options) (q.decorate options) := by
  have seen : ∀ {a b : Plan}, InterchangesIn region provider a b →
      InterchangesIn region provider
        (if options.observes && !a.isObserved then .observed a else a)
        (if options.observes && !b.isObserved then .observed b else b) := by
    intro a b inner
    rw [inner.isObserved]
    split
    · exact inner.observed
    · exact inner
  unfold Plan.decorate
  rw [same.mayStopEarly]
  split
  · exact seen same.exhaustive
  · exact seen same

/-- Plans in progress: what folding makes of them is interchangeable, too. -/
structure Unfinished (region : Region) (provider : Provider) (p q : Plan) : Prop where
  same : InterchangesIn region provider p q
  branches : Option.Rel (InterchangesIn region provider) p.knownBranch? q.knownBranch?
  isFoldable : p.isFoldable = q.isFoldable
  prepared : InterchangesIn region provider p.prepare q.prepare

theorem Unfinished.fold (pair : Unfinished region provider p q) :
    InterchangesIn region provider (p.fold provider).value (q.fold provider).value := by
  obtain ⟨same, branches, foldable, prepared⟩ := pair
  unfold Plan.fold
  cases left : p.knownBranch? with
  | some branch =>
    cases right : q.knownBranch? with
    | some other =>
      rw [left, right] at branches
      cases branches with
      | some related => exact related
    | none =>
      rw [left, right] at branches
      cases branches
  | none =>
    cases right : q.knownBranch? with
    | some other =>
      rw [left, right] at branches
      cases branches
    | none =>
      simp only [foldable, same.eval_in false region.empty, same.id]
      split
      · simp only [Run.value_bind, Run.value_pure]
        split
        · exact same
        · exact .refl _
      · exact prepared

end Plan

namespace Planner

variable {c d : Planner} {region : Region} {p q : Plan}

theorem finished_interchanges (options : d.options = c.options) (provider : d.provider = c.provider)
    (pair : Plan.Unfinished region c.provider p q) :
    Plan.InterchangesIn region c.provider (c.finished p) (d.finished q) := by
  unfold finished
  rw [options, provider]
  split
  · exact pair.fold.decorate c.options
  · exact pair.same.decorate c.options

end Planner

namespace Plan

variable {region : Region} {provider : Provider} {p p' q q' r r' : Plan}

/-! ### The forms of plans -/

def Rigid (p : Plan) : Prop :=
  p.knownBranch? = none ∧ p.isFoldable = false ∧ p.prepare = p

theorem InterchangesIn.unfinished (same : InterchangesIn region provider p q) (left : p.Rigid)
    (right : q.Rigid) : Unfinished region provider p q where
  same
  branches := by
    rw [left.1, right.1]
    exact .none
  isFoldable := left.2.1.trans right.2.1.symm
  prepared := by
    rw [left.2.2, right.2.2]
    exact same

theorem InterchangesIn.of_eval
    (same : ∀ everything {scope}, region.Holds scope →
      p.eval provider everything scope = q.eval provider everything scope)
    (id : p.id = q.id)
    (left : p.asConst? = none ∧ p.isObserved = false ∧ p.toAttribute = .relative p.id p [])
    (right : q.asConst? = none ∧ q.isObserved = false ∧ q.toAttribute = .relative q.id q [])
    (stops : p.mayStopEarly = q.mayStopEarly) : InterchangesIn region provider p q where
  id
  asConst? := left.1.trans right.1.symm
  mayStopEarly := stops
  isObserved := left.2.1.trans right.2.1.symm
  eval_in := same
  selected := by
    rw [left.2.2, right.2.2]
    exact Attribute.relative_interchanges _ _ (same false)
      (Qualifier.MatchIn.of_eq rfl)

theorem attr_unfinished (id : Int) {a b : Attribute} (same : a.InterchangesIn region provider b) :
    Unfinished region provider (attr id a) (attr id b) := by
  have stops : ∀ a : Attribute, (attr id a).mayStopEarly = a.forks := by
    intro a
    cases a <;> rfl
  have related : InterchangesIn region provider (attr id a) (attr id b) :=
    { id := rfl
      asConst? := rfl
      mayStopEarly := by rw [stops, stops, same.forks]
      isObserved := rfl
      eval_in := fun everything _ inside => by
        have runs := same.resolve (@Qualifier.MatchIn.of_eq _ region provider [] [] rfl)
          everything inside
        simp only [Attribute.qualifyAll_nil] at runs
        simp only [Plan.eval, runs]
      selected := same }
  exact related.unfinished ⟨rfl, rfl, rfl⟩ ⟨rfl, rfl, rfl⟩

theorem qualify_unfinished (id : Int) (operand : InterchangesIn region provider p q)
    {x y : Qualifier} (step : Qualifier.MatchIn region provider [x] [y]) :
    Unfinished region provider (p.qualify id x) (q.qualify id y) :=
  attr_unfinished id (operand.selected.qualify step)

theorem indexed_unfinished (id : Int) (operand : InterchangesIn region provider p p')
    (key : InterchangesIn region provider q q') :
    Unfinished region provider (p.indexed id q) (p'.indexed id q') := by
  unfold indexed
  rw [key.asConst?]
  cases q'.asConst? with
  | some v => exact qualify_unfinished id operand (Qualifier.MatchIn.of_eq rfl)
  | none =>
    refine qualify_unfinished id operand fun _ inside => ?_
    have same := key.eval_in false inside
    exact .cons ⟨rfl, same, fun v => by simp only [same]⟩ .nil

theorem both_unfinished (id : Int) (left : InterchangesIn region provider p p')
    (right : InterchangesIn region provider q q') :
    Unfinished region provider (both id p q) (both id p' q') := by
  have same : InterchangesIn region provider (both id p q) (both id p' q') := by
    refine .of_eval (fun everything _ inside => ?_) rfl ⟨rfl, rfl, rfl⟩ ⟨rfl, rfl, rfl⟩ rfl
    simp only [eval, left.eval_in _ inside, right.eval_in _ inside]
  refine ⟨same, .none, ?_, same⟩
  rw [isFoldable, isFoldable, left.isConst, right.isConst]

theorem either_unfinished (id : Int) (left : InterchangesIn region provider p p')
    (right : InterchangesIn region provider q q') :
    Unfinished region provider (either id p q) (either id p' q') := by
  have same : InterchangesIn region provider (either id p q) (either id p' q') := by
    refine .of_eval (fun everything _ inside => ?_) rfl ⟨rfl, rfl, rfl⟩ ⟨rfl, rfl, rfl⟩ rfl
    simp only [eval, left.eval_in _ inside, right.eval_in _ inside]
  refine ⟨same, .none, ?_, same⟩
  rw [isFoldable, isFoldable, left.isConst, right.isConst]

theorem conditional_unfinished (id : Int) (guard : InterchangesIn region provider p p')
    (whenTrue : InterchangesIn region provider q q')
    (whenFalse : InterchangesIn region provider r r') :
    Unfinished region provider (conditional id p q r) (conditional id p' q' r') := by
  have same : InterchangesIn region provider (conditional id p q r) (conditional id p' q' r') :=
    { id := rfl
      asConst? := rfl
      mayStopEarly := rfl
      isObserved := rfl
      eval_in := fun everything _ inside => by
        simp only [Plan.eval, guard.eval_in _ inside, whenTrue.eval_in _ inside,
          whenFalse.eval_in _ inside]
      selected := Attribute.conditional_interchanges id (guard.eval_in false) whenTrue.selected
        whenFalse.selected }
  refine ⟨same, ?_, rfl, same⟩
  simp only [knownBranch?, guard.asConst?]
  cases p'.asConst?.bind Value.asBool? with
  | none => exact .none
  | some known =>
    cases known with
    | true => exact .some whenTrue
    | false => exact .some whenFalse

theorem presence_unfinished (id : Int) (field : String)
    {access other : Option (String × FieldAccess)} (operand : InterchangesIn region provider p q)
    (test : ∀ v : Value, v.testField id field access = v.testField id field other) :
    Unfinished region provider (presence id p field access) (presence id q field other) := by
  have same : InterchangesIn region provider (presence id p field access)
      (presence id q field other) := by
    refine .of_eval (fun everything _ inside => ?_) rfl ⟨rfl, rfl, rfl⟩ ⟨rfl, rfl, rfl⟩ rfl
    simp only [eval, operand.eval_in _ inside, test]
  exact same.unfinished ⟨rfl, rfl, rfl⟩ ⟨rfl, rfl, rfl⟩

theorem loop_unfinished (id : Int) (iterVar accuVar : String) {s s' t t' : Plan}
    (range : InterchangesIn region provider p p') (init : InterchangesIn region provider q q')
    (condition : InterchangesIn region provider r r') (step : InterchangesIn region provider s s')
    (result : InterchangesIn region provider t t') :
    Unfinished region provider (loop id iterVar p accuVar q r s t)
      (loop id iterVar p' accuVar q' r' s' t') := by
  have same : InterchangesIn region provider (loop id iterVar p accuVar q r s t)
      (loop id iterVar p' accuVar q' r' s' t') := by
    refine .of_eval (fun everything _ inside => ?_) rfl ⟨rfl, rfl, rfl⟩ ⟨rfl, rfl, rfl⟩ rfl
    have outer (accu : Value) := region.frame inside accuVar accu
    have inner (accu x : Value) := region.frame (outer accu) iterVar x
    have conditions (accu x : Value) := condition.eval_in false (inner accu x)
    have steps (accu x : Value) := step.eval_in false (inner accu x)
    have results (accu : Value) := result.eval_in false (outer accu)
    simp only [eval, range.eval_in _ inside, range.id, init.eval_in _ inside, conditions, steps,
      results]
  exact same.unfinished ⟨rfl, rfl, rfl⟩ ⟨rfl, rfl, rfl⟩

section Lists

variable {ps qs : List Plan}

theorem evalAll_congr (same : List.Forall₂ (InterchangesIn region provider) ps qs) {scope : Scope}
    (inside : region.Holds scope) : evalAll provider ps scope = evalAll provider qs scope := by
  induction same with
  | nil => rfl
  | cons first _ ih => simp only [evalAll, first.eval_in _ inside, ih]

theorem all_isConst_congr (same : List.Forall₂ (InterchangesIn region provider) ps qs) :
    ps.all isConst = qs.all isConst := by
  induction same with
  | nil => rfl
  | cons first _ ih => rw [List.all_cons, List.all_cons, first.isConst, ih]

theorem list_unfinished (id : Int) (same : List.Forall₂ (InterchangesIn region provider) ps qs) :
    Unfinished region provider (list id ps) (list id qs) := by
  have related : InterchangesIn region provider (list id ps) (list id qs) := by
    refine .of_eval (fun everything _ inside => ?_) rfl ⟨rfl, rfl, rfl⟩ ⟨rfl, rfl, rfl⟩ rfl
    simp only [eval, evalAll_congr same inside]
  exact ⟨related, .none, all_isConst_congr same, related⟩

/-- A call is prepared by the constants among its arguments only. -/
theorem prepareCall_interchanges (id : Int) (function : String) (overloads : List Overload)
    (same : List.Forall₂ (InterchangesIn region provider) ps qs)
    (plain : InterchangesIn region provider (call id function ps overloads)
      (call id function qs overloads)) :
    InterchangesIn region provider (prepareCall id function ps overloads)
      (prepareCall id function qs overloads) := by
  unfold prepareCall
  split
  · exact plain
  · rcases same with _ | ⟨operand, _ | ⟨constant, _ | _⟩⟩
    · exact plain
    · exact plain
    · simp only [constant.asConst?]
      split
      · split
        · split
          · refine .of_eval (fun everything _ inside => ?_) rfl ⟨rfl, rfl, rfl⟩ ⟨rfl, rfl, rfl⟩ rfl
            simp only [eval, operand.eval_in _ inside]
          · exact plain
        · exact plain
      · split
        · split
          · refine .of_eval (fun everything _ inside => ?_) rfl ⟨rfl, rfl, rfl⟩ ⟨rfl, rfl, rfl⟩ rfl
            simp only [eval, operand.eval_in _ inside]
          · exact plain
        · exact plain
      · exact plain
    · exact plain

theorem call_unfinished (id : Int) (function : String) (overloads : List Overload)
    (same : List.Forall₂ (InterchangesIn region provider) ps qs) :
    Unfinished region provider (call id function ps overloads) (call id function qs overloads) := by
  have related : InterchangesIn region provider (call id function ps overloads)
      (call id function qs overloads) := by
    refine .of_eval (fun everything _ inside => ?_) rfl ⟨rfl, rfl, rfl⟩ ⟨rfl, rfl, rfl⟩ rfl
    simp only [eval, evalAll_congr same inside]
  exact ⟨related, .none, all_isConst_congr same,
    prepareCall_interchanges id function overloads same related⟩

end Lists

theorem mapping_unfinished (id : Int) {ps qs : List (Plan × Plan)}
    (same : List.Forall₂
      (fun p q => InterchangesIn region provider p.1 q.1 ∧ InterchangesIn region provider p.2 q.2)
      ps qs) : Unfinished region provider (mapping id ps) (mapping id qs) := by
  have entries {scope : Scope} (inside : region.Holds scope) :
      evalEntries provider ps scope = evalEntries provider qs scope := by
    induction same with
    | nil => rfl
    | cons first _ ih =>
      simp only [evalEntries, first.1.eval_in _ inside, first.2.eval_in _ inside, ih]
  have related : InterchangesIn region provider (mapping id ps) (mapping id qs) := by
    refine .of_eval (fun everything _ inside => ?_) rfl ⟨rfl, rfl, rfl⟩ ⟨rfl, rfl, rfl⟩ rfl
    simp only [eval, entries inside]
  have constants : (ps.all fun e => e.1.isConst && e.2.isConst) =
      qs.all fun e => e.1.isConst && e.2.isConst := by
    clear entries related
    induction same with
    | nil => rfl
    | cons first _ ih => rw [List.all_cons, List.all_cons, first.1.isConst, first.2.isConst, ih]
  exact ⟨related, .none, constants, related⟩

theorem object_unfinished (id : Int) (typeName : String) {ps qs : List (String × Plan)}
    (same : List.Forall₂ (fun p q => p.1 = q.1 ∧ InterchangesIn region provider p.2 q.2) ps qs) :
    Unfinished region provider (object id typeName ps) (object id typeName qs) := by
  have fields {scope : Scope} (inside : region.Holds scope) :
      evalFields provider ps scope = evalFields provider qs scope := by
    induction same with
    | nil => rfl
    | cons first _ ih => simp only [evalFields, first.1, first.2.eval_in _ inside, ih]
  have related : InterchangesIn region provider (object id typeName ps)
      (object id typeName qs) := by
    refine .of_eval (fun everything _ inside => ?_) rfl ⟨rfl, rfl, rfl⟩ ⟨rfl, rfl, rfl⟩ rfl
    simp only [eval, fields inside]
  exact related.unfinished ⟨rfl, rfl, rfl⟩ ⟨rfl, rfl, rfl⟩

end Plan

namespace Planner

open Plan hiding id

variable {c d : Planner} {region : Region}

/-- Planners that read and test fields alike make plans that interchange, if they do so of the
nodes that are resolved. -/
theorem follows_interchanges (options : d.options = c.options) (provider : d.provider = c.provider)
    (finds : ∀ function, c.registry.find function = d.registry.find function)
    (reads : ∀ id operand field, Qualifier.MatchIn region c.provider
      [.field id field (c.fieldAccess operand field)]
      [.field id field (d.fieldAccess operand field)])
    (tests : ∀ id operand field (v : Value),
      v.testField id field (c.fieldAccess operand field) =
        v.testField id field (d.fieldAccess operand field))
    (resolved : ∀ id field locals, c.isResolved id = true →
      Unfinished region c.provider (c.identPlan locals id field) (d.identPlan locals id field)) :
    Follows c d fun _ _ => InterchangesIn region c.provider where
  finds
  literal id v locals := by
    have leaf : (Plan.const id v).Rigid := ⟨rfl, rfl, rfl⟩
    exact finished_interchanges options provider ((InterchangesIn.refl _).unfinished leaf leaf)
  resolved id _ field locals known :=
    finished_interchanges options provider (resolved id field locals known)
  select id field operand _ _ _ _ pair :=
    finished_interchanges options provider
      (qualify_unfinished id pair.related (reads id operand.id field))
  presence id field operand _ _ _ pair :=
    finished_interchanges options provider
      (presence_unfinished id field pair.related (tests id operand.id field))
  both id _ _ _ _ _ _ _ left right :=
    finished_interchanges options provider (both_unfinished id left.related right.related)
  either id _ _ _ _ _ _ _ left right :=
    finished_interchanges options provider (either_unfinished id left.related right.related)
  index id _ _ _ _ _ _ _ operand key :=
    finished_interchanges options provider (indexed_unfinished id operand.related key.related)
  conditional id _ _ _ _ _ _ _ _ _ _ guard whenTrue whenFalse :=
    finished_interchanges options provider
      (conditional_unfinished id guard.related whenTrue.related whenFalse.related)
  call id function _ _ _ _ _ pairs :=
    finished_interchanges options provider (call_unfinished id function _ pairs.forall₂)
  member id function _ _ _ _ _ _ _ _ target pairs := by
    have args := List.Forall₂.cons target.related pairs.forall₂
    exact finished_interchanges options provider (call_unfinished id function _ args)
  list id _ _ _ _ pairs :=
    finished_interchanges options provider (list_unfinished id pairs.forall₂)
  mapping id _ _ _ _ pairs :=
    finished_interchanges options provider (mapping_unfinished id pairs.forall₂)
  object id _ full _ _ _ _ _ pairs :=
    finished_interchanges options provider (object_unfinished id full pairs.forall₂)
  loop id iterVar accuVar _ _ _ _ _ _ _ _ _ _ _ _ _ _ _ _ range init condition step result :=
    finished_interchanges options provider
      (loop_unfinished id iterVar accuVar range.related init.related condition.related
        step.related result.related)

omit [HostObjects] in
theorem identPlan_rigid (c : Planner) (locals : List String) (id : Int) (name : String) :
    (c.identPlan locals id name).Rigid := by
  unfold identPlan
  split
  · exact ⟨rfl, rfl, rfl⟩
  · exact ⟨rfl, rfl, rfl⟩
  · split <;> exact ⟨rfl, rfl, rfl⟩

theorem identPlan_unfinished {locals : List String} {id : Int} {name : String}
    (same : d.identPlan locals id name = c.identPlan locals id name) (provider : Provider) :
    Unfinished region provider (c.identPlan locals id name) (d.identPlan locals id name) := by
  have leaf := identPlan_rigid c locals id name
  rw [same]
  exact (InterchangesIn.refl _).unfinished leaf leaf

end Planner

end ExprEngine
