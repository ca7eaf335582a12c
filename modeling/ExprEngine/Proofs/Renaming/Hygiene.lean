import ExprEngine.Proofs.Planning.Simulation
import ExprEngine.Proofs.Renaming.Folding

/-!
# Hygiene of loop variables

Alike expressions get alike plans: a name is planned as the variable of a loop on both sides or on
none, and what an unchecked name may stand for besides is written with a dot. So a loop variable may
be renamed to any fresh name, whatever is called by the old and the new name outside.
-/

namespace ExprEngine

open Planning Renaming

theorem Namespace.eq_or_dotted_of_candidate {ns : Namespace} {name full : String}
    (relative : name.toList.head? ≠ some '.') (candidate : full ∈ ns.candidates name) :
    full = name ∨ '.' ∈ full.toList := by
  unfold candidates at candidate
  split at candidate
  · next rooted =>
    rw [rooted] at relative
    exact absurd rfl relative
  · split at candidate
    · exact .inl (List.mem_singleton.mp candidate)
    · rcases List.mem_append.mp candidate with candidate | candidate
      · obtain ⟨enclosing, -, rfl⟩ := List.mem_map.mp candidate
        exact .inr (by simp)
      · exact .inl (List.mem_singleton.mp candidate)

/-- Identifiers have no leading dot, which would make them names of the root namespace. -/
def Expr.Relative : Expr → List String → Prop
  | .ident _ name, _ => name.toList.head? ≠ some '.'
  | _, _ => True

namespace Environment

section

variable [HostObjects]

variable {env : Environment} {ns : Namespace} {r r' : Expr} {ρ : Renaming} {p q : Plan}

theorem finished_alike (alike : Plan.Alike ρ p q) :
    Plan.Alike ρ ((env.planner (.unchecked r)).finished p)
      ((env.planner (.unchecked r')).finished q) := by
  change Plan.Alike ρ
    ((if env.options.optimize then (p.fold env.provider).value else p).decorate env.options)
    ((if env.options.optimize then (q.fold env.provider).value else q).decorate env.options)
  split
  · exact (alike.fold env.provider).decorate env.options
  · exact alike.decorate env.options

/-- The planner's list of loop variables and the names that are related agree on what is bound. -/
theorem identPlan_alike (container : env.candidates = ns.candidates) (undotted : Undotted ρ)
    (id : Int) {n m : String} (related : Relates ρ n m) (relative : n.toList.head? ≠ some '.') :
    Plan.Alike ρ ((env.planner (.unchecked r)).identPlan (ρ.map Prod.fst) id n)
      ((env.planner (.unchecked r')).identPlan (ρ.map Prod.snd) id m) := by
  change Plan.Alike ρ
    (if n ∈ ρ.map Prod.fst then .attr id (.absolute id true [n] [])
      else .attr id (.ambiguous id (env.candidates n) []))
    (if m ∈ ρ.map Prod.snd then .attr id (.absolute id true [m] [])
      else .attr id (.ambiguous id (env.candidates m) []))
  by_cases bound : n ∈ ρ.map Prod.fst
  · rw [if_pos bound, if_pos ((bound_iff related).mp bound)]
    exact .attr (.absolute bound related .nil)
  · obtain rfl := eq_of_free related bound
    rw [if_neg bound, if_neg (mt (bound_iff related).mpr bound), container]
    refine .attr (.ambiguous (fun full candidate => ?_) .nil)
    rcases Namespace.eq_or_dotted_of_candidate relative candidate with rfl | dotted
    · exact related
    · exact relates_of_dotted undotted dotted

theorem agree_operator_alike (id : Int) (function : String) (e : PlanError) {ps qs : List Plan}
    (alike : Plan.AlikeAll ρ ps qs) :
    Agree (Plan.Alike ρ)
      (outcome (match Planner.operatorPlan? id function ps with
        | some p => (env.planner (.unchecked r)).finish p
        | none => throw e))
      (outcome (match Planner.operatorPlan? id function qs with
        | some q => (env.planner (.unchecked r')).finish q
        | none => throw e)) := by
  rcases alike with _ | ⟨first, _ | ⟨second, _ | ⟨third, _ | _⟩⟩⟩
  · exact .error _
  · exact .error _
  · simp only [Planner.operatorPlan?]
    by_cases isAnd : function = Operator.logicalAnd
    · simp only [isAnd, ↓reduceIte, Planner.outcome_finish]
      exact .ok (finished_alike (.both first second))
    · by_cases isOr : function = Operator.logicalOr
      · subst isOr
        simp only [isAnd, ↓reduceIte, Planner.outcome_finish]
        exact .ok (finished_alike (.either first second))
      · by_cases isIndex : function = Operator.index
        · subst isIndex
          simp only [isAnd, isOr, ↓reduceIte, Planner.outcome_finish]
          exact .ok (finished_alike (first.indexed id second))
        · simp only [isAnd, isOr, isIndex, ↓reduceIte]
          exact .error _
  · simp only [Planner.operatorPlan?]
    by_cases isConditional : function = Operator.conditional
    · simp only [isConditional, ↓reduceIte, Planner.outcome_finish]
      exact .ok (finished_alike (.conditional first second third))
    · simp only [isConditional, ↓reduceIte]
      exact .error _
  · exact .error _

theorem agree_callPlan_alike (id : Int) (function : String) (onTarget : Bool) {ps qs : List Plan}
    (alike : Plan.AlikeAll ρ ps qs) :
    Agree (Plan.Alike ρ)
      (outcome ((env.planner (.unchecked r)).callPlan id function onTarget ps))
      (outcome ((env.planner (.unchecked r')).callPlan id function onTarget qs)) := by
  have registry : (env.planner (.unchecked r')).registry =
      (env.planner (.unchecked r)).registry := rfl
  have reachable : (env.planner (.unchecked r')).reachable function ps.length =
      (env.planner (.unchecked r)).reachable function ps.length := rfl
  rw [Planner.outcome_callPlan, Planner.outcome_callPlan, ← alike.length_eq, registry, reachable]
  split
  · exact .error _
  · split
    · exact .error _
    · exact .ok (finished_alike (.call alike))

mutual

theorem agree_of_alike (container : env.candidates = ns.candidates) {ρ : Renaming}
    (undotted : Undotted ρ) {e e' : Expr} (alike : Expr.Alike ρ e e') {locals : List String}
    (relative : e.Everywhere Expr.Relative locals) :
    Agree (Plan.Alike ρ) (outcome ((env.planner (.unchecked r)).planExpr e (ρ.map Prod.fst)))
      (outcome ((env.planner (.unchecked r')).planExpr e' (ρ.map Prod.snd))) := by
  -- The lists of loop variables are the two sides of `ρ`, so both grow alike under a loop.
  match alike with
  | .literal =>
    rw [Planner.planExpr, Planner.planExpr, Planner.outcome_finish, Planner.outcome_finish]
    exact .ok (finished_alike .const)
  | .ident related =>
    rw [Planner.planExpr, Planner.planExpr, Planner.outcome_finish, Planner.outcome_finish]
    exact .ok (finished_alike (identPlan_alike container undotted _ related relative))
  | @Expr.Alike.select _ id operand operand' field operands =>
    have unresolved : (env.planner (.unchecked r)).isResolved id = false := rfl
    have unresolved' : (env.planner (.unchecked r')).isResolved id = false := rfl
    rw [Planner.planExpr, Planner.planExpr, unresolved, unresolved']
    simp only [Bool.false_eq_true, ↓reduceIte, outcome_bind, Planner.outcome_finish]
    refine (agree_of_alike container undotted operands relative.2).bind fun p q alike => ?_
    exact .ok (finished_alike (alike.selected id field none))
  | .presence operands =>
    rw [Planner.planExpr, Planner.planExpr, outcome_bind, outcome_bind]
    refine (agree_of_alike container undotted operands relative.2).bind fun p q alike => ?_
    rw [Planner.outcome_finish, Planner.outcome_finish]
    exact .ok (finished_alike (.presence alike))
  | .call args =>
    rw [Planner.planExpr, Planner.planExpr, ← args.length_eq]
    split
    · split
      · exact .error _
      · rw [outcome_bind, outcome_bind]
        refine (agreeAll_of_alike container undotted args relative.2).bind fun ps qs alike => ?_
        exact agree_operator_alike _ _ _ alike
    · rw [outcome_bind, outcome_bind]
      refine (agreeAll_of_alike container undotted args relative.2).bind fun ps qs alike => ?_
      exact agree_callPlan_alike _ _ false alike
  | .member targets args =>
    rw [Planner.planExpr, Planner.planExpr]
    split
    · exact .error _
    · rw [outcome_bind, outcome_bind]
      refine (agree_of_alike container undotted targets relative.2.1).bind fun p q target => ?_
      rw [outcome_bind, outcome_bind]
      refine (agreeAll_of_alike container undotted args relative.2.2).bind fun ps qs alike => ?_
      exact agree_callPlan_alike _ _ true (.cons target alike)
  | .list elements =>
    rw [Planner.planExpr, Planner.planExpr, outcome_bind, outcome_bind]
    refine (agreeAll_of_alike container undotted elements relative.2).bind fun ps qs alike => ?_
    rw [Planner.outcome_finish, Planner.outcome_finish]
    exact .ok (finished_alike (.list alike))
  | .mapping entries =>
    rw [Planner.planExpr, Planner.planExpr, outcome_bind, outcome_bind]
    refine (agreeKeyed_of_alike container undotted entries relative.2).bind fun ps qs alike => ?_
    rw [Planner.outcome_finish, Planner.outcome_finish]
    exact .ok (finished_alike (.mapping alike))
  | @Expr.Alike.object _ id name _ _ entries =>
    have typeName : (env.planner (.unchecked r')).typeName id name =
        (env.planner (.unchecked r)).typeName id name := rfl
    rw [Planner.planExpr, Planner.planExpr, outcome_bind, outcome_bind, typeName]
    cases outcome ((env.planner (.unchecked r)).typeName id name) with
    | error e => exact .error e
    | ok full =>
      simp only [Except.bind, outcome_bind]
      refine (agreeFields_of_alike container undotted full entries relative.2).bind
        fun ps qs alike => ?_
      rw [Planner.outcome_finish, Planner.outcome_finish]
      exact .ok (finished_alike (.object alike))
  | @Expr.Alike.loop _ _ x y _ _ accuVar _ _ _ _ _ _ _ _ plain ranges inits conditions steps
      results =>
    obtain ⟨-, range, init, condition, step, result⟩ := relative
    have outside : Undotted ((accuVar, accuVar) :: ρ) :=
      List.forall_mem_cons.mpr ⟨.inl rfl, undotted⟩
    have inside : Undotted ((x, y) :: (accuVar, accuVar) :: ρ) :=
      List.forall_mem_cons.mpr ⟨plain, outside⟩
    rw [Planner.planExpr, Planner.planExpr, outcome_bind, outcome_bind]
    refine (agree_of_alike container undotted ranges range).bind fun o o' ranges => ?_
    rw [outcome_bind, outcome_bind]
    refine (agree_of_alike container undotted inits init).bind fun i i' inits => ?_
    rw [outcome_bind, outcome_bind]
    refine (agree_of_alike container inside conditions condition).bind fun w w' conditions => ?_
    rw [outcome_bind, outcome_bind]
    refine (agree_of_alike container inside steps step).bind fun s s' steps => ?_
    rw [outcome_bind, outcome_bind]
    refine (agree_of_alike container outside results result).bind fun r r' results => ?_
    rw [Planner.outcome_finish, Planner.outcome_finish]
    exact .ok (finished_alike (.loop plain ranges inits conditions steps results))

theorem agreeAll_of_alike (container : env.candidates = ns.candidates) {ρ : Renaming}
    (undotted : Undotted ρ) {es es' : List Expr} (alike : Expr.AlikeAll ρ es es')
    {locals : List String} (relative : Expr.EverywhereAll Expr.Relative es locals) :
    Agree (Plan.AlikeAll ρ) (outcome ((env.planner (.unchecked r)).planAll es (ρ.map Prod.fst)))
      (outcome ((env.planner (.unchecked r')).planAll es' (ρ.map Prod.snd))) := by
  match alike with
  | .nil => exact .ok .nil
  | .cons first others =>
    rw [Planner.planAll, Planner.planAll, outcome_bind, outcome_bind]
    refine (agree_of_alike container undotted first relative.1).bind fun p q first => ?_
    rw [outcome_bind, outcome_bind]
    refine (agreeAll_of_alike container undotted others relative.2).bind fun ps qs others => ?_
    exact .ok (.cons first others)

theorem agreeKeyed_of_alike (container : env.candidates = ns.candidates) {ρ : Renaming}
    (undotted : Undotted ρ) {entries entries' : List Entry}
    (alike : Expr.AlikeIn ρ entries entries') {locals : List String}
    (relative : Expr.EverywhereIn Expr.Relative entries locals) :
    Agree (Plan.AlikeKeyed ρ)
      (outcome ((env.planner (.unchecked r)).planKeyed entries (ρ.map Prod.fst)))
      (outcome ((env.planner (.unchecked r')).planKeyed entries' (ρ.map Prod.snd))) := by
  match alike with
  | .nil => exact .ok .nil
  | .field _ _ => exact .error _
  | .keyed keys values others =>
    rw [Planner.planKeyed, Planner.planKeyed, outcome_bind, outcome_bind]
    refine (agree_of_alike container undotted keys relative.1).bind fun k k' keys => ?_
    rw [outcome_bind, outcome_bind]
    refine (agree_of_alike container undotted values relative.2.1).bind fun v v' values => ?_
    rw [outcome_bind, outcome_bind]
    refine (agreeKeyed_of_alike container undotted others relative.2.2).bind fun ps qs others => ?_
    exact .ok (.cons keys values others)

theorem agreeFields_of_alike (container : env.candidates = ns.candidates) {ρ : Renaming}
    (undotted : Undotted ρ) (typeName : String) {entries entries' : List Entry}
    (alike : Expr.AlikeIn ρ entries entries') {locals : List String}
    (relative : Expr.EverywhereIn Expr.Relative entries locals) :
    Agree (Plan.AlikeFields ρ)
      (outcome ((env.planner (.unchecked r)).planFields typeName entries (ρ.map Prod.fst)))
      (outcome ((env.planner (.unchecked r')).planFields typeName entries' (ρ.map Prod.snd))) := by
  match alike with
  | .nil => exact .ok .nil
  | .keyed _ _ _ => exact .error _
  | .field values others =>
    rw [Planner.planFields, Planner.planFields, outcome_bind, outcome_bind]
    refine (agree_of_alike container undotted values relative.1).bind fun v v' values => ?_
    rw [outcome_bind, outcome_bind]
    refine (agreeFields_of_alike container undotted typeName others relative.2).bind
      fun ps qs others => ?_
    exact .ok (.cons values others)

end

/-- A loop variable may be renamed to any fresh name: planning fails alike, or the programs have the
same runs in every scope. -/
theorem loop_variables_hygienic (env : Environment) (container : env.candidates = ns.candidates)
    {y : String} (undotted : '.' ∉ y.toList) {e e' : Expr} (renames : e.Renames y e')
    (fresh : e.Everywhere (Expr.Avoids y) []) (relative : e.Everywhere Expr.Relative []) :
    Agree (fun p q => ∀ scope, p.eval scope = q.eval scope) (outcome (env.plan (.unchecked e)))
      (outcome (env.plan (.unchecked e'))) := by
  have others : ∀ n, n ≠ y → Relates [] n n := fun _ _ => rfl
  have alike : Expr.Alike [] e e' := Expr.alike_of_renames undotted others renames fresh
  have none : Undotted [] := fun _ member => nomatch member
  have planned : Agree (Plan.Alike []) (outcome ((env.planner (.unchecked e)).planExpr e []))
      (outcome ((env.planner (.unchecked e')).planExpr e' [])) :=
    agree_of_alike container none alike relative
  rw [plan, plan, outcome_bind, outcome_bind]
  refine planned.bind fun p q alike => .ok fun scope => ?_
  exact Plan.eval_alike env.provider alike false scope.renamed_refl

/-- A loop over `[[1]]` with a loop over its own variable in it, which binds `x`. -/
def loopOverElement (name : String) : Expr :=
  .loop 12 name (.list 3 [.list 2 [.literal 1 (.int 1)]]) "r" (.literal 4 .null)
    (.literal 5 (.bool true))
    (.loop 10 "x" (.ident 6 name) "s" (.ident 7 "r") (.literal 8 (.bool true)) (.ident 9 "x")
      (.ident 13 "s"))
    (.ident 11 "r")

end

attribute [local instance] HostObjects.silent

theorem loopOverElement_hygienic :
    let env : Environment :=
      { candidates := (Namespace.mk "x.y").candidates, options := { optimize := true } }
    let scope : Scope := .marked (.function fun _ => some (.bool false)) [⟨"x", []⟩, ⟨"y", []⟩]
    ∃ p q, outcome (env.plan (.unchecked (loopOverElement "x"))) = .ok p ∧
      outcome (env.plan (.unchecked (loopOverElement "y"))) = .ok q ∧
      p.eval scope = q.eval scope := by
  intro env scope
  have renames : (loopOverElement "x").Renames "y" (loopOverElement "y") := .here (by decide)
  have fresh : (loopOverElement "x").Everywhere (Expr.Avoids "y") [] := by
    simp [loopOverElement, Expr.Everywhere, Expr.EverywhereAll, Expr.Avoids]
  have relative : (loopOverElement "x").Everywhere Expr.Relative [] := by
    simp [loopOverElement, Expr.Everywhere, Expr.EverywhereAll, Expr.Relative]
  have container : env.candidates = (Namespace.mk "x.y").candidates := rfl
  have hygienic := loop_variables_hygienic env container (by decide) renames fresh relative
  refine ⟨_, _, rfl, rfl, ?_⟩
  exact hygienic.related scope

end Environment

end ExprEngine
