import ExprEngine.Proofs.Collection.Macros
import ExprEngine.Proofs.Evaluation.Spacing
import ExprEngine.Proofs.Partial.Completion

/-!
# Where quantifiers stop

The loops of `all` and `exists` ask before each element whether their accumulator is decided. So
they evaluate their predicate once for each element up to the first one that decides, in order, and
for none after it. Nothing else is evaluated but the range and the nodes of the loop itself.
-/

namespace ExprEngine

namespace Macro

def nodeCount : Macro → Nat
  | all _ | map _ => 7
  | exist _ => 8
  | mapWhere .. => 9
  | filter _ => 10
  | existOne _ => 11

/-- What the loop of a macro that may be decided does besides its parts. Its result is looked up
where a checker has resolved it to another variable. -/
inductive Own (m : Macro) (next : Int) : Event → Prop where
  | reached {n} (made : n < m.nodeCount) : Own m next (.reached (numbered next n))
  | recorded {n} (made : n < m.nodeCount) (v : Value) :
      Own m next (.recorded (numbered next n) v)
  | guarded (args : List Value) :
      Own m next (.invoked (Standard.notStrictlyFalse Operator.notStrictlyFalse) args)
  | negated (args : List Value) :
      Own m next (.invoked (Standard.unary Operator.logicalNot Value.logicalNot) args)
  | demanded (cell : Nat) (name : String) (v : Value) : Own m next (.demanded cell name v)

theorem ownNode (m : Macro) (next : Int) (n : Nat) (made : n < m.nodeCount) :
    OwnNode (m.Own next) (numbered next n) :=
  ⟨.reached made, .recorded made⟩

theorem ownNodes (m : Macro) (next : Int) (ns : List Nat) (made : ∀ n ∈ ns, n < m.nodeCount) :
    ∀ i ∈ ns.map (numbered next), OwnNode (m.Own next) i :=
  List.forall_mem_map.mpr fun n member => m.ownNode next n (made n member)

end Macro

theorem Scope.resolve_demands (s : Scope) (name : String) :
    ∀ e ∈ (s.resolve name).log, ∃ cell n v, e = .demanded cell n v := by
  induction s with
  | empty | function f =>
    intro e member
    cases member
  | table t =>
    intro e member
    rw [Scope.resolve, Table.resolve] at member
    split at member
    · next b _ =>
      cases b with
      | onDemand l => exact ⟨_, _, _, List.mem_singleton.mp member⟩
      | _ => cases member
    · cases member
  | layered parent child above below =>
    intro e member
    rw [Scope.resolve, Run.log_bind] at member
    rcases List.mem_append.mp member with member | member
    · exact below e member
    · split at member
      · cases member
      · exact above e member
  | frame parent n v above =>
    intro e member
    rw [Scope.resolve] at member
    split at member
    · cases member
    · exact above e member
  | marked inner ps within => exact within
  | recording inner within => exact within

namespace Planner

open Planning

open Plan hiding id

open Builder (accumulator)

variable {c : Planner} {own : Event → Prop} {s : Scope} {locals : List String} {a id : Int}
  {name var : String} {v x : Value} {b : Bool} {p : Plan}

section

variable [HostObjects]

/-! ### Reading variables -/

theorem own_of_name (isLocal : Bool) (reached : own (.reached a))
    (demanded : ∀ cell n v, own (.demanded cell n v)) :
    ∀ e ∈ ((Plan.attr a (.absolute a isLocal [name] [])).eval c.provider false s).log, own e := by
  have marked : ((Variable.mk a isLocal [name] []).marked? s name).log = [] := by
    unfold Variable.marked? Variable.unknown?
    split
    · rfl
    · split <;> rfl
  have found : ∀ e ∈ ((Variable.mk a isLocal [name] []).found? c.provider s name).log, own e := by
    unfold Variable.found?
    rw [Run.log_bind, List.forall_mem_append]
    refine ⟨fun e member => ?_, fun e member => ?_⟩
    · obtain ⟨cell, n, v, rfl⟩ := s.resolve_demands name e member
      exact demanded cell n v
    · split at member <;> cases member
  have resolved :
      ∀ e ∈ ((Variable.mk a isLocal [name] []).resolveName? c.provider s name).log, own e := by
    intro e member
    rw [Variable.resolveName?_eq, Run.log_bind, marked, List.nil_append] at member
    split at member
    · cases member
    · exact found e member
  simp only [eval, resolve, steps, Variable.resolve, Variable.resolve?, Variable.firstSome,
    Run.log_bind, Run.log_pure, List.append_nil, List.forall_mem_append]
  refine ⟨List.forall_mem_singleton.mpr reached, resolved, fun e member => ?_⟩
  split at member <;> cases member

/-- Whatever a checker has resolved a variable of a loop to, it is looked up at most. -/
theorem traced_any_ident (plain : c.options.exhaustive = false) (bound : name ∈ locals)
    (node : OwnNode own a) (demanded : ∀ cell n v, own (.demanded cell n v)) :
    ∃ v, ((c.finished (c.identPlan locals a name)).eval c.provider false s).Traced own v [] := by
  have id : (c.identPlan locals a name).id = a := by
    unfold identPlan
    split
    · rfl
    · rfl
    · split <;> rfl
  have looked : ∀ e ∈ ((c.identPlan locals a name).eval c.provider false s).log, own e := by
    unfold identPlan
    split
    · exact List.forall_mem_singleton.mpr node.reached
    · exact own_of_name false node.reached demanded
    · rw [if_pos bound]
      exact own_of_name true node.reached demanded
  rw [← id] at node
  rw [finished_of_rigid (identPlan_rigid c locals a name)]
  exact ⟨_, traced_decorate plain ⟨rfl, .of_forall looked⟩ node⟩

end

theorem resolve_of_found (isLocal : Bool)
    (unmarked : isLocal = true ∨ ∀ p ∈ s.patterns, p.name ≠ name)
    (found : s.resolve name = pure (some v)) :
    (Variable.mk a isLocal [name] []).resolve c.provider s = pure v := by
  have marked : (Variable.mk a isLocal [name] []).marked? s name = pure none := by
    unfold Variable.marked?
    rcases unmarked with rfl | unmarked
    · rfl
    · rw [Variable.unknown?_eq_pure _ unmarked, ite_self]
  have resolved : (Variable.mk a isLocal [name] []).resolveName? c.provider s name =
      pure (some v) := by
    rw [Variable.resolveName?_eq, marked, Variable.found?, found]
    rfl
  rw [Variable.resolve, Variable.resolve?, Variable.firstSome, resolved]
  rfl

theorem identPlan_of_keeps (bound : name ∈ locals) (keeps : c.checked.Keeps s name a) :
    ∃ isLocal, c.identPlan locals a name = .attr a (.absolute a isLocal [name] []) ∧
      (isLocal = true ∨ ∀ p ∈ s.patterns, p.name ≠ name) := by
  rcases keeps with silent | ⟨named, unmarked⟩
  · exact ⟨true, identPlan_of_silent silent bound, .inl rfl⟩
  · refine ⟨false, ?_, .inr unmarked⟩
    unfold identPlan
    rw [named]

variable [HostObjects]

theorem traced_ident (plain : c.options.exhaustive = false) (bound : name ∈ locals)
    (keeps : c.checked.Keeps s name a) (found : s.resolve name = pure (some v))
    (node : OwnNode own a) :
    ((c.finished (c.identPlan locals a name)).eval c.provider false s).Traced own v [] ∧
      (c.finished (c.identPlan locals a name)).isConst = false := by
  obtain ⟨isLocal, form, unmarked⟩ := identPlan_of_keeps bound keeps
  rw [finished_of_rigid (identPlan_rigid c locals a name), isConst_decorate plain, form]
  refine ⟨traced_decorate plain ?_ node, rfl⟩
  simp only [eval, resolve, steps, resolve_of_found isLocal unmarked found]
  exact (traced_emit node.reached).bind (traced_pure v)

/-! ### Conditions and steps -/

variable {function : String} {o : Overload} {more : List Overload} {answer short : Bool}

theorem traced_unary (plain : c.options.exhaustive = false)
    (reaches : c.reachable function 1 = o :: more)
    (operand : (p.eval c.provider false s).Traced own (.bool b) [] ∧ p.isConst = false)
    (node : OwnNode own id)
    (accepts : o.accepts [.bool b] = true) (invoked : own (.invoked o [.bool b]))
    (result : o.result [.bool b] = .bool answer) :
    ((c.finished (.call id function [p] (c.reachable function 1))).eval c.provider false s).Traced
        own (.bool answer) [] ∧
      (c.finished (.call id function [p] (c.reachable function 1))).isConst = false := by
  have rigid : (Plan.call id function [p] (c.reachable function 1)).Rigid := by
    refine ⟨rfl, ?_, ?_⟩
    · rw [isFoldable, List.all_cons, operand.2, Bool.false_and]
    · simp only [prepare, prepareCall, ite_self]
  rw [finished_of_rigid rigid, isConst_decorate plain, reaches]
  refine ⟨traced_decorate plain ?_ node, rfl⟩
  exact Plan.traced_call operand.1 node.reached accepts invoked result

section Conditions

variable {extra : List Overload} (standard : c.registry = Registry.standard.addAll extra)
  (plain : c.options.exhaustive = false)
  (operand : (p.eval c.provider false s).Traced own (.bool b) [] ∧ p.isConst = false)
  (node : OwnNode own id)

include standard plain operand node

theorem traced_guard
    (guarded : ∀ args, own (.invoked (Standard.notStrictlyFalse Operator.notStrictlyFalse) args)) :
    ((c.finished (.call id Operator.notStrictlyFalse [p]
      (c.reachable Operator.notStrictlyFalse 1))).eval c.provider false s).Traced own
        (.bool b) [] := by
  obtain ⟨more, reaches⟩ := reachable_guard standard
  exact (traced_unary plain reaches operand node rfl (guarded _) rfl).1

theorem traced_not
    (negated : ∀ args, own (.invoked (Standard.unary Operator.logicalNot Value.logicalNot) args)) :
    ((c.finished (.call id Operator.logicalNot [p]
        (c.reachable Operator.logicalNot 1))).eval c.provider false s).Traced own (.bool (!b)) [] ∧
      (c.finished (.call id Operator.logicalNot [p]
        (c.reachable Operator.logicalNot 1))).isConst = false := by
  obtain ⟨more, reaches⟩ := reachable_not standard
  exact traced_unary plain reaches operand node rfl (negated _) rfl

end Conditions

theorem traced_step (plain : c.options.exhaustive = false) {l r : Plan}
    (left : (l.eval c.provider false s).Traced own (.bool (!short)) [] ∧ l.isConst = false)
    (right : (r.eval c.provider false s).value = .bool b) (node : OwnNode own id) :
    ((c.finished (if short then .either id l r else .both id l r)).eval c.provider false s).Traced
      own (.bool b) [(r.eval c.provider false s).log] := by
  have rigid : (if short then Plan.either id l r else .both id l r).Rigid := by
    cases short
    · exact ⟨rfl, by rw [if_neg Bool.false_ne_true, isFoldable, left.2, Bool.false_and], rfl⟩
    · exact ⟨rfl, by rw [if_pos rfl, isFoldable, left.2, Bool.false_and], rfl⟩
  have id : (if short then Plan.either id l r else .both id l r).id = id := by
    cases short <;> rfl
  have whole := @traced_whole own _ (r.eval c.provider false s)
  rw [right] at whole
  have traced := Plan.traced_combine left.1 whole node.reached
  rw [← id] at node
  rw [finished_of_rigid rigid]
  exact traced_decorate plain traced node

/-! ### Quantifiers -/

omit [HostObjects] in
theorem resolve_inside (s : Scope) (apart : var ≠ accumulator) (v x : Value) :
    (inside s accumulator var v x).resolve accumulator = pure (some v) := by
  simp only [inside, Scope.resolve, if_neg (Ne.symm apart), ↓reduceIte]

theorem traced_accumulator (locals : List String) (plain : c.options.exhaustive = false)
    (apart : var ≠ accumulator) (keeps : c.checked.Keeps s accumulator a) (node : OwnNode own a)
    (v x : Value) :
    let read := c.finished (c.identPlan (var :: accumulator :: locals) a accumulator)
    (read.eval c.provider false (inside s accumulator var v x)).Traced own v [] ∧
      read.isConst = false := by
  have kept : c.checked.Keeps (inside s accumulator var v x) accumulator a := keeps
  have bound : accumulator ∈ var :: accumulator :: locals := by simp
  exact traced_ident plain bound kept (resolve_inside s apart v x) node

/-- The loop of a quantifier whose condition asks whether the accumulator is decided. -/
theorem traced_quantifier (plain : c.options.exhaustive = false) (apart : var ≠ accumulator)
    {root start k accu last : Int} {o w q : Plan} {elements : List Value}
    (ranged : (o.eval c.provider false s).value.elements? = some elements)
    (keeps : c.checked.Keeps s accumulator accu)
    (asks : ∀ b x, (w.eval c.provider false (inside s accumulator var (.bool b) x)).Traced own
      (.bool (b != short)) [])
    (nodes : ∀ i ∈ [root, start, k, accu, last], OwnNode own i)
    (demanded : ∀ cell n v, own (.demanded cell n v)) :
    let run x := q.eval c.provider false (inside s accumulator var (.bool (!short)) x)
    let visited := untilDecided (fun x => (run x).value.decides short) elements
    let accuPlan := c.finished (c.identPlan (var :: accumulator :: locals) accu accumulator)
    (∀ x ∈ visited, ∃ b, (run x).value = .bool b) →
      Spaced own ((c.finished (.loop root var o accumulator
          (c.finished (.const start (.bool (!short)))) w
          (c.finished (if short then .either k accuPlan q else .both k accuPlan q))
          (c.finished (c.identPlan (accumulator :: locals) last accumulator)))).eval
            c.provider false s).log
        ((o.eval c.provider false s).log :: visited.map fun x => (run x).log) := by
  intro run visited accuPlan truth
  simp only [List.forall_mem_cons] at nodes
  obtain ⟨ofRoot, ofStart, ofStep, ofAccu, ofLast, -⟩ := nodes
  have starts : ((c.finished (.const start (.bool (!short)))).eval c.provider false s).Traced own
      (.bool (!short)) [] := by
    rw [finished_of_rigid ⟨rfl, rfl, rfl⟩]
    exact traced_decorate plain ((traced_emit ofStart.reached).bind (traced_pure _)) ofStart
  have steps : ∀ x ∈ visited, ((c.finished (if short then .either k accuPlan q
      else .both k accuPlan q)).eval c.provider false
        (inside s accumulator var (.bool (!short)) x)).Traced own
          (.bool (if (run x).value.decides short then short else !short)) [(run x).log] := by
    intro x member
    obtain ⟨b, answers⟩ := truth x member
    have decided : (if (run x).value.decides short then short else !short) = b := by
      rw [answers]
      cases short <;> cases b <;> rfl
    rw [decided]
    have reads := traced_accumulator locals plain apart keeps ofAccu (.bool (!short)) x
    exact traced_step plain reads answers ofStep
  -- Nothing is asked of the value of the result, so its identifier may be resolved in any way.
  obtain ⟨v, ends⟩ := traced_any_ident (s := .frame s accumulator _) plain
    (List.mem_cons_self (l := locals)) ofLast demanded
  rw [finished_of_isLoop rfl]
  exact (traced_decorate plain (Plan.traced_loop ofRoot.reached ranged starts
    (traced_iterate asks steps) ends) ofRoot).log

/-- The loop of `all` or `exists` evaluates its predicate once for each element up to the first one
that decides it, in order, and nothing else but its range and the nodes that it is made with. -/
theorem macro_stops (c : Planner) {extra : List Overload}
    (standard : c.registry = Registry.standard.addAll extra) (plain : c.options.exhaustive = false)
    (m : Macro) {short : Bool} (decides : m.decider = some short) {range predicate : Expr}
    (asks : m.parts = [predicate]) {var : String} (apart : var ≠ accumulator) (next : Int)
    {locals : List String} {o q : Plan} (rangePlanned : outcome (c.planExpr range locals) = .ok o)
    (predicatePlanned : outcome (c.planExpr predicate (var :: accumulator :: locals)) = .ok q) :
    ∃ p, outcome (c.planExpr (m.expand range var next) locals) = .ok p ∧
      ∀ scope elements,
        (∀ i j, m.readers next = some (i, j) →
          c.checked.Keeps scope accumulator i ∧ c.checked.Keeps scope accumulator j) →
        (o.eval c.provider false scope).value.elements? = some elements →
        let run x := q.eval c.provider false (inside scope accumulator var (.bool (!short)) x)
        let visited := untilDecided (fun x => (run x).value.decides short) elements
        (∀ x ∈ visited, ∃ b, (run x).value = .bool b) →
          Spaced (m.Own next) (p.eval c.provider false scope).log
            ((o.eval c.provider false scope).log :: visited.map fun x => (run x).log) := by
  have guards := reachable_guard_ne_nil standard
  have negates := reachable_not_ne_nil standard
  have reads (n : Nat) : outcome (c.planExpr (.ident (Macro.numbered next n) accumulator)
      (var :: accumulator :: locals)) = _ := outcome_ident _ _
  rw [Macro.expand_eq_shape]
  cases m with
  | all predicate =>
    obtain rfl := Option.some.inj decides
    obtain rfl := (List.cons.inj asks).1
    have condition := @outcome_unary _ c _ _ (Macro.numbered next 2) _ rfl guards _ (reads 1)
    have step := @outcome_combine _ c _ _ _ (Macro.numbered next 4) Operator.logicalAnd false _ _
      rfl (reads 3) predicatePlanned
    refine ⟨_, outcome_loop rangePlanned (outcome_literal _ _) condition step
      (outcome_ident _ _), fun scope elements keeps ranged => ?_⟩
    obtain ⟨asked, stepped⟩ := keeps _ _ rfl
    have node := Macro.ownNode (.all predicate) next
    refine traced_quantifier plain apart ranged stepped (fun b x => ?_)
      (Macro.ownNodes _ next [6, 0, 4, 3, 5] (by simp [Macro.nodeCount])) .demanded
    have read := traced_accumulator locals plain apart asked
      (node 1 (by simp [Macro.nodeCount])) (.bool b) x
    rw [Bool.bne_false]
    exact traced_guard standard plain read (node 2 (by simp [Macro.nodeCount])) .guarded
  | exist predicate =>
    obtain rfl := Option.some.inj decides
    obtain rfl := (List.cons.inj asks).1
    have denied := @outcome_unary _ c _ _ (Macro.numbered next 2) _ rfl negates _ (reads 1)
    have condition := @outcome_unary _ c _ _ (Macro.numbered next 3) _ rfl guards _ denied
    have step := @outcome_combine _ c _ _ _ (Macro.numbered next 5) Operator.logicalOr true _ _ rfl
      (reads 4) predicatePlanned
    refine ⟨_, outcome_loop rangePlanned (outcome_literal _ _) condition step
      (outcome_ident _ _), fun scope elements keeps ranged => ?_⟩
    obtain ⟨asked, stepped⟩ := keeps _ _ rfl
    have node := Macro.ownNode (.exist predicate) next
    refine traced_quantifier plain apart ranged stepped (fun b x => ?_)
      (Macro.ownNodes _ next [7, 0, 5, 4, 6] (by simp [Macro.nodeCount])) .demanded
    have read := traced_accumulator locals plain apart asked
      (node 1 (by simp [Macro.nodeCount])) (.bool b) x
    have denies := traced_not standard plain read (node 2 (by simp [Macro.nodeCount])) .negated
    rw [Bool.bne_true]
    exact traced_guard standard plain denies (node 3 (by simp [Macro.nodeCount])) .guarded
  | _ => cases decides

end Planner

namespace Environment

open Planning
open Plan hiding id
open Builder (accumulator)

attribute [local instance] HostObjects.silent

def isTwo : Expr := .call 7 "_==_" [.ident 5 "x", .literal 6 (.int 2)]

def oneToThree : Expr :=
  .list 4 [.literal 1 (.int 1), .literal 2 (.int 2), .literal 3 (.int 3)]

/-- `[1, 2, 3].exists(x, x == 2)` -/
def someTwo : Expr := (Macro.exist isTwo).expand oneToThree "x" 8

/-- The third element is not asked about. -/
theorem someTwo_stops :
    ∃ p o q, outcome ((defaultPlanner someTwo).planExpr someTwo []) = .ok p ∧
      outcome ((defaultPlanner someTwo).planExpr oneToThree []) = .ok o ∧
        outcome ((defaultPlanner someTwo).planExpr isTwo ["x", accumulator]) = .ok q ∧
          let run n := q.eval (defaultPlanner someTwo).provider false
            (inside .empty accumulator "x" (.bool false) (.int n))
          Spaced ((Macro.exist isTwo).Own 8)
            (p.eval (defaultPlanner someTwo).provider false .empty).log
            [(o.eval (defaultPlanner someTwo).provider false .empty).log, (run 1).log,
              (run 2).log] := by
  have standard : (defaultPlanner someTwo).registry = Registry.standard.addAll [] := by
    rw [Registry.addAll_nil, defaultPlanner, planner]
  have plain : (defaultPlanner someTwo).options.exhaustive = false := by decide +kernel
  have rangePlanned : outcome ((defaultPlanner someTwo).planExpr oneToThree []) =
      .ok (.list 4 [.const 1 (.int 1), .const 2 (.int 2), .const 3 (.int 3)]) := rfl
  have answers : (outcome ((defaultPlanner someTwo).planExpr isTwo ["x", accumulator])).toOption.map
      (fun q => [(1, false), (2, true)].all fun n => (q.eval (defaultPlanner someTwo).provider false
        (inside .empty accumulator "x" (.bool false) (.int n.1))).value.decides n.2) =
          some true := by
    decide +kernel
  obtain ⟨q, predicatePlanned, answered⟩ := ok_of_map_toOption answers
  simp only [List.all_cons, List.all_nil, Bool.and_true, Bool.and_eq_true] at answered
  have first := Value.eq_of_decides answered.1
  have second := Value.eq_of_decides answered.2
  obtain ⟨p, planned, stops⟩ := Planner.macro_stops (defaultPlanner someTwo) standard plain
    (.exist isTwo) rfl rfl (by decide) 8 rangePlanned predicatePlanned
  refine ⟨p, _, q, planned, rangePlanned, predicatePlanned, ?_⟩
  have silent : ∀ i, (defaultPlanner someTwo).checked.Keeps .empty accumulator i :=
    fun _ => .inl fun _ known => by cases known
  have one : (Value.bool false).decides true = false := rfl
  have two : (Value.bool true).decides true = true := rfl
  have spaced := stops .empty [.int 1, .int 2, .int 3] (fun i j _ => ⟨silent i, silent j⟩) rfl
  simp only [Bool.not_true, untilDecided_cons, first, second, one, two, Bool.false_eq_true,
    ↓reduceIte, List.forall_mem_cons, List.map_cons, List.map_nil] at spaced
  exact spaced ⟨⟨_, rfl⟩, ⟨_, rfl⟩, fun _ none => by cases none⟩

def timesReached (checked : CheckedExpr) (scope : Scope) (id : Int) : Option Nat :=
  (outcome (({} : Environment).plan checked)).toOption.map fun program =>
    (program.eval scope).log.countP fun
      | .reached i => i == id
      | _ => false

/-- `[true].exists(__result__, false)` -/
def someHidden : CheckedExpr :=
  .unchecked ((Macro.exist (.literal 3 (.bool false))).expand (.list 2 [.literal 1 (.bool true)])
    accumulator 4)

/-- `[1].exists(x, false)`, where a checker has resolved the accumulator of the step to a
constant. -/
def someSettled : CheckedExpr :=
  (CheckedExpr.unchecked ((Macro.exist (.literal 3 (.bool false))).expand
    (.list 2 [.literal 1 (.int 1)]) "x" 4)).annotate 8 { value := some (.bool true) }

/-- `[1, 2].exists(x, true)`, where a checker has resolved the accumulators of the condition and the
step to their own name. -/
def someMarked : CheckedExpr :=
  ((CheckedExpr.unchecked ((Macro.exist (.literal 4 (.bool true))).expand
    (.list 3 [.literal 1 (.int 1), .literal 2 (.int 2)]) "x" 5)).annotate 6
      { name := some accumulator }).annotate 9 { name := some accumulator }

/-- How often a program evaluates the node of a predicate that always has the same answer, and for
how many elements, where it is evaluated up to the first one that decides. -/
def timesAsked (checked : CheckedExpr) (scope : Scope) (id : Int) (short answer : Bool)
    (elements : List Value) : Option Nat × Nat :=
  (timesReached checked scope id,
    (untilDecided (fun _ => (Value.bool answer).decides short) elements).length)

/-- Loops that do not stop where they are decided. Three of them stop before their only element: the
variable of the first one hides its accumulator, and in two others the accumulator is resolved to a
constant. The last one goes on after its first element, as its accumulator is marked as unknown. -/
theorem quantifiers_misstop :
    timesAsked someHidden .empty 3 true false [.bool true] = (some 0, 1) ∧
      timesAsked noneRedirected .empty 3 false false [.int 1] = (some 0, 1) ∧
        timesAsked someSettled .empty 3 true false [.int 1] = (some 0, 1) ∧
          timesAsked someMarked (.marked .empty [⟨accumulator, []⟩]) 4 true true
            [.int 1, .int 2] = (some 2, 1) := by
  decide +kernel

end Environment

end ExprEngine
