import ExprEngine.Proofs.Collection.Denotation
import ExprEngine.Proofs.Collection.Function
import ExprEngine.Proofs.Planning.Hidden

/-!
# Collection macros

The loop that a macro expands into computes the collection function that the macro stands for, in
loops within loops, too: all of them accumulate under one name, which an inner loop hides from its
own parts.
-/

namespace ExprEngine

namespace Macro

open Builder (accumulator)

/-- The places of the identifiers that the loop of a macro is made with, and their names. -/
def identifiers (m : Macro) (var : String) : List (Nat × String) :=
  match m with
  | all _ => [(1, accumulator), (3, accumulator), (5, accumulator)]
  | exist _ => [(1, accumulator), (4, accumulator), (6, accumulator)]
  | existOne _ | mapWhere .. => [(2, accumulator), (5, accumulator), (7, accumulator)]
  | map _ => [(2, accumulator), (5, accumulator)]
  | filter _ => [(2, accumulator), (3, var), (6, accumulator), (8, accumulator)]

def result (m : Macro) (same : Value → Value) (v : Value) : Value :=
  match m with
  | existOne _ => same v
  | all _ | exist _ | map _ | mapWhere .. | filter _ => v

theorem result_of_decider {m : Macro} {short : Bool} (decides : m.decider = some short)
    (same : Value → Value) (v : Value) : m.result same v = v := by
  cases m with
  | all | exist => rfl
  | _ => cases decides

end Macro

namespace Planner

variable [HostObjects]

open Planning

open Plan hiding id

open Builder (accumulator)

/-- The value of an expression where a loop binds the variable to the element. -/
def valueAt (c : Planner) (locals : List String) (var : String) (scope : Scope) (e : Expr)
    (x : Value) : Value :=
  match outcome (c.planExpr e (var :: locals)) with
  | .ok p => (p.eval c.provider false (.frame scope var x)).value
  | .error _ => .null

def plus (c : Planner) (id : Int) (v w : Value) : Value :=
  Value.called id Operator.add (c.reachable Operator.add 2) [v, w]

def isOne (c : Planner) (id : Int) (v : Value) : Value :=
  Value.called id Operator.equals (c.reachable Operator.equals 2) [v, .int 1]

variable {c : Planner} {locals : List String} {κ : Type} {base : κ → Scope} {var : String}
  {m : Macro} {ids : Nat → Int}

def within (base : κ → Scope) (accuVar iterVar : String) (i : κ × Value × Value) : Scope :=
  inside (base i.1) accuVar iterVar i.2.1 i.2.2

def after (base : κ → Scope) (accuVar : String) (i : κ × Value) : Scope :=
  .frame (base i.1) accuVar i.2

theorem denotes_loop (id : Int) {range init condition step result : Expr}
    {iterVar accuVar : String} {ranged start : κ → Value} {w p : κ × Value × Value → Value}
    {r : κ × Value → Value}
    (ranges : c.Denotes locals range base ranged) (starts : c.Denotes locals init base start)
    (goes : c.Denotes (iterVar :: accuVar :: locals) condition (within base accuVar iterVar) w)
    (steps : c.Denotes (iterVar :: accuVar :: locals) step (within base accuVar iterVar) p)
    (results : c.Denotes (accuVar :: locals) result (after base accuVar) r) :
    ∃ plan everything,
      outcome (c.planExpr (.loop id iterVar range accuVar init condition step result) locals) =
          .ok plan ∧
        ∀ k elements, (ranged k).elements? = some elements →
          (plan.eval c.provider false (base k)).value =
            match (iterate everything (fun v x => pure (w (k, v, x)))
              (fun v x => pure (p (k, v, x))) elements (start k)).value with
            | .ok v => r (k, v)
            | .error e => e := by
  obtain ⟨o, rangePlanned, rangeValue⟩ := ranges
  obtain ⟨i, initPlanned, initValue⟩ := starts
  obtain ⟨f, conditionPlanned, conditionValue⟩ := goes
  obtain ⟨g, stepPlanned, stepValue⟩ := steps
  obtain ⟨h, resultPlanned, resultValue⟩ := results
  have planned := @outcome_loop _ c locals id _ _ _ _ _ _ _ _ _ _ _ _ rangePlanned initPlanned
    conditionPlanned stepPlanned resultPlanned
  obtain ⟨everything, value⟩ := @value_decorate_some c.provider _ c.options
    (.loop id iterVar o accuVar i f g h) false
  refine ⟨_, everything, planned, fun k elements iterable => ?_⟩
  have iterated : ∀ start, (iterate everything
        (fun v x => eval c.provider f false (inside (base k) accuVar iterVar v x))
        (fun v x => eval c.provider g false (inside (base k) accuVar iterVar v x))
        elements start).value =
      (iterate everything (fun v x => pure (w (k, v, x))) (fun v x => pure (p (k, v, x)))
        elements start).value :=
    iterate_congr (fun v x => conditionValue (k, v, x)) (fun v x => stepValue (k, v, x)) elements
  have regular := Value.isFailure_of_elements iterable
  rw [finished_of_isLoop rfl, value, value_loop]
  simp only [rangeValue k, regular, iterable, initValue k, iterated, Bool.false_eq_true, ↓reduceIte]
  generalize (iterate everything (fun v x => pure (w (k, v, x))) _ elements (start k)).value = ended
  cases ended with
  | ok v => exact resultValue (k, v)
  | error e => rfl

omit [HostObjects] in
theorem dotted_accumulator (name field : String) : name ++ "." ++ field ≠ accumulator := by
  intro same
  have dot : '.' ∈ accumulator.toList := by
    rw [← same]
    simp [String.toList_append]
  exact absurd dot (by decide)

theorem denotes_part (plain : c.options.exhaustive = false) {e : Expr}
    (overlooks : e.Everywhere (c.Overlooks accumulator locals) [var])
    (planned : ∃ p, outcome (c.planExpr e (var :: locals)) = .ok p) :
    c.Denotes (var :: accumulator :: locals) e (within base accumulator var)
      fun i => c.valueAt locals var (base i.1) e i.2.2 := by
  obtain ⟨p, planned⟩ := planned
  have same : c.planExpr e ([var] ++ accumulator :: locals) = c.planExpr e ([var] ++ locals) := by
    refine planExpr_overlooks (fun name different => ?_) e overlooks
    rw [List.mem_cons]
    exact (or_iff_right different).symm
  refine ⟨p, (congrArg outcome same).trans planned, fun ⟨k, v, x⟩ => ?_⟩
  have agree : (inside (base k) accumulator var v x).Agree [var] (· ≠ accumulator)
      (.frame (base k) var x) := by
    refine ⟨fun name seen => ?_, rfl⟩
    simp only [inside, Scope.resolve]
    split
    · rfl
    · next other =>
      rw [if_neg]
      exact seen.resolve_left fun member => other (List.mem_singleton.mp member)
  have value : c.valueAt locals var (base k) e x =
      (p.eval c.provider false (.frame (base k) var x)).value := by
    rw [valueAt, planned]
  rw [← List.singleton_append] at planned
  exact (value_overlooks plain dotted_accumulator planned overlooks agree).trans value.symm

/-! ### The overloads of macros -/

theorem reachable_registered (standard : c.registry = .standard) (function : String) (count : Nat) :
    c.reachable function count =
      (Standard.overloads.filter (·.id == function)).filter (·.takes count) := by
  rw [reachable, standard, Registry.find, Registry.standard_overloads]

theorem sums_plus (standard : c.registry = .standard) : Macro.Sums c.plus := by
  have adds : c.reachable Operator.add 2 =
      [Standard.guardedBy (Standard.binary Operator.add Value.add) .adder] :=
    reachable_registered standard Operator.add 2
  constructor
  · intro id n bounded
    have sum : Number.signed? ((Int64.ofNat n).toInt + (1 : Int64).toInt) =
        some (Int64.ofNat (n + 1)) := by
      have one : (1 : Int64).toInt = 1 := rfl
      rw [Int64.toInt_ofNat_of_lt (Nat.lt_of_succ_lt bounded), one, Number.signed?,
        if_pos (by omega)]
      exact congrArg some (Int64.ofInt_eq_ofNat (n := n + 1))
    rw [plus, adds]
    change (Value.ofSigned (Number.signed?
      ((Int64.ofNat n).toInt + (1 : Int64).toInt))).withExprId id = _
    rw [sum]
    rfl
  · intro id items v
    rw [plus, adds]
    cases v <;> rfl

theorem isOne_count (standard : c.registry = .standard) (id : Int) {n : Nat}
    (bounded : n < 2 ^ 63) : c.isOne id (.int (Int64.ofNat n)) = .bool (n == 1) := by
  have compares : c.reachable Operator.equals 2 =
      [Standard.binary Operator.equals Value.equal] :=
    reachable_registered standard Operator.equals 2
  have same : (Int64.ofNat n == 1) = (n == 1) := by
    rw [Bool.eq_iff_iff, beq_iff_eq, beq_iff_eq, ← Int64.toInt_inj,
      Int64.toInt_ofNat_of_lt bounded]
    exact Int.ofNat_inj (n := 1)
  rw [isOne, compares, ← same]
  rfl

theorem denotes_parts (range : Expr) (standard : c.registry = .standard) (apart : var ≠ accumulator)
    (keeps : ∀ k, ∀ i ∈ m.identifiers var, c.checked.Keeps (base k) i.2 (ids i.1))
    (parts : ∀ e ∈ m.parts, c.Denotes (var :: accumulator :: locals) e (within base accumulator var)
      fun i => c.valueAt locals var (base i.1) e i.2.2) :
    ∃ id init condition step result,
      m.shape ids range var = .loop id var range accumulator init condition step result ∧
        c.Denotes locals init base (fun k => m.tally (c.valueAt locals var (base k)) []) ∧
          c.Denotes (var :: accumulator :: locals) condition (within base accumulator var)
            (fun i => m.goesOn i.2.1) ∧
            c.Denotes (var :: accumulator :: locals) step (within base accumulator var)
              (fun i => m.next ids c.plus (c.valueAt locals var (base i.1)) i.2.1 i.2.2) ∧
              c.Denotes (accumulator :: locals) result (after base accumulator)
                (fun i => m.result (c.isOne (ids 9)) i.2) := by
  have extended : c.registry = Registry.standard.addAll [] := by
    rw [Registry.addAll_nil, standard]
  have adds : c.reachable Operator.add 2 ≠ [] := by
    rw [reachable_registered standard]
    exact List.cons_ne_nil _ _
  have compares : c.reachable Operator.equals 2 ≠ [] := by
    rw [reachable_registered standard]
    exact List.cons_ne_nil _ _
  obtain ⟨more, guard⟩ := reachable_guard extended
  obtain ⟨others, negation⟩ := reachable_not extended
  have guards := reachable_guard_ne_nil extended
  have negates := reachable_not_ne_nil extended
  -- The accumulator and the variable, as the condition, the step and the result read them.
  have accu (n : Nat) (listed : (n, accumulator) ∈ m.identifiers var) :
      c.Denotes (var :: accumulator :: locals) (.ident (ids n) accumulator)
        (within base accumulator var) fun i => i.2.1 :=
    denotes_ident (by simp) (fun i => keeps i.1 _ listed)
      fun i => resolve_inside_accu (base i.1) apart i.2.1 i.2.2
  have element (n : Nat) (listed : (n, var) ∈ m.identifiers var) :
      c.Denotes (var :: accumulator :: locals) (.ident (ids n) var)
        (within base accumulator var) fun i => i.2.2 :=
    denotes_ident (by simp) (fun i => keeps i.1 _ listed)
      fun i => resolve_inside_iter (base i.1) i.2.1 i.2.2
  have last (n : Nat) (listed : (n, accumulator) ∈ m.identifiers var) :
      c.Denotes (accumulator :: locals) (.ident (ids n) accumulator) (after base accumulator)
        fun i => i.2 :=
    denotes_ident (by simp) (fun i => keeps i.1 _ listed) fun i => by simp [after, Scope.resolve]
  cases m with
  | all predicate =>
    refine ⟨_, _, _, _, _, rfl, denotes_literal _, ?_, ?_, last 5 (by simp [Macro.identifiers])⟩
    · refine (denotes_unary rfl guards (accu 1 (by simp [Macro.identifiers]))).congr fun i => ?_
      rw [guard, Value.called_guard]
      rfl
    · exact denotes_combine rfl (accu 3 (by simp [Macro.identifiers]))
        (parts predicate List.mem_cons_self)
  | exist predicate =>
    refine ⟨_, _, _, _, _, rfl, denotes_literal _, ?_, ?_, last 6 (by simp [Macro.identifiers])⟩
    · have undecided : c.Denotes (var :: accumulator :: locals)
          (.call (ids 2) Operator.logicalNot [.ident (ids 1) accumulator])
          (within base accumulator var) fun i =>
            Value.called (ids 2) Operator.logicalNot (c.reachable Operator.logicalNot 1) [i.2.1] :=
        denotes_unary rfl negates (accu 1 (by simp [Macro.identifiers]))
      refine (denotes_unary rfl guards undecided).congr fun i => ?_
      rw [guard, Value.called_guard, negation, Value.unlessFalse_called_not]
      rfl
    · exact denotes_combine rfl (accu 4 (by simp [Macro.identifiers]))
        (parts predicate List.mem_cons_self)
  | existOne predicate =>
    refine ⟨_, _, _, _, _, rfl, denotes_literal _, denotes_literal _, ?_, ?_⟩
    · exact denotes_conditional (parts predicate List.mem_cons_self)
        (denotes_binary extended rfl adds (accu 2 (by simp [Macro.identifiers]))
          (denotes_literal _))
        (accu 5 (by simp [Macro.identifiers]))
    · exact denotes_binary extended rfl compares (last 7 (by simp [Macro.identifiers]))
        (denotes_literal _)
  | map transform =>
    refine ⟨_, _, _, _, _, rfl, denotes_nil, denotes_literal _, ?_,
      last 5 (by simp [Macro.identifiers])⟩
    exact denotes_binary extended rfl adds (accu 2 (by simp [Macro.identifiers]))
      (denotes_singleton (parts transform List.mem_cons_self))
  | mapWhere predicate transform =>
    refine ⟨_, _, _, _, _, rfl, denotes_nil, denotes_literal _, ?_,
      last 7 (by simp [Macro.identifiers])⟩
    exact denotes_conditional (parts predicate List.mem_cons_self)
      (denotes_binary extended rfl adds (accu 2 (by simp [Macro.identifiers]))
        (denotes_singleton (parts transform (List.mem_cons_of_mem _ List.mem_cons_self))))
      (accu 5 (by simp [Macro.identifiers]))
  | filter predicate =>
    refine ⟨_, _, _, _, _, rfl, denotes_nil, denotes_literal _, ?_,
      last 8 (by simp [Macro.identifiers])⟩
    exact denotes_conditional (parts predicate List.mem_cons_self)
      (denotes_binary extended rfl adds (accu 2 (by simp [Macro.identifiers]))
        (denotes_singleton (element 3 (by simp [Macro.identifiers]))))
      (accu 6 (by simp [Macro.identifiers]))

/-- A range to collect from: its elements do not fail, the parts of the macro are known for them,
and counts are numbers. -/
structure Collectable (c : Planner) (m : Macro) (locals : List String) (var : String)
    (scope : Scope) (range : Value) (elements : List Value) : Prop where
  iterable : range.elements? = some elements
  regular : ∀ items, range = .list items → ∀ x ∈ items, x.isFailure = false
  decided : ∀ e ∈ m.parts, ∀ x ∈ elements, (c.valueAt locals var scope e x).isUnknown = false
  counted : ∀ predicate, m = .existOne predicate →
    elements.countP (Macro.holds (c.valueAt locals var scope) predicate) < 2 ^ 63

theorem Collectable.isFailure {scope : Scope} {ranged : Value} {elements : List Value}
    (collectable : c.Collectable m locals var scope ranged elements) :
    ∀ x ∈ elements, x.isFailure = false := by
  have iterable := collectable.iterable
  cases ranged with
  | list items =>
    obtain rfl := Option.some.inj iterable
    exact collectable.regular items rfl
  | map entries =>
    obtain rfl := Option.some.inj iterable
    intro x member
    obtain ⟨key, -, rfl⟩ := List.mem_map.mp member
    cases key <;> rfl
  | _ => cases iterable

/-- What the loop of a macro comes to is what the collection function does. -/
theorem collected_of_iterate (standard : c.registry = .standard) (everything : Bool) {scope : Scope}
    {ranged : Value} {elements : List Value}
    (collectable : c.Collectable m locals var scope ranged elements) (id : Int) :
    let read := c.valueAt locals var scope
    (match (iterate everything (fun v _ => pure (m.goesOn v))
        (fun v x => pure (m.next ids c.plus read v x)) elements (m.tally read [])).value with
      | .ok v => m.result (c.isOne id) v
      | .error e => e) = m.collected (ids m.asking) read elements := by
  intro read
  have known : ∀ x ∈ elements, ∀ e ∈ m.parts, (read e x).isUnknown = false :=
    fun x member e part => collectable.decided e part x member
  have ended := @iterate_collects everything (fun v _ => pure (m.goesOn v))
    (fun v x => pure (m.next ids c.plus read v x)) elements (m.tally read)
    (m.decision? (ids m.asking) read) (fun done _ => m.goesOn_tally read done)
    (m.isError_tally read) (fun done x rest whole => ?steps)
    fun x member v ends succeeds rest => ?ends
  case steps =>
    have member : x ∈ elements := by
      rw [← whole]
      exact List.mem_append_right _ List.mem_cons_self
    have taken : (done ++ [x]).Sublist elements := by
      rw [← whole, List.append_cons done x rest]
      exact List.sublist_append_left _ _
    refine Macro.next_tally (sums_plus standard) (collectable.isFailure x member) (known x member)
      fun predicate counts => ?_
    exact Nat.lt_of_le_of_lt taken.countP_le (collectable.counted predicate counts)
  case ends =>
    rcases Macro.decision_cases (known x member) ends with isError | ⟨short, decides, rfl⟩
    · rw [succeeds] at isError
      cases isError
    · obtain ⟨node, combines⟩ := Macro.combines_next ids c.plus read decides
      exact combines.iterate_decided everything rest
  rw [ended, Macro.collected]
  cases first : elements.findSome? (m.decision? (ids m.asking) read) with
  | some v =>
    obtain ⟨x, member, ends⟩ := List.exists_of_findSome?_eq_some first
    rcases Macro.decision_cases (known x member) ends with isError | ⟨short, decides, rfl⟩
    · simp only [isError, ↓reduceIte]
      rfl
    · exact Macro.result_of_decider decides (c.isOne id) (.bool short)
  | none =>
    cases m with
    | existOne predicate => exact isOne_count standard id (collectable.counted predicate rfl)
    | _ => rfl

/-- A macro whose parts do not mention the accumulator computes its collection function: its loop
is planned if its parts are, and has the value of the function for every range to collect from. -/
theorem macro_collects (c : Planner) (standard : c.registry = .standard)
    (plain : c.options.exhaustive = false) (m : Macro) {range : Expr} {var : String}
    (apart : var ≠ accumulator) (next : Int) {locals : List String}
    (overlooked : ∀ e ∈ m.parts, e.Everywhere (c.Overlooks accumulator locals) [var]) {o : Plan}
    (rangePlanned : outcome (c.planExpr range locals) = .ok o)
    (partsPlanned : ∀ e ∈ m.parts, ∃ p, outcome (c.planExpr e (var :: locals)) = .ok p) :
    ∃ p, outcome (c.planExpr (m.expand range var next) locals) = .ok p ∧
      ∀ scope elements,
        (∀ i ∈ m.identifiers var, c.checked.Keeps scope i.2 (Macro.numbered next i.1)) →
          c.Collectable m locals var scope (o.eval c.provider false scope).value elements →
            (p.eval c.provider false scope).value =
              m.collected (Macro.numbered next m.asking) (c.valueAt locals var scope) elements := by
  have parts : ∀ e ∈ m.parts, c.Denotes (var :: accumulator :: locals) e
      (within (fun k : { s : Scope // ∀ i ∈ m.identifiers var,
        c.checked.Keeps s i.2 (Macro.numbered next i.1) } => k.1) accumulator var)
      fun i => c.valueAt locals var i.1.1 e i.2.2 :=
    fun e member => denotes_part plain (overlooked e member) (partsPlanned e member)
  obtain ⟨id, init, condition, step, result, shape, starts, goes, steps, results⟩ :=
    denotes_parts range standard apart (fun k => k.2) parts
  obtain ⟨p, everything, planned, value⟩ :=
    denotes_loop id ⟨o, rangePlanned, fun _ => rfl⟩ starts goes steps results
  rw [Macro.expand_eq_shape, shape]
  refine ⟨p, planned, fun scope elements keeps collectable => ?_⟩
  refine (value ⟨scope, keeps⟩ elements collectable.iterable).trans ?_
  exact collected_of_iterate standard everything collectable _

end Planner

namespace Environment

open Planning
open Builder (accumulator)

attribute [local instance] HostObjects.silent

def defaultPlanner (e : Expr) : Planner := ({} : Environment).planner (.unchecked e)

/-- `[x].exists(y, y == 2)` -/
def holdsTwo : Expr :=
  (Macro.exist (.call 8 "_==_" [.ident 6 "y", .literal 7 (.int 2)])).expand
    (.list 5 [.ident 4 "x"]) "y" 9

def oneTwo : Expr := .list 3 [.literal 1 (.int 1), .literal 2 (.int 2)]

/-- `[1, 2].filter(x, [x].exists(y, y == 2))` -/
def twos : Expr := (Macro.filter holdsTwo).expand oneTwo "x" 17

theorem holdsTwo_overlooks :
    holdsTwo.Everywhere ((defaultPlanner twos).Overlooks accumulator []) ["x"] := by
  rw [holdsTwo, Macro.expand_eq_shape]
  simp only [Macro.shape, Expr.Everywhere, Expr.EverywhereAll, Planner.Overlooks, Planner.Misses,
    true_and, and_true]
  decide +kernel

theorem twos_filtered :
    ∃ p, outcome ((defaultPlanner twos).planExpr twos []) = .ok p ∧
      (p.eval (defaultPlanner twos).provider false .empty).value = .list [.int 2] := by
  have standard : (defaultPlanner twos).registry = .standard := by
    rw [defaultPlanner, planner]
  have plain : (defaultPlanner twos).options.exhaustive = false := by decide +kernel
  have overlooked : ∀ e ∈ (Macro.filter holdsTwo).parts,
      e.Everywhere ((defaultPlanner twos).Overlooks accumulator []) ["x"] := by
    intro e member
    obtain rfl := List.mem_singleton.mp member
    exact holdsTwo_overlooks
  have rangePlanned : outcome ((defaultPlanner twos).planExpr oneTwo []) =
      .ok (.list 3 [.const 1 (.int 1), .const 2 (.int 2)]) := rfl
  have partsPlanned : ∀ e ∈ (Macro.filter holdsTwo).parts,
      ∃ p, outcome ((defaultPlanner twos).planExpr e ["x"]) = .ok p := by
    intro e member
    obtain rfl := List.mem_singleton.mp member
    have succeeds :
        (outcome ((defaultPlanner twos).planExpr holdsTwo ["x"])).toOption.isSome = true := by
      decide +kernel
    generalize outcome ((defaultPlanner twos).planExpr holdsTwo ["x"]) = planned at succeeds ⊢
    cases planned with
    | ok p => exact ⟨p, rfl⟩
    | error e => cases succeeds
  have first : (defaultPlanner twos).valueAt [] "x" .empty holdsTwo (.int 1) = .bool false :=
    Value.eq_of_decides (by decide +kernel)
  have second : (defaultPlanner twos).valueAt [] "x" .empty holdsTwo (.int 2) = .bool true :=
    Value.eq_of_decides (by decide +kernel)
  have collectable : (defaultPlanner twos).Collectable (.filter holdsTwo) [] "x" .empty
      (.list [.int 1, .int 2]) [.int 1, .int 2] := by
    refine ⟨rfl, fun items same x member => ?_, fun e part x member => ?_, fun _ same => ?_⟩
    · obtain rfl := Value.list.inj same
      revert x
      decide
    · obtain rfl := List.mem_singleton.mp part
      rcases List.mem_pair.mp member with rfl | rfl
      · rw [first]
        rfl
      · rw [second]
        rfl
    · cases same
  obtain ⟨p, planned, value⟩ := Planner.macro_collects (defaultPlanner twos) standard plain
    (.filter holdsTwo) (by decide) 17 overlooked rangePlanned partsPlanned
  refine ⟨p, planned, ?_⟩
  rw [value .empty [.int 1, .int 2] (fun _ _ => .inl fun _ known => by cases known) collectable]
  simp [Macro.collected, Macro.decision?, Macro.gathered, Macro.holds, first, second,
    Value.objection?, Value.decides, Value.asBool?]

/-- `[1].exists(x, y)`, where a checker has resolved `y` to the name of the accumulator. -/
def someResult : CheckedExpr :=
  (CheckedExpr.unchecked ((Macro.exist (.ident 3 "y")).expand
    (.list 2 [.literal 1 (.int 1)]) "x" 4)).annotate 3 { name := some accumulator }

/-- `[1].all(x, true)`, where a checker has resolved the result of the loop to its own name. -/
def allMarked : CheckedExpr :=
  (CheckedExpr.unchecked ((Macro.all (.literal 3 (.bool true))).expand
    (.list 2 [.literal 1 (.int 1)]) "x" 4)).annotate 9 { name := some accumulator }

/-- The value of a program, where it is a truth value, and that of the collection function of a
macro over one. -/
def compared (m : Macro) (checked : CheckedExpr) (scope : Scope) :
    Option (Option Bool) × Option Bool :=
  (verdict {} checked scope, (m.collected (Macro.numbered 4 m.asking)
    ((({} : Environment).planner checked).valueAt [] "x" scope) [.int 1]).asBool?)

/-- The loops that a checker has changed do not compute their collection functions: the first one
stops before its only element, the second one reads its accumulator where a variable is asked for,
and the result of the third one is marked as unknown. -/
theorem resolved_macros_differ :
    compared (.all (.literal 3 (.bool false))) noneRedirected .empty =
        (some (some true), some false) ∧
      compared (.exist (.ident 3 "y")) someResult
          (.function fun name => if name = accumulator then some (.bool true) else none) =
        (some (some false), some true) ∧
        compared (.all (.literal 3 (.bool true))) allMarked (.marked .empty [⟨accumulator, []⟩]) =
          (some none, some true) := by
  decide +kernel

end Environment

end ExprEngine
