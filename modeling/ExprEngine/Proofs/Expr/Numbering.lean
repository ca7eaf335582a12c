import ExprEngine.Expr.Builder
import ExprEngine.Proofs.Expr.Everywhere
import Mathlib.Data.Int.ConditionallyCompleteOrder
import Mathlib.Data.Int.Interval
import Mathlib.Order.ConditionallyCompleteLattice.Basic
import Mathlib.Order.Interval.Multiset
import Mathlib.Tactic.Abel

/-!
# Numbering of built expressions

A builder gives every node and every entry an id of its own, and uses all ids from the first one to
the last. It numbers what a node is made of before the node. So the ids of a finished expression are
an interval, and decrease from each node to the nodes and the entries below it.
-/

namespace ExprEngine

namespace Entry

def parts : Entry → List Expr
  | field _ _ value => [value]
  | keyed _ key value => [key, value]

end Entry

namespace Expr

mutual

/-- The ids of the nodes and of the entries of maps and objects. -/
def ids : Expr → List Int
  | literal id _ | ident id _ => [id]
  | select id operand _ | presence id operand _ => id :: ids operand
  | call id _ args => id :: idsAll args
  | member id target _ args => id :: (ids target ++ idsAll args)
  | list id elements => id :: idsAll elements
  | mapping id entries | object id _ entries => id :: idsIn entries
  | loop id _ range _ init condition step result =>
    id :: (ids range ++ (ids init ++ (ids condition ++ (ids step ++ ids result))))
termination_by structural e => e

def idsAll : List Expr → List Int
  | [] => []
  | e :: rest => ids e ++ idsAll rest
termination_by structural es => es

def idsIn : List Entry → List Int
  | [] => []
  | .field id _ value :: rest => id :: (ids value ++ idsIn rest)
  | .keyed id key value :: rest => id :: (ids key ++ (ids value ++ idsIn rest))
termination_by structural entries => entries

end

/-- The ids of what is below the node: its entries, its parts and all that is below these. -/
def idsBelow (e : Expr) : List Int := e.ids.tail

def parts : Expr → List Expr
  | literal .. | ident .. => []
  | select _ operand _ | presence _ operand _ => [operand]
  | call _ _ args => args
  | member _ target _ args => target :: args
  | list _ elements => elements
  | mapping _ entries | object _ _ entries => entries.flatMap Entry.parts
  | loop _ _ range _ init condition step result => [range, init, condition, step, result]

def entryIds : Expr → List Int
  | mapping _ entries | object _ _ entries => entries.map Entry.id
  | _ => []

def Descending (e : Expr) : Prop :=
  ∀ locals, e.Everywhere (fun node _ => ∀ i ∈ node.idsBelow, i < node.id) locals

theorem ids_eq (e : Expr) : e.ids = e.id :: e.idsBelow := by cases e <;> rfl

theorem idsAll_eq (es : List Expr) : idsAll es = es.flatMap ids := by
  induction es with
  | nil => rfl
  | cons e rest ih => rw [idsAll, List.flatMap_cons, ih]

theorem coe_idsIn (entries : List Entry) :
    (idsIn entries : Multiset Int) =
      entries.map Entry.id + ((entries.flatMap Entry.parts).flatMap ids : List Int) := by
  induction entries with
  | nil => rfl
  | cons entry rest ih =>
    cases entry with
    | field id name value =>
      simp only [idsIn, List.map_cons, List.flatMap_cons, List.flatMap_append, Entry.parts,
        Entry.id, List.flatMap_nil, List.append_nil, ← Multiset.coe_add, ← Multiset.cons_coe,
        ← Multiset.singleton_add, ih]
      abel
    | keyed id key value =>
      simp only [idsIn, List.map_cons, List.flatMap_cons, List.flatMap_append, Entry.parts,
        Entry.id, List.flatMap_nil, List.append_nil, ← Multiset.coe_add, ← Multiset.cons_coe,
        ← Multiset.singleton_add, ih]
      abel

theorem coe_idsBelow (e : Expr) :
    (e.idsBelow : Multiset Int) = e.entryIds + (e.parts.flatMap ids : List Int) := by
  cases e with
  | mapping _ entries | object _ _ entries => exact coe_idsIn entries
  | _ => simp [idsBelow, ids, parts, entryIds, idsAll_eq]

theorem everywhereAll_iff {P : Expr → List String → Prop} {es : List Expr} {locals : List String} :
    EverywhereAll P es locals ↔ ∀ e ∈ es, e.Everywhere P locals := by
  induction es with
  | nil => simp [EverywhereAll]
  | cons e rest ih => simp [EverywhereAll, ih]

theorem everywhereIn_iff {P : Expr → List String → Prop} {entries : List Entry}
    {locals : List String} :
    EverywhereIn P entries locals ↔ ∀ e ∈ entries.flatMap Entry.parts, e.Everywhere P locals := by
  induction entries with
  | nil => simp [EverywhereIn]
  | cons entry rest ih =>
    cases entry <;> simp [EverywhereIn, Entry.parts, ih, or_imp, forall_and]

theorem Descending.of_parts {e : Expr} (here : ∀ i ∈ e.idsBelow, i < e.id)
    (parts : ∀ f ∈ e.parts, f.Descending) : e.Descending := by
  intro locals
  cases e with
  | literal | ident => exact here
  | select _ operand | presence _ operand =>
    exact ⟨here, parts operand List.mem_cons_self locals⟩
  | call | list => exact ⟨here, everywhereAll_iff.mpr fun f member => parts f member locals⟩
  | member _ target =>
    exact ⟨here, parts target List.mem_cons_self locals, everywhereAll_iff.mpr fun f member =>
      parts f (List.mem_cons_of_mem target member) locals⟩
  | mapping | object => exact ⟨here, everywhereIn_iff.mpr fun f member => parts f member locals⟩
  | loop =>
    simp only [Expr.parts, List.forall_mem_cons] at parts
    obtain ⟨range, init, condition, step, result, -⟩ := parts
    exact ⟨here, range _, init _, condition _, step _, result _⟩

end Expr

namespace Builder

open ExprEngine.Expr

/-! ### Nodes made by one method -/

theorem Ico_around {a b c : Int} (low : a ≤ b) (high : b + 1 ≤ c) :
    Multiset.Ico a c = Multiset.Ico a b + {b} + Multiset.Ico (b + 1) c := by
  have single : Multiset.Ico b (b + 1) = {b} := by
    refine (Multiset.Nodup.ext Multiset.nodup_Ico (Multiset.nodup_singleton b)).mpr fun n => ?_
    rw [Multiset.mem_Ico, Multiset.mem_singleton]
    omega
  rw [← single, Multiset.Ico_add_Ico_eq_Ico low (Int.le_add_one (Int.le_refl b)),
    Multiset.Ico_add_Ico_eq_Ico (Int.le_add_one low) high]

/-- `made` are expressions that were taken from `given`, as far as they are not among the `left`
ones, and new nodes over such expressions. The new nodes and their entries are numbered from
`first` to below `next`, each after what is below it. -/
inductive Assembled : List Expr → List Expr → Int → Int → List Expr → Prop
  | nil {left : List Expr} {n : Int} : Assembled left left n n []
  | operand {o : Expr} {given left made : List Expr} {first next : Int}
    (others : Assembled given left first next made) :
    Assembled (o :: given) left first next (o :: made)
  | node {e : Expr} {given between left made : List Expr} {first middle next : Int}
    (inside : Assembled given between first middle e.parts) (after : middle ≤ e.id)
    (entries : (e.entryIds : Multiset Int) = Multiset.Ico middle e.id)
    (others : Assembled between left (e.id + 1) next made) :
    Assembled given left first next (e :: made)

namespace Assembled

variable {given left made : List Expr} {first next : Int}

theorem of_operands (es : List Expr) {n : Int} : Assembled es [] n n es := by
  induction es with
  | nil => exact .nil
  | cons e rest ih => exact ih.operand

theorem plain {between : List Expr} {e : Expr} {middle : Int}
    (inside : Assembled given between first middle e.parts)
    (own : (e.id, e.entryIds) = (middle, []))
    (others : Assembled between left (middle + 1) next made) :
    Assembled given left first next (e :: made) := by
  obtain ⟨rfl, none⟩ := Prod.mk.inj own
  exact .node inside (Int.le_refl _) (by simp [none]) others

theorem leaf {e : Expr} (own : (e.id, e.entryIds, e.parts) = (first, [], []))
    (others : Assembled given left (first + 1) next made) :
    Assembled given left first next (e :: made) := by
  simp only [Prod.mk.injEq] at own
  obtain ⟨same, none, alone⟩ := own
  refine .plain ?_ (Prod.ext same none) others
  rw [alone]
  exact .nil

theorem le (assembled : Assembled given left first next made) : first ≤ next := by
  induction assembled with
  | nil => exact Int.le_refl _
  | operand _ ih => exact ih
  | node _ after _ _ inside others => omega

/-- The ids of what was made are those of the operands and the new ones. -/
theorem ids_eq (assembled : Assembled given left first next made) :
    (made.flatMap ids + left.flatMap ids : Multiset Int) =
      Multiset.Ico first next + (given.flatMap ids : List Int) := by
  induction assembled with
  | nil => simp
  | @operand o given left made first next _ ih =>
    simp only [List.flatMap_cons, ← Multiset.coe_add] at ih ⊢
    rw [add_assoc, ih]
    abel
  | @node e given between left made first middle next inside after entries others ihIn ihOthers =>
    rw [List.flatMap_cons, Expr.ids_eq, ← Multiset.coe_add, ← Multiset.cons_coe, coe_idsBelow,
      entries, ← Multiset.singleton_add, Ico_around (inside.le.trans after) others.le,
      ← Multiset.Ico_add_Ico_eq_Ico inside.le after]
    -- The node takes the id between those given out inside it and those given out after it.
    generalize (made.flatMap ids : Multiset Int) = new at ihOthers ⊢
    calc {e.id} + (Multiset.Ico middle e.id + (e.parts.flatMap ids : List Int)) + new +
            (left.flatMap ids : List Int)
        = {e.id} + Multiset.Ico middle e.id + (e.parts.flatMap ids : List Int) +
            (new + (left.flatMap ids : List Int)) := by abel
      _ = {e.id} + Multiset.Ico middle e.id + Multiset.Ico (e.id + 1) next +
            ((e.parts.flatMap ids : List Int) + (between.flatMap ids : List Int)) := by
          rw [ihOthers]
          abel
      _ = _ := by
          rw [ihIn]
          abel

theorem left_subset (assembled : Assembled given left first next made) : left ⊆ given := by
  induction assembled with
  | nil => exact List.Subset.refl _
  | operand _ ih => exact List.subset_cons_of_subset _ ih
  | node _ _ _ _ inside others => exact List.Subset.trans others inside

theorem descending (assembled : Assembled given left first next made)
    (before : ∀ o ∈ given, o.Descending ∧ ∀ i ∈ o.ids, i < first) :
    ∀ e ∈ made, e.Descending := by
  induction assembled with
  | nil => simp
  | operand _ ih =>
    rw [List.forall_mem_cons] at before ⊢
    exact ⟨before.1.1, ih before.2⟩
  | @node e given between left made first middle next inside after entries others ihIn ihOthers =>
    have start := inside.le
    refine List.forall_mem_cons.mpr ⟨.of_parts (fun i listed => ?_) (ihIn before), ?_⟩
    -- An id below the node is a new one, one of the operands, or one of the node's own entries.
    · have ids : i ∈ Multiset.Ico first middle + (given.flatMap ids : List Int) ∨ i < e.id := by
        rw [← Multiset.mem_coe, coe_idsBelow, entries, Multiset.mem_add, Multiset.mem_Ico] at listed
        refine listed.symm.imp (fun part => ?_) And.right
        rw [← inside.ids_eq]
        exact Multiset.mem_add.mpr (.inl part)
      rw [Multiset.mem_add, Multiset.mem_Ico, Multiset.mem_coe, List.mem_flatMap] at ids
      rcases ids with (new | ⟨o, member, old⟩) | own
      · omega
      · have := (before o member).2 i old
        omega
      · exact own
    · refine ihOthers fun o member => ?_
      obtain ⟨descends, low⟩ := before o (inside.left_subset member)
      exact ⟨descends, fun i listed => by have := low i listed; omega⟩

end Assembled

/-! ### Methods -/

theorem entries_run {α : Type} (build : List α → Builder (List Entry)) (make : Int → α → Entry)
    (parts : α → List Expr) (nil : build [] = return [])
    (cons : ∀ a rest, build (a :: rest) = do
      let id ← freshId
      let entries ← build rest
      return make id a :: entries)
    (made : ∀ id a, (make id a).id = id ∧ (make id a).parts = parts a) (as : List α) (first : Int) :
    ∃ entries next, (build as).run first = (entries, next) ∧ first ≤ next ∧
      (entries.map Entry.id : Multiset Int) = Multiset.Ico first next ∧
      entries.flatMap Entry.parts = as.flatMap parts := by
  induction as generalizing first with
  | nil => exact ⟨[], first, by rw [nil]; rfl, Int.le_refl first, by simp, rfl⟩
  | cons a rest ih =>
    obtain ⟨entries, next, run, le, ids, inside⟩ := ih (first + 1)
    refine ⟨make first a :: entries, next, ?_, by omega, ?_, ?_⟩
    · rw [cons]
      change ((make first a :: ((build rest).run (first + 1)).1,
        ((build rest).run (first + 1)).2) : List Entry × Int) = _
      rw [run]
    · rw [List.map_cons, ← Multiset.cons_coe, ids, Ico_around (Int.le_refl first) le,
        Multiset.Ico_self, zero_add, Multiset.singleton_add, (made first a).1]
    · rw [List.flatMap_cons, List.flatMap_cons, inside, (made first a).2]

/-- The methods of a builder, each with the expressions that it uses up. -/
inductive Method : List Expr → Builder Expr → Prop
  | literal (v : Value) : Method [] (literal v)
  | ident (name : String) : Method [] (ident name)
  | select (operand : Expr) (field : String) : Method [operand] (select operand field)
  | presence (operand : Expr) (field : String) : Method [operand] (presence operand field)
  | call (function : String) (args : List Expr) : Method args (call function args)
  | member (target : Expr) (function : String) (args : List Expr) :
    Method (target :: args) (member target function args)
  | list (elements : List Expr) : Method elements (list elements)
  | mapping (entries : List (Expr × Expr)) :
    Method (entries.flatMap fun (key, value) => [key, value]) (mapping entries)
  | object (typeName : String) (fields : List (String × Expr)) :
    Method (fields.map Prod.snd) (object typeName fields)
  | loop (iterVar : String) (range : Expr) (accuVar : String) (init condition step result : Expr) :
    Method [range, init, condition, step, result]
      (loop iterVar range accuVar init condition step result)
  | and (a b : Expr) : Method [a, b] (and a b)
  | or (a b : Expr) : Method [a, b] (or a b)
  | not (a : Expr) : Method [a] (not a)
  | conditional (guard whenTrue whenFalse : Expr) :
    Method [guard, whenTrue, whenFalse] (conditional guard whenTrue whenFalse)
  | index (operand key : Expr) : Method [operand, key] (index operand key)
  | binary (function : String) (a b : Expr) : Method [a, b] (binary function a b)
  | all (range : Expr) (var : String) (predicate : Expr) :
    Method [range, predicate] (all range var predicate)
  | exist (range : Expr) (var : String) (predicate : Expr) :
    Method [range, predicate] (exist range var predicate)
  | existOne (range : Expr) (var : String) (predicate : Expr) :
    Method [range, predicate] (existOne range var predicate)
  | map (range : Expr) (var : String) (transform : Expr) :
    Method [range, transform] (map range var transform)
  | mapWhere (range : Expr) (var : String) (predicate transform : Expr) :
    Method [range, predicate, transform] (mapWhere range var predicate transform)
  | filter (range : Expr) (var : String) (predicate : Expr) :
    Method [range, predicate] (filter range var predicate)

theorem Method.assembled {operands : List Expr} {method : Builder Expr}
    (uses : Method operands method) (n : Int) :
    Assembled operands [] n (method.run n).2 [(method.run n).1] := by
  cases uses with
  | literal | ident => exact .leaf rfl .nil
  | select | presence | not => exact .plain (.operand .nil) rfl .nil
  | and | or | index | binary => exact .plain (.operand <| .operand .nil) rfl .nil
  | conditional => exact .plain (.operand <| .operand <| .operand .nil) rfl .nil
  | loop =>
    exact .plain (.operand <| .operand <| .operand <| .operand <| .operand .nil) rfl .nil
  | call | list => exact .plain (Assembled.of_operands _) rfl .nil
  | member => exact .plain (.operand <| Assembled.of_operands _) rfl .nil
  | mapping entries =>
    obtain ⟨made, next, run, after, ids, parts⟩ := entries_run keyedEntries
      (fun id (key, value) => .keyed id key value) (fun (key, value) => [key, value]) rfl
      (fun _ _ => rfl) (fun _ _ => ⟨rfl, rfl⟩) entries n
    change Assembled _ [] n (((keyedEntries entries).run n).2 + 1)
      [.mapping ((keyedEntries entries).run n).2 ((keyedEntries entries).run n).1]
    rw [run, ← parts]
    exact .node (.of_operands _) after ids .nil
  | object typeName fields =>
    obtain ⟨made, next, run, after, ids, parts⟩ := entries_run fieldEntries
      (fun id (name, value) => .field id name value) (fun (_, value) => [value]) rfl
      (fun _ _ => rfl) (fun _ _ => ⟨rfl, rfl⟩) fields n
    change Assembled _ [] n (((fieldEntries fields).run n).2 + 1)
      [.object ((fieldEntries fields).run n).2 typeName ((fieldEntries fields).run n).1]
    rw [run, List.map_eq_flatMap, ← parts]
    exact .node (.of_operands _) after ids .nil
  | all =>
    exact .plain (.operand <| .leaf rfl <| .plain (.leaf rfl .nil) rfl <|
      .plain (.leaf rfl <| .operand .nil) rfl <| .leaf rfl .nil) rfl .nil
  | exist =>
    exact .plain (.operand <| .leaf rfl <| .plain (.plain (.leaf rfl .nil) rfl .nil) rfl <|
      .plain (.leaf rfl <| .operand .nil) rfl <| .leaf rfl .nil) rfl .nil
  | existOne =>
    exact .plain (.operand <| .leaf rfl <| .leaf rfl <|
      .plain (.operand <| .plain (.leaf rfl <| .leaf rfl .nil) rfl <| .leaf rfl .nil) rfl <|
      .plain (.leaf rfl <| .leaf rfl .nil) rfl .nil) rfl .nil
  | map =>
    exact .plain (.operand <| .leaf rfl <| .leaf rfl <|
      .plain (.leaf rfl <| .plain (.operand .nil) rfl .nil) rfl <| .leaf rfl .nil) rfl .nil
  | mapWhere =>
    exact .plain (.operand <| .leaf rfl <| .leaf rfl <|
      .plain (.operand <| .plain (.leaf rfl <| .plain (.operand .nil) rfl .nil) rfl <|
        .leaf rfl .nil) rfl <| .leaf rfl .nil) rfl .nil
  | filter =>
    exact .plain (.operand <| .leaf rfl <| .leaf rfl <|
      .plain (.operand <| .plain (.leaf rfl <| .plain (.leaf rfl .nil) rfl .nil) rfl <|
        .leaf rfl .nil) rfl <| .leaf rfl .nil) rfl .nil

/-! ### Whole expressions -/

/-- The expressions that were built from the id `start` on and are not used yet, and the id of the
next node. Every method takes its operands away and adds what it returns. -/
inductive Built (start : Int) : Multiset Expr → Int → Prop
  | nothing : Built start 0 start
  | step {unused rest : Multiset Expr} {next : Int} {operands : List Expr} {method : Builder Expr}
    (before : Built start unused next) (uses : Method operands method)
    (taken : unused = operands + rest) :
    Built start ((method.run next).1 ::ₘ rest) (method.run next).2

namespace Built

variable {start next : Int} {unused : Multiset Expr}

theorem start_le (built : Built start unused next) : start ≤ next := by
  induction built with
  | nothing => exact Int.le_refl start
  | step before uses _ ih => exact ih.trans (uses.assembled _).le

theorem bind_ids (built : Built start unused next) :
    unused.bind (fun e => (e.ids : Multiset Int)) = Multiset.Ico start next := by
  induction built with
  | nothing => simp
  | @step unused rest next operands method before uses taken ih =>
    have assembled := uses.assembled next
    have ids := assembled.ids_eq
    rw [List.flatMap_singleton, List.flatMap_nil, Multiset.coe_nil, add_zero] at ids
    rw [taken, Multiset.add_bind, Multiset.coe_bind] at ih
    rw [Multiset.cons_bind, ids, add_assoc, ih, add_comm,
      Multiset.Ico_add_Ico_eq_Ico before.start_le assembled.le]

theorem mem_ids (built : Built start unused next) {i : Int} :
    (∃ e ∈ unused, i ∈ e.ids) ↔ start ≤ i ∧ i < next := by
  rw [← Multiset.mem_Ico, ← built.bind_ids]
  simp

theorem descending (built : Built start unused next) : ∀ e ∈ unused, e.Descending := by
  induction built with
  | nothing => simp
  | @step unused rest next operands method before uses taken ih =>
    have old (o : Expr) (member : o ∈ operands) : o ∈ unused := by simp [taken, member]
    intro e member
    rcases Multiset.mem_cons.mp member with rfl | kept
    · refine (uses.assembled next).descending (fun o given => ?_) _ List.mem_cons_self
      exact ⟨ih o (old o given), fun i listed => (before.mem_ids.mp ⟨o, old o given, listed⟩).2⟩
    · exact ih e (by simp [taken, kept])

end Built

/-- When all that was built is used in one expression, its nodes and entries have exactly the ids
that were given out, each id once, and every node has a greater id than all that is below it. -/
theorem built_ids {start next : Int} {e : Expr} (built : Built start {e} next) :
    e.ids.Nodup ∧ (∀ i, i ∈ e.ids ↔ start ≤ i ∧ i < next) ∧
      e.Everywhere (fun node _ => ∀ i ∈ node.idsBelow, i < node.id) [] := by
  refine ⟨?_, fun i => ?_, built.descending e (Multiset.mem_singleton_self e) []⟩
  · rw [← Multiset.coe_nodup, ← Multiset.singleton_bind e fun e => (e.ids : Multiset Int),
      built.bind_ids]
    exact Multiset.nodup_Ico
  · rw [← built.mem_ids]
    simp

/-- A macro in an entry of a map, its parts built in another order than they stand. -/
def keyedLoop : Builder Expr := do
  let key ← literal (.string "k")
  let predicate ← ident "x"
  let range ← list [← literal (.bool true)]
  mapping [(key, ← all range "x" predicate)]

theorem keyedLoop_ids :
    Built 5 {(keyedLoop.run 5).1} 18 ∧
    (keyedLoop.run 5).1.ids = [17, 16, 5, 15, 8, 7, 9, 11, 10, 13, 12, 6, 14] ∧
    (∀ i, i ∈ (keyedLoop.run 5).1.ids ↔ 5 ≤ i ∧ i < 18) := by
  have key := (@Built.nothing 5).step (.literal (.string "k")) (zero_add _).symm
  have predicate := key.step (.ident "x") (zero_add _).symm
  have item := predicate.step (.literal (.bool true)) (zero_add _).symm
  have range := item.step (.list [_]) (Multiset.singleton_add _ _).symm
  have loop := @Built.step _ _ {_} _ _ _ range (.all _ "x" _) rfl
  have built := @Built.step _ _ 0 _ _ _ loop (.mapping [(_, _)]) (Multiset.cons_swap _ _ _)
  exact ⟨built, rfl, (built_ids built).2.1⟩

end Builder

end ExprEngine
