import ExprEngine.Proofs.Expr.Everywhere

/-!
# Expressions with renamed loop variables

Two expressions are alike when they differ in the names of their loop variables only. The pairs of
names that are bound around a part say which of its names stand for one variable, the innermost pair
first. A loop whose variable is renamed to a fresh name is alike to the loop that it was.
-/

namespace ExprEngine

/-- The pairs of loop variables that are bound, the innermost first. -/
abbrev Renaming := List (String × String)

namespace Renaming

/-- The two names stand for one variable, which may be one that no loop binds. -/
def Relates : Renaming → String → String → Prop
  | [], n, m => n = m
  | (a, b) :: rest, n, m => n = a ∧ m = b ∨ n ≠ a ∧ m ≠ b ∧ Relates rest n m

def Undotted (ρ : Renaming) : Prop :=
  ∀ pair ∈ ρ, pair.1 = pair.2 ∨ '.' ∉ pair.1.toList ∧ '.' ∉ pair.2.toList

variable {ρ : Renaming} {n m : String}

theorem relates_same (a : String) (same : n ≠ a → Relates ρ n n) : Relates ((a, a) :: ρ) n n := by
  by_cases here : n = a
  · exact .inl ⟨here, here⟩
  · exact .inr ⟨here, here, same here⟩

theorem relates_others {y : String} (others : ∀ n, n ≠ y → Relates ρ n n) (a : String) :
    ∀ n, n ≠ y → Relates ((a, a) :: ρ) n n :=
  fun n apart => relates_same a fun _ => others n apart

theorem relates_apart {a b : String} (left : n ≠ a) (right : m ≠ b) (related : Relates ρ n m) :
    Relates ((a, b) :: ρ) n m :=
  .inr ⟨left, right, related⟩

theorem bound_iff (related : Relates ρ n m) :
    n ∈ ρ.map Prod.fst ↔ m ∈ ρ.map Prod.snd := by
  induction ρ with
  | nil => simp
  | cons pair rest ih =>
    rcases related with ⟨left, right⟩ | ⟨left, right, related⟩
    · simp [left, right]
    · simp only [List.map_cons, List.mem_cons, left, right, false_or, ih related]

theorem eq_of_free (related : Relates ρ n m) (free : n ∉ ρ.map Prod.fst) : m = n := by
  induction ρ with
  | nil => exact related.symm
  | cons pair rest ih =>
    simp only [List.map_cons, List.mem_cons, not_or] at free
    rcases related with ⟨left, -⟩ | ⟨-, -, related⟩
    · exact absurd left free.1
    · exact ih related free.2

theorem relates_of_dotted (undotted : Undotted ρ) (dotted : '.' ∈ n.toList) : Relates ρ n n := by
  induction ρ with
  | nil => rfl
  | cons pair rest ih =>
    obtain ⟨first, others⟩ := List.forall_mem_cons.mp undotted
    obtain ⟨a, b⟩ := pair
    rcases first with same | ⟨left, right⟩
    · obtain rfl : a = b := same
      exact relates_same a fun _ => ih others
    · refine relates_apart ?_ ?_ (ih others)
      · rintro rfl
        exact left dotted
      · rintro rfl
        exact right dotted

end Renaming

namespace Expr

open Renaming

mutual

/-- The expressions differ in the names of loop variables only. -/
inductive Alike : Renaming → Expr → Expr → Prop where
  | literal {ρ id v} : Alike ρ (literal id v) (literal id v)
  | ident {ρ id n m} (related : Relates ρ n m) : Alike ρ (ident id n) (ident id m)
  | select {ρ id operand operand' field} (operands : Alike ρ operand operand') :
      Alike ρ (select id operand field) (select id operand' field)
  | presence {ρ id operand operand' field} (operands : Alike ρ operand operand') :
      Alike ρ (presence id operand field) (presence id operand' field)
  | call {ρ id function args args'} (alike : AlikeAll ρ args args') :
      Alike ρ (call id function args) (call id function args')
  | member {ρ id target target' function args args'} (targets : Alike ρ target target')
      (alike : AlikeAll ρ args args') :
      Alike ρ (member id target function args) (member id target' function args')
  | list {ρ id elements elements'} (alike : AlikeAll ρ elements elements') :
      Alike ρ (list id elements) (list id elements')
  | mapping {ρ id entries entries'} (alike : AlikeIn ρ entries entries') :
      Alike ρ (mapping id entries) (mapping id entries')
  | object {ρ id name entries entries'} (alike : AlikeIn ρ entries entries') :
      Alike ρ (object id name entries) (object id name entries')
  | loop {ρ id x y range range' accuVar init init' condition condition' step step' result result'}
      (undotted : x = y ∨ '.' ∉ x.toList ∧ '.' ∉ y.toList) (ranges : Alike ρ range range')
      (inits : Alike ρ init init')
      (conditions : Alike ((x, y) :: (accuVar, accuVar) :: ρ) condition condition')
      (steps : Alike ((x, y) :: (accuVar, accuVar) :: ρ) step step')
      (results : Alike ((accuVar, accuVar) :: ρ) result result') :
      Alike ρ (loop id x range accuVar init condition step result)
        (loop id y range' accuVar init' condition' step' result')

inductive AlikeAll : Renaming → List Expr → List Expr → Prop where
  | nil {ρ} : AlikeAll ρ [] []
  | cons {ρ e e' rest rest'} (first : Alike ρ e e') (others : AlikeAll ρ rest rest') :
      AlikeAll ρ (e :: rest) (e' :: rest')

inductive AlikeIn : Renaming → List Entry → List Entry → Prop where
  | nil {ρ} : AlikeIn ρ [] []
  | field {ρ id name value value' rest rest'} (values : Alike ρ value value')
      (others : AlikeIn ρ rest rest') :
      AlikeIn ρ (.field id name value :: rest) (.field id name value' :: rest')
  | keyed {ρ id key key' value value' rest rest'} (keys : Alike ρ key key')
      (values : Alike ρ value value') (others : AlikeIn ρ rest rest') :
      AlikeIn ρ (.keyed id key value :: rest) (.keyed id key' value' :: rest')

end

theorem AlikeAll.length_eq {ρ : Renaming} {es es' : List Expr} (alike : AlikeAll ρ es es') :
    es.length = es'.length := by
  match alike with
  | .nil => rfl
  | .cons _ others => exact congrArg Nat.succ others.length_eq

mutual

/-- The expression with `y` in the place of the variable `x`, as far as no loop in it binds `x`
itself. -/
def rename (x y : String) : Expr → Expr
  | literal id v => literal id v
  | ident id name => ident id (if name = x then y else name)
  | select id operand field => select id (rename x y operand) field
  | presence id operand field => presence id (rename x y operand) field
  | call id function args => call id function (renameAll x y args)
  | member id target function args =>
    member id (rename x y target) function (renameAll x y args)
  | list id elements => list id (renameAll x y elements)
  | mapping id entries => mapping id (renameIn x y entries)
  | object id name entries => object id name (renameIn x y entries)
  | loop id iterVar range accuVar init condition step result =>
    loop id iterVar (rename x y range) accuVar (rename x y init)
      (if x = iterVar ∨ x = accuVar then condition else rename x y condition)
      (if x = iterVar ∨ x = accuVar then step else rename x y step)
      (if x = accuVar then result else rename x y result)
termination_by structural e => e

def renameAll (x y : String) : List Expr → List Expr
  | [] => []
  | e :: rest => rename x y e :: renameAll x y rest
termination_by structural es => es

def renameIn (x y : String) : List Entry → List Entry
  | [] => []
  | .field id name value :: rest => .field id name (rename x y value) :: renameIn x y rest
  | .keyed id key value :: rest =>
    .keyed id (rename x y key) (rename x y value) :: renameIn x y rest
termination_by structural entries => entries

end

/-- The name is no identifier, and no loop has a variable of this name. -/
def Avoids (y : String) : Expr → List String → Prop
  | ident _ name, _ => name ≠ y
  | loop _ iterVar _ accuVar .., _ => iterVar ≠ y ∧ accuVar ≠ y
  | _, _ => True

section Fresh

variable {x y : String}

theorem alike_loop {ρ : Renaming} (others : ∀ n, n ≠ y → Relates ρ n n) (id : Int)
    (iterVar accuVar : String)
    {range range' init init' condition condition' step step' result result' : Expr}
    (ranges : Alike ρ range range') (inits : Alike ρ init init')
    (conditions : ∀ {σ : Renaming}, (∀ n, n ≠ y → Relates σ n n) → Alike σ condition condition')
    (steps : ∀ {σ : Renaming}, (∀ n, n ≠ y → Relates σ n n) → Alike σ step step')
    (results : ∀ {σ : Renaming}, (∀ n, n ≠ y → Relates σ n n) → Alike σ result result') :
    Alike ρ (loop id iterVar range accuVar init condition step result)
      (loop id iterVar range' accuVar init' condition' step' result') := by
  have outside := relates_others others accuVar
  have inside := relates_others outside iterVar
  exact .loop (.inl rfl) ranges inits (conditions inside) (steps inside) (results outside)

mutual

theorem alike_self {ρ : Renaming} (others : ∀ n, n ≠ y → Relates ρ n n) {e : Expr}
    {locals : List String} (fresh : e.Everywhere (Avoids y) locals) : Alike ρ e e := by
  match e with
  | literal id v => exact .literal
  | ident id name => exact .ident (others name fresh)
  | select id operand field => exact .select (alike_self others fresh.2)
  | presence id operand field => exact .presence (alike_self others fresh.2)
  | call id function args => exact .call (alikeAll_self others fresh.2)
  | member id target function args =>
    exact .member (alike_self others fresh.2.1) (alikeAll_self others fresh.2.2)
  | list id elements => exact .list (alikeAll_self others fresh.2)
  | mapping id entries => exact .mapping (alikeIn_self others fresh.2)
  | object id name entries => exact .object (alikeIn_self others fresh.2)
  | loop id iterVar range accuVar init condition step result =>
    obtain ⟨-, range, init, condition, step, result⟩ := fresh
    exact alike_loop others id iterVar accuVar (alike_self others range) (alike_self others init)
      (fun others => alike_self others condition) (fun others => alike_self others step)
      (fun others => alike_self others result)

theorem alikeAll_self {ρ : Renaming} (others : ∀ n, n ≠ y → Relates ρ n n) {es : List Expr}
    {locals : List String} (fresh : EverywhereAll (Avoids y) es locals) : AlikeAll ρ es es := by
  match es with
  | [] => exact .nil
  | e :: rest => exact .cons (alike_self others fresh.1) (alikeAll_self others fresh.2)

theorem alikeIn_self {ρ : Renaming} (others : ∀ n, n ≠ y → Relates ρ n n) {entries : List Entry}
    {locals : List String} (fresh : EverywhereIn (Avoids y) entries locals) :
    AlikeIn ρ entries entries := by
  match entries with
  | [] => exact .nil
  | .field .. :: rest => exact .field (alike_self others fresh.1) (alikeIn_self others fresh.2)
  | .keyed .. :: rest =>
    exact .keyed (alike_self others fresh.1) (alike_self others fresh.2.1)
      (alikeIn_self others fresh.2.2)

end

mutual

/-- An expression is alike to the renamed one where the old and the new name stand for one
variable. -/
theorem alike_rename {ρ : Renaming} (renamed : Relates ρ x y)
    (others : ∀ n, n ≠ x → n ≠ y → Relates ρ n n) {e : Expr} {locals : List String}
    (fresh : e.Everywhere (Avoids y) locals) : Alike ρ e (e.rename x y) := by
  match e with
  | literal id v => exact .literal
  | ident id name =>
    refine .ident ?_
    split
    · next same => rwa [same]
    · next apart => exact others name apart fresh
  | select id operand field => exact .select (alike_rename renamed others fresh.2)
  | presence id operand field => exact .presence (alike_rename renamed others fresh.2)
  | call id function args => exact .call (alikeAll_rename renamed others fresh.2)
  | member id target function args =>
    exact .member (alike_rename renamed others fresh.2.1) (alikeAll_rename renamed others fresh.2.2)
  | list id elements => exact .list (alikeAll_rename renamed others fresh.2)
  | mapping id entries => exact .mapping (alikeIn_rename renamed others fresh.2)
  | object id name entries => exact .object (alikeIn_rename renamed others fresh.2)
  | loop id iterVar range accuVar init condition step result =>
    obtain ⟨⟨iterApart, accuApart⟩, range, init, condition, step, result⟩ := fresh
    have outside : ∀ n, n ≠ x → n ≠ y → Relates ((accuVar, accuVar) :: ρ) n n :=
      fun n apart new => relates_same accuVar fun _ => others n apart new
    -- Where the loop binds `x` itself, its parts stay as they are, and `x` stands for itself.
    have inside : (x = iterVar ∨ x = accuVar) → ∀ n, n ≠ y →
        Relates ((iterVar, iterVar) :: (accuVar, accuVar) :: ρ) n n := by
      intro bound n new
      refine relates_same iterVar fun iter => relates_same accuVar fun accu => others n ?_ new
      rintro rfl
      exact bound.elim iter accu
    have renamedInside : ¬ (x = iterVar ∨ x = accuVar) →
        Relates ((iterVar, iterVar) :: (accuVar, accuVar) :: ρ) x y := by
      intro free
      exact relates_apart (fun h => free (.inl h)) (Ne.symm iterApart)
        (relates_apart (fun h => free (.inr h)) (Ne.symm accuApart) renamed)
    have othersInside : ∀ n, n ≠ x → n ≠ y →
        Relates ((iterVar, iterVar) :: (accuVar, accuVar) :: ρ) n n :=
      fun n apart new => relates_same iterVar fun _ => outside n apart new
    refine .loop (.inl rfl) (alike_rename renamed others range) (alike_rename renamed others init)
      ?_ ?_ ?_
    · split
      · next bound => exact alike_self (inside bound) condition
      · next free => exact alike_rename (renamedInside free) othersInside condition
    · split
      · next bound => exact alike_self (inside bound) step
      · next free => exact alike_rename (renamedInside free) othersInside step
    · split
      · next bound =>
        refine alike_self (fun n new => relates_same accuVar fun accu => others n ?_ new) result
        rwa [bound]
      · next free =>
        exact alike_rename (relates_apart free (Ne.symm accuApart) renamed) outside result

theorem alikeAll_rename {ρ : Renaming} (renamed : Relates ρ x y)
    (others : ∀ n, n ≠ x → n ≠ y → Relates ρ n n) {es : List Expr} {locals : List String}
    (fresh : EverywhereAll (Avoids y) es locals) : AlikeAll ρ es (renameAll x y es) := by
  match es with
  | [] => exact .nil
  | e :: rest =>
    exact .cons (alike_rename renamed others fresh.1) (alikeAll_rename renamed others fresh.2)

theorem alikeIn_rename {ρ : Renaming} (renamed : Relates ρ x y)
    (others : ∀ n, n ≠ x → n ≠ y → Relates ρ n n) {entries : List Entry} {locals : List String}
    (fresh : EverywhereIn (Avoids y) entries locals) :
    AlikeIn ρ entries (renameIn x y entries) := by
  match entries with
  | [] => exact .nil
  | .field .. :: rest =>
    exact .field (alike_rename renamed others fresh.1) (alikeIn_rename renamed others fresh.2)
  | .keyed .. :: rest =>
    exact .keyed (alike_rename renamed others fresh.1) (alike_rename renamed others fresh.2.1)
      (alikeIn_rename renamed others fresh.2.2)

end

end Fresh

mutual

/-- The second expression is the first one with the variable of one loop renamed to `y`: in the
loop's condition and step, as far as no loop in them binds the old name itself. -/
inductive Renames (y : String) : Expr → Expr → Prop where
  | here {id x range accuVar init condition step result} (undotted : '.' ∉ x.toList) :
      Renames y (loop id x range accuVar init condition step result)
        (loop id y range accuVar init (condition.rename x y) (step.rename x y) result)
  | select {id operand operand' field} (inner : Renames y operand operand') :
      Renames y (select id operand field) (select id operand' field)
  | presence {id operand operand' field} (inner : Renames y operand operand') :
      Renames y (presence id operand field) (presence id operand' field)
  | call {id function args args'} (inner : RenamesAll y args args') :
      Renames y (call id function args) (call id function args')
  | target {id target target' function args} (inner : Renames y target target') :
      Renames y (member id target function args) (member id target' function args)
  | args {id target function args args'} (inner : RenamesAll y args args') :
      Renames y (member id target function args) (member id target function args')
  | list {id elements elements'} (inner : RenamesAll y elements elements') :
      Renames y (list id elements) (list id elements')
  | mapping {id entries entries'} (inner : RenamesIn y entries entries') :
      Renames y (mapping id entries) (mapping id entries')
  | object {id name entries entries'} (inner : RenamesIn y entries entries') :
      Renames y (object id name entries) (object id name entries')
  | range {id iterVar range range' accuVar init condition step result}
      (inner : Renames y range range') :
      Renames y (loop id iterVar range accuVar init condition step result)
        (loop id iterVar range' accuVar init condition step result)
  | init {id iterVar range accuVar init init' condition step result}
      (inner : Renames y init init') :
      Renames y (loop id iterVar range accuVar init condition step result)
        (loop id iterVar range accuVar init' condition step result)
  | condition {id iterVar range accuVar init condition condition' step result}
      (inner : Renames y condition condition') :
      Renames y (loop id iterVar range accuVar init condition step result)
        (loop id iterVar range accuVar init condition' step result)
  | step {id iterVar range accuVar init condition step step' result}
      (inner : Renames y step step') :
      Renames y (loop id iterVar range accuVar init condition step result)
        (loop id iterVar range accuVar init condition step' result)
  | result {id iterVar range accuVar init condition step result result'}
      (inner : Renames y result result') :
      Renames y (loop id iterVar range accuVar init condition step result)
        (loop id iterVar range accuVar init condition step result')

inductive RenamesAll (y : String) : List Expr → List Expr → Prop where
  | first {e e' rest} (inner : Renames y e e') : RenamesAll y (e :: rest) (e' :: rest)
  | later {e rest rest'} (inner : RenamesAll y rest rest') :
      RenamesAll y (e :: rest) (e :: rest')

inductive RenamesIn (y : String) : List Entry → List Entry → Prop where
  | field {id name value value' rest} (inner : Renames y value value') :
      RenamesIn y (.field id name value :: rest) (.field id name value' :: rest)
  | key {id key key' value rest} (inner : Renames y key key') :
      RenamesIn y (.keyed id key value :: rest) (.keyed id key' value :: rest)
  | value {id key value value' rest} (inner : Renames y value value') :
      RenamesIn y (.keyed id key value :: rest) (.keyed id key value' :: rest)
  | later {entry rest rest'} (inner : RenamesIn y rest rest') :
      RenamesIn y (entry :: rest) (entry :: rest')

end

section Renamed

variable {y : String}

mutual

theorem alike_of_renames (undotted : '.' ∉ y.toList) {ρ : Renaming}
    (others : ∀ n, n ≠ y → Relates ρ n n) {e e' : Expr} {locals : List String}
    (renames : Renames y e e') (fresh : e.Everywhere (Avoids y) locals) : Alike ρ e e' := by
  match renames with
  | @Renames.here _ id x range accuVar init condition step result plain =>
    obtain ⟨-, rangeFresh, initFresh, conditionFresh, stepFresh, resultFresh⟩ := fresh
    have outside := relates_others others accuVar
    have renamed : Relates ((x, y) :: (accuVar, accuVar) :: ρ) x y := .inl ⟨rfl, rfl⟩
    have inside : ∀ n, n ≠ x → n ≠ y → Relates ((x, y) :: (accuVar, accuVar) :: ρ) n n :=
      fun n old new => relates_apart old new (outside n new)
    exact .loop (.inr ⟨plain, undotted⟩) (alike_self others rangeFresh)
      (alike_self others initFresh) (alike_rename renamed inside conditionFresh)
      (alike_rename renamed inside stepFresh) (alike_self outside resultFresh)
  | .select inner => exact .select (alike_of_renames undotted others inner fresh.2)
  | .presence inner => exact .presence (alike_of_renames undotted others inner fresh.2)
  | .call inner => exact .call (alikeAll_of_renames undotted others inner fresh.2)
  | .target inner =>
    exact .member (alike_of_renames undotted others inner fresh.2.1)
      (alikeAll_self others fresh.2.2)
  | .args inner =>
    exact .member (alike_self others fresh.2.1)
      (alikeAll_of_renames undotted others inner fresh.2.2)
  | .list inner => exact .list (alikeAll_of_renames undotted others inner fresh.2)
  | .mapping inner => exact .mapping (alikeIn_of_renames undotted others inner fresh.2)
  | .object inner => exact .object (alikeIn_of_renames undotted others inner fresh.2)
  | .range inner =>
    obtain ⟨-, range, init, condition, step, result⟩ := fresh
    exact alike_loop others _ _ _ (alike_of_renames undotted others inner range)
      (alike_self others init)
      (fun others => alike_self others condition) (fun others => alike_self others step)
      (fun others => alike_self others result)
  | .init inner =>
    obtain ⟨-, range, init, condition, step, result⟩ := fresh
    exact alike_loop others _ _ _ (alike_self others range)
      (alike_of_renames undotted others inner init)
      (fun others => alike_self others condition) (fun others => alike_self others step)
      (fun others => alike_self others result)
  | .condition inner =>
    obtain ⟨-, range, init, condition, step, result⟩ := fresh
    exact alike_loop others _ _ _ (alike_self others range) (alike_self others init)
      (fun others => alike_of_renames undotted others inner condition)
      (fun others => alike_self others step) (fun others => alike_self others result)
  | .step inner =>
    obtain ⟨-, range, init, condition, step, result⟩ := fresh
    exact alike_loop others _ _ _ (alike_self others range) (alike_self others init)
      (fun others => alike_self others condition)
      (fun others => alike_of_renames undotted others inner step)
      (fun others => alike_self others result)
  | .result inner =>
    obtain ⟨-, range, init, condition, step, result⟩ := fresh
    exact alike_loop others _ _ _ (alike_self others range) (alike_self others init)
      (fun others => alike_self others condition) (fun others => alike_self others step)
      (fun others => alike_of_renames undotted others inner result)

theorem alikeAll_of_renames (undotted : '.' ∉ y.toList) {ρ : Renaming}
    (others : ∀ n, n ≠ y → Relates ρ n n) {es es' : List Expr} {locals : List String}
    (renames : RenamesAll y es es')
    (fresh : EverywhereAll (Avoids y) es locals) : AlikeAll ρ es es' := by
  match renames with
  | .first inner =>
    exact .cons (alike_of_renames undotted others inner fresh.1) (alikeAll_self others fresh.2)
  | .later inner =>
    exact .cons (alike_self others fresh.1) (alikeAll_of_renames undotted others inner fresh.2)

theorem alikeIn_of_renames (undotted : '.' ∉ y.toList) {ρ : Renaming}
    (others : ∀ n, n ≠ y → Relates ρ n n) {entries entries' : List Entry} {locals : List String}
    (renames : RenamesIn y entries entries')
    (fresh : EverywhereIn (Avoids y) entries locals) : AlikeIn ρ entries entries' := by
  match renames with
  | .field inner =>
    exact .field (alike_of_renames undotted others inner fresh.1) (alikeIn_self others fresh.2)
  | .key inner =>
    exact .keyed (alike_of_renames undotted others inner fresh.1) (alike_self others fresh.2.1)
      (alikeIn_self others fresh.2.2)
  | .value inner =>
    exact .keyed (alike_self others fresh.1) (alike_of_renames undotted others inner fresh.2.1)
      (alikeIn_self others fresh.2.2)
  | @RenamesIn.later _ entry _ _ inner =>
    cases entry with
    | field =>
      exact .field (alike_self others fresh.1) (alikeIn_of_renames undotted others inner fresh.2)
    | keyed =>
      exact .keyed (alike_self others fresh.1) (alike_self others fresh.2.1)
        (alikeIn_of_renames undotted others inner fresh.2.2)

end

end Renamed

end Expr

end ExprEngine
