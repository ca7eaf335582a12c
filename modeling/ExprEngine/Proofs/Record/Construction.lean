import ExprEngine.Proofs.Collection.Denotation
import ExprEngine.Proofs.Partial.Macros
import ExprEngine.Proofs.Planning.Specialized
import ExprEngine.Proofs.Record.Equality

/-!
# Constructed records

A construction of an object of a registered type without a constructor of its own makes the record
of its fields, in their order. So the equality of two constructions is that of two records: it is
symmetric where neither of them names a field twice, and a name that is given twice breaks it
wherever the two could be equal at all.
-/

namespace ExprEngine

namespace Planner

open Planning

section

variable [HostObjects]

open Plan hiding id

/-- The expression has a plan inside loops that bind `locals`, and this value in the scope. -/
def Yields (c : Planner) (locals : List String) (scope : Scope) (e : Expr) (v : Value) : Prop :=
  c.Denotes locals e (fun _ : Unit => scope) fun _ => v

variable {c : Planner} {locals : List String} {scope : Scope} {table : TypeTable} {e e' : Expr}
  {t t' : ValueType} {fields fields' : List (String × Value)}

/-- The name of a construction stands for a registered type without a constructor of its own. -/
def NamesRecord (c : Planner) (table : TypeTable) (id : Int) (name : String) (t : ObjectType) :
    Prop :=
  t.constructor? = none ∧
    ∃ full, outcome (c.typeName id name) = .ok full ∧ table.find? full = some t

/-- A construction of a record of that type with these values of declared fields. -/
inductive Constructs (c : Planner) (table : TypeTable) (locals : List String) (scope : Scope) :
    Expr → ValueType → List (String × Value) → Prop
  | object {id : Int} {name : String} {entries : List Entry} {t : ObjectType}
      {fields : List (String × Value)} (known : c.NamesRecord table id name t)
      (declared : ∀ f ∈ fields, t.declares f.1 = true)
      (regular : ∀ f ∈ fields, f.2.isFailure = false)
      (given : List.Forall₂
        (fun entry f => ∃ id e, entry = .field id f.1 e ∧ c.Yields locals scope e f.2)
        entries fields) :
      Constructs c table locals scope (.object id name entries) t.type fields

theorem planned_fields (full : String) {entries : List Entry}
    (given : List.Forall₂
      (fun entry f => ∃ id e, entry = .field id f.1 e ∧ c.Yields locals scope e f.2)
      entries fields) :
    ∃ ps, outcome (c.planFields full entries locals) = .ok ps ∧
      ps.map (fun p => (p.1, (p.2.eval c.provider false scope).value)) = fields := by
  induction given with
  | nil => exact ⟨[], rfl, rfl⟩
  | @cons entry f _ _ first _ ih =>
    obtain ⟨id, e, rfl, p, planned, value⟩ := first
    obtain ⟨ps, others, values⟩ := ih
    refine ⟨(f.1, p) :: ps, ?_, ?_⟩
    · rw [planFields, outcome_bind, planned]
      simp only [Except.bind, outcome_bind, others]
      rfl
    · rw [List.map_cons, values, value ()]

omit [HostObjects] in
theorem construct_declared {full : String} {t : ObjectType}
    (registered : table.find? full = some t) (plain : t.constructor? = none)
    (declared : ∀ f ∈ fields, t.declares f.1 = true) :
    table.construct full fields = .object .record t.type fields := by
  have known : (fields.find? fun f => !t.declares f.1) = none := by
    rw [List.find?_eq_none]
    intro f member
    simp [declared f member]
  rw [TypeTable.construct, registered]
  simp only [ObjectType.construct, known, plain]

theorem Constructs.yields (provider : c.provider.construct = table.construct)
    (constructs : c.Constructs table locals scope e t fields) :
    c.Yields locals scope e (.object .record t fields) := by
  cases constructs with
  | @object id name entries t _ known declared regular given =>
    obtain ⟨plain, full, named, registered⟩ := known
    obtain ⟨ps, planned, values⟩ := planned_fields full given
    have made : outcome (c.planExpr (.object id name entries) locals) =
        .ok (c.finished (.object id full ps)) := by
      rw [planExpr, outcome_bind, named]
      simp only [Except.bind, outcome_bind, planned]
      exact outcome_finish c _
    refine ⟨_, made, fun _ => ?_⟩
    rw [value_finished rfl rfl rfl, value_object]
    simp only [values]
    have operands : ∀ v ∈ fields.map Prod.snd, v.isFailure = false := by
      intro v member
      obtain ⟨f, listed, rfl⟩ := List.mem_map.mp member
      exact regular f listed
    rw [Value.strict_regular operands, provider,
      construct_declared registered plain declared]
    rfl

theorem yields_equals {extra : List Overload}
    (standard : c.registry = Registry.standard.addAll extra) {v w : Value}
    (left : c.Yields locals scope e v) (right : c.Yields locals scope e' w) (id : Int)
    (regular : v.isFailure = false) (regular' : w.isFailure = false) :
    c.Yields locals scope (.call id Operator.equals [e, e']) ((v.equal w).withExprId id) := by
  have alone : c.reachable Operator.equals 2 = [Standard.binary Operator.equals Value.equal] :=
    reachable_unguarded standard (o := Standard.binary Operator.equals Value.equal)
      (List.mem_of_getElem? (i := 7) rfl) rfl rfl
  have reached : c.reachable Operator.equals 2 ≠ [] := by
    rw [alone]
    exact List.cons_ne_nil _ _
  refine (denotes_binary standard rfl reached left right).congr fun _ => ?_
  have operands : ∀ x ∈ [v, w], x.isFailure = false := Value.forall_pair regular regular'
  have strict : ¬[Standard.binary Operator.equals Value.equal].any Overload.nonStrict = true :=
    Bool.false_ne_true
  rw [alone, Value.called, if_neg strict, Value.strict_regular operands,
    value_dispatch_first rfl rfl operands]
  rfl

theorem Yields.unique {v w : Value} (first : c.Yields locals scope e v)
    (second : c.Yields locals scope e w) : v = w := by
  obtain ⟨p, planned, value⟩ := first
  obtain ⟨q, planned', value'⟩ := second
  obtain rfl : p = q := Except.ok.inj (planned.symm.trans planned')
  exact (value ()).symm.trans (value' ())

theorem exists_constructs {obj : Int} {name : String} {t : ObjectType}
    (known : c.NamesRecord table obj name t)
    (declared : ∀ n ∈ fields.map Prod.fst, t.declares n = true)
    (regular : ∀ f ∈ fields, f.2.isFailure = false) :
    ∃ e, c.Constructs table locals scope e t.type fields := by
  refine ⟨.object obj name (fields.map fun f => .field 0 f.1 (.literal 0 f.2)),
    .object known (List.forall_mem_map.mp declared) regular ?_⟩
  rw [List.forall₂_map_left_iff, List.forall₂_same]
  exact fun f _ => ⟨0, _, rfl, denotes_literal f.2⟩

section Equality

variable {extra : List Overload} (standard : c.registry = Registry.standard.addAll extra)
  (provider : c.provider.construct = table.construct)

include standard provider

theorem Constructs.equals (left : c.Constructs table locals scope e t fields)
    (right : c.Constructs table locals scope e' t' fields') (id : Int) :
    c.Yields locals scope (.call id Operator.equals [e, e'])
      (((Value.object .record t fields).equal (.object .record t' fields')).withExprId id) :=
  yields_equals standard (left.yields provider) (right.yields provider) id rfl rfl

variable {obj obj' : Int} {name name' : String} {t t' : ObjectType} {names names' : List String}

variable (locals scope) in

/-- Where one list of declared names is among another of the same length and not all names are
distinct, some constructions with these names are equal one way only. -/
theorem exists_asymmetric (known : c.NamesRecord table obj name t)
    (known' : c.NamesRecord table obj' name' t') (declared : ∀ n ∈ names, t.declares n = true)
    (declared' : ∀ n ∈ names', t'.declares n = true) (type : t.type.same t'.type = true)
    (long : names.length = names'.length) (among : names ⊆ names')
    (repeated : ¬ (names.Nodup ∧ names'.Nodup)) :
    ∃ e e' fields fields', c.Constructs table locals scope e t.type fields ∧
      c.Constructs table locals scope e' t'.type fields' ∧ fields.map Prod.fst = names ∧
      fields'.map Prod.fst = names' ∧ (∀ f ∈ fields ++ fields', f.2.Everywhere Value.IsOrderly) ∧
      ∀ id id', ¬ ∃ r, c.Yields locals scope (.call id Operator.equals [e, e']) (.bool r) ∧
        c.Yields locals scope (.call id' Operator.equals [e', e]) (.bool r) := by
  obtain ⟨fields, fields', rfl, rfl, simple, same, other⟩ :=
    Value.exists_asymmetric type long among repeated
  have orderly : ∀ f ∈ fields ++ fields', f.2.Everywhere Value.IsOrderly := by
    intro f member
    rcases simple f member with value | value <;> rw [value] <;> trivial
  have regular : ∀ f ∈ fields ++ fields', f.2.isFailure = false :=
    fun f member => Value.isFailure_of_isOrderly (orderly f member).here
  rw [List.forall_mem_append] at regular
  obtain ⟨e, left⟩ := exists_constructs known declared regular.1
  obtain ⟨e', right⟩ := exists_constructs known' declared' regular.2
  refine ⟨e, e', fields, fields', left, right, rfl, rfl, orderly, fun id id' ⟨r, forth, back⟩ => ?_⟩
  have answer := forth.unique (left.equals standard provider right id)
  obtain rfl : r = true := Value.bool.inj (answer.trans (Value.withExprId_eq_bool.mpr same))
  have reverse := back.unique (right.equals standard provider left id')
  exact other (Value.withExprId_eq_bool.mp reverse.symm)

/-- Any two constructions with these names of declared fields are equal both ways or neither way,
exactly unless they are of one type, name as many fields, one of them names all that the other one
does, and one of them names a field twice. -/
theorem constructions_symmetric_iff (known : c.NamesRecord table obj name t)
    (known' : c.NamesRecord table obj' name' t') (declared : ∀ n ∈ names, t.declares n = true)
    (declared' : ∀ n ∈ names', t'.declares n = true) :
    (∀ e e' fields fields', c.Constructs table locals scope e t.type fields →
      c.Constructs table locals scope e' t'.type fields' → fields.map Prod.fst = names →
      fields'.map Prod.fst = names' → (∀ f ∈ fields ++ fields', f.2.Everywhere Value.IsOrderly) →
      ∀ id id', ∃ r, c.Yields locals scope (.call id Operator.equals [e, e']) (.bool r) ∧
        c.Yields locals scope (.call id' Operator.equals [e', e]) (.bool r)) ↔
      (t.type.same t'.type = true → names.length = names'.length →
        names ⊆ names' ∨ names' ⊆ names → names.Nodup ∧ names'.Nodup) := by
  constructor
  · intro symmetric type long among
    by_contra repeated
    rcases among with among | among
    · obtain ⟨e, e', fields, fields', left, right, names, names', orderly, differs⟩ :=
        exists_asymmetric locals scope standard provider known known' declared declared' type long
          among repeated
      exact differs 0 0 (symmetric e e' fields fields' left right names names' orderly 0 0)
    · obtain ⟨e', e, fields', fields, right, left, names', names, orderly, differs⟩ :=
        exists_asymmetric locals scope standard provider known' known declared' declared
          (Value.same_comm t.type _ ▸ type) long.symm among fun both => repeated both.symm
      rw [List.forall_mem_append, and_comm, ← List.forall_mem_append] at orderly
      obtain ⟨r, forth, back⟩ := symmetric e e' fields fields' left right names names' orderly 0 0
      exact differs 0 0 ⟨r, back, forth⟩
  · rintro sound e e' fields fields' left right rfl rfl orderly id id'
    rw [List.length_map, List.length_map] at sound
    obtain ⟨r, forth, back⟩ := Value.equal_record_comm sound orderly
    have there := left.equals standard provider right id
    have reverse := right.equals standard provider left id'
    rw [forth] at there
    rw [back] at reverse
    exact ⟨r, there, reverse⟩

end Equality

def point : ObjectType :=
  ((ObjectType.named "T").declare "x" (.ofName "x" .int)).declare "y" (.ofName "y" .int)

def points : TypeTable := .register .empty point

def pointEnvironment : Environment := { provider := points.provider }

def pointOf (id : Int) (first second : String) (i j : Int64) : Expr :=
  .object id "T" [.field (id + 1) first (.literal (id + 2) (.int i)),
    .field (id + 3) second (.literal (id + 4) (.int j))]

def pointPlanner : Planner := pointEnvironment.planner (.unchecked (.literal 0 .null))

theorem pointOf_constructs (id : Int) {first second : String} (i j : Int64)
    (named : pointPlanner.NamesRecord points id "T" point) (mine : point.declares first = true)
    (other : point.declares second = true) :
    pointPlanner.Constructs points [] .empty (pointOf id first second i j) point.type
      [(first, .int i), (second, .int j)] := by
  refine .object named (by simp [mine, other]) (by simp [Value.isFailure]) ?_
  exact .cons ⟨_, _, rfl, denotes_literal _⟩ (.cons ⟨_, _, rfl, denotes_literal _⟩ .nil)

end

section

attribute [local instance] HostObjects.silent

/-- `T{x: 1, y: 2}` and `T{y: 2, x: 1}` -/
theorem points_symmetric :
    ∃ r, pointPlanner.Yields [] .empty
        (.call 11 Operator.equals [pointOf 1 "x" "y" 1 2, pointOf 6 "y" "x" 2 1]) (.bool r) ∧
      pointPlanner.Yields [] .empty
        (.call 12 Operator.equals [pointOf 6 "y" "x" 2 1, pointOf 1 "x" "y" 1 2]) (.bool r) := by
  have standard : pointPlanner.registry = Registry.standard.addAll [] := by
    rw [Registry.addAll_nil, pointPlanner, pointEnvironment, Environment.planner]
  have known (id : Int) : pointPlanner.NamesRecord points id "T" point :=
    ⟨rfl, "T", rfl, rfl⟩
  have declared : ∀ n ∈ ["x", "y"], point.declares n = true := by decide
  have declared' : ∀ n ∈ ["y", "x"], point.declares n = true := by decide
  refine (constructions_symmetric_iff standard rfl (known 1) (known 6) declared declared').mpr
    (fun _ _ _ => by decide) _ _ _ _ (pointOf_constructs 1 1 2 (known 1) rfl rfl)
    (pointOf_constructs 6 2 1 (known 6) rfl rfl) rfl rfl ?_ 11 12
  simp [Value.Everywhere, Value.IsOrderly]

end

section

variable [HostObjects]

def saidEqual (e e' : Expr) : Option Bool := do
  let p ← (outcome (pointEnvironment.plan
    (.unchecked (.call 0 Operator.equals [e, e'])))).toOption
  (p.eval .empty).value.asBool?

end

attribute [local instance] HostObjects.silent

/-- `T{x: 1, x: 1} == T{x: 1, y: 2}`, and not the other way round. -/
theorem repeatedField_asymmetric :
    saidEqual (pointOf 1 "x" "x" 1 1) (pointOf 6 "x" "y" 1 2) = some true ∧
      saidEqual (pointOf 6 "x" "y" 1 2) (pointOf 1 "x" "x" 1 1) = some false := by
  decide +kernel

end Planner

end ExprEngine
