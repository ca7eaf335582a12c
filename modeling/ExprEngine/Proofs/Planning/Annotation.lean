import ExprEngine.Proofs.Planning.Interchange
import ExprEngine.Proofs.Planning.Simulation
import ExprEngine.Proofs.Whole.Provider

/-!
# Type annotations

The types that a checker finds let planning read the fields of objects through their declared
access. Where every declared field is read by its name, this makes no difference to any run:
values that are no objects of the type are read as any others are.
-/

namespace ExprEngine

section

variable [HostObjects]

namespace Value

variable (v : Value) (name typeName : String) (type : ValueType)

theorem readField_ofName :
    v.readField name (some (typeName, .ofName name type)) = v.readField name none := by
  cases v with
  | object o t fields =>
    by_cases same : t.name = typeName
    · simp only [readField, same, ↓reduceIte]
      rfl
    · simp only [readField, same, ↓reduceIte]
  | _ => rfl

theorem testField_ofName (id : Int) :
    v.testField id name (some (typeName, .ofName name type)) = v.testField id name none := by
  cases v with
  | object o t fields =>
    by_cases same : t.name = typeName
    · simp only [testField, same, ↓reduceIte]
      rfl
    · simp only [testField, same, ↓reduceIte]
  | _ => rfl

end Value

namespace ObjectType

/-- Every declared field is the field of that name that the object itself has. -/
def ReadsByName (t : ObjectType) : Prop :=
  ∀ f ∈ t.fields, ∃ type, f.2 = FieldAccess.ofName f.1 type

theorem named_readsByName (name : String) : (named name).ReadsByName := by
  intro f declared
  cases declared

theorem declare_readsByName {t : ObjectType} (reads : t.ReadsByName) (name : String)
    (type : ValueType) : (t.declare name (.ofName name type)).ReadsByName := by
  intro f declared
  rcases List.mem_cons.mp declared with rfl | before
  · exact ⟨type, rfl⟩
  · exact reads f (List.mem_of_mem_filter before)

end ObjectType

namespace TypeTable

def ReadsByName (table : TypeTable) : Prop := ∀ t ∈ table.types, t.ReadsByName

theorem empty_readsByName : empty.ReadsByName := by
  intro t declared
  cases declared

theorem register_readsByName {table : TypeTable} (reads : table.ReadsByName) {t : ObjectType}
    (added : t.ReadsByName) : (table.register t).ReadsByName := by
  intro other declared
  rcases List.mem_cons.mp declared with rfl | before
  · exact added
  · exact reads other (List.mem_of_mem_filter before)

theorem findField_ofName {table : TypeTable} (reads : table.ReadsByName) {typeName field : String}
    {access : FieldAccess} (found : table.findField typeName field = some access) :
    ∃ type, access = .ofName field type := by
  obtain ⟨t, declared, listed⟩ := Option.bind_eq_some_iff.mp found
  exact reads t (List.mem_of_find?_eq_some declared) (field, access) (Value.mem_of_lookup listed)

end TypeTable

namespace Planner

open Plan hiding id

variable {c : Planner} {table : TypeTable} {locals : List String}

def untyped (c : Planner) : Planner := { c with checked := { c.checked with types := [] } }

theorem fieldAccess_cases (reads : table.ReadsByName)
    (provided : c.provider.findField = table.findField) (operand : Int) (field : String) :
    c.fieldAccess operand field = none ∨
      ∃ typeName type, c.fieldAccess operand field = some (typeName, .ofName field type) := by
  unfold fieldAccess
  rw [provided]
  split
  · next t _ =>
    split
    · cases found : table.findField t.name field with
      | none => exact .inl rfl
      | some access =>
        obtain ⟨type, rfl⟩ := TypeTable.findField_ofName reads found
        exact .inr ⟨t.name, type, rfl⟩
    · exact .inl rfl
  · exact .inl rfl

theorem field_steps (reads : table.ReadsByName)
    (provided : c.provider.findField = table.findField) (id operand : Int) (field : String) :
    steps c.provider [.field id field (c.fieldAccess operand field)] =
      steps c.provider [.field id field (c.untyped.fieldAccess operand field)] := by
  have untyped : c.untyped.fieldAccess operand field = none := rfl
  rw [untyped]
  rcases fieldAccess_cases reads provided operand field with access | ⟨typeName, type, access⟩
  · rw [access]
  · simp only [access, steps, Value.readField_ofName]

theorem testField_fieldAccess (reads : table.ReadsByName)
    (provided : c.provider.findField = table.findField) (id operand : Int) (field : String)
    (v : Value) :
    v.testField id field (c.fieldAccess operand field) =
      v.testField id field (c.untyped.fieldAccess operand field) := by
  have untyped : c.untyped.fieldAccess operand field = none := rfl
  rw [untyped]
  rcases fieldAccess_cases reads provided operand field with access | ⟨typeName, type, access⟩
  · rw [access]
  · rw [access, Value.testField_ofName]

abbrev Retyped (c : Planner) : Expr → List String → Plan → Plan → Prop :=
  fun _ _ => Interchanges c.provider

/-- A planner with types makes the plans of the planner without, up to how fields are read. -/
theorem untyped_simulates (reads : table.ReadsByName)
    (provided : c.provider.findField = table.findField) :
    Simulates c c.untyped c.Retyped where
  toFollows := by
    refine follows_interchanges rfl rfl (fun _ => rfl) (fun id operand field => ?_)
      (testField_fieldAccess reads provided)
      (fun id field locals _ => identPlan_unfinished rfl c.provider)
    exact Qualifier.MatchIn.of_eq (field_steps reads provided id operand field)
  resolves _ := rfl
  names _ _ := rfl
  ident id name locals := finished_interchanges rfl rfl (identPlan_unfinished rfl c.provider)

end Planner

end

namespace Environment

open Planning

section

variable [HostObjects]

/-- Where declared fields are read by their names, the program planned with the types that a
checker found runs as the one planned without them. -/
theorem annotations_transparent (env : Environment) (table : TypeTable) (checked : CheckedExpr)
    (reads : table.ReadsByName) (provided : env.provider.findField = table.findField) :
    Agree (fun p q => ∀ scope, p.eval scope = q.eval scope) (outcome (env.plan checked))
      (outcome (env.plan { checked with types := [] })) := by
  rw [plan, plan, outcome_bind, outcome_bind]
  have simulates := Planner.untyped_simulates (c := env.planner checked) reads provided
  refine (Planner.agree_of_simulates simulates checked.expr []).bind fun p q pair => ?_
  refine .ok fun scope => ?_
  have runs := pair.related.eval
  exact congrFun (congrFun runs false) scope

end

attribute [local instance] HostObjects.silent

def pointTable : TypeTable :=
  TypeTable.empty.register ((ObjectType.named "point").declare "x" (.ofName "x" .int))

/-- The selection `p.x`, where the checker took `p` for a point. -/
def pointSelection : CheckedExpr :=
  (CheckedExpr.unchecked (.select 2 (.ident 1 "p") "x")).withType 1 (ObjectType.named "point").type

/-- The field is read through its declared access, to the same effect. -/
theorem annotations_transparent_point :
    let env : Environment := { provider := pointTable.provider }
    pointTable.ReadsByName ∧
      ((env.planner pointSelection).fieldAccess 1 "x").isSome = true ∧
      ∃ p q, outcome (env.plan pointSelection) = .ok p ∧
        outcome (env.plan { pointSelection with types := [] }) = .ok q ∧
        ∀ scope, p.eval scope = q.eval scope := by
  intro env
  have point := ObjectType.declare_readsByName (ObjectType.named_readsByName "point") "x" .int
  have reads : pointTable.ReadsByName :=
    TypeTable.register_readsByName TypeTable.empty_readsByName point
  refine ⟨reads, rfl, _, _, rfl, rfl, ?_⟩
  exact (annotations_transparent env pointTable pointSelection reads rfl).related

end Environment

end ExprEngine
