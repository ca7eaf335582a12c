import ExprEngine.Proofs.Whole.Value
import ExprEngine.Host.ObjectType

/-!
# Providers of whole values

Names that a provider knows and objects that it builds from whole fields are whole, and so is what
it reads from whole objects. A table of types is such a provider if the constructors and the
accessors of its types are.
-/

namespace ExprEngine

variable [TrustedObjects]

/-- The provider has no errors and unknowns of its own inside the values that it gives. -/
structure Provider.KeepsWhole (p : Provider) : Prop where
  findIdent : ∀ name v, p.findIdent name = some v → v.isWhole = true
  construct : ∀ typeName fields, (∀ f ∈ fields, f.2.isWhole = true) →
    (p.construct typeName fields).Settled

/-- What the provider builds and reads is whole too, or fails without a name for where. -/
structure Provider.Fresh (p : Provider) : Prop where
  findIdent : ∀ name v, p.findIdent name = some v → v.isWhole = true
  construct : ∀ typeName fields, (∀ f ∈ fields, f.2.isWhole = true) →
    (p.construct typeName fields).Fresh
  access : ∀ typeName field a, p.findField typeName field = some a →
    ∀ v : Value, v.isWhole = true → (a.get v).Fresh

namespace FieldAccess

theorem ofName_fresh [HostObjects] [TrustedObjects.Sound] (name : String) (type : ValueType)
    {v : Value} (whole : v.isWhole = true) : ((ofName name type).get v).Fresh :=
  Value.field?_fresh whole name

end FieldAccess

namespace ObjectType

def KeepsWhole (t : ObjectType) : Prop :=
  ∀ build, t.constructor? = some build → ∀ fields, (∀ f ∈ fields, f.2.isWhole = true) →
    (build t.type fields).Settled

structure Fresh (t : ObjectType) : Prop where
  construct : ∀ build, t.constructor? = some build → ∀ fields,
    (∀ f ∈ fields, f.2.isWhole = true) → (build t.type fields).Fresh
  access : ∀ f ∈ t.fields, ∀ v : Value, v.isWhole = true → (f.2.get v).Fresh

omit [TrustedObjects] in
/-- Fields that are not declared are an error; else the constructor decides, if there is one. -/
theorem construct_cases (t : ObjectType) (fields : List (String × Value)) :
    (∃ name, t.construct fields = .noSuchField name) ∨
      (∃ build, t.constructor? = some build ∧ t.construct fields = build t.type fields) ∨
        t.construct fields = .object .record t.type fields := by
  unfold construct
  split
  · exact .inl ⟨_, rfl⟩
  · split
    · next build found => exact .inr (.inl ⟨build, found, rfl⟩)
    · exact .inr (.inr rfl)

theorem construct_settled {t : ObjectType} (keeps : t.KeepsWhole) {fields : List (String × Value)}
    (whole : ∀ f ∈ fields, f.2.isWhole = true) : (t.construct fields).Settled := by
  rcases t.construct_cases fields with ⟨name, built⟩ | ⟨build, found, built⟩ | built
  · rw [built]
    exact (Value.failure_fresh _ _).settled
  · rw [built]
    exact keeps build found fields whole
  · rw [built]
    exact .inl (Value.fieldsWhole_iff.mpr whole)

theorem construct_fresh {t : ObjectType} (fresh : t.Fresh) {fields : List (String × Value)}
    (whole : ∀ f ∈ fields, f.2.isWhole = true) : (t.construct fields).Fresh := by
  rcases t.construct_cases fields with ⟨name, built⟩ | ⟨build, found, built⟩ | built
  · rw [built]
    exact Value.failure_fresh _ _
  · rw [built]
    exact fresh.construct build found fields whole
  · rw [built]
    exact .whole (Value.fieldsWhole_iff.mpr whole)

end ObjectType

namespace TypeTable

omit [TrustedObjects] in
theorem construct_cases (table : TypeTable) (typeName : String) (fields : List (String × Value)) :
    (∃ t ∈ table.types, table.construct typeName fields = t.construct fields) ∨
      ∃ message, table.construct typeName fields = .failure .invalidArgument message := by
  unfold construct
  split
  · next t found => exact .inl ⟨t, List.mem_of_find?_eq_some found, rfl⟩
  · exact .inr ⟨_, rfl⟩

theorem provider_keepsWhole {table : TypeTable} (keeps : ∀ t ∈ table.types, t.KeepsWhole) :
    table.provider.KeepsWhole where
  findIdent name v found := by
    obtain ⟨t, -, rfl⟩ := Option.map_eq_some_iff.mp found
    rfl
  construct typeName fields whole := by
    change (table.construct typeName fields).Settled
    rcases table.construct_cases typeName fields with ⟨t, declared, built⟩ | ⟨message, built⟩
    · rw [built]
      exact ObjectType.construct_settled (keeps t declared) whole
    · rw [built]
      exact (Value.failure_fresh _ _).settled

theorem provider_fresh {table : TypeTable} (fresh : ∀ t ∈ table.types, t.Fresh) :
    table.provider.Fresh where
  findIdent name v found := by
    obtain ⟨t, -, rfl⟩ := Option.map_eq_some_iff.mp found
    rfl
  construct typeName fields whole := by
    change (table.construct typeName fields).Fresh
    rcases table.construct_cases typeName fields with ⟨t, declared, built⟩ | ⟨message, built⟩
    · rw [built]
      exact ObjectType.construct_fresh (fresh t declared) whole
    · rw [built]
      exact Value.failure_fresh _ _
  access typeName field a found := by
    obtain ⟨t, named, listed⟩ := Option.bind_eq_some_iff.mp found
    exact (fresh t (List.mem_of_find?_eq_some named)).access (field, a) (Value.mem_of_lookup listed)

theorem bareProvider_fresh {table : TypeTable} (fresh : ∀ t ∈ table.types, t.Fresh) :
    table.bareProvider.Fresh where
  findIdent name v found := by
    obtain ⟨t, -, rfl⟩ := Option.map_eq_some_iff.mp found
    rfl
  construct := (provider_fresh fresh).construct
  access := (provider_fresh fresh).access

end TypeTable

end ExprEngine
