import ExprEngine.Proofs.Value.Entries
import ExprEngine.Value.Basic

/-!
# Parts of values

The items of a list, the values under the keys of a map and the fields of an object are its parts.
A condition may be asked of a value at every depth, and what holds of a value when it holds of its
parts holds of all values.
-/

namespace ExprEngine.Value

mutual

/-- The condition holds of the value and of its parts at every depth. -/
def Everywhere (P : Value → Prop) : Value → Prop
  | list items => P (list items) ∧ EverywhereAll P items
  | map ⟨keys, index, inStep, values⟩ =>
    P (map ⟨keys, index, inStep, values⟩) ∧ ∀ i, Everywhere P (values i)
  | object origin t fields => P (object origin t fields) ∧ EverywhereIn P fields
  | v => P v
termination_by structural v => v

def EverywhereAll (P : Value → Prop) : List Value → Prop
  | [] => True
  | v :: rest => Everywhere P v ∧ EverywhereAll P rest
termination_by structural items => items

def EverywhereIn (P : Value → Prop) : List (String × Value) → Prop
  | [] => True
  | (_, v) :: rest => Everywhere P v ∧ EverywhereIn P rest
termination_by structural fields => fields

end

variable {P : Value → Prop}

theorem everywhereAll_iff {items : List Value} :
    EverywhereAll P items ↔ ∀ v ∈ items, v.Everywhere P := by
  induction items with
  | nil => simp [EverywhereAll]
  | cons v rest ih => simp [EverywhereAll, ih]

theorem everywhereIn_iff {fields : List (String × Value)} :
    EverywhereIn P fields ↔ ∀ f ∈ fields, f.2.Everywhere P := by
  induction fields with
  | nil => simp [EverywhereIn]
  | cons f rest ih => simp [EverywhereIn, ih]

theorem everywhere_list {items : List Value} :
    (list items).Everywhere P ↔ P (list items) ∧ ∀ v ∈ items, v.Everywhere P := by
  rw [Everywhere, everywhereAll_iff]

theorem everywhere_map {m : Entries Value} :
    (map m).Everywhere P ↔ P (map m) ∧ ∀ e ∈ m.toList, e.2.Everywhere P := by
  simp only [Entries.mem_toList, forall_exists_index, forall_eq_apply_imp_iff]
  exact Iff.rfl

theorem everywhere_object {origin : Origin} {t : ValueType} {fields : List (String × Value)} :
    (object origin t fields).Everywhere P ↔
      P (object origin t fields) ∧ ∀ f ∈ fields, f.2.Everywhere P := by
  rw [Everywhere, everywhereIn_iff]

theorem Everywhere.here {v : Value} (holds : v.Everywhere P) : P v := by
  cases v <;> first | exact holds | exact holds.1

def isCompound : Value → Bool
  | list _ | map _ | object .. => true
  | _ => false

theorem everywhere_iff_of_not_isCompound {v : Value} (plain : v.isCompound = false) :
    v.Everywhere P ↔ P v := by
  cases v <;> first | exact Iff.rfl | cases plain

@[elab_as_elim]
theorem partsInduction {motive : Value → Prop}
    (list : ∀ items, (∀ v ∈ items, motive v) → motive (.list items))
    (map : ∀ m : Entries Value, (∀ e ∈ m.toList, motive e.2) → motive (.map m))
    (object : ∀ origin t fields, (∀ f ∈ fields, motive f.2) → motive (.object origin t fields))
    (single : ∀ v, v.isCompound = false → motive v) (v : Value) : motive v := by
  refine @Value.rec motive (fun items => ∀ v ∈ items, motive v)
    (fun m => ∀ e ∈ m.toList, motive e.2) (fun fields => ∀ f ∈ fields, motive f.2)
    (fun f => motive f.2) ?_ ?_ ?_ ?_ ?_ ?_ ?_ ?_ ?_ list map ?_ object ?_ ?_ nofun ?items ?entries
    nofun ?fields (fun _ _ part => part) v
  case items => exact fun _ _ first later => List.forall_mem_cons.mpr ⟨first, later⟩
  case entries =>
    intro keys index inStep values parts e member
    obtain ⟨i, rfl⟩ := Entries.mem_toList.mp member
    exact parts i
  case fields => exact fun _ _ first later => List.forall_mem_cons.mpr ⟨first, later⟩
  all_goals intros; exact single _ rfl

end ExprEngine.Value
