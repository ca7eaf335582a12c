import ExprEngine.Proofs.Value.Equality
import Mathlib.Data.List.Duplicate

/-!
# Equality of records

A record is compared field by field with what the other record reads under the same name, hidden
fields of a repeated name included. Where no record names a field twice this is symmetric, at any
depth, as far as the host compares its own objects alike both ways. A name that occurs twice breaks
the symmetry for some values.
-/

namespace ExprEngine.Value

variable {a b : Value} {t u : ValueType} {fs gs : List (String × Value)}

theorem asBool?_iff {v : Value} : (v.asBool? == some true) = true ↔ v = bool true := by
  cases v with
  | bool b => cases b <;> simp [asBool?]
  | _ => simp [asBool?]

theorem same_comm (t u : ValueType) : t.same u = u.same t := by
  rw [ValueType.same, ValueType.same, Bool.beq_comm (a := t.kind), Bool.beq_comm (a := t.name)]

section

variable [HostObjects]

/-- The host compares its object with every object as that one is compared with it. -/
def ComparesAlike (t : ValueType) (state : List (String × Value)) : Prop :=
  ∀ origin u fields, (object .host t state).Equals (object origin u fields) ↔
    (object origin u fields).Equals (object .host t state)

/-- No failure, no field twice in a record, and no object that the host compares one way only. -/
def IsOrderly : Value → Prop
  | object .record _ fields => (fields.map Prod.fst).Nodup
  | object .host t state => ComparesAlike t state
  | error _ | unknown _ => False
  | _ => True

theorem isFailure_of_isOrderly (orderly : a.IsOrderly) : a.isFailure = false := by
  cases a <;> first | rfl | exact orderly.elim

attribute [local instance] TrustedObjects.all

theorem isWhole_of_isOrderly (orderly : a.Everywhere IsOrderly) : a.isWhole = true :=
  isWhole_of_everywhere (fun _ => isFailure_of_isOrderly) orderly

/-! ### Records -/

theorem fieldsAmong_iff :
    fieldsAmong fs gs = true ↔ ∀ f ∈ fs, ∃ y, gs.lookup f.1 = some y ∧ f.2.Equals y := by
  induction fs with
  | nil => simp [fieldsAmong]
  | cons f rest ih =>
    rw [fieldsAmong, Bool.and_eq_true, ih, List.forall_mem_cons]
    refine and_congr_left fun _ => ?_
    cases gs.lookup f.1 with
    | none => simp
    | some y => simp [Equals, ← asBool?_iff]

theorem equals_record_iff :
    (object .record t fs).Equals (object .record u gs) ↔
      t.same u = true ∧ fs.length = gs.length ∧
        ∀ f ∈ fs, ∃ y, gs.lookup f.1 = some y ∧ f.2.Equals y := by
  rw [Equals, equal, bool.injEq, Bool.and_eq_true, Bool.and_eq_true, beq_iff_eq, fieldsAmong_iff,
    and_assoc]

theorem names_subset (found : ∀ f ∈ fs, ∃ y, gs.lookup f.1 = some y ∧ f.2.Equals y) :
    fs.map Prod.fst ⊆ gs.map Prod.fst := by
  intro name member
  obtain ⟨f, mine, rfl⟩ := List.mem_map.mp member
  obtain ⟨y, entry, -⟩ := found f mine
  exact List.mem_map.mpr ⟨(f.1, y), mem_of_lookup entry, rfl⟩

theorem Equals.symm_record (left : (fs.map Prod.fst).Nodup) (right : (gs.map Prod.fst).Nodup)
    (each : ∀ f ∈ fs, ∀ g ∈ gs, f.2.Equals g.2 → g.2.Equals f.2)
    (same : (object .record t fs).Equals (object .record u gs)) :
    (object .record u gs).Equals (object .record t fs) := by
  obtain ⟨type, long, found⟩ := equals_record_iff.mp same
  refine equals_record_iff.mpr ⟨same_comm t u ▸ type, long.symm, fun g other => ?_⟩
  obtain ⟨⟨name, x⟩, mine, rfl⟩ := List.mem_map.mp
    ((keys_iff_of_subset left (names_subset found) (by simpa using long) g.1).mpr
      (List.mem_map_of_mem other))
  obtain ⟨y, entry, equal⟩ := found _ mine
  obtain rfl : g.2 = y := Option.some.inj (((lookup_eq_some_iff right).mpr other).symm.trans entry)
  exact ⟨x, (lookup_eq_some_iff left).mpr mine, each _ mine _ other equal⟩

/-! ### Symmetry -/

theorem Equals.comm (left : a.Everywhere IsOrderly) (right : b.Everywhere IsOrderly)
    (same : a.Equals b) : b.Equals a := by
  induction a using partsInduction generalizing b with
  | list xs ih =>
    cases b with
    | list ys =>
      refine Equals.symm_list (fun x mine y other equal => ?_) same
      exact ih x mine ((everywhere_list.mp left).2 x mine) ((everywhere_list.mp right).2 y other)
        equal
    | error | unknown => exact right.here.elim
    | _ => cases same
  | map m ih =>
    cases b with
    | map n =>
      refine Equals.symm_map (fun e mine f other equal => ?_) same
      exact ih e mine ((everywhere_map.mp left).2 e mine) ((everywhere_map.mp right).2 f other)
        equal
    | error | unknown => exact right.here.elim
    | _ => cases same
  | object origin t fs ih =>
    cases b with
    | object origin' u gs =>
      cases origin with
      | record =>
        cases origin' with
        | record =>
          refine Equals.symm_record left.here right.here (fun f mine g other equal => ?_) same
          exact ih f mine ((everywhere_object.mp left).2 f mine)
            ((everywhere_object.mp right).2 g other) equal
        | host => cases same
      | host => exact (left.here origin' u gs).mp same
    | error | unknown => exact right.here.elim
    | _ => cases origin <;> cases same
  | single a single =>
    have plain : a.IsPlain := by cases a <;> trivial
    cases b with
    | object => cases a <;> first | cases same | cases single
    | error | unknown => exact right.here.elim
    | map n => exact same.symm_single plain right.here single
    | _ => exact same.symm_single plain trivial single

theorem Equals.comm_record
    (sound : t.same u = true → fs.length = gs.length →
      fs.map Prod.fst ⊆ gs.map Prod.fst ∨ gs.map Prod.fst ⊆ fs.map Prod.fst →
        (fs.map Prod.fst).Nodup ∧ (gs.map Prod.fst).Nodup)
    (left : ∀ f ∈ fs, f.2.Everywhere IsOrderly) (right : ∀ g ∈ gs, g.2.Everywhere IsOrderly)
    (same : (object .record t fs).Equals (object .record u gs)) :
    (object .record u gs).Equals (object .record t fs) := by
  obtain ⟨type, long, found⟩ := equals_record_iff.mp same
  obtain ⟨distinct, distinct'⟩ := sound type long (.inl (names_subset found))
  exact Equals.symm_record distinct distinct'
    (fun f mine g other => Equals.comm (left f mine) (right g other)) same

/-- Two records are equal both ways or neither way, unless both are of one type, they name as many
fields, one of them names all that the other one does, and one of them names a field twice. -/
theorem equal_record_comm
    (sound : t.same u = true → fs.length = gs.length →
      fs.map Prod.fst ⊆ gs.map Prod.fst ∨ gs.map Prod.fst ⊆ fs.map Prod.fst →
        (fs.map Prod.fst).Nodup ∧ (gs.map Prod.fst).Nodup)
    (orderly : ∀ f ∈ fs ++ gs, f.2.Everywhere IsOrderly) :
    ∃ r, (object .record t fs).equal (object .record u gs) = bool r ∧
      (object .record u gs).equal (object .record t fs) = bool r := by
  obtain ⟨left, right⟩ := List.forall_mem_append.mp orderly
  have sound' (type : u.same t = true) (long : gs.length = fs.length)
      (among : gs.map Prod.fst ⊆ fs.map Prod.fst ∨ fs.map Prod.fst ⊆ gs.map Prod.fst) :
      (gs.map Prod.fst).Nodup ∧ (fs.map Prod.fst).Nodup :=
    (sound (same_comm u t ▸ type) long.symm among.symm).symm
  have whole : (object .record t fs).isWhole = true :=
    fieldsWhole_iff.mpr fun f member => isWhole_of_isOrderly (left f member)
  have whole' : (object .record u gs).isWhole = true :=
    fieldsWhole_iff.mpr fun g member => isWhole_of_isOrderly (right g member)
  obtain ⟨r, forth⟩ := equal_whole _ _ whole whole'
  obtain ⟨s, back⟩ := equal_whole _ _ whole' whole
  have same : (bool r = bool true) ↔ (bool s = bool true) := by
    rw [← forth, ← back]
    exact ⟨Equals.comm_record sound left right, Equals.comm_record sound' right left⟩
  rw [bool.injEq, bool.injEq] at same
  exact ⟨r, forth, by rw [back, Bool.eq_iff_iff.mpr same]⟩

end

/-! ### Repeated names -/

theorem exists_repeated {α : Type} {names : List α} (repeated : ¬ names.Nodup) :
    ∃ front name back, names = front ++ name :: back ∧ name ∈ front := by
  obtain ⟨name, twice⟩ := List.exists_duplicate_iff_not_nodup.mpr repeated
  obtain ⟨front, rest, rfl, first, second⟩ :=
    List.cons_sublist_iff.mp (List.duplicate_iff_sublist.mp twice)
  obtain ⟨middle, back, rfl⟩ := List.append_of_mem (List.singleton_sublist.mp second)
  refine ⟨front ++ middle, name, back, by simp, List.mem_append_left _ first⟩

def blank (names : List String) : List (String × Value) := names.map fun name => (name, null)

theorem names_blank (names : List String) : (blank names).map Prod.fst = names := by
  simp [blank, Function.comp_def]

theorem of_mem_blank {names : List String} {f : String × Value} (member : f ∈ blank names) :
    f.1 ∈ names ∧ f.2 = null := by
  obtain ⟨name, listed, rfl⟩ := List.mem_map.mp member
  exact ⟨listed, rfl⟩

theorem lookup_blank {names : List String} {name : String} (member : name ∈ names) :
    (blank names).lookup name = some null := by
  induction names with
  | nil => cases member
  | cons first rest ih =>
    change ((first, null) :: blank rest).lookup name = some null
    rw [List.lookup_cons]
    rcases List.mem_cons.mp member with rfl | later
    · simp
    · rw [ih later]
      cases name == first <;> rfl

theorem lookup_hidden {front back : List String} {name other : String} (hidden : name ∈ front)
    (member : other ∈ front ++ name :: back) (v : Value) :
    (blank front ++ (name, v) :: blank back).lookup other = some null := by
  rw [List.lookup_append]
  by_cases early : other ∈ front
  · rw [lookup_blank early]
    rfl
  · have differs : other ≠ name := fun same => early (same ▸ hidden)
    have late : other ∈ back := by
      rw [List.mem_append, List.mem_cons] at member
      exact (member.resolve_left early).resolve_left differs
    have none : (blank front).lookup other = none := by
      rw [List.lookup_eq_none_iff]
      intro f given
      exact bne_iff_ne.mpr fun same => early (same ▸ (of_mem_blank given).1)
    rw [none, Option.none_or, List.lookup_cons, beq_false_of_ne differs]
    exact lookup_blank late

/-- Where one list of names is among another of the same length and not all names are distinct,
some record equals another one that does not equal it: the other one hides a value, or it reads a
name that the first one has no field for. -/
theorem exists_asymmetric [HostObjects] {names names' : List String} (type : t.same u = true)
    (long : names.length = names'.length) (among : names ⊆ names')
    (repeated : ¬ (names.Nodup ∧ names'.Nodup)) :
    ∃ fs gs : List (String × Value), fs.map Prod.fst = names ∧ gs.map Prod.fst = names' ∧
      (∀ f ∈ fs ++ gs, f.2 = null ∨ f.2 = bool true) ∧
      (object .record t fs).Equals (object .record u gs) ∧
      ¬ (object .record u gs).Equals (object .record t fs) := by
  by_cases distinct : names'.Nodup
  -- The first list repeats a name, so there are names that only the second one has.
  · refine ⟨blank names, blank names', names_blank _, names_blank _, fun f member => ?_, ?_,
      fun same => ?_⟩
    · exact .inl ((List.mem_append.mp member).elim (fun mine => (of_mem_blank mine).2)
        fun other => (of_mem_blank other).2)
    · refine equals_record_iff.mpr ⟨type, by simpa [blank] using long, fun f member => ?_⟩
      obtain ⟨listed, value⟩ := of_mem_blank member
      exact ⟨null, lookup_blank (among listed), by rw [value]; rfl⟩
    · obtain ⟨-, -, found⟩ := equals_record_iff.mp same
      have back : names' ⊆ names := by
        intro name listed
        obtain ⟨y, read, -⟩ := found (name, null) (List.mem_map_of_mem listed)
        exact (of_mem_blank (mem_of_lookup read)).1
      have perm := (List.subperm_of_subset distinct back).perm_of_length_le (Nat.le_of_eq long)
      exact repeated ⟨perm.nodup_iff.mp distinct, distinct⟩
  -- The value under the second occurrence is compared only when the second record comes first.
  · obtain ⟨front, name, back, rfl, hidden⟩ := exists_repeated distinct
    refine ⟨blank names, blank front ++ (name, bool true) :: blank back, names_blank _,
      by simp [names_blank], fun f member => ?_, ?_, fun same => ?_⟩
    · simp only [List.mem_append, List.mem_cons] at member
      rcases member with member | member | rfl | member
      · exact .inl (of_mem_blank member).2
      · exact .inl (of_mem_blank member).2
      · exact .inr rfl
      · exact .inl (of_mem_blank member).2
    · refine equals_record_iff.mpr ⟨type, by simpa [blank] using long, fun f member => ?_⟩
      obtain ⟨listed, value⟩ := of_mem_blank member
      exact ⟨null, lookup_hidden hidden (among listed) (bool true), by rw [value]; rfl⟩
    · obtain ⟨-, -, found⟩ := equals_record_iff.mp same
      obtain ⟨y, read, equal⟩ := found (name, bool true)
        (List.mem_append_right _ List.mem_cons_self)
      obtain rfl : y = null := (of_mem_blank (mem_of_lookup read)).2
      cases equal

end ExprEngine.Value
