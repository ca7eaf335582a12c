import ExprEngine.Proofs.Value.Parts
import ExprEngine.Proofs.Whole.Value
import Mathlib.Data.List.Forall2
import Mathlib.Data.List.Perm.Subperm

/-!
# Equality of values

Single values are equal when they have one face: numbers by their place in the order, types by kind
and name, all others as they are. A NaN has no face. Lists are equal item by item, and maps when
they have the same keys and equal values under each key, whatever their order. So equality is a
partial equivalence, and reflexive on the values without a NaN.
-/

namespace ExprEngine.Value

open Number

def IsPlain : Value → Prop
  | object .. | error _ | unknown _ => False
  | _ => True

def isNaN : Value → Bool
  | double d => d.isNaN
  | _ => false

/-- The two values are equal as expressions compare them. -/
def Equals [HostObjects] (a b : Value) : Prop := a.equal b = bool true

variable {a b c : Value}

/-! ### Single values -/

/-- What a single value is compared by. -/
inductive Face where
  | itself (v : Value)
  | place (p : Int)
  | named (kind : Kind) (name : String)

def Face.valueType : Face → ValueType
  | itself v => v.valueType
  | place _ => .double
  | named .. => .type

def face? : Value → Option Face
  | double d => if d.isNaN then none else some (.place d.place)
  | type t => some (.named t.kind t.name)
  | list _ | map _ | object .. | error _ | unknown _ => none
  | v => some (.itself v)

theorem isCompound_of_face {f : Face} (face : a.face? = some f) : a.isCompound = false := by
  cases a <;> first | rfl | cases face

theorem valueType_of_face {f : Face} (face : a.face? = some f) : a.valueType = f.valueType := by
  cases a with
  | double d =>
    rw [face?] at face
    split at face
    · cases face
    · cases face
      rfl
  | list | map | object | error | unknown => cases face
  | _ =>
    cases face
    rfl

theorem bytes_beq_iff {x y : ByteArray} : (x == y) = true ↔ x = y := by
  change (x.data == y.data) = true ↔ _
  rw [beq_iff_eq]
  exact ⟨ByteArray.ext, congrArg ByteArray.data⟩

/-- As many distinct keys, all of them among the others, are the same keys. -/
theorem keys_iff_of_subset {α : Type} {ks ls : List α} (distinct : ks.Nodup) (among : ks ⊆ ls)
    (long : ks.length = ls.length) (k : α) : k ∈ ks ↔ k ∈ ls :=
  ((List.subperm_of_subset distinct among).perm_of_length_le (Nat.le_of_eq long.symm)).mem_iff

theorem isSome_face?_iff (single : a.isCompound = false) (plain : a.IsPlain) :
    a.face?.isSome = true ↔ a.isNaN = false := by
  cases a with
  | list | map | object => cases single
  | error | unknown => exact plain.elim
  | double d => cases nan : d.isNaN <;> simp [face?, isNaN, nan]
  | _ => simp [face?, isNaN]

attribute [local instance] TrustedObjects.all

theorem isWhole_of_everywhere {P : Value → Prop} (regular : ∀ v, P v → v.isFailure = false)
    {v : Value} (holds : v.Everywhere P) : v.isWhole = true := by
  induction v using partsInduction with
  | list items ih =>
    exact itemsWhole_iff.mpr fun v member => ih v member ((everywhere_list.mp holds).2 v member)
  | map m ih =>
    exact isWhole_map_iff.mpr fun e member => ih e member ((everywhere_map.mp holds).2 e member)
  | object origin t fields ih =>
    cases origin with
    | record =>
      exact fieldsWhole_iff.mpr fun f member =>
        ih f member ((everywhere_object.mp holds).2 f member)
    | host => rfl
  | single v single =>
    have regular := regular v holds.here
    cases v with
    | list | map | object => cases single
    | error | unknown => cases regular
    | _ => rfl

theorem isWhole_of_isPlain {v : Value} (plain : v.Everywhere IsPlain) : v.isWhole = true := by
  refine isWhole_of_everywhere (fun v plain => ?_) plain
  cases v <;> first | rfl | exact plain.elim

section

variable [HostObjects]

theorem equals_single_iff (single : a.isCompound = false) (left : a.IsPlain) (right : b.IsPlain) :
    a.Equals b ↔ a.face?.isSome = true ∧ a.face? = b.face? := by
  cases a with
  | list | map | object => cases single
  | error | unknown => cases left
  | double d =>
    cases b with
    | double e =>
      cases left : d.isNaN <;> cases right : e.isNaN <;>
        simp [Equals, equal, face?, Double.equal, left, right]
    | error | unknown => cases right
    | _ => simp [Equals, equal, face?, propagate, unknownOf, isError]
  | bytes x =>
    cases b with
    | bytes y => simp [Equals, equal, face?, bytes_beq_iff]
    | error | unknown => cases right
    | _ => simp [Equals, equal, face?, propagate, unknownOf, isError]
  | type t =>
    cases b with
    | error | unknown => cases right
    | _ => simp [Equals, equal, face?, propagate, unknownOf, isError, ValueType.same]
  | _ =>
    cases b with
    | error | unknown => cases right
    | _ => simp [Equals, equal, face?, propagate, unknownOf, isError]

/-! ### Lists -/

theorem equalItems_iff {xs ys : List Value} :
    equalItems xs ys = bool true ↔
      ∀ (i : Nat) (x y : Value), xs[i]? = some x → ys[i]? = some y → x.Equals y := by
  induction xs generalizing ys with
  | nil => simp [equalItems]
  | cons x xs ih =>
    cases ys with
    | nil => simp [equalItems]
    | cons y ys =>
      rw [equalItems, ← Nat.and_forall_add_one]
      simp only [List.getElem?_cons_zero, List.getElem?_cons_succ, Option.some.injEq, ← ih]
      split
      next same => simp [Equals, same]
      next other =>
        exact ⟨fun same => absurd same other, fun both => absurd (both.1 x y rfl rfl) other⟩

theorem equals_list_iff {xs ys : List Value} :
    (list xs).Equals (list ys) ↔
      xs.length = ys.length ∧
      ∀ (i : Nat) (x y : Value), xs[i]? = some x → ys[i]? = some y → x.Equals y := by
  rw [Equals, equal]
  split
  next long => simp [long, equalItems_iff]
  next long => simp [long]

/-! ### Maps -/

section Maps

variable {m n : Entries Value}

theorem equalEntries_iff {entries : List (Key × Value)} :
    equalEntries entries n = bool true ↔
      ∀ e ∈ entries, ∃ y, (e.1, y) ∈ n.toList ∧ e.2.Equals y := by
  induction entries with
  | nil => simp [equalEntries, compareEntries]
  | cons e rest ih =>
    rw [equalEntries_cons, List.forall_mem_cons, ← ih]
    simp only [← Entries.get?_eq_some_iff]
    cases found : n.get? e.1 with
    | none => simp
    | some y =>
      simp only [Option.some.injEq, exists_eq_left']
      split
      next same => simp [Equals, same]
      next other => exact ⟨fun same => absurd same other, fun both => absurd both.1 other⟩

/-- Maps are equal when they have the same keys and equal values under each key. -/
theorem equals_map_iff :
    (map m).Equals (map n) ↔
      (∀ k, k ∈ m.keys ↔ k ∈ n.keys) ∧
      ∀ k x y, (k, x) ∈ m.toList → (k, y) ∈ n.toList → x.Equals y := by
  rw [Equals, equal_map]
  constructor
  · intro same
    split at same
    next long =>
      have each := equalEntries_iff.mp same
      have among : m.keys ⊆ n.keys := by
        intro k member
        obtain ⟨x, mine⟩ := Entries.mem_keys.mp member
        obtain ⟨y, other, -⟩ := each (k, x) mine
        exact Entries.mem_keys.mpr ⟨y, other⟩
      refine ⟨keys_iff_of_subset m.keys_nodup among long, fun k x y mine other => ?_⟩
      obtain ⟨z, found, same⟩ := each (k, x) mine
      exact Entries.value_unique found other ▸ same
    next => cases same
  · intro ⟨keys, each⟩
    have long : m.size = n.size :=
      ((List.perm_ext_iff_of_nodup m.keys_nodup n.keys_nodup).mpr keys).length_eq
    rw [if_pos long, equalEntries_iff]
    intro e member
    obtain ⟨y, other⟩ := Entries.mem_keys.mp ((keys e.1).mp (Entries.mem_keys.mpr ⟨e.2, member⟩))
    exact ⟨y, other, each _ _ _ member other⟩

end Maps

/-! ### Equivalence -/

theorem Equals.valueType_eq (same : a.Equals b) (left : a.IsPlain) (right : b.IsPlain) :
    a.valueType = b.valueType := by
  cases compound : a.isCompound with
  | false =>
    obtain ⟨some_face, faces⟩ := (equals_single_iff compound left right).mp same
    obtain ⟨f, face⟩ := Option.isSome_iff_exists.mp some_face
    rw [valueType_of_face face, valueType_of_face (faces ▸ face)]
  | true =>
    cases a with
    | object => exact left.elim
    | list | map => cases b <;> first | rfl | exact right.elim | cases same
    | _ => cases compound

theorem Equals.isCompound_right (same : a.Equals b) (left : a.IsPlain) (right : b.IsPlain)
    (single : a.isCompound = false) : b.isCompound = false := by
  obtain ⟨some_face, faces⟩ := (equals_single_iff single left right).mp same
  obtain ⟨f, face⟩ := Option.isSome_iff_exists.mp some_face
  exact isCompound_of_face (faces ▸ face)

theorem Equals.of_list {xs : List Value} (same : (list xs).Equals b) (right : b.IsPlain) :
    ∃ ys, b = list ys := by
  have type := same.valueType_eq trivial right
  cases b <;> first | exact ⟨_, rfl⟩ | exact right.elim | cases type

theorem Equals.of_map {m : Entries Value} (same : (map m).Equals b) (right : b.IsPlain) :
    ∃ n, b = map n := by
  have type := same.valueType_eq trivial right
  cases b <;> first | exact ⟨_, rfl⟩ | exact right.elim | cases type

theorem Equals.symm_list {xs ys : List Value}
    (each : ∀ x ∈ xs, ∀ y ∈ ys, x.Equals y → y.Equals x) (same : (list xs).Equals (list ys)) :
    (list ys).Equals (list xs) := by
  obtain ⟨long, equal⟩ := equals_list_iff.mp same
  refine equals_list_iff.mpr ⟨long.symm, fun i y x other mine => ?_⟩
  exact each x (List.mem_of_getElem? mine) y (List.mem_of_getElem? other) (equal i x y mine other)

theorem Equals.symm_map {m n : Entries Value}
    (each : ∀ e ∈ m.toList, ∀ f ∈ n.toList, e.2.Equals f.2 → f.2.Equals e.2)
    (same : (map m).Equals (map n)) : (map n).Equals (map m) := by
  obtain ⟨keys, equal⟩ := equals_map_iff.mp same
  refine equals_map_iff.mpr ⟨fun k => (keys k).symm, fun k y x other mine => ?_⟩
  exact each (k, x) mine (k, y) other (equal k x y mine other)

theorem Equals.symm_single (same : a.Equals b) (left : a.IsPlain) (right : b.IsPlain)
    (single : a.isCompound = false) : b.Equals a := by
  have single' := same.isCompound_right left right single
  obtain ⟨some_face, faces⟩ := (equals_single_iff single left right).mp same
  exact (equals_single_iff single' right left).mpr ⟨faces ▸ some_face, faces.symm⟩

theorem Equals.symm (left : a.Everywhere IsPlain) (right : b.Everywhere IsPlain)
    (same : a.Equals b) : b.Equals a := by
  induction a using partsInduction generalizing b with
  | list xs ih =>
    obtain ⟨ys, rfl⟩ := same.of_list right.here
    refine Equals.symm_list (fun x mine y other equal => ?_) same
    exact ih x mine ((everywhere_list.mp left).2 x mine) ((everywhere_list.mp right).2 y other)
      equal
  | map m ih =>
    obtain ⟨n, rfl⟩ := same.of_map right.here
    refine Equals.symm_map (fun e mine f other equal => ?_) same
    exact ih e mine ((everywhere_map.mp left).2 e mine) ((everywhere_map.mp right).2 f other) equal
  | object => exact left.here.elim
  | single a single => exact same.symm_single left.here right.here single

theorem Equals.trans (left : a.Everywhere IsPlain) (middle : b.Everywhere IsPlain)
    (right : c.Everywhere IsPlain) (first : a.Equals b) (second : b.Equals c) : a.Equals c := by
  induction a using partsInduction generalizing b c with
  | list xs ih =>
    obtain ⟨ys, rfl⟩ := first.of_list middle.here
    obtain ⟨zs, rfl⟩ := second.of_list right.here
    obtain ⟨long, each⟩ := equals_list_iff.mp first
    obtain ⟨long', each'⟩ := equals_list_iff.mp second
    refine equals_list_iff.mpr ⟨long.trans long', fun i x z mine other => ?_⟩
    have inside : i < ys.length := long ▸ (List.getElem?_eq_some_iff.mp mine).1
    have between := List.getElem?_eq_getElem inside
    exact ih x (List.mem_of_getElem? mine)
      ((everywhere_list.mp left).2 x (List.mem_of_getElem? mine))
      ((everywhere_list.mp middle).2 _ (List.mem_of_getElem? between))
      ((everywhere_list.mp right).2 z (List.mem_of_getElem? other))
      (each i x _ mine between) (each' i _ z between other)
  | map m ih =>
    obtain ⟨n, rfl⟩ := first.of_map middle.here
    obtain ⟨l, rfl⟩ := second.of_map right.here
    obtain ⟨keys, each⟩ := equals_map_iff.mp first
    obtain ⟨keys', each'⟩ := equals_map_iff.mp second
    refine equals_map_iff.mpr ⟨fun k => (keys k).trans (keys' k), fun k x z mine other => ?_⟩
    obtain ⟨y, between⟩ := Entries.mem_keys.mp ((keys k).mp (Entries.mem_keys.mpr ⟨x, mine⟩))
    exact ih (k, x) mine ((everywhere_map.mp left).2 (k, x) mine)
      ((everywhere_map.mp middle).2 (k, y) between) ((everywhere_map.mp right).2 (k, z) other)
      (each k x y mine between) (each' k y z between other)
  | object => exact left.here.elim
  | single a single =>
    have single' := first.isCompound_right left.here middle.here single
    obtain ⟨some_face, faces⟩ := (equals_single_iff single left.here middle.here).mp first
    obtain ⟨-, faces'⟩ := (equals_single_iff single' middle.here right.here).mp second
    exact (equals_single_iff single left.here right.here).mpr ⟨some_face, faces.trans faces'⟩

/-- A value is equal to itself when no part of it is a NaN, and only then. -/
theorem equals_self_iff (plain : a.Everywhere IsPlain) :
    a.Equals a ↔ a.Everywhere fun v => v.isNaN = false := by
  induction a using partsInduction with
  | list xs ih =>
    rw [equals_list_iff, everywhere_list]
    have parts := fun x member => ih x member ((everywhere_list.mp plain).2 x member)
    constructor
    · intro ⟨_, each⟩
      refine ⟨rfl, fun x member => (parts x member).mp ?_⟩
      obtain ⟨i, found⟩ := List.mem_iff_getElem?.mp member
      exact each i x x found found
    · intro ⟨_, each⟩
      refine ⟨rfl, fun i x y found found' => ?_⟩
      have member := List.mem_of_getElem? found
      obtain rfl := Option.some.inj (found.symm.trans found')
      exact (parts x member).mpr (each x member)
  | map m ih =>
    rw [equals_map_iff, everywhere_map]
    have parts := fun e member => ih e member ((everywhere_map.mp plain).2 e member)
    constructor
    · intro ⟨_, each⟩
      exact ⟨rfl, fun e member => (parts e member).mp (each e.1 e.2 e.2 member member)⟩
    · intro ⟨_, each⟩
      refine ⟨fun _ => Iff.rfl, fun k x y member member' => ?_⟩
      obtain rfl := Entries.value_unique member member'
      exact (parts _ member).mpr (each _ member)
  | object => exact plain.here.elim
  | single a single =>
    rw [equals_single_iff single plain.here plain.here, everywhere_iff_of_not_isCompound single,
      isSome_face?_iff single plain.here, and_iff_left rfl]

/-- Equality decides all plain values, and is a partial equivalence on them that is reflexive
where there is no NaN. It keeps types apart, and takes maps as functions of their keys. -/
theorem equal_partial_equivalence (left : a.Everywhere IsPlain) (middle : b.Everywhere IsPlain)
    (right : c.Everywhere IsPlain) :
    (∃ r, a.equal b = bool r) ∧
    a.equal b = b.equal a ∧
    (a.equal b = bool true → b.equal c = bool true → a.equal c = bool true) ∧
    (a.equal a = bool true ↔ a.Everywhere fun v => v.isNaN = false) ∧
    (a.valueType ≠ b.valueType → a.equal b = bool false) ∧
    ∀ m n, a = map m → b = map n →
      (a.equal b = bool true ↔
        (∀ k, k ∈ m.keys ↔ k ∈ n.keys) ∧
        ∀ k x y, (k, x) ∈ m.toList → (k, y) ∈ n.toList → x.equal y = bool true) := by
  obtain ⟨r, decided⟩ := equal_whole a b (isWhole_of_isPlain left) (isWhole_of_isPlain middle)
  obtain ⟨s, reversed⟩ := equal_whole b a (isWhole_of_isPlain middle) (isWhole_of_isPlain left)
  refine ⟨⟨r, decided⟩, ?_, Equals.trans left middle right, equals_self_iff left, ?_, ?_⟩
  · have there : a.Equals b → b.Equals a := Equals.symm left middle
    have back : b.Equals a → a.Equals b := Equals.symm middle left
    rw [Equals, Equals, decided, reversed] at there back
    rw [decided, reversed]
    rw [bool.injEq, bool.injEq] at there back
    rw [Bool.eq_iff_iff.mpr ⟨there, back⟩]
  · intro apart
    cases r with
    | false => exact decided
    | true => exact absurd (Equals.valueType_eq decided left.here middle.here) apart
  · rintro m n rfl rfl
    exact equals_map_iff

end

attribute [local instance] HostObjects.silent

def zeroFirst : Value :=
  map ((Entries.empty.push (.string "p") (double ⟨0⟩)).push (.string "q") (list [null]))

def zeroLast : Value :=
  map ((Entries.empty.push (.string "q") (list [null])).push (.string "p")
    (double ⟨0x8000000000000000⟩))

theorem zeroFirst_equal_zeroLast :
    zeroFirst.Everywhere IsPlain ∧ zeroLast.Everywhere IsPlain ∧
    zeroFirst.equal zeroLast = bool true ∧ zeroLast.equal zeroFirst = bool true := by
  have first : zeroFirst.Everywhere IsPlain := by
    simp [zeroFirst, everywhere_map, Everywhere, EverywhereAll, IsPlain]
  have last : zeroLast.Everywhere IsPlain := by
    simp [zeroLast, everywhere_map, Everywhere, EverywhereAll, IsPlain]
  have same : zeroFirst.equal zeroLast = bool true := rfl
  exact ⟨first, last, same, (equal_partial_equivalence first last first).2.1 ▸ same⟩

end ExprEngine.Value
