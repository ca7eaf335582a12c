import ExprEngine.Value.Entries
import Mathlib.Data.List.Nodup
import Mathlib.Data.List.OfFn

/-!
# Entries and their index

The index of a map is in step with its entries, so no key is entered twice, and the value found
through the index is the one that is entered. A map is its list of entries, and every list of
entries with distinct keys makes a map.
-/

namespace ExprEngine.Entries

variable {α β : Type} {m n : Entries α} {k : Key} {v : α} {entries : List (Key × α)}

/-! ### The list of entries -/

theorem keys_toList (m : Entries α) : m.toList.map Prod.fst = m.keys := by
  rw [toList, List.map_ofFn]
  exact List.ofFn_getElem

theorem length_toList (m : Entries α) : m.toList.length = m.size := by
  rw [toList, List.length_ofFn, size]

theorem mem_toList {e : Key × α} : e ∈ m.toList ↔ ∃ i, e = (m.keys.get i, m.values i) := by
  simp only [toList, List.mem_ofFn, eq_comm]

theorem mem_keys : k ∈ m.keys ↔ ∃ v, (k, v) ∈ m.toList := by
  rw [← keys_toList, List.mem_map]
  constructor
  · rintro ⟨⟨_, v⟩, member, rfl⟩
    exact ⟨v, member⟩
  · rintro ⟨v, member⟩
    exact ⟨(k, v), member, rfl⟩

@[simp] theorem toList_empty : (empty : Entries α).toList = [] := rfl

@[simp] theorem toList_push (new : m.contains k = false) :
    (m.push k v new).toList = m.toList ++ [(k, v)] := by
  apply List.ext_getElem
  · simp [toList, push]
  · intro i inside inside'
    simp only [toList, push, List.getElem_ofFn, List.getElem_append, List.get_eq_getElem]
    by_cases earlier : i < m.keys.length
    · simp [earlier]
    · simp [earlier]

/-! ### The index -/

/-- No key is entered twice, as the index can tell one place only. -/
theorem keys_nodup (m : Entries α) : m.keys.Nodup := by
  rw [List.nodup_iff_getElem?_ne_getElem?]
  intro i j before inside same
  obtain ⟨k, here⟩ : ∃ k, m.keys[j]? = some k := ⟨_, List.getElem?_eq_getElem inside⟩
  have first := (m.inStep k i).mpr (same.trans here)
  have second := (m.inStep k j).mpr here
  exact Nat.ne_of_lt before (Option.some.inj (first.symm.trans second))

theorem get?_eq_some_iff : m.get? k = some v ↔ (k, v) ∈ m.toList := by
  rw [mem_toList]
  constructor
  · intro found
    unfold get? at found
    split at found
    next i place =>
      obtain ⟨inside, here⟩ := List.getElem?_eq_some_iff.mp ((m.inStep k i).mp place)
      exact ⟨⟨i, inside⟩, Prod.ext here.symm (Option.some.inj found).symm⟩
    next => cases found
  · rintro ⟨i, same⟩
    obtain ⟨rfl, rfl⟩ := Prod.mk.inj same
    have place : m.index (m.keys.get i) = some i :=
      (m.inStep _ _).mpr (List.getElem?_eq_getElem i.isLt)
    unfold get?
    split
    next j place' =>
      obtain rfl : (i : Nat) = j := Option.some.inj (place.symm.trans place')
      rfl
    next none => rw [place] at none; cases none

theorem value_unique {w : α} (first : (k, v) ∈ m.toList) (second : (k, w) ∈ m.toList) : v = w :=
  Option.some.inj ((get?_eq_some_iff.mpr first).symm.trans (get?_eq_some_iff.mpr second))

theorem contains_iff : m.contains k = true ↔ k ∈ m.keys := by
  simp only [contains, Option.isSome_iff_exists, m.inStep, List.mem_iff_getElem?]

theorem contains_eq_isSome (m : Entries α) (k : Key) : m.contains k = (m.get? k).isSome := by
  rw [Bool.eq_iff_iff, contains_iff, mem_keys, Option.isSome_iff_exists]
  simp only [get?_eq_some_iff]

theorem ext_toList (same : m.toList = n.toList) : m = n := by
  have same_keys : m.keys = n.keys := by rw [← keys_toList, same, keys_toList]
  obtain ⟨keys, index, inStep, values⟩ := m
  obtain ⟨keys', index', inStep', values'⟩ := n
  obtain rfl : keys = keys' := same_keys
  obtain rfl : index = index' := by
    funext k
    exact Option.ext fun i => (inStep k i).trans (inStep' k i).symm
  obtain rfl : values = values' := by
    funext i
    exact (Prod.mk.inj (congrFun (List.ofFn_injective same) i)).2
  rfl

/-! ### Making maps -/

theorem contains_eq_false_iff : m.contains k = false ↔ k ∉ m.toList.map Prod.fst := by
  rw [keys_toList, ← contains_iff, Bool.not_eq_true]

theorem new_of_nodup {rest : List (Key × α)}
    (distinct : ((m.toList ++ (k, v) :: rest).map Prod.fst).Nodup) : m.contains k = false := by
  rw [List.map_append, List.map_cons, List.nodup_middle, List.nodup_cons, List.mem_append,
    not_or] at distinct
  exact contains_eq_false_iff.mpr distinct.1.1

theorem pushAll_cons_of_new (new : m.contains k = false) (v : α) (rest : List (Key × α)) :
    m.pushAll ((k, v) :: rest) = (m.push k v new).pushAll rest := by
  rw [pushAll, dif_pos new]

theorem pushAll_eq_ok_iff : m.pushAll entries = .ok n ↔ n.toList = m.toList ++ entries := by
  induction entries generalizing m with
  | nil =>
    rw [pushAll, Except.ok.injEq, List.append_nil]
    exact ⟨fun same => same ▸ rfl, fun same => ext_toList same.symm⟩
  | cons e rest ih =>
    obtain ⟨k, v⟩ := e
    by_cases new : m.contains k = false
    · rw [pushAll_cons_of_new new, ih, toList_push, List.append_assoc, List.singleton_append]
    · rw [pushAll, dif_neg new]
      refine iff_of_false (fun same => by cases same) fun same => ?_
      have distinct := n.keys_nodup
      rw [← keys_toList, same] at distinct
      exact new (new_of_nodup distinct)

/-- Making a map of entries and listing the entries of a map are inverse. -/
theorem ofList_eq_ok_iff : ofList entries = .ok m ↔ m.toList = entries := pushAll_eq_ok_iff

theorem ofList_toList (m : Entries α) : ofList m.toList = .ok m := ofList_eq_ok_iff.mpr rfl

theorem pushAll_repeated {before after : List (Key × α)}
    (distinct : ((m.toList ++ before).map Prod.fst).Nodup)
    (again : k ∈ (m.toList ++ before).map Prod.fst) :
    m.pushAll (before ++ (k, v) :: after) = .error k := by
  induction before generalizing m with
  | nil =>
    rw [List.append_nil] at again
    rw [List.nil_append, pushAll, dif_neg fun new => contains_eq_false_iff.mp new again]
  | cons e rest ih =>
    obtain ⟨j, w⟩ := e
    rw [List.cons_append, pushAll_cons_of_new (new_of_nodup distinct)]
    refine ih ?_ ?_ <;> rwa [toList_push, List.append_assoc, List.singleton_append]

theorem ofList_repeated {before after : List (Key × α)} (distinct : (before.map Prod.fst).Nodup)
    (again : k ∈ before.map Prod.fst) : ofList (before ++ (k, v) :: after) = .error k :=
  pushAll_repeated distinct again

theorem exists_pushAll (distinct : ((m.toList ++ entries).map Prod.fst).Nodup) :
    ∃ n, m.pushAll entries = .ok n := by
  induction entries generalizing m with
  | nil => exact ⟨m, rfl⟩
  | cons e rest ih =>
    obtain ⟨k, v⟩ := e
    rw [pushAll_cons_of_new (new_of_nodup distinct)]
    apply ih
    rwa [toList_push, List.append_assoc, List.singleton_append]

theorem exists_toList_eq_iff : (∃ m : Entries α, m.toList = entries) ↔
    (entries.map Prod.fst).Nodup := by
  constructor
  · rintro ⟨m, rfl⟩
    rw [keys_toList]
    exact m.keys_nodup
  · intro distinct
    obtain ⟨m, made⟩ := exists_pushAll (m := empty) distinct
    exact ⟨m, ofList_eq_ok_iff.mp made⟩

theorem exists_of_perm (perm : entries.Perm m.toList) : ∃ n : Entries α, n.toList = entries :=
  exists_toList_eq_iff.mpr
    ((perm.map Prod.fst).nodup_iff.mpr (exists_toList_eq_iff.mp ⟨m, rfl⟩))

theorem size_eq_of_perm (perm : n.toList.Perm m.toList) : n.size = m.size := by
  rw [← length_toList, ← length_toList, perm.length_eq]

end ExprEngine.Entries
