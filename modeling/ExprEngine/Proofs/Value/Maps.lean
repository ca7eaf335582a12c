import ExprEngine.Proofs.Value.Equality
import Mathlib.Data.List.Nodup

/-!
# Views of a map

A map is made of entries whose keys are keys and distinct. It can be asked for a value in several
ways: by membership, by index, by selection and by presence of a field, by iteration and by size.
They all describe the entries that the map was made of.
-/

namespace ExprEngine

namespace Key

variable {k : Key} {v : Value}

theorem toValue_injective : Function.Injective toValue := fun j k same => by
  have read : ofValue? j.toValue = ofValue? k.toValue := congrArg ofValue? same
  rwa [ofValue?_toValue, ofValue?_toValue, Option.some.injEq] at read

theorem ofValue?_eq_some_iff : ofValue? v = some k ↔ v = k.toValue := by
  constructor
  · exact toValue_of_ofValue?
  · rintro rfl
    exact ofValue?_toValue k

variable [HostObjects]

theorem equal_toValue_iff (regular : v.isFailure = false) (k : Key) :
    v.equal k.toValue = .bool true ↔ v = k.toValue := by
  cases read : ofValue? v with
  | some j =>
    obtain rfl := toValue_of_ofValue? read
    rw [equal_toValue, Value.bool.injEq, decide_eq_true_eq, toValue_injective.eq_iff]
  | none =>
    have apart : v ≠ k.toValue := by
      rintro rfl
      rw [ofValue?_toValue] at read
      cases read
    refine iff_of_false ?_ apart
    cases v with
    | bool | int | uint | string => cases read
    | error | unknown => cases regular
    | object origin => cases origin <;> cases k <;> exact fun same => by cases same
    | _ => cases k <;> exact fun same => by cases same

end Key

namespace Value

open Number

inductive IsKey : Value → Prop
  | bool (b : Bool) : IsKey (.bool b)
  | int (i : Int64) : IsKey (.int i)
  | uint (u : UInt64) : IsKey (.uint u)
  | string (s : String) : IsKey (.string s)

theorem isKey_iff {v : Value} : v.IsKey ↔ ∃ k : Key, v = k.toValue := by
  constructor
  · rintro (b | i | u | s)
    · exact ⟨.bool b, rfl⟩
    · exact ⟨.int i, rfl⟩
    · exact ⟨.uint u, rfl⟩
    · exact ⟨.string s, rfl⟩
  · rintro ⟨k, rfl⟩
    cases k <;> constructor

theorem isKey_iff_ofValue? {v : Value} : v.IsKey ↔ (Key.ofValue? v).isSome = true := by
  simp only [isKey_iff, Option.isSome_iff_exists, Key.ofValue?_eq_some_iff]

/-! ### Making maps -/

/-- Entries with their keys as values. -/
def entered (keyed : List (Key × Value)) : List (Value × Value) :=
  keyed.map fun e => (e.1.toValue, e.2)

variable {entries : List (Value × Value)} {keyed : List (Key × Value)}

theorem keys_entered : (entered keyed).map Prod.fst = (keyed.map Prod.fst).map Key.toValue := by
  simp [entered]

theorem mem_entered {e : Value × Value} :
    e ∈ entered keyed ↔ ∃ k, e.1 = k.toValue ∧ (k, e.2) ∈ keyed := by
  obtain ⟨x, v⟩ := e
  simp only [entered, List.mem_map, Prod.mk.injEq, Prod.exists]
  constructor
  · rintro ⟨k, w, member, rfl, rfl⟩
    exact ⟨k, rfl, member⟩
  · rintro ⟨k, rfl, member⟩
    exact ⟨k, v, member, rfl, rfl⟩

theorem readKeys_entered (keyed : List (Key × Value)) : readKeys (entered keyed) = .ok keyed := by
  induction keyed with
  | nil => rfl
  | cons e rest ih =>
    change readKeys ((e.1.toValue, e.2) :: entered rest) = _
    rw [readKeys, Key.ofValue?_toValue]
    simp only [ih]
    rfl

theorem entered_of_readKeys (read : readKeys entries = .ok keyed) : entries = entered keyed := by
  induction entries generalizing keyed with
  | nil =>
    cases read
    rfl
  | cons e rest ih =>
    rw [readKeys] at read
    split at read
    next k key =>
      cases others : readKeys rest with
      | error x =>
        rw [others] at read
        cases read
      | ok more =>
        rw [others] at read
        cases read
        change e :: rest = (k.toValue, e.2) :: entered more
        rw [← ih others, ← Key.toValue_of_ofValue? key]
    next => cases read

theorem exists_entered (supported : ∀ e ∈ entries, e.1.IsKey) :
    ∃ keyed, entries = entered keyed := by
  induction entries with
  | nil => exact ⟨[], rfl⟩
  | cons e rest ih =>
    obtain ⟨first, others⟩ := List.forall_mem_cons.mp supported
    obtain ⟨k, key⟩ := isKey_iff.mp first
    obtain ⟨keyed, rfl⟩ := ih others
    refine ⟨(k, e.2) :: keyed, ?_⟩
    change e :: entered keyed = (k.toValue, e.2) :: entered keyed
    rw [← key]

theorem readKeys_unsupported {before after : List (Value × Value)} {x v : Value}
    (supported : ∀ e ∈ before, e.1.IsKey) (unsupported : ¬ x.IsKey) :
    readKeys (before ++ (x, v) :: after) = .error x := by
  obtain ⟨keyed, rfl⟩ := exists_entered supported
  clear supported
  induction keyed with
  | nil =>
    rw [isKey_iff_ofValue?, Bool.not_eq_true, Option.isSome_eq_false_iff,
      Option.isNone_iff_eq_none] at unsupported
    change readKeys ((x, v) :: after) = _
    rw [readKeys, unsupported]
  | cons e rest ih =>
    change readKeys ((e.1.toValue, e.2) :: (entered rest ++ (x, v) :: after)) = _
    rw [readKeys, Key.ofValue?_toValue]
    simp only [ih]
    rfl

theorem mapOf_eq_map_iff {m : Entries Value} :
    mapOf entries = map m ↔ entries = entered m.toList := by
  constructor
  · intro made
    rw [mapOf] at made
    split at made
    next => cases made
    next keyed read =>
      split at made
      next => cases made
      next m' listed =>
        cases made
        rw [entered_of_readKeys read, Entries.ofList_eq_ok_iff.mp listed]
  · rintro rfl
    rw [mapOf, readKeys_entered]
    simp only [Entries.ofList_toList]

theorem nodup_keys_entered :
    ((entered keyed).map Prod.fst).Nodup ↔ (keyed.map Prod.fst).Nodup := by
  rw [keys_entered, List.nodup_map_iff Key.toValue_injective]

theorem mapOf_unsupported {before after : List (Value × Value)} {x v : Value}
    (supported : ∀ e ∈ before, e.1.IsKey) (unsupported : ¬ x.IsKey) :
    mapOf (before ++ (x, v) :: after) =
      failure .invalidArgument ("unsupported map key type '" ++ x.valueType.name ++ "'") := by
  rw [mapOf, readKeys_unsupported supported unsupported]

theorem mapOf_repeated {before after : List (Key × Value)} {k : Key} {v : Value}
    (distinct : (before.map Prod.fst).Nodup) (again : k ∈ before.map Prod.fst) :
    mapOf (entered (before ++ (k, v) :: after)) =
      failure .invalidArgument ("duplicate map key: " ++ k.shown) := by
  rw [mapOf, readKeys_entered]
  simp only [Entries.ofList_repeated distinct again]

/-- A map is made of exactly the entries whose keys are keys and distinct. -/
theorem mapOf_succeeds_iff :
    (∃ m, mapOf entries = map m) ↔
      (∀ e ∈ entries, e.1.IsKey) ∧ (entries.map Prod.fst).Nodup := by
  constructor
  · rintro ⟨m, made⟩
    obtain rfl := mapOf_eq_map_iff.mp made
    refine ⟨fun e member => ?_, ?_⟩
    · obtain ⟨k, key, -⟩ := mem_entered.mp member
      exact isKey_iff.mpr ⟨k, key⟩
    · rw [nodup_keys_entered, Entries.keys_toList]
      exact m.keys_nodup
  · rintro ⟨supported, distinct⟩
    obtain ⟨keyed, rfl⟩ := exists_entered supported
    obtain ⟨m, rfl⟩ := Entries.exists_toList_eq_iff.mpr (nodup_keys_entered.mp distinct)
    exact ⟨m, mapOf_eq_map_iff.mpr rfl⟩

/-! ### Asking a map -/

/-- The value that is entered under `k`, if `k` is a key of the map. -/
def under? (m : Entries Value) (k : Value) : Option Value := (Key.ofValue? k).bind m.get?

def noEntry (m k : Value) : Value :=
  match Key.ofValue? k with
  | some key => noSuchKey key
  | none => noSuchOverload Operator.index [m, k]

variable {m : Entries Value} {k : Value}

theorem strict_map (regular : k.isFailure = false) (result : Value) :
    strict [map m, k] result = result :=
  strict_regular (forall_pair rfl regular) result

theorem noEntry_cases (m k : Value) :
    (∃ key : Key, k = key.toValue ∧ noEntry m k = noSuchKey key) ∨
      ¬ k.IsKey ∧ noEntry m k = noSuchOverload Operator.index [m, k] := by
  cases read : Key.ofValue? k with
  | some key => exact .inl ⟨key, Key.toValue_of_ofValue? read, by rw [noEntry, read]⟩
  | none =>
    refine .inr ⟨fun isKey => ?_, by rw [noEntry, read]⟩
    rw [isKey_iff_ofValue?, read] at isKey
    cases isKey

theorem isFailure_noEntry (m k : Value) : (noEntry m k).isFailure = true := by
  rcases noEntry_cases m k with ⟨key, -, error⟩ | ⟨-, error⟩ <;> rw [error] <;> rfl

theorem under?_eq_some_iff {v : Value} :
    under? m k = some v ↔ ∃ key : Key, k = key.toValue ∧ (key, v) ∈ m.toList := by
  simp only [under?, Option.bind_eq_some_iff, Key.ofValue?_eq_some_iff, Entries.get?_eq_some_iff]

theorem elements?_map : (map m).elements? = some ((entered m.toList).map Prod.fst) := by
  rw [keys_entered, Entries.keys_toList]
  rfl

theorem size_map (n : Int64) : (map m).size = int n ↔ n.toInt = (entered m.toList).length := by
  have length : (entered m.toList).length = m.size := by simp [entered, Entries.length_toList]
  rw [size, strict_regular (forall_single rfl), length, ← signed?_eq_some_iff]
  cases Number.signed? m.size <;> simp [ofSigned, integerOverflow, failure]

/-- The index of a map is in step with its entries: it tells where the entry of a key stands. -/
theorem index_inStep (key : Key) (i : Nat) :
    m.index key = some i ↔ ((entered m.toList).map Prod.fst)[i]? = some key.toValue := by
  rw [m.inStep, keys_entered, Entries.keys_toList, List.getElem?_map, Option.map_eq_some_iff]
  simp only [Key.toValue_injective.eq_iff, exists_eq_right]

section

variable [HostObjects]

theorem contains_map (m : Entries Value) (regular : k.isFailure = false) :
    (map m).contains k = bool (under? m k).isSome := by
  rw [contains, strict_map regular, under?]
  cases read : Key.ofValue? k with
  | none => rfl
  | some key => exact congrArg bool (m.contains_eq_isSome key)

theorem index_map (m : Entries Value) (regular : k.isFailure = false) :
    (map m).index k = (under? m k).getD (noEntry (map m) k) := by
  rw [index, strict_map regular, under?, noEntry]
  cases read : Key.ofValue? k <;> rfl

theorem hasField_map (name : String) :
    (map m).hasField name = bool (under? m (string name)).isSome :=
  congrArg bool (m.contains_eq_isSome (.string name))

theorem selectField_map (name : String) :
    (map m).selectField (.string name) = (map m).index (string name) := rfl

theorem indexKey_map (key : Key) : (map m).indexKey key = (map m).index key.toValue := by
  rw [index_map m (Key.isFailure_toValue key), under?, noEntry, Key.ofValue?_toValue]
  rfl

/-- Of the entries with a key that `k` is equal to there is at most one, which has the key `k`. -/
theorem exists_equal_iff (regular : k.isFailure = false) {P : Value → Prop} :
    (∃ e ∈ entered m.toList, k.equal e.1 = bool true ∧ P e.2) ↔
      ∃ v, under? m k = some v ∧ P v := by
  simp only [under?_eq_some_iff]
  constructor
  · rintro ⟨e, member, same, holds⟩
    obtain ⟨key, named, listed⟩ := mem_entered.mp member
    rw [named, Key.equal_toValue_iff regular] at same
    exact ⟨e.2, ⟨key, same, listed⟩, holds⟩
  · rintro ⟨v, ⟨key, rfl, listed⟩, holds⟩
    exact ⟨(key.toValue, v), mem_entered.mpr ⟨key, rfl, listed⟩,
      (Key.equal_toValue_iff regular key).mpr rfl, holds⟩

/-- The ways to ask a map for `k` agree about the entry that has this key. -/
structure Views (entries : List (Value × Value)) (m k : Value) : Prop where
  iteration : m.contains k = bool true ↔
    ∃ keys, m.elements? = some keys ∧ ∃ x ∈ keys, k.equal x = bool true
  index : m.contains k = bool true ↔
    ∃ e ∈ entries, k.equal e.1 = bool true ∧ m.index k = e.2
  regular : m.contains k = bool true ↔ (m.index k).isFailure = false
  missing : m.contains k ≠ bool true → m.contains k = bool false ∧
    ((∃ key : Key, k = key.toValue ∧ m.index k = noSuchKey key) ∨
      ¬ k.IsKey ∧ m.index k = noSuchOverload Operator.index [m, k])
  field : ∀ name, k = string name → (m.contains k = bool true ↔
    m.hasField name = bool true ∧
      ∃ e ∈ entries, k.equal e.1 = bool true ∧ m.selectField (.string name) = e.2)
  known : ∀ key : Key, k = key.toValue → m.indexKey key = m.index k

theorem views_map (whole : ∀ e ∈ m.toList, e.2.isFailure = false) (regular : k.isFailure = false) :
    Views (entered m.toList) (map m) k := by
  have contains := contains_map m regular
  have index := index_map m regular
  constructor
  case iteration =>
    have listed := exists_equal_iff (m := m) regular (P := fun _ => True)
    simp only [and_true] at listed
    rw [contains, bool.injEq, Option.isSome_iff_exists, ← listed]
    simp [elements?_map]
  case index =>
    rw [exists_equal_iff regular, contains, index]
    cases under? m k <;> simp
  case regular =>
    rw [contains, index]
    cases entry : under? m k with
    | none => simp [isFailure_noEntry]
    | some v =>
      obtain ⟨key, -, member⟩ := under?_eq_some_iff.mp entry
      simp [whole _ member]
  case missing =>
    intro missing
    rw [contains, index]
    cases entry : under? m k with
    | none => exact ⟨rfl, noEntry_cases _ k⟩
    | some v => simp [contains, entry] at missing
  case field =>
    rintro name rfl
    rw [exists_equal_iff regular, hasField_map, selectField_map, contains, index]
    cases under? m (string name) <;> simp
  case known =>
    rintro key rfl
    exact indexKey_map key

/-- Entries make a map when their keys are keys and distinct; otherwise the first value that cannot
be a key is reported by its type, or else the first key that occurs again. The map that is made
holds the entries in their order, its index is in step with them, and all its views describe
them. -/
theorem mapOf_views (whole : ∀ e ∈ entries, e.2.isFailure = false) :
    ((∃ m, mapOf entries = map m) ↔
      (∀ e ∈ entries, e.1.IsKey) ∧ (entries.map Prod.fst).Nodup) ∧
    (∀ before x v after, entries = before ++ (x, v) :: after →
      (∀ e ∈ before, e.1.IsKey) → ¬ x.IsKey →
        mapOf entries =
          failure .invalidArgument ("unsupported map key type '" ++ x.valueType.name ++ "'")) ∧
    ((∀ e ∈ entries, e.1.IsKey) → ∀ before (key : Key) v after,
      entries = before ++ (key.toValue, v) :: after →
      (before.map Prod.fst).Nodup → key.toValue ∈ before.map Prod.fst →
        mapOf entries = failure .invalidArgument ("duplicate map key: " ++ key.shown)) ∧
    ∀ m, mapOf entries = map m →
      entries = entered m.toList ∧
      (∀ key i, m.index key = some i ↔ (entries.map Prod.fst)[i]? = some key.toValue) ∧
      (map m).elements? = some (entries.map Prod.fst) ∧ (entries.map Prod.fst).Nodup ∧
      (∀ n : Int64, (map m).size = int n ↔ n.toInt = entries.length) ∧
      ∀ k, k.isFailure = false → Views entries (map m) k := by
  refine ⟨mapOf_succeeds_iff, ?_, ?_, ?_⟩
  · rintro before x v after rfl supported unsupported
    exact mapOf_unsupported supported unsupported
  · rintro supported before key v after rfl distinct again
    rw [List.forall_mem_append, List.forall_mem_cons] at supported
    obtain ⟨front, rfl⟩ := exists_entered supported.1
    obtain ⟨back, rfl⟩ := exists_entered supported.2.2
    rw [keys_entered, List.mem_map_of_injective Key.toValue_injective] at again
    have joined : entered front ++ (key.toValue, v) :: entered back =
        entered (front ++ (key, v) :: back) := by simp [entered]
    rw [joined]
    exact mapOf_repeated (nodup_keys_entered.mp distinct) again
  · intro m made
    have distinct := (mapOf_succeeds_iff.mp ⟨m, made⟩).2
    obtain rfl := mapOf_eq_map_iff.mp made
    refine ⟨rfl, index_inStep, elements?_map, distinct, size_map, fun k regular => ?_⟩
    refine views_map (fun e member => ?_) regular
    exact whole (e.1.toValue, e.2) (mem_entered.mpr ⟨e.1, rfl, member⟩)

end

attribute [local instance] HostObjects.silent

/-- Keys of several types, two of them with one number. -/
def mixedKeys : List (Value × Value) :=
  [(string "a", null), (int 1, string "signed"), (uint 1, list []), (bool true, int 1)]

theorem mixedKeys_views :
    (∀ e ∈ mixedKeys, e.2.isFailure = false) ∧
    ∃ m, mapOf mixedKeys = map m ∧ (map m).size = int 4 ∧
      (map m).contains (uint 1) = bool true ∧ ((map m).index (uint 1)).isFailure = false := by
  have whole : ∀ e ∈ mixedKeys, e.2.isFailure = false := by simp [mixedKeys, isFailure]
  obtain ⟨succeeds, -, -, views⟩ := mapOf_views whole
  obtain ⟨m, made⟩ := succeeds.mpr ⟨by simp [mixedKeys, isKey_iff_ofValue?, Key.ofValue?], by
    simp [mixedKeys]⟩
  obtain ⟨-, -, -, -, size, agree⟩ := views m made
  have view := agree (uint 1) rfl
  have contains : (map m).contains (uint 1) = bool true := by
    obtain rfl : m = _ := map.inj (made.symm.trans (by rfl))
    rfl
  exact ⟨whole, m, made, (size 4).mpr rfl, contains, view.regular.mp contains⟩

end Value

end ExprEngine
