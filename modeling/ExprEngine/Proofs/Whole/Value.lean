import ExprEngine.Proofs.Planning.Prepared
import ExprEngine.Proofs.Value.Parts

/-!
# Whole values

A value is whole if it has no error and no unknown at any depth. Which objects of the host count as
whole is a parameter; they have to answer to whole arguments with whole values or fresh errors.
Operations on whole values end in a whole value or a fresh error, never in an unknown.
-/

namespace ExprEngine

/-- The objects of the host that are trusted to hold and to answer whole values. -/
class TrustedObjects where
  trusts : ValueType → List (String × Value) → Bool

abbrev TrustedObjects.all : TrustedObjects := ⟨fun _ _ => true⟩

namespace Value

open Number Time

theorem mem_of_lookup {α β : Type} [BEq α] [LawfulBEq α] {entries : List (α × β)} {k : α} {b : β}
    (found : entries.lookup k = some b) : (k, b) ∈ entries := by
  obtain ⟨before, after, rfl, -⟩ := List.lookup_eq_some_iff.mp found
  simp

theorem lookup_eq_some_iff {α β : Type} [BEq α] [LawfulBEq α] {entries : List (α × β)}
    (distinct : (entries.map Prod.fst).Nodup) {k : α} {v : β} :
    entries.lookup k = some v ↔ (k, v) ∈ entries := by
  refine ⟨mem_of_lookup, fun member => ?_⟩
  induction entries with
  | nil => cases member
  | cons e rest ih =>
    rw [List.map_cons, List.nodup_cons] at distinct
    rcases List.mem_cons.mp member with rfl | later
    · simp
    · have differs : k ≠ e.1 := fun same =>
        distinct.1 (same ▸ List.mem_map_of_mem (f := Prod.fst) later)
      rw [List.lookup_cons, beq_false_of_ne differs]
      exact ih distinct.2 later

theorem forall_pair {P : Value → Prop} {v w : Value} (first : P v) (second : P w) :
    ∀ u ∈ [v, w], P u := by
  intro u member
  rcases List.mem_cons.mp member with rfl | member
  · exact first
  · rwa [List.mem_singleton.mp member]

theorem forall_single {P : Value → Prop} {v : Value} (only : P v) : ∀ u ∈ [v], P u := by
  intro u member
  rwa [List.mem_singleton.mp member]

theorem strict_strict (vs : List Value) (result : Value) :
    strict vs (strict vs result) = strict vs result := by
  unfold strict
  cases propagate vs <;> rfl

theorem equalEntries_cons [HostObjects] (k : Key) (x : Value) (rest : List (Key × Value))
    (n : Entries Value) :
    equalEntries ((k, x) :: rest) n =
      match n.get? k with
      | none => bool false
      | some y =>
        match x.equal y with
        | bool true => equalEntries rest n
        | other => other := rfl

section Whole

variable [TrustedObjects]

mutual

/-- No error and no unknown at any depth. -/
def isWhole : Value → Bool
  | list items => itemsWhole items
  | map ⟨keys, index, inStep, values⟩ =>
    let each : Entries Bool := ⟨keys, index, inStep, fun i => isWhole (values i)⟩
    each.toList.all (·.2)
  | object .record _ fields => fieldsWhole fields
  | object .host t state => TrustedObjects.trusts t state
  | error _ | unknown _ => false
  | _ => true
termination_by structural v => v

def itemsWhole : List Value → Bool
  | [] => true
  | v :: rest => isWhole v && itemsWhole rest
termination_by structural items => items

def fieldsWhole : List (String × Value) → Bool
  | [] => true
  | (_, v) :: rest => isWhole v && fieldsWhole rest
termination_by structural fields => fields

end

def Settled (v : Value) : Prop := v.isWhole = true ∨ v.isError = true

/-- A whole value, or an error that no expression is named in yet. -/
inductive Fresh : Value → Prop where
  | whole {v} (whole : v.isWhole = true) : Fresh v
  | error {e : EvalError} (unnamed : e.exprId = none) : Fresh (.error e)

variable {v w : Value}

theorem Fresh.settled (fresh : v.Fresh) : v.Settled := by
  cases fresh with
  | whole whole => exact .inl whole
  | error => exact .inr rfl

theorem isFailure_of_isWhole (whole : v.isWhole = true) : v.isFailure = false := by
  cases v <;> first | rfl | cases whole

theorem withExprId_of_isWhole (whole : v.isWhole = true) (id : Int) : v.withExprId id = v := by
  cases v <;> first | rfl | simp [isWhole] at whole

theorem isUnknown_of_settled (settled : v.Settled) : v.isUnknown = false := by
  rcases settled with whole | isError
  · cases v <;> first | rfl | simp [isWhole] at whole
  · cases v <;> first | rfl | simp [Value.isError] at isError

theorem failure_fresh (kind : ErrorKind) (message : String) : (failure kind message).Fresh :=
  .error rfl

theorem itemsWhole_iff {items : List Value} :
    itemsWhole items = true ↔ ∀ v ∈ items, v.isWhole = true := by
  induction items with
  | nil => simp [itemsWhole]
  | cons v rest ih => simp [itemsWhole, ih]

theorem isWhole_map_iff {m : Entries Value} :
    (map m).isWhole = true ↔ ∀ e ∈ m.toList, e.2.isWhole = true := by
  have each : (map m).isWhole = (m.map isWhole).toList.all (·.2) := rfl
  rw [each, Entries.toList_map, List.all_map, List.all_eq_true]
  rfl

theorem fieldsWhole_iff {fields : List (String × Value)} :
    fieldsWhole fields = true ↔ ∀ f ∈ fields, f.2.isWhole = true := by
  induction fields with
  | nil => simp [fieldsWhole]
  | cons f rest ih => simp [fieldsWhole, ih]

theorem isWhole_toValue (k : Key) : k.toValue.isWhole = true := by cases k <;> rfl

theorem strict_fresh {vs : List Value} {result : Value} (whole : ∀ v ∈ vs, v.isWhole = true)
    (fresh : result.Fresh) : (strict vs result).Fresh := by
  rwa [strict_regular fun v member => isFailure_of_isWhole (whole v member)]

/-! ### Equality -/

section Equality

variable [HostObjects]

theorem equalItems_whole {as bs : List Value}
    (decided : ∀ a ∈ as, ∀ b, b.isWhole = true → ∃ r, a.equal b = bool r)
    (right : itemsWhole bs = true) : ∃ r, equalItems as bs = bool r := by
  induction as generalizing bs with
  | nil => exact ⟨true, by cases bs <;> rfl⟩
  | cons a as ih =>
    cases bs with
    | nil => exact ⟨true, rfl⟩
    | cons b bs =>
      rw [itemsWhole, Bool.and_eq_true] at right
      obtain ⟨first, later⟩ := List.forall_mem_cons.mp decided
      obtain ⟨r, same⟩ := first b right.1
      rw [equalItems, same]
      cases r with
      | true => exact ih later right.2
      | false => exact ⟨false, rfl⟩

theorem equalEntries_whole {entries : List (Key × Value)} {n : Entries Value}
    (decided : ∀ e ∈ entries, ∀ b, b.isWhole = true → ∃ r, e.2.equal b = bool r)
    (right : (map n).isWhole = true) : ∃ r, equalEntries entries n = bool r := by
  induction entries with
  | nil => exact ⟨true, rfl⟩
  | cons e rest ih =>
    obtain ⟨k, a⟩ := e
    obtain ⟨first, later⟩ := List.forall_mem_cons.mp decided
    rw [equalEntries_cons]
    cases found : n.get? k with
    | none => exact ⟨false, rfl⟩
    | some b =>
      obtain ⟨r, same⟩ := first b (isWhole_map_iff.mp right _ (Entries.get?_eq_some_iff.mp found))
      simp only [same]
      cases r with
      | true => exact ih later
      | false => exact ⟨false, rfl⟩

theorem equal_whole (a b : Value) (left : a.isWhole = true) (right : b.isWhole = true) :
    ∃ r, a.equal b = bool r := by
  induction a using partsInduction generalizing b with
  | list as ih =>
    cases b with
    | list bs =>
      rw [equal]
      split
      · exact equalItems_whole (fun a member b => ih a member b (itemsWhole_iff.mp left a member))
          right
      · exact ⟨false, rfl⟩
    | error | unknown => cases right
    | _ => exact ⟨false, rfl⟩
  | map m ih =>
    cases b with
    | map n =>
      rw [equal_map]
      split
      · exact equalEntries_whole
          (fun e member b => ih e member b (isWhole_map_iff.mp left e member)) right
      · exact ⟨false, rfl⟩
    | error | unknown => cases right
    | _ => exact ⟨false, rfl⟩
  | object origin =>
    cases b with
    | object origin' => cases origin <;> cases origin' <;> exact ⟨_, rfl⟩
    | error | unknown => cases right
    | _ => cases origin <;> exact ⟨false, rfl⟩
  | single a single =>
    cases a with
    | list | map | object => cases single
    | error | unknown => cases left
    | _ => cases b <;> first | exact ⟨_, rfl⟩ | cases right

theorem equal_fresh (left : v.isWhole = true) (right : w.isWhole = true) :
    (v.equal w).Fresh := by
  obtain ⟨r, same⟩ := equal_whole v w left right
  exact .whole (by rw [same]; rfl)

theorem memberAmong_fresh {items : List Value} (whole : itemsWhole items = true)
    (elem : v.isWhole = true) : (memberAmong v items none).Fresh := by
  induction items with
  | nil => exact .whole rfl
  | cons item rest ih =>
    rw [itemsWhole, Bool.and_eq_true] at whole
    obtain ⟨r, same⟩ := equal_whole item v whole.1 elem
    rw [memberAmong, same]
    cases r with
    | true => exact .whole rfl
    | false => exact ih whole.2

theorem contains_fresh (whole : v.isWhole = true) (elem : w.isWhole = true) :
    (v.contains w).Fresh := by
  apply strict_fresh (forall_pair whole elem)
  split
  · exact memberAmong_fresh whole elem
  · exact .whole rfl
  · exact failure_fresh _ _

end Equality

/-! ### Parts of values -/

theorem getD_fresh {found : Option Value} {other : Value}
    (whole : ∀ v, found = some v → v.isWhole = true) (fresh : other.Fresh) :
    (found.getD other).Fresh := by
  cases found with
  | none => exact fresh
  | some v => exact .whole (whole v rfl)

theorem itemAt_fresh {items : List Value} (whole : itemsWhole items = true) (index : Int) :
    (itemAt items index).Fresh := by
  refine getD_fresh (fun v found => ?_) (failure_fresh _ _)
  unfold itemAt? at found
  generalize (if index < 0 then index + items.length else index) = place at found
  simp only at found
  split at found
  · exact itemsWhole_iff.mp whole v (List.mem_of_getElem? found)
  · cases found

theorem entryAt_fresh {m : Entries Value} (whole : (map m).isWhole = true) (key : Key) :
    (entryAt m key).Fresh :=
  getD_fresh (fun _ found => isWhole_map_iff.mp whole _ (Entries.get?_eq_some_iff.mp found))
    (failure_fresh _ _)

theorem elements_whole {items : List Value} (whole : v.isWhole = true)
    (elements : v.elements? = some items) : ∀ x ∈ items, x.isWhole = true := by
  cases v with
  | list xs =>
    obtain rfl := Option.some.inj elements
    exact itemsWhole_iff.mp whole
  | map entries =>
    obtain rfl := Option.some.inj elements
    intro x member
    obtain ⟨k, -, rfl⟩ := List.mem_map.mp member
    exact isWhole_toValue k
  | _ => cases elements

/-! ### Maps -/

theorem readKeys_whole {pairs : List (Value × Value)} {keyed : List (Key × Value)}
    (whole : ∀ p ∈ pairs, p.2.isWhole = true) (read : readKeys pairs = .ok keyed) :
    ∀ e ∈ keyed, e.2.isWhole = true := by
  induction pairs generalizing keyed with
  | nil =>
    obtain rfl := Except.ok.inj read
    nofun
  | cons p rest ih =>
    obtain ⟨k, v⟩ := p
    obtain ⟨first, later⟩ := List.forall_mem_cons.mp whole
    rw [readKeys] at read
    split at read
    · cases others : readKeys rest with
      | error e => simp [others, Except.map] at read
      | ok more =>
        simp only [others, Except.map, Except.ok.injEq] at read
        subst read
        exact List.forall_mem_cons.mpr ⟨first, ih later others⟩
    · cases read

theorem mapOf_fresh {pairs : List (Value × Value)} (whole : ∀ p ∈ pairs, p.2.isWhole = true) :
    (mapOf pairs).Fresh := by
  unfold mapOf
  split
  · exact failure_fresh _ _
  · next keyed read =>
    split
    · exact failure_fresh _ _
    · next m made =>
      refine .whole (isWhole_map_iff.mpr ?_)
      rw [Entries.ofList_eq_ok_iff.mp made]
      exact readKeys_whole whole read

/-! ### Operators -/

theorem ofSigned_fresh (i : Option Int64) : (ofSigned i).Fresh := by
  cases i with
  | none => exact .error rfl
  | some i => exact .whole rfl

theorem ofUnsigned_fresh (u : Option UInt64) : (ofUnsigned u).Fresh := by
  cases u with
  | none => exact .error rfl
  | some u => exact .whole rfl

theorem ofDuration_fresh (d : Option Duration) : (ofDuration d).Fresh := by
  cases d with
  | none => exact .error rfl
  | some d => exact .whole rfl

theorem ofTimestamp_fresh (t : Option Timestamp) : (ofTimestamp t).Fresh := by
  cases t with
  | none => exact .error rfl
  | some t => exact .whole rfl

theorem size_fresh (whole : v.isWhole = true) : v.size.Fresh := by
  apply strict_fresh (forall_single whole)
  split <;> first | exact ofSigned_fresh _ | exact failure_fresh _ _

theorem add_fresh (left : v.isWhole = true) (right : w.isWhole = true) :
    (v.add w).Fresh := by
  apply strict_fresh (forall_pair left right)
  split
  · exact ofSigned_fresh _
  · exact ofUnsigned_fresh _
  · exact .whole rfl
  · exact .whole rfl
  · exact .whole rfl
  · next a b =>
    refine .whole (itemsWhole_iff.mpr fun x member => ?_)
    exact (List.mem_append.mp member).elim (itemsWhole_iff.mp left x) (itemsWhole_iff.mp right x)
  · exact ofDuration_fresh _
  · exact ofTimestamp_fresh _
  · exact ofTimestamp_fresh _
  · exact failure_fresh _ _

theorem subtract_fresh (left : v.isWhole = true) (right : w.isWhole = true) :
    (v.subtract w).Fresh := by
  apply strict_fresh (forall_pair left right)
  split
  · exact ofSigned_fresh _
  · exact ofUnsigned_fresh _
  · exact .whole rfl
  · exact ofDuration_fresh _
  · exact .whole rfl
  · exact ofTimestamp_fresh _
  · exact failure_fresh _ _

theorem multiply_fresh (left : v.isWhole = true) (right : w.isWhole = true) :
    (v.multiply w).Fresh := by
  apply strict_fresh (forall_pair left right)
  split
  · exact ofSigned_fresh _
  · exact ofUnsigned_fresh _
  · exact .whole rfl
  · exact failure_fresh _ _

theorem divide_fresh (left : v.isWhole = true) (right : w.isWhole = true) :
    (v.divide w).Fresh := by
  apply strict_fresh (forall_pair left right)
  split
  · split
    · exact failure_fresh _ _
    · exact ofSigned_fresh _
  · split
    · exact failure_fresh _ _
    · exact .whole rfl
  · exact .whole rfl
  · exact failure_fresh _ _

theorem modulo_fresh (left : v.isWhole = true) (right : w.isWhole = true) :
    (v.modulo w).Fresh := by
  apply strict_fresh (forall_pair left right)
  split
  · split
    · exact failure_fresh _ _
    · exact ofSigned_fresh _
  · split
    · exact failure_fresh _ _
    · exact .whole rfl
  · exact failure_fresh _ _

theorem negate_fresh (whole : v.isWhole = true) : v.negate.Fresh := by
  apply strict_fresh (forall_single whole)
  split
  · exact ofSigned_fresh _
  · exact .whole rfl
  · exact ofDuration_fresh _
  · exact failure_fresh _ _

theorem logicalNot_fresh (whole : v.isWhole = true) : v.logicalNot.Fresh := by
  apply strict_fresh (forall_single whole)
  split
  · exact .whole rfl
  · exact failure_fresh _ _

theorem order_fresh {e : Value} (h : v.order w = .error e) : e.Fresh := by
  unfold order at h
  split at h
  · cases h
  · cases h
  · cases h
  · split at h
    · cases h
    · obtain rfl := Except.error.inj h
      exact failure_fresh _ _
  · cases h
  · cases h
  · cases h
  · cases h
  · obtain rfl := Except.error.inj h
    exact failure_fresh _ _

theorem compare_fresh (left : v.isWhole = true) (right : w.isWhole = true) :
    (v.compare w).Fresh := by
  apply strict_fresh (forall_pair left right)
  cases ordered : order v w with
  | ok o => cases o <;> exact .whole rfl
  | error e => exact order_fresh ordered

theorem search_fresh (left : v.isWhole = true) (right : w.isWhole = true) :
    (v.search w).Fresh := by
  apply strict_fresh (forall_pair left right)
  split
  · split
    · exact .whole rfl
    · exact failure_fresh _ _
  · exact failure_fresh _ _

end Whole

end Value

/-! ### Objects of the host -/

/-- The objects that are trusted are so rightly: their fields are whole, and to whole arguments they
answer with whole values, or with errors that no expression is named in yet. -/
class TrustedObjects.Sound [HostObjects] [TrustedObjects] : Prop where
  field {t : ValueType} {state : List (String × Value)} {name : String} {v : Value}
    (trusted : trusts t state = true) (found : HostObjects.get? t state name = some v) :
    v.isWhole = true
  answer {t : ValueType} {state : List (String × Value)} {function : String} {args : List Value}
    {v : Value} (trusted : trusts t state = true) (whole : ∀ a ∈ args, a.isWhole = true)
    (answered : HostObjects.receive? t state function args = some v) : v.Fresh

namespace Value

section Objects

variable [HostObjects]

theorem index_eq_strict (v key : Value) : v.index key = strict [v, key] (v.index key) :=
  (strict_strict [v, key] _).symm

theorem hasField_eq_strict (v : Value) (field : String) :
    v.hasField field = strict [v] (v.hasField field) :=
  (strict_strict [v] _).symm

variable [TrustedObjects] {v w : Value}

theorem hasField_fresh (whole : v.isWhole = true) (field : String) :
    (v.hasField field).Fresh := by
  apply strict_fresh (forall_single whole)
  split
  · exact .whole rfl
  · exact .whole rfl
  · exact failure_fresh _ _

variable [TrustedObjects.Sound]

theorem field?_fresh (whole : v.isWhole = true) (name : String) :
    ((v.field? name).getD (noSuchField name)).Fresh := by
  refine getD_fresh (fun x found => ?_) (failure_fresh _ _)
  cases v with
  | object origin =>
    cases origin with
    | record => exact fieldsWhole_iff.mp whole _ (mem_of_lookup found)
    | host => exact TrustedObjects.Sound.field whole found
  | _ => cases found

theorem index_fresh (whole : v.isWhole = true) (key : w.isWhole = true) :
    (v.index w).Fresh := by
  apply strict_fresh (forall_pair whole key)
  split
  · exact itemAt_fresh whole _
  · exact itemAt_fresh whole _
  · split
    · exact entryAt_fresh whole _
    · exact failure_fresh _ _
  · exact field?_fresh whole _
  · exact failure_fresh _ _

theorem selectField_fresh (whole : v.isWhole = true) (field : Key) :
    (v.selectField field).Fresh := by
  apply strict_fresh (forall_single whole)
  split
  · exact entryAt_fresh whole _
  · exact field?_fresh whole _
  · exact failure_fresh _ _

end Objects

end Value

/-! ### Accounts -/

/-- A host of accounts: they have an owner and a balance, and tell whether they are overdrawn. -/
abbrev HostObjects.accounts : HostObjects where
  get? _ state field := state.lookup field
  equal _ state
    | .object .host _ other =>
      match state, other with
      | [(_, .string owner), (_, .int balance)], [(_, .string owner'), (_, .int balance')] =>
        owner == owner' && balance == balance'
      | _, _ => false
    | _ => false
  receive? _ state function args :=
    match function, args, state.lookup "balance" with
    | "isOverdrawn", [], some (.int balance) => some (.bool (balance < 0))
    | _, _, _ => none
  dumped t _ := t.name

abbrev TrustedObjects.accounts : TrustedObjects where
  trusts _ state := state.all fun (_, v) => (Key.ofValue? v).isSome

section Accounts

attribute [local instance] HostObjects.accounts TrustedObjects.accounts

theorem TrustedObjects.accounts_sound : TrustedObjects.Sound where
  field {t state name v} trusted found := by
    have simple := List.all_eq_true.mp trusted _ (Value.mem_of_lookup found)
    cases v with
    | bool | int | uint | string => rfl
    | _ => cases simple
  answer _ _ answered := by
    simp only [HostObjects.receive?] at answered
    split at answered
    · cases answered
      exact .whole rfl
    · cases answered

end Accounts

def Value.account (owner : String) (balance : Int64) : Value :=
  .object .host (.object "bank.Account" [.fieldTester, .indexer, .receiver])
    [("owner", .string owner), ("balance", .int balance)]

end ExprEngine
