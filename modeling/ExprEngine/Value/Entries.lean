import ExprEngine.Text.Quoted

/-!
# Entries of maps

The entries of a map keep the order in which they were entered. A hash index tells where the entry
of a key stands, and is kept in step with the entries, so that no key is entered twice.
-/

namespace ExprEngine

inductive Key where
  | bool (b : Bool)
  | int (i : Int64)
  | uint (u : UInt64)
  | string (s : String)
deriving DecidableEq, Inhabited

namespace Key

def shown : Key → String
  | bool b => if b then "true" else "false"
  | int i => toString i.toInt
  | uint u => toString u.toNat ++ "u"
  | string s => Text.quoted s

end Key

structure Entries (α : Type) where
  /-- The keys in the order of their entries. -/
  keys : List Key
  /-- What the hash index answers for a key: the place of its entry. -/
  index : Key → Option Nat
  inStep : ∀ k i, index k = some i ↔ keys[i]? = some k
  values : Fin keys.length → α

namespace Entries

variable {α β : Type}

def empty : Entries α where
  keys := []
  index _ := none
  inStep := by simp
  values := nofun

instance : Inhabited (Entries α) := ⟨empty⟩

def size (m : Entries α) : Nat := m.keys.length

def toList (m : Entries α) : List (Key × α) := List.ofFn fun i => (m.keys.get i, m.values i)

def map (f : α → β) (m : Entries α) : Entries β where
  keys := m.keys
  index := m.index
  inStep := m.inStep
  values i := f (m.values i)

theorem toList_map (f : α → β) (m : Entries α) :
    (m.map f).toList = m.toList.map fun e => (e.1, f e.2) := by
  rw [toList, toList, List.map_ofFn]
  rfl

/-! ### Look-ups -/

theorem lt_length_of_index {m : Entries α} {k : Key} {i : Nat} (place : m.index k = some i) :
    i < m.keys.length :=
  (List.getElem?_eq_some_iff.mp ((m.inStep k i).mp place)).1

def get? (m : Entries α) (k : Key) : Option α :=
  match place : m.index k with
  | some i => some (m.values ⟨i, lt_length_of_index place⟩)
  | none => none

def contains (m : Entries α) (k : Key) : Bool := (m.index k).isSome

/-! ### Making maps -/

theorem getElem?_ne_of_new {m : Entries α} {k : Key} (new : m.contains k = false) (i : Nat) :
    m.keys[i]? ≠ some k := by
  intro listed
  rw [contains, (m.inStep k i).mpr listed] at new
  cases new

theorem getElem?_concat_eq_some_iff {keys : List Key} {j k : Key} {i : Nat} :
    (keys ++ [k])[i]? = some j ↔ keys[i]? = some j ∨ i = keys.length ∧ j = k := by
  rcases Nat.lt_trichotomy i keys.length with before | rfl | after
  · simp [List.getElem?_append_left before, Nat.ne_of_lt before]
  · simp [eq_comm]
  · have none : keys[i]? = none := List.getElem?_eq_none (Nat.le_of_lt after)
    simp [none, List.getElem?_append_right (Nat.le_of_lt after), Nat.ne_of_gt after,
      Nat.ne_of_gt (Nat.sub_pos_of_lt after)]

/-- Enters a key that is new, behind the other entries. -/
def push (m : Entries α) (k : Key) (v : α) (new : m.contains k = false := by decide) :
    Entries α where
  keys := m.keys ++ [k]
  index j := if j = k then some m.keys.length else m.index j
  inStep j i := by
    rw [getElem?_concat_eq_some_iff]
    split
    next same =>
      subst same
      simp [getElem?_ne_of_new new i, eq_comm]
    next other => simp [other, m.inStep]
  values i := if earlier : i < m.keys.length then m.values ⟨i, earlier⟩ else v

def single (k : Key) (v : α) : Entries α := empty.push k v rfl

/-- Enters all in order, up to the first key that has an entry already. -/
def pushAll (m : Entries α) : List (Key × α) → Except Key (Entries α)
  | [] => .ok m
  | (k, v) :: rest => if new : m.contains k = false then (m.push k v new).pushAll rest else .error k

def ofList (entries : List (Key × α)) : Except Key (Entries α) := empty.pushAll entries

end Entries

end ExprEngine
