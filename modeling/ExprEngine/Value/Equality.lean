import ExprEngine.Host.Objects

/-!
# Equality

`equal` compares two values as expressions do: values of different types are unequal, and a
failure that is met on the way is the result. `same` compares as a host does: it always decides,
and failures are the same when they report the same.
-/

namespace ExprEngine.Value

open Number

variable [HostObjects]

/-- Whether two values are the same, given the result of comparing them. -/
def agree : Value → Value → Value → Bool
  | error a, error b, _ => a.kind == b.kind && a.message == b.message
  | unknown a, unknown b, _ => a == b
  | error _, _, _ => false
  | unknown _, _, _ => false
  | _, error _, _ => false
  | _, unknown _, _ => false
  | _, _, result => result.asBool? == some true

/-- Compares entries in order with the values under their keys in `b`, up to the first pair that is
not equal. Each entry is given by how its value compares. -/
def compareEntries : List (Key × (Value → Value)) → Entries Value → Value
  | [], _ => bool true
  | (k, compares) :: rest, b =>
    match b.get? k with
    | none => bool false
    | some y =>
      match compares y with
      | bool true => compareEntries rest b
      | other => other

mutual

def equal : Value → Value → Value
  | bool a, bool b => bool (a == b)
  | int a, int b => bool (a == b)
  | uint a, uint b => bool (a == b)
  | double a, double b => bool (a.equal b)
  | string a, string b => bool (a == b)
  | bytes a, bytes b => bool (a == b)
  | null, null => bool true
  | duration a, duration b => bool (a == b)
  | timestamp a, timestamp b => bool (a == b)
  | type a, type b => bool (a.same b)
  | list a, list b => if a.length = b.length then equalItems a b else bool false
  | map ⟨keys, index, inStep, values⟩, map b =>
    let a : Entries (Value → Value) := ⟨keys, index, inStep, fun i => equal (values i)⟩
    if a.size = b.size then compareEntries a.toList b else bool false
  | object .record t a, object .record u b =>
    bool (t.same u && a.length == b.length && fieldsAmong a b)
  | object .host t a, object origin u b =>
    bool (t.same u && HostObjects.equal t a (object origin u b))
  | a, b => (propagate [a, b]).getD (bool false)
termination_by structural a => a

def equalItems : List Value → List Value → Value
  | x :: xs, y :: ys =>
    match equal x y with
    | bool true => equalItems xs ys
    | other => other
  | _, _ => bool true
termination_by structural xs => xs

/-- Whether every field equals the field of its name in `b`. -/
def fieldsAmong : List (String × Value) → List (String × Value) → Bool
  | [], _ => true
  | (name, x) :: rest, b =>
    (match b.lookup name with
      | none => false
      | some y => (equal x y).asBool? == some true) && fieldsAmong rest b
termination_by structural a => a

end

def equalEntries (entries : List (Key × Value)) (b : Entries Value) : Value :=
  compareEntries (entries.map fun (k, x) => (k, x.equal)) b

theorem equal_map (a b : Entries Value) :
    (map a).equal (map b) = if a.size = b.size then equalEntries a.toList b else bool false := by
  rw [equalEntries, ← Entries.toList_map]
  rfl

def same (a b : Value) : Bool := agree a b (equal a b)

end ExprEngine.Value
