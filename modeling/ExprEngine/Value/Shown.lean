import ExprEngine.Number.Notation
import ExprEngine.Text.Bytes
import ExprEngine.Time.Stamp
import ExprEngine.Host.Objects

/-!
# Values as text

`shown` is a value as messages show it, and `dumped` a value as dumps show it: errors and objects
with their contents, all else as messages do.
-/

namespace ExprEngine

def braced (s : String) : String := "\x7b" ++ s ++ "\x7d"

def recordText (name : String) (fields : List (String × String)) : String :=
  name ++ " " ++ braced (" " ++ ", ".intercalate (fields.map fun (k, v) => k ++ ": " ++ v) ++ " ")

def listText (items : List String) : String := "[" ++ ", ".intercalate items ++ "]"

def pairText (a b : String) : String := "(" ++ a ++ ", " ++ b ++ ")"

def optionText : Option String → String
  | some s => "Some(" ++ s ++ ")"
  | none => "None"

def boolText (b : Bool) : String := if b then "true" else "false"

namespace ValueType

def dumped (t : ValueType) : String :=
  recordText "Type" [("kind", t.kind.name), ("name", Text.quoted t.name),
    ("traits", Trait.shown t.traits)]

end ValueType

namespace Key

def dumped : Key → String
  | bool b => "Bool(" ++ boolText b ++ ")"
  | int i => "Int(" ++ toString i.toInt ++ ")"
  | uint u => "Uint(" ++ toString u.toNat ++ ")"
  | string s => "String(" ++ Text.quoted s ++ ")"

end Key

namespace Value

open Number

mutual

def shown : Value → String
  | bool b => boolText b
  | int i => toString i.toInt
  | uint u => toString u.toNat ++ "u"
  | double d => d.write .shown
  | string s => Text.quoted s
  | bytes b => "b" ++ Text.quoted (Text.ofBytesLossy b)
  | null => "null"
  | duration d => "duration(" ++ Text.quoted d.text ++ ")"
  | timestamp t => "timestamp(" ++ Text.quoted t.text ++ ")"
  | list items => listText (shownItems items)
  | map ⟨keys, index, inStep, values⟩ =>
    let each : Entries String := ⟨keys, index, inStep, fun i => shown (values i)⟩
    braced (", ".intercalate (each.toList.map fun (k, v) => k.shown ++ ": " ++ v))
  | type t => t.name
  | object _ t _ => t.name ++ braced "..."
  | error e => "error: " ++ e.shown
  | unknown s => s.shown
termination_by structural v => v

def shownItems : List Value → List String
  | [] => []
  | v :: rest => shown v :: shownItems rest
termination_by structural items => items

end

variable [HostObjects]

mutual

def dumped : Value → String
  | error e => recordText "Err" [("kind", e.kind.name), ("message", Text.quoted e.message)]
  | object .record t fields =>
    "Object(" ++
      recordText "Record" [("ty", t.dumped), ("fields", listText (dumpedFields fields))] ++ ")"
  | object .host t state => "Object(" ++ HostObjects.dumped t state ++ ")"
  | v => v.shown
termination_by structural v => v

def dumpedFields : List (String × Value) → List String
  | [] => []
  | (name, v) :: rest => pairText (Text.quoted name) (dumped v) :: dumpedFields rest
termination_by structural fields => fields

end

end Value

end ExprEngine
