import ExprEngine.Number.Checked
import ExprEngine.Number.Reading
import ExprEngine.Value.Shown

/-!
# Conversion between types

A value is converted to a type where the conversion is defined; a value that the type cannot hold
is out of range. Only the reading of a duration can panic.
-/

namespace ExprEngine.Value

open Number Time

def rangeError (v : Value) (target : ValueType) : Value :=
  failure .overflow ("range error converting " ++ v.shown ++ " to " ++ target.name)

def readBool? (s : String) : Option Bool :=
  if s ∈ ["1", "t", "T", "true", "TRUE", "True"] then some true
  else if s ∈ ["0", "f", "F", "false", "FALSE", "False"] then some false
  else none

/-- The integer part of a double strictly between `-2 ^ 63` and `2 ^ 63`. -/
def doubleToSigned? (d : Double) : Option Int64 :=
  if d.isNaN ∨ d.truncate ≤ -0x8000000000000000 ∨ 0x8000000000000000 ≤ d.truncate then none
  else some (Int64.ofInt d.truncate)

/-- The integer part of a double from zero to below `2 ^ 64`. -/
def doubleToUnsigned? (d : Double) : Option UInt64 :=
  if d.isNaN ∨ d.place < 0 ∨ 0x10000000000000000 ≤ d.truncate then none
  else some (UInt64.ofNat d.truncate.toNat)

def splitPanic : Panic := ⟨"byte index is not a character boundary"⟩

/-- The conversion of a regular value to a type other than its own. -/
def convertTo (v : Value) (target : ValueType) : Except Panic Value :=
  let reading (found : Option Value) : Except Panic Value :=
    .ok (found.getD (conversionError v.valueType target))
  let ranged (found : Option Value) : Except Panic Value := .ok (found.getD (rangeError v target))
  match v, target.kind with
  | int i, .uint => ranged ((unsigned? i.toInt).map uint)
  | int i, .double => .ok (double (.ofInt i.toInt))
  | int i, .string => .ok (string (toString i.toInt))
  | int i, .timestamp => ranged ((Timestamp.ofSeconds? i.toInt 0).map timestamp)
  | uint u, .int => ranged ((signed? u.toNat).map int)
  | uint u, .double => .ok (double (.ofInt u.toNat))
  | uint u, .string => .ok (string (toString u.toNat))
  | double d, .int => ranged ((doubleToSigned? d).map int)
  | double d, .uint => ranged ((doubleToUnsigned? d).map uint)
  | double d, .string => .ok (string (d.write .plain))
  | string s, .int => reading ((readSigned? s).map int)
  | string s, .uint => reading ((readUnsigned? s).map uint)
  | string s, .double => reading ((Double.read? s).map double)
  | string s, .bool => reading ((readBool? s).map bool)
  | string s, .bytes => .ok (bytes s.toUTF8)
  | string s, .duration =>
    match Duration.read s with
    | .ok d => .ok (duration d)
    | .error .malformed => reading none
    | .error .splitCharacter => .error splitPanic
  | string s, .timestamp => reading ((Timestamp.read? s).map timestamp)
  | bytes b, .string => reading ((String.fromUTF8? b).map string)
  | bool b, .string => .ok (string (boolText b))
  | duration d, .string => .ok (string d.text)
  | duration d, .int => .ok (int (Int64.ofInt d.seconds))
  | timestamp t, .string => .ok (string t.text)
  | timestamp t, .int => .ok (int (Int64.ofInt t.seconds))
  | _, _ => reading none

/-- Converts to `target`; the conversion to `type` gives the value's own type. -/
def convert (v : Value) (target : ValueType) : Except Panic Value :=
  if v.isFailure then .ok v
  else if target.kind = .type then .ok (type v.valueType)
  else if v.valueType.same target then .ok v
  else v.convertTo target

end ExprEngine.Value
