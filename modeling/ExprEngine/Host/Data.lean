import ExprEngine.Value.Basic

/-!
# Data of the host

Hosts bind their own data to names; an adapter turns it into values when a name is resolved.
-/

namespace ExprEngine

open Number Time

inductive HostData where
  | value (v : Value)
  | bool (b : Bool)
  | int (i : Int64)
  | int32 (i : Int32)
  | uint (u : UInt64)
  | uint32 (u : UInt32)
  | double (d : Double)
  | text (s : String)
  | bytes (b : ByteArray)
  | duration (d : Duration)
  | timestamp (t : Timestamp)
  | values (items : List Value)
  | texts (items : List String)
  | ints (items : List Int64)
  | character (c : Char)
deriving Inhabited

abbrev Adapter : Type := HostData → Value

namespace Adapter

/-- Knows everything but single characters. -/
def basic : Adapter
  | .value v => v
  | .bool b => .bool b
  | .int i => .int i
  | .int32 i => .int i.toInt64
  | .uint u => .uint u
  | .uint32 u => .uint u.toUInt64
  | .double d => .double d
  | .text s => .string s
  | .bytes b => .bytes b
  | .duration d => .duration d
  | .timestamp t => .timestamp t
  | .values items => .list items
  | .texts items => .list (items.map .string)
  | .ints items => .list (items.map .int)
  | .character _ =>
    .failure .unsupportedConversion "unsupported conversion from native value"

end Adapter

end ExprEngine
