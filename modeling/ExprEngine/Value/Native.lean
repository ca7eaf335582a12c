import ExprEngine.Value.Shown

/-!
# Host shapes

A shape describes data of the host. Reading a value into a shape succeeds only for the values that
embed data of that shape; nothing is coerced, cut off or left out.
-/

namespace ExprEngine

open Number Time

/-- The shape of host data. Keys of tables are compared, so floats and times are not among them. -/
inductive Shape where
  | bool
  | int
  | int32
  | uint
  | uint32
  | double
  | text
  | sharedText
  | bytes
  | duration
  | timestamp
  | value
  | option (inner : Shape)
  | list (inner : Shape)
  | table (key value : Shape)
deriving DecidableEq, Inhabited

namespace Shape

/-- The data of a shape; a table is a list of its entries. -/
abbrev Carrier : Shape → Type
  | bool => Bool
  | int => Int64
  | int32 => Int32
  | uint => UInt64
  | uint32 => UInt32
  | double => Double
  | text => String
  | sharedText => String
  | bytes => ByteArray
  | duration => Duration
  | timestamp => Timestamp
  | value => Value
  | option s => Option s.Carrier
  | list s => List s.Carrier
  | table k v => List (k.Carrier × v.Carrier)

def typeName : Shape → String
  | bool => "bool"
  | int => "i64"
  | int32 => "i32"
  | uint => "u64"
  | uint32 => "u32"
  | double => "f64"
  | text => "alloc::string::String"
  | sharedText => "ecow::string::EcoString"
  | bytes => "ecow::vec::EcoVec<u8>"
  | duration => "chrono::time_delta::TimeDelta"
  | timestamp => "chrono::datetime::DateTime<chrono::offset::utc::Utc>"
  | value => "celeste_core::values::val::Val"
  | option s => "core::option::Option<" ++ s.typeName ++ ">"
  | list s => "alloc::vec::Vec<" ++ s.typeName ++ ">"
  | table k v =>
    "std::collections::hash::map::HashMap<" ++ k.typeName ++ ", " ++ v.typeName ++ ">"

/-- The error of a value that is no data of the shape; an error value is the error itself. -/
def mismatch (s : Shape) : Value → EvalError
  | .error e => e
  | v =>
    { kind := .unsupportedConversion
      message :=
        "type conversion error from '" ++ v.valueType.name ++ "' to '" ++ s.typeName ++ "'" }

def collect {α β : Type} (read : α → Except EvalError β) : List α → Except EvalError (List β)
  | [] => .ok []
  | a :: rest => do
    let b ← read a
    let bs ← collect read rest
    return b :: bs

def read : (s : Shape) → Value → Except EvalError s.Carrier
  | bool, .bool b => .ok b
  | int, .int i => .ok i
  | int32, .int i =>
    if -0x80000000 ≤ i.toInt ∧ i.toInt < 0x80000000 then .ok i.toInt32
    else .error (int32.mismatch (.int i))
  | uint, .uint u => .ok u
  | uint32, .uint u =>
    if u.toNat < 0x100000000 then .ok u.toUInt32 else .error (uint32.mismatch (.uint u))
  | double, .double d => .ok d
  | text, .string s => .ok s
  | sharedText, .string s => .ok s
  | bytes, .bytes b => .ok b
  | duration, .duration d => .ok d
  | timestamp, .timestamp t => .ok t
  | value, v => .ok v
  | option _, .null => .ok none
  | option s, v => (s.read v).map some
  | list s, .list items => collect s.read items
  | table k v, .map entries =>
    collect (fun (key, x) => do
      let a ← k.read key.toValue
      let b ← v.read x
      return (a, b)) entries.toList
  | s, v => .error (s.mismatch v)

def embed : (s : Shape) → s.Carrier → Value
  | bool, b => .bool b
  | int, i => .int i
  | int32, i => .int i.toInt64
  | uint, u => .uint u
  | uint32, u => .uint u.toUInt64
  | double, d => .double d
  | text, s => .string s
  | sharedText, s => .string s
  | bytes, b => .bytes b
  | duration, d => .duration d
  | timestamp, t => .timestamp t
  | value, v => v
  | option _, none => .null
  | option s, some x => s.embed x
  | list s, xs => .list (xs.map s.embed)
  | table k v, entries => .mapOf (entries.map fun (a, b) => (k.embed a, v.embed b))

end Shape

end ExprEngine
