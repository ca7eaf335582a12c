import ExprEngine.Number.Double
import ExprEngine.Time.Timestamp
import ExprEngine.Value.Entries
import ExprEngine.Value.Error
import ExprEngine.Value.Type
import ExprEngine.Value.UnknownSet

/-!
# Values

The values that expressions denote. Errors and unknowns are values too: operations pass them on,
so an evaluation always ends in a value.
-/

namespace ExprEngine

open Number Time

/-- Who made an object: the engine, as a record of its fields, or the host. -/
inductive Origin where
  | record
  | host
deriving DecidableEq, Inhabited

inductive Value where
  | bool (b : Bool)
  | int (i : Int64)
  | uint (u : UInt64)
  | double (d : Double)
  | string (s : String)
  | bytes (b : ByteArray)
  | null
  | duration (d : Duration)
  | timestamp (t : Timestamp)
  | list (items : List Value)
  | map (entries : Entries Value)
  | type (t : ValueType)
  | object (origin : Origin) (type : ValueType) (fields : List (String × Value))
  | error (e : EvalError)
  | unknown (ids : UnknownSet)

namespace Value

instance : Inhabited Value := ⟨null⟩

def valueType : Value → ValueType
  | bool _ => .bool
  | int _ => .int
  | uint _ => .uint
  | double _ => .double
  | string _ => .string
  | bytes _ => .bytes
  | null => .null
  | duration _ => .duration
  | timestamp _ => .timestamp
  | list _ => .list
  | map _ => .map
  | type _ => .type
  | object _ t _ => t
  | error _ => .error
  | unknown _ => .unknown

/-! ### Failures -/

def isFailure : Value → Bool
  | error _ => true
  | unknown _ => true
  | _ => false

def isError : Value → Bool
  | error _ => true
  | _ => false

def isUnknown : Value → Bool
  | unknown _ => true
  | _ => false

def asBool? : Value → Option Bool
  | bool b => some b
  | _ => none

def asError? : Value → Option EvalError
  | error e => some e
  | _ => none

def asUnknown? : Value → Option UnknownSet
  | unknown s => some s
  | _ => none

/-- An error without an expression gets `id`; other values stay. -/
def withExprId (v : Value) (id : Int) : Value :=
  match v with
  | error e => error (e.withExprId id)
  | v => v

/-- All ids of the unknown operands, if some operand is unknown. -/
def unknownOf (operands : List Value) : Option UnknownSet :=
  operands.foldl (fun found v => match v with
    | unknown s => some (match found with
      | some t => t.union s
      | none => s)
    | _ => found) none

/-- What a strict operation returns for operands that are not all regular: the union of the
unknowns, or else the first error. -/
def propagate (operands : List Value) : Option Value :=
  match unknownOf operands with
  | some s => some (unknown s)
  | none => operands.find? isError

/-- The value of a strict operation: a failure among the operands, or else `result`. -/
def strict (operands : List Value) (result : Value) : Value := (propagate operands).getD result

/-! ### Errors that operations raise -/

def failure (kind : ErrorKind) (message : String) : Value := error { kind, message }

def noSuchOverload (function : String) (operands : List Value) : Value :=
  failure .noSuchOverload ("no such overload: " ++ function ++ "("
    ++ ", ".intercalate (operands.map (·.valueType.name)) ++ ")")

def noSuchField (field : String) : Value :=
  failure .noSuchField ("no such field '" ++ field ++ "'")

def noSuchKey (key : Key) : Value := failure .noSuchKey ("no such key: " ++ key.shown)

def indexOutOfBounds (index : Int) : Value :=
  failure .indexOutOfBounds ("index out of bounds: " ++ toString index)

def conversionError (source target : ValueType) : Value :=
  failure .unsupportedConversion
    ("type conversion error from '" ++ source.name ++ "' to '" ++ target.name ++ "'")

end Value

/-! ### Keys and maps -/

namespace Key

def ofValue? : Value → Option Key
  | .bool b => some (bool b)
  | .int i => some (int i)
  | .uint u => some (uint u)
  | .string s => some (string s)
  | _ => none

def toValue : Key → Value
  | bool b => .bool b
  | int i => .int i
  | uint u => .uint u
  | string s => .string s

theorem ofValue?_toValue (k : Key) : ofValue? k.toValue = some k := by cases k <;> rfl

end Key

namespace Value

/-- The entries with their keys read, or the first value that cannot be a key. -/
def readKeys : List (Value × Value) → Except Value (List (Key × Value))
  | [] => .ok []
  | (k, v) :: rest =>
    match Key.ofValue? k with
    | some key => (readKeys rest).map ((key, v) :: ·)
    | none => .error k

/-- A map of the entries in their order; keys must be keys and distinct. -/
def mapOf (entries : List (Value × Value)) : Value :=
  match readKeys entries with
  | .error k =>
    failure .invalidArgument ("unsupported map key type '" ++ k.valueType.name ++ "'")
  | .ok keyed =>
    match Entries.ofList keyed with
    | .error k => failure .invalidArgument ("duplicate map key: " ++ k.shown)
    | .ok m => map m

end Value

end ExprEngine
