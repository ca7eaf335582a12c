import ExprEngine.Host.Objects

/-!
# Object types of the host

The host declares object types with their fields and with a way to build objects. Planning and
evaluation know them through a `Provider` only.
-/

namespace ExprEngine

structure FieldAccess where
  type : ValueType
  isSet : Value → Bool
  get : Value → Value

namespace FieldAccess

def ofName [HostObjects] (name : String) (type : ValueType) : FieldAccess where
  type
  isSet object := object.isSet name
  get object := (object.field? name).getD (.noSuchField name)

end FieldAccess

/-- What planning and evaluation ask about types. -/
structure Provider where
  findType : String → Option ValueType
  /-- Access to a field of the object type of that name. -/
  findField : String → String → Option FieldAccess
  /-- The value of a name that nothing binds. -/
  findIdent : String → Option Value
  /-- An object of the type of that name, built from fields. -/
  construct : String → List (String × Value) → Value

def ValueType.builtinIdent? (name : String) : Option Value := (builtin? name).map .type

structure ObjectType where
  type : ValueType
  fields : List (String × FieldAccess) := []
  /-- Builds an object in place of a plain record. -/
  constructor? : Option (ValueType → List (String × Value) → Value) := none

namespace ObjectType

def named (name : String) : ObjectType :=
  { type := .object name [.fieldTester, .indexer, .receiver] }

/-- Declares a field; a field of that name declared before is replaced. -/
def declare (t : ObjectType) (name : String) (access : FieldAccess) : ObjectType :=
  { t with fields := (name, access) :: t.fields.filter (·.1 != name) }

def declares (t : ObjectType) (name : String) : Bool := t.fields.any (·.1 == name)

def construct (t : ObjectType) (fields : List (String × Value)) : Value :=
  match fields.find? fun (name, _) => !t.declares name with
  | some (name, _) => .noSuchField name
  | none =>
    match t.constructor? with
    | some build => build t.type fields
    | none => .object .record t.type fields

end ObjectType

structure TypeTable where
  types : List ObjectType := []

namespace TypeTable

def empty : TypeTable := {}

/-- Declares a type; a type of that name declared before is replaced. -/
def register (table : TypeTable) (t : ObjectType) : TypeTable :=
  ⟨t :: table.types.filter (·.type.name != t.type.name)⟩

def find? (table : TypeTable) (name : String) : Option ObjectType :=
  table.types.find? (·.type.name == name)

def findType (table : TypeTable) (name : String) : Option ValueType :=
  ((table.find? name).map ObjectType.type).or (ValueType.builtin? name)

def findField (table : TypeTable) (type field : String) : Option FieldAccess :=
  (table.find? type).bind fun t => t.fields.lookup field

def construct (table : TypeTable) (type : String) (fields : List (String × Value)) : Value :=
  match table.find? type with
  | some t => t.construct fields
  | none => .failure .invalidArgument ("unknown type '" ++ type ++ "'")

def provider (table : TypeTable) : Provider where
  findType := table.findType
  findField := table.findField
  findIdent name := (table.findType name).map .type
  construct := table.construct

/-- Only the names of built-in types denote types. -/
def bareProvider (table : TypeTable) : Provider :=
  { table.provider with findIdent := ValueType.builtinIdent? }

end TypeTable

end ExprEngine
