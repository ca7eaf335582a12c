/-!
# Types of values

A type is a kind and a name, with the traits that say which operations its values take part in.
Two types are the same when kind and name agree.
-/

namespace ExprEngine

inductive Trait where
  | adder
  | comparer
  | container
  | divider
  | fieldTester
  | indexer
  | iterable
  | iterator
  | matcher
  | modder
  | multiplier
  | negater
  | receiver
  | sizer
  | subtractor
deriving DecidableEq, Inhabited

namespace Trait

def name : Trait → String
  | adder => "ADDER"
  | comparer => "COMPARER"
  | container => "CONTAINER"
  | divider => "DIVIDER"
  | fieldTester => "FIELD_TESTER"
  | indexer => "INDEXER"
  | iterable => "ITERABLE"
  | iterator => "ITERATOR"
  | matcher => "MATCHER"
  | modder => "MODDER"
  | multiplier => "MULTIPLIER"
  | negater => "NEGATER"
  | receiver => "RECEIVER"
  | sizer => "SIZER"
  | subtractor => "SUBTRACTOR"

def all : List Trait :=
  [adder, comparer, container, divider, fieldTester, indexer, iterable, iterator, matcher, modder,
   multiplier, negater, receiver, sizer, subtractor]

def ofName? (name : String) : Option Trait := all.find? (·.name == name)

def arrange (ts : List Trait) : List Trait := all.filter (· ∈ ts)

/-- A set of traits as it is shown: names with bars between, or zero. -/
def shown (ts : List Trait) : String :=
  let names := (arrange ts).map name
  "Traits(" ++ (if names.isEmpty then "0x0" else " | ".intercalate names) ++ ")"

end Trait

inductive Kind where
  | bool
  | int
  | uint
  | double
  | string
  | bytes
  | null
  | duration
  | timestamp
  | list
  | map
  | type
  | object
  | error
  | unknown
deriving DecidableEq, Inhabited

namespace Kind

def name : Kind → String
  | bool => "Bool"
  | int => "Int"
  | uint => "Uint"
  | double => "Double"
  | string => "String"
  | bytes => "Bytes"
  | null => "Null"
  | duration => "Duration"
  | timestamp => "Timestamp"
  | list => "List"
  | map => "Map"
  | type => "Type"
  | object => "Object"
  | error => "Error"
  | unknown => "Unknown"

end Kind

structure ValueType where
  kind : Kind
  name : String
  traits : List Trait
deriving DecidableEq, Inhabited

namespace ValueType

/-- Types are the same when kind and name agree, whatever their traits. -/
def same (a b : ValueType) : Bool := a.kind == b.kind && a.name == b.name

def hasTraits (t : ValueType) (required : List Trait) : Bool := required.all (· ∈ t.traits)

def hasTrait (t : ValueType) (required : Trait) : Bool := required ∈ t.traits

def object (name : String) (traits : List Trait) : ValueType := ⟨.object, name, traits⟩

/-! ### Built-in types -/

def bool : ValueType := ⟨.bool, "bool", [.comparer, .negater]⟩

def int : ValueType :=
  ⟨.int, "int", [.adder, .comparer, .divider, .modder, .multiplier, .negater, .subtractor]⟩

def uint : ValueType :=
  ⟨.uint, "uint", [.adder, .comparer, .divider, .modder, .multiplier, .subtractor]⟩

def double : ValueType :=
  ⟨.double, "double", [.adder, .comparer, .divider, .multiplier, .negater, .subtractor]⟩

def string : ValueType :=
  ⟨.string, "string", [.adder, .comparer, .matcher, .receiver, .sizer]⟩

def bytes : ValueType := ⟨.bytes, "bytes", [.adder, .comparer, .sizer]⟩

def null : ValueType := ⟨.null, "null_type", []⟩

def duration : ValueType :=
  ⟨.duration, "google.protobuf.Duration", [.adder, .comparer, .negater, .receiver, .subtractor]⟩

def timestamp : ValueType :=
  ⟨.timestamp, "google.protobuf.Timestamp", [.adder, .comparer, .receiver, .subtractor]⟩

def list : ValueType := ⟨.list, "list", [.adder, .container, .indexer, .iterable, .sizer]⟩

def map : ValueType :=
  ⟨.map, "map", [.container, .fieldTester, .indexer, .iterable, .sizer]⟩

def type : ValueType := ⟨.type, "type", []⟩

def error : ValueType := ⟨.error, "error", []⟩

def unknown : ValueType := ⟨.unknown, "unknown", []⟩

def builtins : List ValueType :=
  [bool, int, uint, double, string, bytes, null, duration, timestamp, list, map, type, error,
   unknown]

def builtin? (name : String) : Option ValueType := builtins.find? (·.name == name)

end ValueType

end ExprEngine
