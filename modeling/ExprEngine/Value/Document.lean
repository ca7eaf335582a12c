import ExprEngine.Value.Shown

/-!
# Values as JSON

A value becomes a JSON document: times turn into strings, keys into member names, types into
their names. Errors and unknowns have no document.
-/

namespace ExprEngine

open Number

/-- A JSON document. Members keep their order and their names need not be distinct. -/
inductive Document where
  | null
  | bool (b : Bool)
  | integer (n : Int)
  | double (d : Double)
  | string (s : String)
  | array (items : List Document)
  | object (members : List (String × Document))
deriving Inhabited

namespace Document

def charText (c : Char) : String :=
  match c with
  | '"' => "\\\""
  | '\\' => "\\\\"
  | '\x08' => "\\b"
  | '\t' => "\\t"
  | '\n' => "\\n"
  | '\x0c' => "\\f"
  | '\r' => "\\r"
  | c =>
    if c.toNat < 16 then "\\u000" ++ Text.hexDigits c.toNat
    else if c.toNat < 32 then "\\u00" ++ Text.hexDigits c.toNat
    else c.toString

def stringText (s : String) : String := "\"" ++ String.join (s.toList.map charText) ++ "\""

/-- A number; those that are not finite are null. -/
def doubleText (d : Double) : String := if d.isFinite then d.write .json else "null"

mutual

def text : Document → String
  | null => "null"
  | bool b => boolText b
  | integer n => toString n
  | double d => doubleText d
  | string s => stringText s
  | array items => "[" ++ ",".intercalate (itemTexts items) ++ "]"
  | object members => braced (",".intercalate (memberTexts members))
termination_by structural d => d

def itemTexts : List Document → List String
  | [] => []
  | d :: rest => text d :: itemTexts rest
termination_by structural items => items

def memberTexts : List (String × Document) → List String
  | [] => []
  | (name, d) :: rest => (stringText name ++ ":" ++ text d) :: memberTexts rest
termination_by structural members => members

end

end Document

namespace Key

/-- The name of the member that an entry becomes. -/
def memberName : Key → String
  | string s => s
  | k => k.shown

end Key

def Document.members : List (String × Except String Document) →
    Except String (List (String × Document))
  | [] => .ok []
  | (name, document) :: rest => do
    let d ← document
    let ds ← members rest
    return (name, d) :: ds

namespace Value

variable [HostObjects]

mutual

/-- The document of a value, or the reason why there is none. -/
def document : Value → Except String Document
  | bool b => .ok (.bool b)
  | int i => .ok (.integer i.toInt)
  | uint u => .ok (.integer u.toNat)
  | double d => .ok (.double d)
  | string s => .ok (.string s)
  | bytes b => .ok (.array (b.data.toList.map fun x => .integer x.toNat))
  | null => .ok .null
  | duration d => .ok (.string d.text)
  | timestamp t => .ok (.string t.text)
  | list items => (itemDocuments items).map .array
  | map ⟨keys, index, inStep, values⟩ =>
    let each : Entries (Except String Document) :=
      ⟨keys, index, inStep, fun i => document (values i)⟩
    (Document.members (each.toList.map fun (k, d) => (k.memberName, d))).map .object
  | type t => .ok (.string t.name)
  | object .record _ fields => (Document.members (fieldDocuments fields)).map .object
  | object .host t state =>
    let written := (fieldDocuments state).filter fun (name, _) => HostObjects.isWritten t name
    (Document.members written).map .object
  | error e => .error ("cannot serialize error: " ++ e.shown)
  | unknown s => .error ("cannot serialize " ++ s.shown)
termination_by structural v => v

def itemDocuments : List Value → Except String (List Document)
  | [] => .ok []
  | v :: rest => do
    let d ← document v
    let ds ← itemDocuments rest
    return d :: ds
termination_by structural items => items

def fieldDocuments : List (String × Value) → List (String × Except String Document)
  | [] => []
  | (name, v) :: rest => (name, document v) :: fieldDocuments rest
termination_by structural fields => fields

end

end Value

end ExprEngine
