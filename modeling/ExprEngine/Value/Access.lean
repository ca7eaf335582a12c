import ExprEngine.Value.Equality
import ExprEngine.Value.Arithmetic

/-!
# Parts of values

Indexing, selection, presence, size, membership and iteration of lists, maps and objects.
-/

namespace ExprEngine.Value

variable [HostObjects]

/-- The item at `index`; a negative index counts from the end. -/
def itemAt? (items : List Value) (index : Int) : Option Value :=
  let place := if index < 0 then index + items.length else index
  if 0 ≤ place then items[place.toNat]? else none

def itemAt (items : List Value) (index : Int) : Value :=
  (itemAt? items index).getD (indexOutOfBounds index)

def entryAt (entries : Entries Value) (key : Key) : Value :=
  (entries.get? key).getD (noSuchKey key)

def index (v key : Value) : Value :=
  strict [v, key] <|
    match v, key with
    | list items, int i => itemAt items i.toInt
    | list items, uint u => itemAt items u.toNat
    | map entries, key =>
      match Key.ofValue? key with
      | some k => entryAt entries k
      | none => noSuchOverload "_[_]" [map entries, key]
    | object origin t fields, string name =>
      ((object origin t fields).field? name).getD (noSuchField name)
    | v, key => noSuchOverload "_[_]" [v, key]

def indexKey (v : Value) (key : Key) : Value :=
  match v with
  | map entries => entryAt entries key
  | v => v.index key.toValue

def selectField (v : Value) (field : Key) : Value :=
  strict [v] <|
    match v, field with
    | map entries, field => entryAt entries field
    | object origin t fields, .string name =>
      ((object origin t fields).field? name).getD (noSuchField name)
    | v, _ => failure .noSuchField
      ("type '" ++ v.valueType.name ++ "' does not support field selection")

def hasField (v : Value) (field : String) : Value :=
  strict [v] <|
    match v with
    | map entries => bool (entries.contains (.string field))
    | object origin t fields => bool ((object origin t fields).isSet field)
    | v => noSuchOverload "has" [v]

def size (v : Value) : Value :=
  strict [v] <|
    match v with
    | string s => ofSigned (Number.signed? s.length)
    | bytes b => ofSigned (Number.signed? b.size)
    | list items => ofSigned (Number.signed? items.length)
    | map entries => ofSigned (Number.signed? entries.size)
    | v => noSuchOverload "size" [v]

/-- Whether some item equals `elem`; a failure counts only when no item does. -/
def memberAmong (elem : Value) : List Value → Option Value → Value
  | [], failure => failure.getD (bool false)
  | item :: rest, failure =>
    match item.equal elem with
    | bool true => bool true
    | bool false => memberAmong elem rest failure
    | other => memberAmong elem rest (failure.or (some other))

def contains (v elem : Value) : Value :=
  strict [v, elem] <|
    match v with
    | list items => memberAmong elem items none
    | map entries =>
      bool (match Key.ofValue? elem with
        | some k => entries.contains k
        | none => false)
    | v => noSuchOverload "@in" [elem, v]

def elements? : Value → Option (List Value)
  | list items => some items
  | map entries => some (entries.keys.map Key.toValue)
  | _ => none

def elementCount? (v : Value) : Option Nat := v.elements?.map List.length

end ExprEngine.Value
