import ExprEngine.Value.Basic

/-!
# Objects of the host

A record answers for its fields. An object of the host has a type and a state of its own, and all
else that is asked of it is for the host to answer.
-/

namespace ExprEngine

/-- How the objects of the host behave, by their type and state. They do not change. -/
class HostObjects where
  get? : ValueType → List (String × Value) → String → Option Value
  isSet (type : ValueType) (state : List (String × Value)) (field : String) : Bool :=
    (get? type state field).isSome
  /-- Whether the object equals another one, which need not be of the host. -/
  equal : ValueType → List (String × Value) → Value → Bool
  /-- The answer to a call of a method; none if there is no such method. -/
  receive? : ValueType → List (String × Value) → String → List Value → Option Value :=
    fun _ _ _ _ => none
  /-- Whether documents show what the state holds under the name. -/
  isWritten : ValueType → String → Bool := fun _ _ => false
  dumped : ValueType → List (String × Value) → String

namespace HostObjects

abbrev silent : HostObjects where
  get? _ _ _ := none
  equal _ _ _ := false
  dumped t _ := t.name

instance : Inhabited HostObjects := ⟨silent⟩

end HostObjects

namespace Value

variable [HostObjects]

/-- A field of an object; the first of that name in a record counts. -/
def field? (v : Value) (name : String) : Option Value :=
  match v with
  | object .record _ fields => fields.lookup name
  | object .host t state => HostObjects.get? t state name
  | _ => none

def isSet (v : Value) (name : String) : Bool :=
  match v with
  | object .record _ fields => (fields.lookup name).isSome
  | object .host t state => HostObjects.isSet t state name
  | _ => false

end Value

end ExprEngine
