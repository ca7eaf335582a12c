import ExprEngine.Time.Zone
import ExprEngine.Value.Access

/-!
# Methods of values

Strings are searched, times answer for their fields, and the host answers for its objects. The
reading of a time zone can panic.
-/

namespace ExprEngine.Value

open Time

variable [HostObjects]

def occursIn (part : List Char) : List Char → Bool
  | [] => part.isEmpty
  | c :: rest => part.isPrefixOf (c :: rest) || occursIn part rest

def stringMethod? (s part : String) (function : String) : Option Value :=
  match function with
  | "contains" => some (bool (occursIn part.toList s.toList))
  | "startsWith" => some (bool (part.toList.isPrefixOf s.toList))
  | "endsWith" => some (bool (part.toList.isSuffixOf s.toList))
  | _ => none

def overflowPanic : Overflow → Panic
  | .add => ⟨"attempt to add with overflow"⟩
  | .multiply => ⟨"attempt to multiply with overflow"⟩

/-- A field of a timestamp in universal time or in a zone. The zone is read before the name. -/
def timestampMethod? (t : Timestamp) (function : String) (args : List Value) :
    Except Panic (Option Value) :=
  let answer (offset : Int) : Option Value :=
    (Timestamp.Field.ofName? function).map fun f => int (Int64.ofInt (t.field offset f))
  match args with
  | [] => .ok (answer 0)
  | [string zone] =>
    match zoneOffset? zone with
    | .ok (some offset) => .ok (answer offset)
    | .ok none =>
      .ok (some (failure .invalidArgument ("unsupported time zone '" ++ zone ++ "'")))
    | .error overflow => .error (overflowPanic overflow)
  | _ => .ok none

def durationMethod? (d : Duration) (function : String) : Option Value :=
  match function with
  | "getHours" => some (int (Int64.ofInt d.hours))
  | "getMinutes" => some (int (Int64.ofInt d.minutes))
  | "getSeconds" => some (int (Int64.ofInt d.seconds))
  | "getMilliseconds" => some (int (Int64.ofInt d.milliseconds))
  | _ => none

def method? (v : Value) (function : String) (args : List Value) : Except Panic (Option Value) :=
  match v, args with
  | string s, [string part] => .ok (stringMethod? s part function)
  | timestamp t, args => timestampMethod? t function args
  | duration d, [] => .ok (durationMethod? d function)
  | object .host t state, args => .ok (HostObjects.receive? t state function args)
  | _, _ => .ok none

/-- `v.function(args)`, for values whose type receives calls. -/
def receive (v : Value) (function : String) (args : List Value) : Except Panic Value :=
  match propagate (v :: args) with
  | some failed => .ok failed
  | none =>
    if v.valueType.hasTrait .receiver then
      (v.method? function args).map (·.getD (noSuchOverload function (v :: args)))
    else .ok (noSuchOverload function (v :: args))

end ExprEngine.Value
