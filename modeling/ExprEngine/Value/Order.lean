import ExprEngine.Value.Basic

/-!
# Order

Values of one comparable type are ordered; a NaN is not.
-/

namespace ExprEngine.Value

/-- Three-way comparison of two values of one type, or the error instead. -/
def order (a b : Value) : Except Value Ordering :=
  match a, b with
  | bool a, bool b => .ok (compare a b)
  | int a, int b => .ok (compare a.toInt b.toInt)
  | uint a, uint b => .ok (compare a.toNat b.toNat)
  | double a, double b =>
    match a.compare? b with
    | some o => .ok o
    | none => .error (failure .invalidArgument "NaN values cannot be ordered")
  | string a, string b => .ok (compare a b)
  | bytes a, bytes b =>
    .ok (compare (a.data.toList.map UInt8.toNat) (b.data.toList.map UInt8.toNat))
  | duration a, duration b => .ok (compare a.nanos b.nanos)
  | timestamp a, timestamp b => .ok (a.compare b)
  | a, b => .error (noSuchOverload "compare" [a, b])

def ofOrdering : Ordering → Value
  | .lt => int (-1)
  | .eq => int 0
  | .gt => int 1

def compare (a b : Value) : Value :=
  strict [a, b] <|
    match order a b with
    | .ok o => ofOrdering o
    | .error e => e

end ExprEngine.Value
