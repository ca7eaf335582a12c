/-!
# Doubles

A double is its 64 bits. The bits below the sign, read as a number, put the doubles of one sign
in order, so comparison is a comparison of integers. A finite double denotes
`significand * 2 ^ scale`.
-/

namespace ExprEngine.Number

structure Double where
  bits : UInt64
deriving DecidableEq, Inhabited

namespace Double

/-- The least magnitude that no finite double has. -/
def infiniteMagnitude : Nat := 0x7FF0000000000000

def isNegative (d : Double) : Bool := 0x8000000000000000 ≤ d.bits.toNat

def magnitude (d : Double) : Nat := d.bits.toNat % 0x8000000000000000

def isNaN (d : Double) : Bool := infiniteMagnitude < d.magnitude

def isFinite (d : Double) : Bool := d.magnitude < infiniteMagnitude

def ofMagnitude (negative : Bool) (m : Nat) : Double :=
  ⟨UInt64.ofNat (if negative then m + 0x8000000000000000 else m)⟩

def infinity (negative : Bool) : Double := ofMagnitude negative infiniteMagnitude

def nan : Double := ofMagnitude false 0x7FF8000000000000

/-! ### Order -/

/-- The place of a double in the order; the two zeros share one. -/
def place (d : Double) : Int := if d.isNegative then -(d.magnitude : Int) else d.magnitude

def compare? (a b : Double) : Option Ordering :=
  if a.isNaN || b.isNaN then none else some (compare a.place b.place)

def equal (a b : Double) : Bool := !a.isNaN && !b.isNaN && a.place == b.place

/-! ### Value -/

def exponentField (d : Double) : Nat := d.magnitude / 0x10000000000000

def fractionField (d : Double) : Nat := d.magnitude % 0x10000000000000

def significand (d : Double) : Nat :=
  if d.exponentField = 0 then d.fractionField else d.fractionField + 0x10000000000000

def scale (d : Double) : Int := max d.exponentField 1 - 1075

def shift (n : Nat) (e : Int) : Nat :=
  if 0 ≤ e then n * Nat.pow 2 e.toNat else n / Nat.pow 2 (-e).toNat

/-- The integer part; an infinity counts as `2 ^ 1024`. -/
def truncate (d : Double) : Int :=
  let n : Int := shift d.significand d.scale
  if d.isNegative then -n else n

/-! ### Arithmetic -/

def neg (d : Double) : Double := ⟨d.bits ^^^ 0x8000000000000000⟩

def toFloat (d : Double) : Float := Float.ofBits d.bits

def ofFloat (f : Float) : Double := ⟨f.toBits⟩

def add (a b : Double) : Double := ofFloat (a.toFloat + b.toFloat)

def sub (a b : Double) : Double := ofFloat (a.toFloat - b.toFloat)

def mul (a b : Double) : Double := ofFloat (a.toFloat * b.toFloat)

def div (a b : Double) : Double := ofFloat (a.toFloat / b.toFloat)

end Double

end ExprEngine.Number
