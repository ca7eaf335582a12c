import ExprEngine.Number.Double

/-!
# The nearest double

Every fraction has a nearest double; of two that are equally near, the one with the even
significand is taken. The spacing of doubles near a fraction is a power of two, and a fraction
of `m` spacings at exponent `e` is the double of magnitude `(e + 1074) * 2 ^ 52 + m`.
-/

namespace ExprEngine.Number

/-- `num / den` rounded to the nearest integer, a half to the even one. -/
def roundHalfEven (num den : Nat) : Nat :=
  let q := num / den
  let r := num % den
  if 2 * r < den ∨ (2 * r = den ∧ q % 2 = 0) then q else q + 1

def inUnits (num den : Nat) (e : Int) : Nat × Nat :=
  if 0 ≤ e then (num, den * Nat.pow 2 e.toNat) else (num * Nat.pow 2 (-e).toNat, den)

/-- The exponent of the spacing of doubles around `num / den`. -/
def spacing (num den : Nat) : Int :=
  let guess : Int := num.log2 - den.log2 - 53
  let (n, d) := inUnits num den guess
  max (-1074) (if n / d < 0x20000000000000 then guess else guess + 1)

namespace Double

/-- The double nearest to `num / den`, or an infinity beyond the largest. -/
def ofFraction (negative : Bool) (num den : Nat) : Double :=
  if num = 0 then ofMagnitude negative 0
  else
    let e := spacing num den
    let (n, d) := inUnits num den e
    ofMagnitude negative
      (min infiniteMagnitude ((e + 1074).toNat * 0x10000000000000 + roundHalfEven n d))

def ofInt (n : Int) : Double := ofFraction (n < 0) n.natAbs 1

end Double

end ExprEngine.Number
