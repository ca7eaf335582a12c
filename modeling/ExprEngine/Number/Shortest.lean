import ExprEngine.Number.Double

/-!
# Shortest decimals

The shortest decimal of a positive double is the one with the fewest digits among those that
are nearer to it than to any other double, and of these the nearest. The candidates with `n`
digits are the two neighbours of the double on the grid of decimals with `n` digits.
-/

namespace ExprEngine.Number

inductive Tie where
  | up
  | even
deriving DecidableEq, Inhabited

/-- The decimal `0.d₁d₂… * 10 ^ (exponent + 1)`; the first digit has weight `10 ^ exponent`. -/
structure Decimal where
  digits : List Char
  exponent : Int
deriving DecidableEq, Inhabited

def digitCount (n : Nat) : Nat := (Nat.toDigits 10 n).length

def leadingExponent (num den : Nat) : Int :=
  if den ≤ num then digitCount (num / den) - 1 else -(digitCount ((den - 1) / num) : Int)

/-- The fractions that are read back as one double. -/
structure Basin where
  low : Nat
  high : Nat
  den : Nat
  closed : Bool

namespace Basin

def contains (b : Basin) (n d : Nat) : Bool :=
  if b.closed then b.low * d ≤ n * b.den && n * b.den ≤ b.high * d
  else b.low * d < n * b.den && n * b.den < b.high * d

end Basin

namespace Double

/-- The value of a finite double in quarters of its spacing, over a common denominator. -/
def quarters (d : Double) : Nat × Nat :=
  if 0 ≤ d.scale then (4 * d.significand * Nat.pow 2 d.scale.toNat, 4)
  else (4 * d.significand, 4 * Nat.pow 2 (-d.scale).toNat)

/-- The basin reaches half way to both neighbours; below a power of two the doubles are
twice as dense. -/
def basin (d : Double) : Basin :=
  let (num, den) := d.quarters
  let quarter := Nat.pow 2 d.scale.toNat
  let below := if d.fractionField = 0 ∧ 1 < d.exponentField then quarter else 2 * quarter
  ⟨num - below, num + 2 * quarter, den, d.significand % 2 = 0⟩

end Double

/-- The decimal with `count` digits nearest to `num / den` that lies in the basin. -/
def candidate? (tie : Tie) (b : Basin) (num den : Nat) (top : Int) (count : Nat) : Option Decimal :=
  let grid := top - count + 1
  let (n, d) := if 0 ≤ grid then (num, den * Nat.pow 10 grid.toNat)
    else (num * Nat.pow 10 (-grid).toNat, den)
  let low := n / d
  let hit (m : Nat) : Bool :=
    if 0 ≤ grid then b.contains (m * Nat.pow 10 grid.toNat) 1
    else b.contains m (Nat.pow 10 (-grid).toNat)
  let upper : Bool :=
    let r := n % d
    if hit low && hit (low + 1) then
      2 * r > d || (2 * r = d && (match tie with | .up => true | .even => low % 2 == 1))
    else hit (low + 1)
  let m := if upper then low + 1 else low
  if hit low || hit (low + 1) then
    let digits := Nat.toDigits 10 m
    some ⟨(digits.reverse.dropWhile (· = '0')).reverse, grid + digits.length - 1⟩
  else none

namespace Double

/-- The shortest decimal of a finite double other than zero, its sign left out. -/
def shortest (tie : Tie) (d : Double) : Decimal :=
  let (num, den) := d.quarters
  let top := leadingExponent num den
  let b := d.basin
  ((List.range 17).findSome? fun i => candidate? tie b num den top (i + 1)).getD ⟨['0'], 0⟩

end Double

end ExprEngine.Number
