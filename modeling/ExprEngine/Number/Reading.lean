import ExprEngine.Number.Checked
import ExprEngine.Number.Rounding

/-!
# Reading doubles

A double is written as an optional sign and a name of infinity, a name of NaN, or digits with
an optional point and an optional exponent. Reading takes the nearest double.
-/

namespace ExprEngine.Number

def spanDigits (cs : List Char) : List Char × List Char := cs.span Char.isDigit

def natOfDigits (digits : List Char) : Nat := digits.foldl (fun n c => 10 * n + (c.toNat - 48)) 0

/-- The number that an exponent's digits write. They stop counting once it is far beyond the
powers of ten among doubles. -/
def exponentOfDigits (digits : List Char) : Nat :=
  digits.foldl (fun n c => if n < 0x10000 then 10 * n + (c.toNat - 48) else n) 0

def readExponentDigits? (cs : List Char) : Option Nat :=
  if !cs.isEmpty && cs.all Char.isDigit then some (exponentOfDigits cs) else none

def readExponent? : List Char → Option Int
  | [] => some 0
  | c :: rest =>
    if c ≠ 'e' ∧ c ≠ 'E' then none
    else match rest with
      | '-' :: digits => (readExponentDigits? digits).map fun n => -(n : Int)
      | '+' :: digits => (readExponentDigits? digits).map Int.ofNat
      | digits => (readExponentDigits? digits).map Int.ofNat

namespace Double

/-- The double nearest to `digits * 10 ^ exponent`. Beyond the range of doubles by more than the
number of digits the result is settled without the power. -/
def ofDecimal (negative : Bool) (digits : List Char) (exponent : Int) : Double :=
  let n := natOfDigits digits
  let top := digitCount n + exponent
  if n = 0 ∨ top < -400 then ofMagnitude negative 0
  else if 400 < top then infinity negative
  else if 0 ≤ exponent then ofFraction negative (n * Nat.pow 10 exponent.toNat) 1
  else ofFraction negative n (Nat.pow 10 (-exponent).toNat)
where
  digitCount (n : Nat) : Nat := (Nat.toDigits 10 n).length

def readMagnitude? (negative : Bool) (cs : List Char) : Option Double :=
  let word := cs.map Char.toLower
  if word = "inf".toList ∨ word = "infinity".toList then some (infinity negative)
  else if word = "nan".toList then some nan
  else
    let (whole, rest) := spanDigits cs
    let (part, rest) := match rest with
      | '.' :: rest => spanDigits rest
      | rest => ([], rest)
    if whole.isEmpty && part.isEmpty then none
    else (readExponent? rest).map fun e => ofDecimal negative (whole ++ part) (e - part.length)

def read? (s : String) : Option Double :=
  match s.toList with
  | '-' :: cs => readMagnitude? true cs
  | '+' :: cs => readMagnitude? false cs
  | cs => readMagnitude? false cs

end Double

end ExprEngine.Number
