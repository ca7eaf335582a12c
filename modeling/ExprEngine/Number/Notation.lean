import ExprEngine.Number.Shortest

/-!
# Decimal notation

A double is written with its shortest digits. Notations differ in where they use an exponent,
in how they mark whole numbers and positive exponents, and in which of two equally near decimals
they take.
-/

namespace ExprEngine.Number

structure DecimalStyle where
  /-- Exponents of the first digit written without an exponent; `none` is all of them. -/
  positional : Option (Int × Int)
  /-- A whole number in positional notation ends in `.0`. -/
  marksWhole : Bool
  /-- A positive exponent has a plus sign. -/
  signsExponent : Bool
  tie : Tie

namespace DecimalStyle

def shown : DecimalStyle := ⟨some (-4, 15), true, false, .up⟩

def plain : DecimalStyle := ⟨none, false, false, .up⟩

def json : DecimalStyle := ⟨some (-5, 15), true, true, .even⟩

end DecimalStyle

namespace Decimal

def positional (d : Decimal) (marksWhole : Bool) : String :=
  let whole := d.exponent + 1
  let (before, after) :=
    if whole ≤ 0 then (['0'], List.replicate (-whole).toNat '0' ++ d.digits)
    else if d.digits.length ≤ whole.toNat then
      (d.digits ++ List.replicate (whole.toNat - d.digits.length) '0', [])
    else d.digits.splitAt whole.toNat
  let after := if after.isEmpty && marksWhole then ['0'] else after
  String.ofList (if after.isEmpty then before else before ++ '.' :: after)

def scientific (d : Decimal) (signsExponent : Bool) : String :=
  let mantissa := match d.digits with
    | [] => ['0']
    | [first] => [first]
    | first :: rest => first :: '.' :: rest
  String.ofList mantissa ++ "e" ++ (if signsExponent && 0 ≤ d.exponent then "+" else "")
    ++ toString d.exponent

end Decimal

namespace Double

def writeMagnitude (style : DecimalStyle) (d : Double) : String :=
  let decimal := if d.magnitude = 0 then ⟨['0'], 0⟩ else d.shortest style.tie
  match style.positional with
  | none => decimal.positional style.marksWhole
  | some (least, most) =>
    if least ≤ decimal.exponent ∧ decimal.exponent ≤ most then
      decimal.positional style.marksWhole
    else decimal.scientific style.signsExponent

def write (style : DecimalStyle) (d : Double) : String :=
  if d.isNaN then "NaN"
  else (if d.isNegative then "-" else "") ++
    if d.isFinite then d.writeMagnitude style else "inf"

end Double

end ExprEngine.Number
