import ExprEngine.Text.CodePoints

/-!
# Ranges of bytes

A set of characters as sequences of byte ranges: the bytes of each character lie in the ranges of
exactly one sequence, and every choice of bytes from its ranges is a character of the set.
-/

namespace ExprEngine.Text

abbrev ByteRange := Nat × Nat

def bytesOf (n : Nat) : List Nat := (String.utf8EncodeChar (Char.ofNat n)).map UInt8.toNat

/-- Cuts `low` to `high` where the number of bytes changes, and then where the last `width` of
them do not run through all their values. -/
def byteSequences : Nat → Nat → Nat → List (List ByteRange)
  | 0, _, _ => []
  | fuel + 1, low, high =>
    if high < low then []
    else match [0x7F, 0x7FF, 0xFFFF].find? fun last => low ≤ last && last < high with
    | some last => byteSequences fuel low last ++ byteSequences fuel (last + 1) high
    | none =>
      if high ≤ 0x7F then [[(low, high)]]
      else match [0x40, 0x1000, 0x40000].find? fun block =>
          low / block ≠ high / block && (low % block ≠ 0 || high % block ≠ block - 1) with
      | some block =>
        let cut := if low % block ≠ 0 then low - low % block + block else high - high % block
        byteSequences fuel low (cut - 1) ++ byteSequences fuel cut high
      | none => [(bytesOf low).zip (bytesOf high)]

/-- The sequences of a set of characters. No interval is cut more often than its size allows. -/
def CodePoints.byteSequences (s : CodePoints) : List (List ByteRange) :=
  s.intervals.flatMap fun (low, high) => Text.byteSequences 16 low (high - 1)

end ExprEngine.Text
