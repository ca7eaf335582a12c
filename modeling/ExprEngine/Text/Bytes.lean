/-!
# Bytes as text

Reading bytes as UTF-8 when some may be broken: every longest beginning of a character that
is not continued, and every byte that begins none, is replaced by U+FFFD.
-/

namespace ExprEngine.Text

/-- A character some of whose bytes have been read; the next lies in `low` to `high`. -/
structure Partial where
  code : Nat
  missing : Nat
  low : UInt8
  high : UInt8

structure Decoding where
  read : List Char := []
  current : Option Partial := none

namespace Decoding

def replacement : Char := '\uFFFD'

def start (d : Decoding) (b : UInt8) : Decoding :=
  let opening (code missing : Nat) (low high : UInt8) : Decoding :=
    { d with current := some ⟨code, missing, low, high⟩ }
  if b < 0x80 then { d with read := Char.ofNat b.toNat :: d.read, current := none }
  else if b < 0xC2 then { d with read := replacement :: d.read, current := none }
  else if b < 0xE0 then opening (b.toNat - 0xC0) 1 0x80 0xBF
  else if b < 0xF0 then
    opening (b.toNat - 0xE0) 2 (if b == 0xE0 then 0xA0 else 0x80) (if b == 0xED then 0x9F else 0xBF)
  else if b < 0xF5 then
    opening (b.toNat - 0xF0) 3 (if b == 0xF0 then 0x90 else 0x80) (if b == 0xF4 then 0x8F else 0xBF)
  else { d with read := replacement :: d.read, current := none }

def step (d : Decoding) (b : UInt8) : Decoding :=
  match d.current with
  | none => d.start b
  | some p =>
    if p.low ≤ b && b ≤ p.high then
      let code := 64 * p.code + (b.toNat - 0x80)
      if p.missing ≤ 1 then { read := Char.ofNat code :: d.read, current := none }
      else { d with current := some ⟨code, p.missing - 1, 0x80, 0xBF⟩ }
    else start { read := replacement :: d.read, current := none } b

def finish (d : Decoding) : List Char :=
  match d.current with
  | none => d.read.reverse
  | some _ => (replacement :: d.read).reverse

end Decoding

/-- The text of `bytes`, with U+FFFD in place of what is no UTF-8. -/
def ofBytesLossy (bytes : ByteArray) : String :=
  String.ofList (bytes.data.toList.foldl Decoding.step {}).finish

end ExprEngine.Text
