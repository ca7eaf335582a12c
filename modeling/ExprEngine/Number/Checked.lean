/-!
# Machine integers

Signed and unsigned 64-bit words. An operation is done on the integers, and its result becomes
a word where it fits.
-/

namespace ExprEngine.Number

def signed? (n : Int) : Option Int64 :=
  if -0x8000000000000000 ≤ n ∧ n < 0x8000000000000000 then some (Int64.ofInt n) else none

def unsigned? (n : Int) : Option UInt64 :=
  if 0 ≤ n ∧ n < 0x10000000000000000 then some (UInt64.ofNat n.toNat) else none

theorem signed?_eq_none_iff {n : Int} :
    signed? n = none ↔ n < -0x8000000000000000 ∨ 0x8000000000000000 ≤ n := by
  unfold signed?
  split <;> simp <;> omega

theorem signed?_eq_some_iff {n : Int} {i : Int64} : signed? n = some i ↔ i.toInt = n := by
  have low := i.le_toInt
  have high := i.toInt_lt
  unfold signed?
  split
  next fits =>
    rw [Option.some.injEq]
    constructor
    · rintro rfl
      exact Int64.toInt_ofInt_of_le (by simpa using fits.1) (by simpa using fits.2)
    · rintro rfl
      exact Int64.ofInt_toInt i
  next out =>
    refine iff_of_false (by simp) ?_
    rintro rfl
    exact out ⟨by simpa using low, by simpa using high⟩

theorem unsigned?_eq_none_iff {n : Int} : unsigned? n = none ↔ n < 0 ∨ 0x10000000000000000 ≤ n := by
  unfold unsigned?
  split <;> simp <;> omega

theorem unsigned?_eq_some_iff {n : Int} {u : UInt64} :
    unsigned? n = some u ↔ (u.toNat : Int) = n := by
  have high := u.toNat_lt
  unfold unsigned?
  split
  next fits =>
    rw [Option.some.injEq]
    constructor
    · rintro rfl
      have small : n.toNat < UInt64.size := (Int.toNat_lt fits.1).mpr fits.2
      rw [UInt64.toNat_ofNat_of_lt' small, Int.toNat_of_nonneg fits.1]
    · rintro rfl
      exact UInt64.ofNat_toNat
  next out =>
    refine iff_of_false (by simp) ?_
    rintro rfl
    omega

/-- The quotient of `a` by `b` rounded toward zero. -/
def signedQuotient? (a b : Int64) : Option Int64 := signed? (a.toInt.tdiv b.toInt)

/-- The remainder that goes with the quotient, where the quotient exists. -/
def signedRemainder? (a b : Int64) : Option Int64 :=
  (signedQuotient? a b).bind fun _ => signed? (a.toInt.tmod b.toInt)

def ofDigits? (digits : List Char) : Option Nat :=
  if digits.isEmpty then none
  else digits.foldlM (fun n c => if c.isDigit then some (10 * n + (c.toNat - 48)) else none) 0

def readInteger? : List Char → Option Int
  | '-' :: digits => (ofDigits? digits).map fun n => -(n : Int)
  | '+' :: digits => (ofDigits? digits).map Int.ofNat
  | digits => (ofDigits? digits).map Int.ofNat

def readSigned? (s : String) : Option Int64 := (readInteger? s.toList).bind signed?

def readUnsigned? (s : String) : Option UInt64 :=
  if s.toList.head? = some '-' then none else (readInteger? s.toList).bind unsigned?

end ExprEngine.Number
