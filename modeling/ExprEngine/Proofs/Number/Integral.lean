import ExprEngine.Value.Conversion
import Mathlib.Algebra.Order.Field.Power
import Mathlib.Algebra.Order.Ring.Rat
import Mathlib.Tactic.FieldSimp
import Mathlib.Tactic.Linarith
import Mathlib.Tactic.Positivity
import Mathlib.Tactic.Ring

/-!
# Integers as doubles

The double nearest to an integer keeps the first 53 bits of it. It is the integer itself just when
the other bits are zero, which is when the integer has a double at all. The conversion back returns
every such integer but the least one, whose double counts as out of range.
-/

namespace ExprEngine

namespace Number.Double

/-- The number that a finite double denotes. -/
def value (d : Double) : ℚ :=
  (if d.isNegative then -1 else 1) * (d.significand * (2 : ℚ) ^ d.scale)

def Representable (n : Int) : Prop := ∃ d : Double, d.isFinite = true ∧ d.value = n

/-! ### Integer parts -/

theorem shift_of_whole {n k : Nat} {e : Int} (whole : (n : ℚ) * 2 ^ e = k) : shift n e = k := by
  rw [shift]
  split
  next up =>
    obtain ⟨m, rfl⟩ := Int.eq_ofNat_of_zero_le up
    rw [zpow_natCast] at whole
    exact_mod_cast whole
  next down =>
    obtain ⟨m, rfl⟩ : ∃ m : Nat, e = -(m : Int) := ⟨(-e).toNat, by omega⟩
    have scaled : n = k * 2 ^ m := by
      rw [zpow_neg, zpow_natCast, ← div_eq_mul_inv, div_eq_iff (by positivity)] at whole
      exact_mod_cast whole
    rw [neg_neg, Int.toNat_natCast, scaled]
    exact Nat.mul_div_cancel k (Nat.two_pow_pos m)

theorem abs_value (d : Double) : |d.value| = d.significand * (2 : ℚ) ^ d.scale := by
  have positive : (0 : ℚ) ≤ d.significand * 2 ^ d.scale := by positivity
  rw [value, abs_mul, abs_of_nonneg positive]
  split <;> simp

theorem truncate_of_whole {d : Double} {k : Int} (whole : d.value = k) : d.truncate = k := by
  have magnitude : (d.significand : ℚ) * 2 ^ d.scale = k.natAbs := by
    rw [← abs_value, whole, Nat.cast_natAbs, Int.cast_abs]
  rw [truncate, shift_of_whole magnitude]
  rw [value, magnitude, ← Int.cast_natCast] at whole
  split at whole
  next negative =>
    rw [if_pos negative]
    have : -1 * (k.natAbs : Int) = k := by exact_mod_cast whole
    omega
  next positive =>
    rw [if_neg positive]
    have : 1 * (k.natAbs : Int) = k := by exact_mod_cast whole
    omega

/-! ### Fields -/

theorem significand_lt (d : Double) : d.significand < 2 ^ 53 := by
  have : d.fractionField < 2 ^ 52 := Nat.mod_lt _ (by decide)
  rw [significand]
  split <;> omega

theorem isNaN_of_isFinite {d : Double} (finite : d.isFinite = true) : d.isNaN = false := by
  rw [isFinite, decide_eq_true_eq] at finite
  rw [isNaN, decide_eq_false_iff_not]
  exact Nat.not_lt.mpr finite.le

section OfMagnitude

variable {negative : Bool} {m : Nat}

theorem toNat_ofMagnitude (fits : m < 2 ^ 63) :
    (ofMagnitude negative m).bits.toNat = if negative then m + 2 ^ 63 else m := by
  rw [ofMagnitude, UInt64.toNat_ofNat']
  exact Nat.mod_eq_of_lt (by split <;> omega)

theorem magnitude_ofMagnitude (fits : m < 2 ^ 63) : (ofMagnitude negative m).magnitude = m := by
  rw [magnitude, toNat_ofMagnitude fits]
  cases negative <;> simp <;> omega

theorem isNegative_ofMagnitude (fits : m < 2 ^ 63) :
    (ofMagnitude negative m).isNegative = negative := by
  rw [isNegative, toNat_ofMagnitude fits]
  cases negative with
  | true => simp
  | false => simpa using fits

theorem isFinite_ofMagnitude (finite : m < infiniteMagnitude) :
    (ofMagnitude negative m).isFinite = true := by
  have fits : m < 2 ^ 63 := finite.trans (by decide)
  rw [isFinite, magnitude_ofMagnitude fits, decide_eq_true finite]

theorem value_ofMagnitude {e q : Nat} (low : 2 ^ 52 ≤ q) (high : q ≤ 2 ^ 53)
    (finite : e * 2 ^ 52 + q < infiniteMagnitude) :
    (ofMagnitude negative (e * 2 ^ 52 + q)).value =
      (if negative then -1 else 1) * (q * (2 : ℚ) ^ ((e : Int) - 1074)) := by
  have fits : e * 2 ^ 52 + q < 2 ^ 63 := finite.trans (by decide)
  rw [value, isNegative_ofMagnitude fits]
  congr 1
  rcases Nat.lt_or_eq_of_le high with short | rfl
  · have exponent : (ofMagnitude negative (e * 2 ^ 52 + q)).exponentField = e + 1 := by
      rw [exponentField, magnitude_ofMagnitude fits]
      omega
    have fraction : (ofMagnitude negative (e * 2 ^ 52 + q)).fractionField = q - 2 ^ 52 := by
      rw [fractionField, magnitude_ofMagnitude fits]
      omega
    rw [significand, scale, exponent, fraction, if_neg (Nat.succ_ne_zero e)]
    congr 2 <;> omega
  · -- The rounding has carried into the exponent.
    have exponent : (ofMagnitude negative (e * 2 ^ 52 + 2 ^ 53)).exponentField = e + 2 := by
      rw [exponentField, magnitude_ofMagnitude fits]
      omega
    have fraction : (ofMagnitude negative (e * 2 ^ 52 + 2 ^ 53)).fractionField = 0 := by
      rw [fractionField, magnitude_ofMagnitude fits]
      omega
    have next : (max (e + 2) 1 : Nat) - 1075 = (e - 1074 : Int) + 1 := by omega
    rw [significand, scale, exponent, fraction, if_neg (Nat.succ_ne_zero _), next,
      zpow_add_one₀ two_ne_zero]
    push_cast
    ring

end OfMagnitude

/-! ### Rounding -/

theorem roundHalfEven_mul (n : Nat) {den : Nat} (positive : 0 < den) :
    roundHalfEven (n * den) den = n := by
  rw [roundHalfEven, Nat.mul_div_cancel n positive, Nat.mul_mod_left]
  exact if_pos (.inl positive)

theorem roundHalfEven_cases (num den : Nat) :
    roundHalfEven num den = num / den ∨ roundHalfEven num den = num / den + 1 := by
  rw [roundHalfEven]
  split
  next => exact .inl rfl
  next => exact .inr rfl

theorem inUnits_log2 {n : Nat} (positive : n ≠ 0) (k : Nat) :
    2 ^ k ≤ (inUnits n 1 (n.log2 - k)).1 / (inUnits n 1 (n.log2 - k)).2 ∧
      (inUnits n 1 (n.log2 - k)).1 / (inUnits n 1 (n.log2 - k)).2 < 2 ^ (k + 1) := by
  have low : 2 ^ n.log2 ≤ n := Nat.log2_self_le positive
  have high : n < 2 ^ (n.log2 + 1) := Nat.lt_log2_self
  rw [inUnits]
  split
  next long =>
    obtain ⟨m, same⟩ : ∃ m, n.log2 = k + m := Nat.exists_eq_add_of_le (by omega)
    rw [same] at low high ⊢
    have spare : ((k + m : Nat) - k : Int).toNat = m := by omega
    rw [spare, Nat.one_mul, Nat.pow_eq, Nat.le_div_iff_mul_le (by positivity),
      Nat.div_lt_iff_lt_mul (by positivity), ← pow_add, ← pow_add]
    exact ⟨low, by rwa [Nat.add_right_comm]⟩
  next short =>
    obtain ⟨m, same⟩ : ∃ m, k = n.log2 + m := Nat.exists_eq_add_of_le (by omega)
    have spare : (-((n.log2 : Int) - k)).toNat = m := by omega
    rw [spare, Nat.div_one, Nat.pow_eq, same, pow_add, Nat.add_right_comm, pow_add]
    exact ⟨Nat.mul_le_mul_right _ low, Nat.mul_lt_mul_of_pos_right high (by positivity)⟩

theorem spacing_one {n : Nat} (positive : n ≠ 0) : spacing n 1 = n.log2 - 52 := by
  obtain ⟨wide, -⟩ := inUnits_log2 positive 53
  rw [Nat.cast_ofNat] at wide
  have guess : (n.log2 : Int) - (Nat.log2 1 : Nat) - 53 = n.log2 - 53 := by
    rw [show Nat.log2 1 = 0 by decide, Nat.cast_zero, sub_zero]
  rw [spacing]
  simp only [guess]
  split
  next narrow => exact absurd narrow (Nat.not_lt.mpr wide)
  next => omega

def leading (n : Nat) : Nat :=
  roundHalfEven (inUnits n 1 (n.log2 - 52)).1 (inUnits n 1 (n.log2 - 52)).2

theorem leading_bounds {n : Nat} (positive : n ≠ 0) :
    2 ^ 52 ≤ leading n ∧ leading n ≤ 2 ^ 53 := by
  obtain ⟨low, high⟩ := inUnits_log2 positive 52
  rw [Nat.cast_ofNat] at low high
  have rounded := roundHalfEven_cases (inUnits n 1 (n.log2 - 52)).1 (inUnits n 1 (n.log2 - 52)).2
  rw [leading]
  omega

/-- Nothing is lost of an integer whose other bits are zero. -/
theorem leading_of_dvd {n : Nat} (zeros : 2 ^ (n.log2 - 52) ∣ n) :
    (leading n : ℚ) * 2 ^ ((n.log2 : Int) - 52) = n := by
  rw [leading, inUnits]
  split
  next long =>
    obtain ⟨m, same⟩ : ∃ m, n.log2 = 52 + m := Nat.exists_eq_add_of_le (by omega)
    have spare : (n.log2 : Int) - 52 = m := by omega
    rw [same, Nat.add_sub_cancel_left] at zeros
    obtain ⟨k, eq⟩ := zeros
    rw [spare, Int.toNat_natCast, Nat.one_mul, Nat.pow_eq, zpow_natCast]
    have rounded : roundHalfEven n (2 ^ m) = k := by
      rw [eq, Nat.mul_comm]
      exact roundHalfEven_mul k (Nat.two_pow_pos m)
    rw [rounded, eq]
    push_cast
    ring
  next short =>
    obtain ⟨m, same⟩ : ∃ m : Nat, (n.log2 : Int) - 52 = -(m : Int) :=
      ⟨52 - n.log2, by omega⟩
    rw [same, neg_neg, Int.toNat_natCast, Nat.pow_eq, zpow_neg, zpow_natCast]
    have rounded : roundHalfEven (n * 2 ^ m) 1 = n * 2 ^ m := by
      simpa using roundHalfEven_mul (n * 2 ^ m) Nat.one_pos
    rw [rounded]
    push_cast
    field_simp

theorem dvd_of_representable {n : Int} (positive : n ≠ 0) (exact : Representable n) :
    2 ^ (n.natAbs.log2 - 52) ∣ n.natAbs := by
  obtain ⟨d, -, whole⟩ := exact
  have magnitude : (d.significand : ℚ) * 2 ^ d.scale = n.natAbs := by
    rw [← abs_value, whole, Nat.cast_natAbs, Int.cast_abs]
  rcases Nat.le_total n.natAbs.log2 52 with short | long
  · rw [Nat.sub_eq_zero_of_le short]
    exact one_dvd _
  obtain ⟨m, same⟩ := Nat.exists_eq_add_of_le long
  rw [same, Nat.add_sub_cancel_left]
  rcases lt_or_ge d.scale (m : Int) with fine | coarse
  · have low : 2 ^ (52 + m) ≤ n.natAbs := same ▸ Nat.log2_self_le (Int.natAbs_ne_zero.mpr positive)
    have high : (n.natAbs : ℚ) < 2 ^ (52 + m) := by
      calc (n.natAbs : ℚ) = d.significand * 2 ^ d.scale := magnitude.symm
        _ < 2 ^ 53 * 2 ^ d.scale :=
          mul_lt_mul_of_pos_right (by exact_mod_cast d.significand_lt) (by positivity)
        _ ≤ 2 ^ 53 * 2 ^ ((m : Int) - 1) :=
          mul_le_mul_of_nonneg_left (zpow_le_zpow_right₀ one_le_two (by omega)) (by positivity)
        _ = 2 ^ (52 + m) := by
          rw [zpow_sub_one₀ two_ne_zero, zpow_natCast, pow_add]
          ring
    exact absurd low (Nat.not_le.mpr (by exact_mod_cast high))
  · obtain ⟨j, scaled⟩ : ∃ j : Nat, d.scale = ((m + j : Nat) : Int) :=
      ⟨(d.scale - m).toNat, by omega⟩
    rw [scaled, zpow_natCast] at magnitude
    have multiple : d.significand * 2 ^ (m + j) = n.natAbs := by exact_mod_cast magnitude
    rw [← multiple, pow_add]
    exact ⟨d.significand * 2 ^ j, by ring⟩

theorem ofInt_eq {n : Int} (positive : n ≠ 0) (fits : n.natAbs < 2 ^ 64) :
    (n.natAbs.log2 + 1022) * 2 ^ 52 + leading n.natAbs < infiniteMagnitude ∧
      ofInt n = ofMagnitude (n < 0) ((n.natAbs.log2 + 1022) * 2 ^ 52 + leading n.natAbs) := by
  have nonzero : n.natAbs ≠ 0 := Int.natAbs_ne_zero.mpr positive
  have bits : n.natAbs.log2 < 64 := (Nat.log2_lt nonzero).mpr fits
  have rounded := leading_bounds nonzero
  have finite : (n.natAbs.log2 + 1022) * 2 ^ 52 + leading n.natAbs < infiniteMagnitude := by
    rw [infiniteMagnitude]
    omega
  refine ⟨finite, ?_⟩
  have exponent : ((n.natAbs.log2 : Int) - 52 + 1074).toNat = n.natAbs.log2 + 1022 := by omega
  rw [ofInt, ofFraction, if_neg nonzero, spacing_one nonzero]
  change ofMagnitude _ (min infiniteMagnitude (_ * 2 ^ 52 + leading n.natAbs)) = _
  rw [exponent, Nat.min_eq_right finite.le]

/-- The double of an integer denotes an integer, with the sign and the first bits of the other. -/
theorem value_ofInt {n : Int} (positive : n ≠ 0) (fits : n.natAbs < 2 ^ 64) :
    (ofInt n).value =
      (if n < 0 then -1 else 1) * (leading n.natAbs * (2 : ℚ) ^ ((n.natAbs.log2 : Int) - 52)) := by
  obtain ⟨finite, eq⟩ := ofInt_eq positive fits
  obtain ⟨low, high⟩ := leading_bounds (Int.natAbs_ne_zero.mpr positive)
  have exponent : ((n.natAbs.log2 + 1022 : Nat) : Int) - 1074 = n.natAbs.log2 - 52 := by omega
  rw [eq, value_ofMagnitude low high finite, exponent]
  simp only [decide_eq_true_eq]

theorem value_ofInt_zero : (ofInt 0).value = (0 : Int) := by
  have none : (ofInt 0).significand = 0 := by decide
  rw [value, none, Nat.cast_zero, zero_mul, mul_zero, Int.cast_zero]

theorem isFinite_ofInt {n : Int} (fits : n.natAbs < 2 ^ 64) : (ofInt n).isFinite = true := by
  by_cases positive : n = 0
  · rw [positive]
    decide
  · obtain ⟨finite, eq⟩ := ofInt_eq positive fits
    rw [eq]
    exact isFinite_ofMagnitude finite

theorem value_ofInt_of_dvd {n : Int} (positive : n ≠ 0) (fits : n.natAbs < 2 ^ 64)
    (zeros : 2 ^ (n.natAbs.log2 - 52) ∣ n.natAbs) : (ofInt n).value = n := by
  rw [value_ofInt positive fits, leading_of_dvd zeros, Nat.cast_natAbs]
  split
  next negative => rw [abs_of_neg negative, Int.cast_neg, neg_mul_neg, one_mul]
  next positive => rw [abs_of_nonneg (not_lt.mp positive), one_mul]

theorem representable_iff {n : Int} (fits : n.natAbs < 2 ^ 64) :
    Representable n ↔ (ofInt n).value = n := by
  refine ⟨fun exact => ?_, fun exact => ⟨ofInt n, isFinite_ofInt fits, exact⟩⟩
  by_cases positive : n = 0
  · rw [positive, value_ofInt_zero]
  · exact value_ofInt_of_dvd positive fits (dvd_of_representable positive exact)

theorem value_ofInt_truncate {n : Int} (fits : n.natAbs < 2 ^ 64) :
    (ofInt n).value = (ofInt n).truncate := by
  suffices whole : ∃ k : Int, (ofInt n).value = k by
    obtain ⟨k, eq⟩ := whole
    rw [truncate_of_whole eq, eq]
  by_cases positive : n = 0
  · exact ⟨0, by rw [positive, value_ofInt_zero]⟩
  · rcases Nat.le_total n.natAbs.log2 52 with short | long
    · have zeros : 2 ^ (n.natAbs.log2 - 52) ∣ n.natAbs := by
        rw [Nat.sub_eq_zero_of_le short]
        exact one_dvd _
      exact ⟨n, value_ofInt_of_dvd positive fits zeros⟩
    · obtain ⟨m, same⟩ := Nat.exists_eq_add_of_le long
      have exponent : (n.natAbs.log2 : Int) - 52 = m := by omega
      refine ⟨(if n < 0 then -1 else 1) * (leading n.natAbs * 2 ^ m), ?_⟩
      rw [value_ofInt positive fits, exponent, zpow_natCast]
      push_cast
      rfl

end Number.Double

namespace Value

open Number

theorem convert_int_double (i : Int64) :
    (int i).convert .double = .ok (double (.ofInt i.toInt)) := rfl

theorem convert_double_int (d : Double) :
    (double d).convert .int =
      .ok (((doubleToSigned? d).map int).getD (rangeError (double d) .int)) := rfl

theorem natAbs_toInt_lt (i : Int64) : i.toInt.natAbs < 2 ^ 64 := by
  have low := i.le_toInt
  have high := i.toInt_lt
  omega

/-- The range of the conversion lacks the least integer. -/
theorem convert_finite_int {d : Double} (finite : d.isFinite = true) (i : Int64) :
    (double d).convert .int = .ok (int i) ↔ d.truncate = i.toInt ∧ i ≠ Int64.minValue := by
  have low := i.le_toInt
  have high := i.toInt_lt
  have least : i = Int64.minValue ↔ i.toInt = -2 ^ 63 := by
    rw [← Int64.toInt_inj]
    rfl
  rw [convert_double_int, doubleToSigned?, Double.isNaN_of_isFinite finite, Ne, least]
  split
  next out =>
    have other : ¬(d.truncate = i.toInt ∧ ¬i.toInt = -2 ^ 63) := by
      simp only [Bool.false_eq_true, false_or] at out
      omega
    exact iff_of_false (by simp [rangeError, failure]) other
  next within =>
    simp only [Bool.false_eq_true, false_or, not_or] at within
    have word : Int64.ofInt d.truncate = i ↔ d.truncate = i.toInt := by
      rw [← Int64.toInt_inj, Int64.toInt_ofInt_of_le (by omega) (by omega)]
    simp only [Option.map_some, Option.getD_some, Except.ok.injEq, int.injEq, word]
    omega

/-- An integer is converted to a double that denotes it if any does. The conversion of the double
returns the integer for all of these but the least one. -/
theorem int_double_round_trip (i : Int64) :
    ∃ d : Double, d.isFinite = true ∧ (int i).convert .double = .ok (double d) ∧
      (Double.Representable i.toInt ↔ d.value = i.toInt) ∧
      ((double d).convert .int = .ok (int i) ↔
        Double.Representable i.toInt ∧ i ≠ Int64.minValue) := by
  have fits := natAbs_toInt_lt i
  have finite := Double.isFinite_ofInt fits
  have exact_iff := Double.representable_iff fits
  refine ⟨.ofInt i.toInt, finite, convert_int_double i, exact_iff, ?_⟩
  rw [convert_finite_int finite, exact_iff, Double.value_ofInt_truncate fits, Int.cast_inj]

/-- The least integer has a double, and its double is out of range. -/
theorem leastInt_out_of_range :
    Double.Representable Int64.minValue.toInt ∧
    (int Int64.minValue).convert .double = .ok (double ⟨0xC3E0000000000000⟩) ∧
    (double ⟨0xC3E0000000000000⟩).convert .int =
      .ok (rangeError (double ⟨0xC3E0000000000000⟩) .int) := by
  have fits := natAbs_toInt_lt Int64.minValue
  have zeros : 2 ^ (Int64.minValue.toInt.natAbs.log2 - 52) ∣ Int64.minValue.toInt.natAbs := by
    decide
  have bits : Double.ofInt Int64.minValue.toInt = ⟨0xC3E0000000000000⟩ := by decide +kernel
  have out : doubleToSigned? ⟨0xC3E0000000000000⟩ = none := by decide +kernel
  refine ⟨(Double.representable_iff fits).mpr
    (Double.value_ofInt_of_dvd (by decide) fits zeros), ?_, ?_⟩
  · rw [convert_int_double, bits]
  · rw [convert_double_int, out]
    rfl

end Value

end ExprEngine
