import ExprEngine.Proofs.Time.Denotation

/-!
# The text of a duration

A duration is written as one part in seconds, whose fraction has no zeros at its end. Its text
denotes it, if its nanoseconds fit a word, and otherwise nothing.
-/

namespace ExprEngine

namespace Time.Duration

open Text Number

/-! ### Fractions of a second -/

theorem toList_padded (width n : Nat) :
    (padded width n).toList =
      List.replicate (width - (Nat.toDigits 10 n).length) '0' ++ Nat.toDigits 10 n := by
  simp [padded]

theorem exists_zeros (n : Nat) :
    ∃ k, (padded 9 n).toList = (fractionDigits n).toList ++ List.replicate k '0' := by
  have zeros : ∀ c ∈ (padded 9 n).toList.reverse.takeWhile (· = '0'), c = '0' :=
    fun c listed => by simpa using List.mem_takeWhile_imp listed
  refine ⟨((padded 9 n).toList.reverse.takeWhile (· = '0')).length, ?_⟩
  rw [fractionDigits, String.toList_ofList, ← List.reverse_replicate,
    ← List.eq_replicate_of_mem zeros, ← List.reverse_append, List.takeWhile_append_dropWhile,
    List.reverse_reverse]

theorem length_padded {n : Nat} (small : n < 10 ^ 9) : (padded 9 n).toList.length = 9 := by
  have short := (Nat.length_toDigits_le_iff (by decide) (by decide)).mpr small
  rw [toList_padded, List.length_append, List.length_replicate]
  omega

theorem digits_padded (width n : Nat) : ∀ c ∈ (padded width n).toList, c.isDigit = true := by
  intro c listed
  rw [toList_padded, List.mem_append, List.mem_replicate] at listed
  rcases listed with ⟨-, rfl⟩ | listed
  · decide
  · exact Nat.isDigit_of_mem_toDigits (by decide) (by decide) listed

theorem value_padded (width n : Nat) : Nat.ofDigitChars 10 (padded width n).toList 0 = n := by
  rw [toList_padded, Nat.ofDigitChars_append, Nat.ofDigitChars_replicate_zero, Nat.mul_zero,
    Nat.ofDigitChars_ten_toDigits]

/-- The digits of a fraction count, by their number, for the nanoseconds. -/
theorem fractionDigits_spec {n : Nat} (positive : 0 < n) (small : n < 10 ^ 9) :
    (fractionDigits n).toList ≠ [] ∧ (∀ c ∈ (fractionDigits n).toList, c.isDigit = true) ∧
      (fractionDigits n).toList.length ≤ 9 ∧
      Nat.ofDigitChars 10 (fractionDigits n).toList 0 * 10 ^ 9 =
        n * 10 ^ (fractionDigits n).toList.length := by
  obtain ⟨k, filled⟩ := exists_zeros n
  have length := length_padded small
  have digits := digits_padded 9 n
  have value := value_padded 9 n
  rw [filled] at length digits value
  rw [Nat.ofDigitChars_append, Nat.ofDigitChars_replicate_zero] at value
  rw [List.length_append, List.length_replicate] at length
  refine ⟨?_, fun c listed => digits c (List.mem_append_left _ listed), by omega, ?_⟩
  · intro none
    rw [none, Nat.ofDigitChars_nil, Nat.mul_zero] at value
    omega
  · calc Nat.ofDigitChars 10 (fractionDigits n).toList 0 * 10 ^ 9
        = Nat.ofDigitChars 10 (fractionDigits n).toList 0 *
            (10 ^ (fractionDigits n).toList.length * 10 ^ k) := by rw [← Nat.pow_add, length]
      _ = 10 ^ k * Nat.ofDigitChars 10 (fractionDigits n).toList 0 *
            10 ^ (fractionDigits n).toList.length := by ring
      _ = n * 10 ^ (fractionDigits n).toList.length := by rw [value]

/-! ### The part of a text -/

def secondsPart (d : Duration) : Part where
  whole := Nat.toDigits 10 (d.nanos.natAbs / 1000000000)
  fraction :=
    if d.nanos.natAbs % 1000000000 = 0 then []
    else (fractionDigits (d.nanos.natAbs % 1000000000)).toList
  unit := 1000000000

def secondsText (d : Duration) : List Char :=
  d.secondsPart.whole ++
    (if d.nanos.natAbs % 1000000000 = 0 then [] else '.' :: d.secondsPart.fraction) ++ ['s']

theorem fraction_secondsPart (d : Duration) :
    (∀ c ∈ d.secondsPart.fraction, c.isDigit = true) ∧ d.secondsPart.fraction.length ≤ 9 ∧
      Nat.ofDigitChars 10 d.secondsPart.fraction 0 * 1000000000 =
        d.nanos.natAbs % 1000000000 * 10 ^ d.secondsPart.fraction.length := by
  rw [secondsPart]
  dsimp only
  split
  next none => simp [none]
  next some_nanos =>
    obtain ⟨-, digits, short, value⟩ :=
      fractionDigits_spec (Nat.pos_of_ne_zero some_nanos) (Nat.mod_lt _ (by decide))
    exact ⟨digits, short, value⟩

theorem readable_secondsPart (d : Duration) : d.secondsPart.Readable :=
  ⟨fun _ listed => Nat.isDigit_of_mem_toDigits (by decide) (by decide) listed,
    fun c taken => d.fraction_secondsPart.1 c (List.mem_of_mem_take taken)⟩

theorem nanos_secondsPart (d : Duration) : d.secondsPart.nanos = d.nanos.natAbs := by
  obtain ⟨-, short, value⟩ := d.fraction_secondsPart
  have taken : d.secondsPart.fraction.take 18 = d.secondsPart.fraction :=
    List.take_of_length_le (short.trans (by decide))
  have whole : d.secondsPart.wholeNanos = d.nanos.natAbs / 1000000000 * 1000000000 :=
    congrArg (· * 1000000000) Nat.ofDigitChars_ten_toDigits
  rw [Part.nanos, taken, whole, show d.secondsPart.unit = 1000000000 from rfl, value,
    Nat.mul_div_cancel _ (Nat.pow_pos (by decide)), Nat.div_add_mod']

theorem spelled_secondsPart (d : Duration) : d.secondsPart.Spelled d.secondsText where
  whole _ listed :=
    isDigit_of_ascii (Nat.isDigit_of_mem_toDigits (by decide) (by decide) listed)
  fraction c listed := isDigit_of_ascii (d.fraction_secondsPart.1 c listed)
  number := .inl Nat.toDigits_ne_nil
  unit := by
    refine ⟨['s'], by simp [units, secondsPart], ?_⟩
    rw [secondsText]
    split
    next none => exact .inr ⟨by rw [secondsPart, if_pos none], by simp⟩
    next => exact .inl rfl

theorem toList_text (d : Duration) :
    d.text.toList = (if d.nanos < 0 then ['-'] else []) ++ d.secondsText := by
  have seconds : d.seconds.natAbs = d.nanos.natAbs / 1000000000 := Int.natAbs_tdiv _ _
  have subsecond : d.subsecond.natAbs = d.nanos.natAbs % 1000000000 := Int.natAbs_tmod _ _
  have none : d.subsecond = 0 ↔ d.nanos.natAbs % 1000000000 = 0 := by
    rw [← Int.natAbs_eq_zero, subsecond]
  rw [text, secondsText]
  by_cases whole : d.subsecond = 0
  · have sum : perSecond * d.seconds + d.subsecond = d.nanos := Int.mul_tdiv_add_tmod _ _
    have sign : d.seconds < 0 ↔ d.nanos < 0 := by
      rw [whole, perSecond] at sum
      omega
    rw [if_pos whole, if_pos (none.mp whole), String.toList_append, toList_toString, seconds]
    simp [sign, secondsPart]
  · rw [if_neg whole, if_neg (none.not.mp whole), subsecond, seconds]
    by_cases negative : d.nanos < 0 <;>
      simp [negative, secondsPart, none.not.mp whole]

/-! ### Reading a text back -/

theorem signed_text (d : Duration) :
    ∃ sign, Signed d.text.toList sign d.secondsText ∧ sign * d.nanos.natAbs = d.nanos := by
  rw [toList_text]
  by_cases negative : d.nanos < 0
  · rw [if_pos negative]
    exact ⟨-1, .minus _, by omega⟩
  · have digit : ∀ c ∈ d.secondsText.head?, c.isDigit = true := by
      obtain ⟨c, more, digits⟩ := List.exists_cons_of_ne_nil
        (Nat.toDigits_ne_nil (n := d.nanos.natAbs / 1000000000) (b := 10))
      have listed : c ∈ Nat.toDigits 10 (d.nanos.natAbs / 1000000000) := by simp [digits]
      rw [secondsText, secondsPart]
      simpa [digits] using Nat.isDigit_of_mem_toDigits (by decide) (by decide) listed
    rw [if_neg negative]
    refine ⟨1, .bare _ (fun minus => ?_) (fun plus => ?_), by omega⟩
    · exact absurd (digit _ minus) (by decide)
    · exact absurd (digit _ plus) (by decide)

theorem read_text (d : Duration) : read d.text = ofWord d.nanos := by
  obtain ⟨sign, signed, value⟩ := d.signed_text
  have written : Written [d.secondsPart] (d.secondsText ++ []) := .cons d.spelled_secondsPart .nil
  rw [List.append_nil] at written
  have body : readBody d.secondsText = bounded d.nanos.natAbs := by
    rw [readBody_of_written (by simp) written, List.foldlM_cons,
      Part.addTo_of_readable d.spelled_secondsPart.unit_pos d.readable_secondsPart,
      nanos_secondsPart, Nat.zero_add]
    cases bounded d.nanos.natAbs <;> rfl
  rw [read_signed signed, body]
  by_cases fits : d.nanos.natAbs < sumLimit
  · rw [show bounded d.nanos.natAbs = .ok d.nanos.natAbs from if_pos fits]
    exact congrArg ofWord value
  · have beyond : ¬d.FitsWord := by
      have word : (0x8000000000000000 : Nat) < sumLimit := by decide
      rw [FitsWord]
      omega
    rw [show bounded d.nanos.natAbs = .error .malformed from if_neg fits,
      ofWord_of_not_fitsWord beyond]
    rfl

end Time.Duration

namespace Value

open Time Duration

/-- The text of a duration converts back to the duration if its nanoseconds fit a word; otherwise
the conversion is not supported. -/
theorem duration_text_round_trip (d : Duration) :
    (duration d).convert .string = .ok (string d.text) ∧
    (d.FitsWord ∧ (string d.text).convert .duration = .ok (duration d) ∨
      ¬d.FitsWord ∧
        (string d.text).convert .duration = .ok (conversionError .string .duration)) := by
  refine ⟨rfl, ?_⟩
  rw [convert_duration, read_text]
  by_cases fits : d.FitsWord
  · exact .inl ⟨fits, by rw [ofWord_of_fitsWord fits]⟩
  · exact .inr ⟨fits, by rw [ofWord_of_not_fitsWord fits]⟩

end Value

end ExprEngine
