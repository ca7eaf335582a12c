import ExprEngine.Proofs.Number.Numerals
import ExprEngine.Value.Conversion

/-!
# Conversions that lose nothing

Numbers and truth values are converted to their texts, texts to their bytes, integers between the
signed and the unsigned ones, and seconds to times. Where such a conversion succeeds, the conversion
back returns the value. It fails only where the other type has no such value.
-/

namespace ExprEngine.Value

open Number Time

/-- A value with a type that it is converted to without loss. -/
inductive Lossless : Value → ValueType → Prop
  | signedText (i : Int64) : Lossless (int i) .string
  | unsignedText (u : UInt64) : Lossless (uint u) .string
  | truthText (b : Bool) : Lossless (bool b) .string
  | encoded (s : String) : Lossless (string s) .bytes
  | decoded (b : ByteArray) : Lossless (bytes b) .string
  | unsigned (i : Int64) : Lossless (int i) .uint
  | signed (u : UInt64) : Lossless (uint u) .int
  | time (i : Int64) : Lossless (int i) .timestamp

def yearStart (year : Int) : Int := Date.toDays ⟨year, 1, 1⟩ * Timestamp.perDay

/-- The type has no value for this one, and the conversion reports it as an error of this kind. -/
inductive Unfit : Value → ValueType → ErrorKind → Prop
  | negative {i : Int64} (below : i.toInt < 0) : Unfit (int i) .uint .overflow
  | large {u : UInt64} (above : Int64.maxValue.toInt < u.toNat) : Unfit (uint u) .int .overflow
  | farAway {i : Int64} (outside : i.toInt < yearStart (-262143) ∨ yearStart 262143 ≤ i.toInt) :
    Unfit (int i) .timestamp .overflow
  | malformed {b : ByteArray} (broken : ¬b.IsValidUTF8) :
    Unfit (bytes b) .string .unsupportedConversion

/-- The conversion of `v` gives `w`, which is converted back to `v` unless it is an error for a
value that does not fit. -/
structure Converts (v : Value) (t : ValueType) (w : Value) : Prop where
  converted : v.convert t = .ok w
  returns : w.isFailure = false → w.valueType = t ∧ w.convert v.valueType = .ok v
  fails : w.isFailure = true → ∃ kind, Unfit v t kind
  reports : ∀ kind, (∃ message, w = failure kind message) ↔ Unfit v t kind

variable {v w : Value} {t : ValueType} {kind : ErrorKind} {message : String}

theorem Converts.of_total (converted : v.convert t = .ok w) (regular : w.isFailure = false)
    (type : w.valueType = t) (back : w.convert v.valueType = .ok v)
    (fits : ∀ kind, ¬Unfit v t kind) : Converts v t w where
  converted
  returns _ := ⟨type, back⟩
  fails failed := by
    rw [regular] at failed
    cases failed
  reports kind := by
    refine iff_of_false ?_ (fits kind)
    rintro ⟨message, rfl⟩
    cases regular

theorem Converts.of_option (found : Option Value)
    (converted : v.convert t = .ok (found.getD (failure kind message)))
    (succeeds : ∀ x ∈ found, x.isFailure = false ∧ x.valueType = t ∧ x.convert v.valueType = .ok v)
    (unfit : ∀ k, Unfit v t k ↔ found = none ∧ k = kind) :
    Converts v t (found.getD (failure kind message)) := by
  cases found with
  | some x =>
    obtain ⟨regular, type, back⟩ := succeeds x rfl
    exact .of_total converted regular type back fun k => by simp [unfit]
  | none =>
    refine ⟨converted, nofun, fun _ => ⟨kind, (unfit kind).mpr ⟨rfl, rfl⟩⟩, fun k => ?_⟩
    rw [unfit, and_iff_right rfl]
    simp [failure, eq_comm]

/-! ### Texts -/

theorem converts_signed_text (i : Int64) :
    Converts (int i) .string (string (toString i.toInt)) := by
  refine .of_total rfl rfl rfl ?_ nofun
  change Except.ok (((readSigned? (toString i.toInt)).map int).getD _) = _
  rw [readSigned?_toString]
  rfl

theorem converts_unsigned_text (u : UInt64) :
    Converts (uint u) .string (string (toString u.toNat)) := by
  refine .of_total rfl rfl rfl ?_ nofun
  change Except.ok (((readUnsigned? (toString u.toNat)).map uint).getD _) = _
  rw [readUnsigned?_toString]
  rfl

theorem converts_truth_text (b : Bool) : Converts (bool b) .string (string (boolText b)) :=
  .of_total rfl rfl rfl (by cases b <;> rfl) nofun

/-! ### Bytes -/

theorem fromUTF8?_eq_some_iff {b : ByteArray} {s : String} :
    String.fromUTF8? b = some s ↔ s.toUTF8 = b := by
  rw [String.fromUTF8?]
  split
  next valid =>
    rw [Option.some.injEq, ← String.toByteArray_inj]
    exact eq_comm
  next broken =>
    refine iff_of_false nofun ?_
    rintro rfl
    exact broken s.isValidUTF8

theorem fromUTF8?_eq_none_iff {b : ByteArray} : String.fromUTF8? b = none ↔ ¬b.IsValidUTF8 := by
  simp [String.fromUTF8?]

theorem converts_encoded (s : String) : Converts (string s) .bytes (bytes s.toUTF8) := by
  refine .of_total rfl rfl rfl ?_ nofun
  change Except.ok (((String.fromUTF8? s.toUTF8).map string).getD _) = _
  rw [fromUTF8?_eq_some_iff.mpr rfl]
  rfl

theorem converts_decoded (b : ByteArray) : ∃ w, Converts (bytes b) .string w := by
  refine ⟨_, .of_option ((String.fromUTF8? b).map string) rfl ?_ ?_⟩
  · intro x decoded
    obtain ⟨s, read, rfl⟩ := Option.map_eq_some_iff.mp decoded
    obtain rfl := fromUTF8?_eq_some_iff.mp read
    exact ⟨rfl, rfl, rfl⟩
  · intro kind
    rw [Option.map_eq_none_iff, fromUTF8?_eq_none_iff]
    constructor
    · rintro (_ | _ | _ | broken)
      exact ⟨broken, rfl⟩
    · rintro ⟨broken, rfl⟩
      exact .malformed broken

/-! ### Numbers -/

theorem converts_unsigned (i : Int64) : ∃ w, Converts (int i) .uint w := by
  have high := i.toInt_lt
  refine ⟨_, .of_option ((unsigned? i.toInt).map uint) rfl ?_ ?_⟩
  · intro x fits
    obtain ⟨u, same, rfl⟩ := Option.map_eq_some_iff.mp fits
    have back : signed? u.toNat = some i :=
      signed?_eq_some_iff.mpr (unsigned?_eq_some_iff.mp same).symm
    refine ⟨rfl, rfl, ?_⟩
    change Except.ok (((signed? u.toNat).map int).getD _) = _
    rw [back]
    rfl
  · intro kind
    rw [Option.map_eq_none_iff, unsigned?_eq_none_iff]
    constructor
    · rintro (below | _ | _ | _)
      exact ⟨.inl below, rfl⟩
    · rintro ⟨below | above, rfl⟩
      · exact .negative below
      · omega

theorem converts_signed (u : UInt64) : ∃ w, Converts (uint u) .int w := by
  refine ⟨_, .of_option ((signed? u.toNat).map int) rfl ?_ ?_⟩
  · intro x fits
    obtain ⟨i, same, rfl⟩ := Option.map_eq_some_iff.mp fits
    have back : unsigned? i.toInt = some u :=
      unsigned?_eq_some_iff.mpr (signed?_eq_some_iff.mp same).symm
    refine ⟨rfl, rfl, ?_⟩
    change Except.ok (((unsigned? i.toInt).map uint).getD _) = _
    rw [back]
    rfl
  · intro kind
    have greatest : Int64.maxValue.toInt = 0x7fffffffffffffff := rfl
    rw [Option.map_eq_none_iff, signed?_eq_none_iff]
    constructor
    · rintro (_ | above | _ | _)
      exact ⟨.inr (by omega), rfl⟩
    · rintro ⟨below | above, rfl⟩
      · omega
      · exact .large (by omega)

theorem ofSeconds?_eq_none_iff {seconds : Int} {nanos : Nat} :
    Timestamp.ofSeconds? seconds nanos = none ↔
      seconds < yearStart (-262143) ∨ yearStart 262143 ≤ seconds := by
  have first : yearStart (-262143) = Timestamp.earliest := by decide
  have last : yearStart 262143 = Timestamp.latest + 1 := by decide
  rw [Timestamp.ofSeconds?, first, last]
  split <;> simp <;> omega

theorem converts_time (i : Int64) : ∃ w, Converts (int i) .timestamp w := by
  refine ⟨_, .of_option ((Timestamp.ofSeconds? i.toInt 0).map timestamp) rfl ?_ ?_⟩
  · intro x fits
    obtain ⟨t, same, rfl⟩ := Option.map_eq_some_iff.mp fits
    rw [Timestamp.ofSeconds?, Option.ite_none_right_eq_some] at same
    obtain rfl := Option.some.inj same.2
    refine ⟨rfl, rfl, ?_⟩
    change Except.ok (int (Int64.ofInt i.toInt)) = _
    rw [Int64.ofInt_toInt]
  · intro kind
    rw [Option.map_eq_none_iff, ofSeconds?_eq_none_iff]
    constructor
    · rintro (_ | _ | outside | _)
      exact ⟨outside, rfl⟩
    · rintro ⟨outside, rfl⟩
      exact .farAway outside

/-- A conversion that loses nothing gives a value that is converted back to the same one, or it
reports that the value does not fit the type, which is so for the numbers out of its range and the
bytes that are no text. -/
theorem lossless_conversion_returns (lossless : Lossless v t) : ∃ w, Converts v t w := by
  cases lossless with
  | signedText i => exact ⟨_, converts_signed_text i⟩
  | unsignedText u => exact ⟨_, converts_unsigned_text u⟩
  | truthText b => exact ⟨_, converts_truth_text b⟩
  | encoded s => exact ⟨_, converts_encoded s⟩
  | decoded b => exact converts_decoded b
  | unsigned i => exact converts_unsigned i
  | signed u => exact converts_signed u
  | time i => exact converts_time i

/-- The least integer is written and read back. -/
theorem leastInt_read_back :
    Lossless (int Int64.minValue) .string ∧
    (int Int64.minValue).convert .string = .ok (string "-9223372036854775808") ∧
    (string "-9223372036854775808").convert .int = .ok (int Int64.minValue) := by
  have lossless := Lossless.signedText Int64.minValue
  have written : (int Int64.minValue).convert .string = .ok (string "-9223372036854775808") := rfl
  obtain ⟨w, converts⟩ := lossless_conversion_returns lossless
  obtain rfl : w = string "-9223372036854775808" :=
    Except.ok.inj (converts.converted.symm.trans written)
  exact ⟨lossless, written, (converts.returns rfl).2⟩

end ExprEngine.Value
