import ExprEngine.Proofs.Time.Reading
import ExprEngine.Proofs.Value.Order

/-!
# What texts of durations denote

A text denotes a duration when it is an optional sign and `0`, or an optional sign and parts whose
sum fits a word. A call of `duration` answers what the text denotes, a conversion error, or, for a
text that is cut inside a character, an internal error.
-/

namespace ExprEngine

namespace Time.Duration

open Text Number

def FitsWord (d : Duration) : Prop := -0x8000000000000000 ≤ d.nanos ∧ d.nanos < 0x8000000000000000

/-- `s` writes `d` with an optional sign, as `0` or as parts that are all accepted. -/
def Denotes (accepted : Part → Prop) (s : String) (d : Duration) : Prop :=
  ∃ sign body, Signed s.toList sign body ∧ d.FitsWord ∧
    (body = ['0'] ∧ d.nanos = 0 ∨
      ∃ ps, ps ≠ [] ∧ Written ps body ∧ (∀ p ∈ ps, accepted p) ∧ d.nanos = sign * total ps)

/-- After parts that are read, `body` has a part whose fraction is cut inside a character. -/
def CutsBody (body : List Char) : Prop :=
  ∃ (before text rest : List Char) (ps : List Part) (p : Part), body = before ++ (text ++ rest) ∧
    Written ps before ∧ (∀ q ∈ ps, q.Readable) ∧ p.Spelled text ∧ p.Ends rest ∧
    (∀ c ∈ p.whole, c.isDigit = true) ∧ total ps + p.wholeNanos < sumLimit ∧ p.Splits

/-- The text after the sign of `s` is cut inside a character. -/
def CutsCharacter (s : String) : Prop :=
  ∃ sign body, Signed s.toList sign body ∧ CutsBody body

/-! ### Reading without a sign -/

theorem sumParts_of_written {ps : List Part} {body : List Char} (written : Written ps body) :
    sumParts body.length body 0 = ps.foldlM (fun sum p => p.addTo sum) 0 := by
  have read : sumParts body.length (body ++ []) 0 =
      ps.foldlM (fun sum p => p.addTo sum) 0 >>= sumParts (body.length - ps.length) [] :=
    sumParts_written written written.length_le (by simp)
  rw [List.append_nil] at read
  rw [read]
  cases ps.foldlM (fun sum p => p.addTo sum) 0 with
  | error => rfl
  | ok sum => cases body.length - ps.length <;> rfl

theorem readBody_of_written {ps : List Part} {body : List Char} (some_part : ps ≠ [])
    (written : Written ps body) :
    readBody body = ps.foldlM (fun sum p => p.addTo sum) 0 := by
  have nonempty : body ≠ [] := by
    rintro rfl
    exact some_part (List.length_eq_zero_iff.mp (Nat.le_zero.mp written.length_le))
  have notZero : body ≠ ['0'] := by simpa using written.ne_zero some_part []
  rw [readBody, if_neg (by simpa using nonempty), if_neg notZero, sumParts_of_written written]

theorem readBody_eq_ok_iff {body : List Char} {n : Nat} :
    readBody body = .ok n ↔ body = ['0'] ∧ n = 0 ∨
      ∃ ps, ps ≠ [] ∧ Written ps body ∧ (∀ p ∈ ps, p.Readable) ∧ n = total ps ∧ n < sumLimit := by
  have start : 0 < sumLimit := by decide
  constructor
  · intro read
    rw [readBody] at read
    split at read
    next => cases read
    next nonempty =>
      split at read
      next zero =>
        cases read
        exact .inl ⟨zero, rfl⟩
      next =>
        obtain ⟨ps, written, folded⟩ := written_of_sumParts read
        obtain ⟨all, same, fits⟩ := (foldlM_addTo_eq_ok_iff written.unit_pos start).mp folded
        refine .inr ⟨ps, ?_, written, all, by simpa using same, fits⟩
        rintro rfl
        cases written
        exact nonempty rfl
  · rintro (⟨rfl, rfl⟩ | ⟨ps, some_part, written, all, same, fits⟩)
    · rfl
    · rw [readBody_of_written some_part written]
      exact (foldlM_addTo_eq_ok_iff written.unit_pos start).mpr ⟨all, by simpa using same, fits⟩

theorem readBody_eq_split_iff {body : List Char} :
    readBody body = .error .splitCharacter ↔ CutsBody body := by
  have start : 0 < sumLimit := by decide
  constructor
  · intro read
    rw [readBody] at read
    split at read
    next => cases read
    next =>
      split at read
      next => cases read
      next =>
        obtain ⟨ps, before, p, text, rest, n, same, written, spelled, ends, folded, split⟩ :=
          exists_split_of_sumParts read
        obtain ⟨all, rfl, -⟩ := (foldlM_addTo_eq_ok_iff written.unit_pos start).mp folded
        obtain ⟨ascii, fits, splits⟩ := (Part.addTo_eq_split_iff spelled.unit_pos).mp split
        rw [Nat.zero_add] at fits
        exact ⟨before, text, rest, ps, p, same, written, all, spelled, ends, ascii, fits, splits⟩
  · rintro ⟨before, text, rest, ps, p, rfl, written, all, spelled, ends, ascii, fits, splits⟩
    have nonempty : before ++ (text ++ rest) ≠ [] := by simp [spelled.ne_nil]
    have notZero : before ++ (text ++ rest) ≠ ['0'] := by
      have next := written.append (.cons spelled .nil)
      simpa using next.ne_zero (by simp) rest
    have folded : ps.foldlM (fun sum p => p.addTo sum) 0 = .ok (total ps) :=
      (foldlM_addTo_eq_ok_iff written.unit_pos start).mpr ⟨all, by simp, by omega⟩
    obtain ⟨fuel, spare⟩ : ∃ fuel, (before ++ (text ++ rest)).length - ps.length = fuel + 1 := by
      have := written.length_le
      have := List.length_pos_iff.mpr spelled.ne_nil
      refine Nat.exists_eq_add_one_of_ne_zero ?_
      simp only [List.length_append]
      omega
    have enough : ps.length ≤ (before ++ (text ++ rest)).length :=
      written.length_le.trans (by simp)
    rw [readBody, if_neg (by simpa using nonempty), if_neg notZero,
      sumParts_written written enough spelled.head?_ne, folded, spare]
    have split := (Part.addTo_eq_split_iff spelled.unit_pos).mpr ⟨ascii, fits, splits⟩
    exact (sumParts_cons spelled ends).trans (by rw [split]; rfl)

/-! ### Reading with a sign -/

theorem isSome_signed?_iff {d : Duration} : (signed? d.nanos).isSome = true ↔ d.FitsWord := by
  rw [Option.isSome_iff_ne_none, Ne, signed?_eq_none_iff, FitsWord]
  omega

def ofWord (n : Int) : Except Fault Duration :=
  if (signed? n).isSome then .ok ⟨n⟩ else .error .malformed

theorem ofWord_of_fitsWord {d : Duration} (fits : d.FitsWord) : ofWord d.nanos = .ok d :=
  if_pos (isSome_signed?_iff.mpr fits)

theorem ofWord_of_not_fitsWord {d : Duration} (beyond : ¬d.FitsWord) :
    ofWord d.nanos = .error .malformed :=
  if_neg (isSome_signed?_iff.not.mpr beyond)

theorem ofWord_eq_ok_iff {n : Int} {d : Duration} : ofWord n = .ok d ↔ d = ⟨n⟩ ∧ d.FitsWord := by
  constructor
  · intro word
    by_cases fits : (⟨n⟩ : Duration).FitsWord
    · obtain rfl := Except.ok.inj ((ofWord_of_fitsWord fits).symm.trans word)
      exact ⟨rfl, fits⟩
    · cases (ofWord_of_not_fitsWord fits).symm.trans word
  · rintro ⟨rfl, fits⟩
    exact ofWord_of_fitsWord fits

theorem ofWord_ne_split (n : Int) : ofWord n ≠ .error .splitCharacter := by
  rw [ofWord]
  split <;> simp

theorem map_bind {x : Except Fault Nat} {f : Nat → Int} {sign : Int}
    (factor : ∀ n : Nat, f n = sign * n) (word : Int → Except Fault Duration) :
    (x.map f >>= word) = x >>= fun n => word (sign * n) := by
  cases x with
  | error => rfl
  | ok n => exact congrArg word (factor n)

theorem read_signed {s : String} {sign : Int} {body : List Char}
    (signed : Signed s.toList sign body) :
    read s = readBody body >>= fun n => ofWord (sign * n) := by
  have word : ∀ n : Int,
      (if (signed? n).isSome then .ok ⟨n⟩ else .error .malformed) = ofWord n := fun n => rfl
  rw [read]
  simp only [word]
  generalize s.toList = cs at signed
  cases signed with
  | minus =>
    change ((readBody body >>= fun n => pure (n : Int)).map (fun n => -n) >>= ofWord) = _
    rw [← map_bind (f := fun n => -(n : Int)) (by simp)]
    cases readBody body <;> rfl
  | plus => exact map_bind (by simp) _
  | bare _ minus plus =>
    split
    next => exact absurd rfl minus
    next => exact absurd rfl plus
    next => exact map_bind (by simp) _

theorem read_eq_ok_iff {s : String} {d : Duration} :
    read s = .ok d ↔ Denotes Part.Readable s d := by
  constructor
  · intro read
    obtain ⟨sign, body, signed⟩ := Signed.exists_body s.toList
    rw [read_signed signed, bind_eq_ok_iff] at read
    obtain ⟨n, body, read⟩ := read
    obtain ⟨rfl, fits⟩ := ofWord_eq_ok_iff.mp read
    refine ⟨sign, _, signed, fits, ?_⟩
    rcases readBody_eq_ok_iff.mp body with ⟨zero, rfl⟩ | ⟨ps, some_part, written, all, rfl, -⟩
    · exact .inl ⟨zero, Int.mul_zero _⟩
    · exact .inr ⟨ps, some_part, written, all, rfl⟩
  · rintro ⟨sign, body, signed, fits, denoted⟩
    have body_ok : ∃ n, readBody body = .ok n ∧ d = ⟨sign * n⟩ := by
      rcases denoted with ⟨zero, none⟩ | ⟨ps, some_part, written, all, same⟩
      · exact ⟨0, readBody_eq_ok_iff.mpr (.inl ⟨zero, rfl⟩), by cases d; simp_all⟩
      · have small : total ps < sumLimit := by
          have word : (0x8000000000000000 : Nat) < sumLimit := by decide
          have low := fits.1
          have high := fits.2
          rcases signed.sign_eq with rfl | rfl <;> omega
        exact ⟨total ps, readBody_eq_ok_iff.mpr (.inr ⟨ps, some_part, written, all, rfl, small⟩),
          by cases d; simp_all⟩
    obtain ⟨n, body_ok, rfl⟩ := body_ok
    rw [read_signed signed, body_ok]
    exact ofWord_eq_ok_iff.mpr ⟨rfl, fits⟩

theorem read_eq_split_iff {s : String} : read s = .error .splitCharacter ↔ CutsCharacter s := by
  obtain ⟨sign, body, signed⟩ := Signed.exists_body s.toList
  rw [read_signed signed, bind_eq_error_iff, readBody_eq_split_iff]
  constructor
  · rintro (cut | ⟨n, -, cut⟩)
    · exact ⟨sign, body, signed, cut⟩
    · exact absurd cut (ofWord_ne_split _)
  · rintro ⟨sign', body', signed', cut⟩
    exact .inl ((signed.unique signed').2 ▸ cut)

/-! ### Texts without digits of other scripts -/

namespace Part

variable {p : Part} {text : List Char}

theorem Spelled.ascii (spelled : p.Spelled text) (plain : ∀ c ∈ text, isDigit c = c.isDigit) :
    p.Ascii := by
  obtain ⟨name, -, written⟩ := spelled.unit
  have listed : ∀ c, c ∈ p.whole ∨ c ∈ p.fraction → c ∈ text := by
    rcases written with rfl | ⟨missing, rfl⟩
    · intro c within
      simp only [List.append_assoc, List.cons_append, List.mem_append, List.mem_cons]
      tauto
    · intro c within
      rw [missing] at within
      simpa using .inl (within.resolve_right List.not_mem_nil)
  exact ⟨fun c within => plain c (listed c (.inl within)) ▸ spelled.whole c within,
    fun c within => plain c (listed c (.inr within)) ▸ spelled.fraction c within⟩

theorem Ascii.readable (ascii : p.Ascii) : p.Readable :=
  ⟨ascii.1, fun c taken => ascii.2 c (List.mem_of_mem_take taken)⟩

theorem Ascii.not_splits (ascii : p.Ascii) : ¬p.Splits := by
  rintro ⟨before, c, after, same, below, above⟩
  have one : c.utf8Size = 1 := utf8Size_of_isDigit (ascii.2 c (by simp [same]))
  omega

end Part

theorem Written.ascii {ps : List Part} {text : List Char} (written : Written ps text)
    (plain : ∀ c ∈ text, isDigit c = c.isDigit) : ∀ p ∈ ps, p.Ascii := by
  induction written with
  | nil => simp
  | cons spelled _ ih =>
    rw [List.forall_mem_append] at plain
    exact List.forall_mem_cons.mpr ⟨spelled.ascii plain.1, ih plain.2⟩

section

variable {s : String} (plain : ∀ c ∈ s.toList, isDigit c = c.isDigit)

include plain

theorem not_cutsCharacter_of_plain : ¬CutsCharacter s := by
  rintro ⟨sign, body, signed, before, text, rest, ps, p, rfl, -, -, spelled, -, -, -, splits⟩
  have ascii : p.Ascii := spelled.ascii fun c listed => plain c (signed.mem (by simp [listed]))
  exact ascii.not_splits splits

theorem denotes_iff_of_plain {d : Duration} :
    Denotes Part.Readable s d ↔ Denotes Part.Ascii s d := by
  constructor
  · rintro ⟨sign, body, signed, fits, zero | ⟨ps, some_part, written, -, same⟩⟩
    · exact ⟨sign, body, signed, fits, .inl zero⟩
    · have ascii := written.ascii fun c listed => plain c (signed.mem listed)
      exact ⟨sign, body, signed, fits, .inr ⟨ps, some_part, written, ascii, same⟩⟩
  · rintro ⟨sign, body, signed, fits, zero | ⟨ps, some_part, written, ascii, same⟩⟩
    · exact ⟨sign, body, signed, fits, .inl zero⟩
    · have readable : ∀ p ∈ ps, p.Readable := fun p listed => (ascii p listed).readable
      exact ⟨sign, body, signed, fits, .inr ⟨ps, some_part, written, readable, same⟩⟩

end

end Time.Duration

namespace Value

open Time Duration

theorem convert_duration (s : String) :
    (string s).convert .duration =
      match Duration.read s with
      | .ok d => .ok (duration d)
      | .error .malformed => .ok (conversionError .string .duration)
      | .error .splitCharacter => .error splitPanic := rfl

section

variable [HostObjects]

/-- A conversion as a call: what converting gives, or an internal error when it panics. -/
theorem answer_conversion {id : String} {target : ValueType}
    (member : Standard.conversion id target ∈ Standard.overloads) (extra : List Overload)
    {v : Value} (regular : v.isFailure = false) :
    (Registry.standard.addAll extra).answer id [v] =
      match v.convert target with
      | .ok w => w
      | .error p => (Standard.conversion id target).panicked p := by
  have accepted : (Standard.conversion id target).accepts [v] = true := rfl
  have run : (Standard.conversion id target).run? [v] = some (v.convert target) := rfl
  refine (Registry.answer_standard member extra accepted rfl (by simpa using regular)).trans ?_
  rw [Overload.result, run]
  cases v.convert target <;> rfl

def durationPanicked : Value :=
  error { kind := .internal, message := "overload 'duration' failed", cause := some splitPanic }

theorem answer_duration_cases (extra : List Overload) (s : String) :
    (Registry.standard.addAll extra).answer "duration" [string s] =
      match Duration.read s with
      | .ok d => duration d
      | .error .malformed => conversionError .string .duration
      | .error .splitCharacter => durationPanicked := by
  have member : Standard.conversion "duration" .duration ∈ Standard.overloads :=
    List.mem_of_getElem? (i := 30) rfl
  rw [answer_conversion member extra rfl, convert_duration]
  rcases Duration.read s with (_ | _) | _ <;> rfl

/-- A call of `duration` answers the duration that the text denotes. It fails inside for a text that
is cut inside a character, and for every other text the conversion is not supported. A text without
digits of other scripts is never cut, and it denotes a duration as all its digits say. -/
theorem duration_call_outcome (extra : List Overload) (s : String) :
    (∀ d, (Registry.standard.addAll extra).answer "duration" [string s] = duration d ↔
      Denotes Part.Readable s d) ∧
    ((Registry.standard.addAll extra).answer "duration" [string s] = durationPanicked ↔
      CutsCharacter s) ∧
    ((∃ d, Denotes Part.Readable s d) ∨ CutsCharacter s ∨
      (Registry.standard.addAll extra).answer "duration" [string s] =
        conversionError .string .duration) ∧
    ((∀ c ∈ s.toList, Text.isDigit c = c.isDigit) →
      ¬CutsCharacter s ∧ ∀ d, Denotes Part.Readable s d ↔ Denotes Part.Ascii s d) := by
  simp only [answer_duration_cases, ← read_eq_ok_iff, ← read_eq_split_iff]
  refine ⟨fun d => ?_, ?_, ?_, fun plain =>
    ⟨read_eq_split_iff.not.mpr (not_cutsCharacter_of_plain plain), fun d =>
      read_eq_ok_iff.trans (denotes_iff_of_plain plain)⟩⟩
  · rcases Duration.read s with (_ | _) | d' <;> simp [conversionError, failure, durationPanicked]
  · rcases Duration.read s with (_ | _) | d' <;> simp [conversionError, failure, durationPanicked]
  · rcases Duration.read s with (_ | _) | d' <;> simp

end

attribute [local instance] HostObjects.silent

/-- An hour and half a second, the second without a whole number. -/
theorem hour_and_half_second :
    (∀ c ∈ "1h.5s".toList, Text.isDigit c = c.isDigit) ∧ ¬CutsCharacter "1h.5s" ∧
    Registry.standard.answer "duration" [string "1h.5s"] = duration ⟨3600500000000⟩ := by
  obtain ⟨answers, -, -, plain⟩ := duration_call_outcome [] "1h.5s"
  simp only [Registry.addAll_nil] at answers
  have low : ∀ c ∈ "1h.5s".toList, Text.isDigit c = c.isDigit := by
    have bound : ("1h.5s".toList.all fun c => c.toNat < 1632) = true := by decide
    exact fun c listed => Text.isDigit_eq (of_decide_eq_true (List.all_eq_true.mp bound c listed))
  have one : Text.isDigit '1' = true := Text.isDigit_of_ascii (by decide)
  have five : Text.isDigit '5' = true := Text.isDigit_of_ascii (by decide)
  have hour : (⟨['1'], [], 3600000000000⟩ : Part).Spelled ['1', 'h'] :=
    ⟨by simpa using one, by simp, by simp, ['h'], by simp [units], .inr ⟨rfl, rfl⟩⟩
  have second : (⟨[], ['5'], 1000000000⟩ : Part).Spelled ['.', '5', 's'] :=
    ⟨by simp, by simpa using five, by simp, ['s'], by simp [units], .inl rfl⟩
  refine ⟨low, (plain low).1, (answers _).mpr (((plain low).2 _).mpr ?_)⟩
  refine ⟨1, ['1', 'h', '.', '5', 's'], .bare _ (by decide) (by decide), ⟨by decide, by decide⟩,
    .inr ?_⟩
  exact ⟨_, by simp, .cons hour (.cons second .nil), by simp [Part.Ascii], by decide⟩

/-- A digit of two bytes behind 17 others is cut, and the call fails inside. Behind 18 others the
same digit does not count. -/
theorem cut_digit_fails_inside :
    Registry.standard.answer "duration" [string "0.00000000000000000٣s"] = durationPanicked ∧
    Registry.standard.answer "duration" [string "0.000000000000000000٣s"] = duration ⟨0⟩ := by
  have zero : Text.isDigit '0' = true := Text.isDigit_of_ascii (by decide)
  have three : Text.isDigit '٣' = true := by
    rw [Text.isDigit_eq_decide (by decide)]
    decide
  have spelled (n : Nat) : (⟨['0'], List.replicate n '0' ++ ['٣'], 1000000000⟩ : Part).Spelled
      ('0' :: '.' :: (List.replicate n '0' ++ ['٣', 's'])) :=
    ⟨by simpa using zero, by simp [or_imp, forall_and, zero, three], by simp, ['s'],
      by simp [units], .inl (by simp)⟩
  constructor
  · have cuts : CutsCharacter "0.00000000000000000٣s" :=
      ⟨1, _, .bare _ (by decide) (by decide), [], _, [], [], _, rfl, .nil, by simp, spelled 17,
        by simp [Part.Ends], by simp, by decide, List.replicate 17 '0', '٣', [], rfl, by decide,
        by decide⟩
    have answer := answer_duration_cases [] "0.00000000000000000٣s"
    rwa [read_eq_split_iff.mpr cuts, Registry.addAll_nil] at answer
  · have denotes : Denotes Part.Readable "0.000000000000000000٣s" ⟨0⟩ :=
      ⟨1, _, .bare _ (by decide) (by decide), ⟨by decide, by decide⟩, .inr
        ⟨_, by simp, .cons (spelled 18) .nil, by simp [Part.Readable], by decide⟩⟩
    have answer := answer_duration_cases [] "0.000000000000000000٣s"
    rwa [read_eq_ok_iff.mpr denotes, Registry.addAll_nil] at answer

end Value

end ExprEngine
