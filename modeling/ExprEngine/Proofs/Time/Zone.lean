import ExprEngine.Proofs.Number.Numerals
import ExprEngine.Proofs.Value.Equality
import ExprEngine.Value.Receiver
import Mathlib.Data.List.TakeDrop

/-!
# Offsets of zones

A zone in hours and minutes has an offset that is computed in 32-bit words. Where it is computed it
is the exact one. Of many hours the computation overflows before the offset is seen to be a day or
more.
-/

namespace ExprEngine

namespace Time

open Number

def IsWord (n : Int) : Prop := -0x80000000 ≤ n ∧ n < 0x80000000

instance (n : Int) : Decidable (IsWord n) := inferInstanceAs (Decidable (_ ∧ _))

/-- `zone` gives `hours` and `minutes` after an optional sign. -/
structure ClockZone (zone : String) (sign hours minutes : Int) : Prop where
  written : ∃ before after, Signed zone.toList sign (before ++ ':' :: after) ∧
    Numeral before hours ∧ Numeral after minutes
  hours_fit : IsWord hours
  minutes_fit : 0 ≤ minutes ∧ minutes < 60

def exactSeconds (sign hours minutes : Int) : Int := sign * (3600 * hours + 60 * minutes)

/-- The offset that `zone` stands for, which is shorter than a day. -/
def ExactOffset (zone : String) (offset : Int) : Prop :=
  (zone = "UTC" ∨ zone = "Z") ∧ offset = 0 ∨
    ∃ sign hours minutes, ClockZone zone sign hours minutes ∧
      exactSeconds sign hours minutes = offset ∧ offset.natAbs < 86400

/-- The first operation on hours and minutes whose result is no word. -/
inductive Overflows (zone : String) : Overflow → Prop where
  | multiply {sign hours minutes : Int} (clock : ClockZone zone sign hours minutes)
      (beyond : ¬IsWord (3600 * hours)) : Overflows zone .multiply
  | add {sign hours minutes : Int} (clock : ClockZone zone sign hours minutes)
      (within : IsWord (3600 * hours)) (beyond : ¬IsWord (3600 * hours + 60 * minutes)) :
      Overflows zone .add

/-! ### Words -/

theorem toInt_ofInt {n : Int} (fits : IsWord n) : (Int32.ofInt n).toInt = n :=
  Int32.toInt_ofInt_of_le fits.1 fits.2

theorem word?_eq (n : Int) : word? n = if IsWord n then some (Int32.ofInt n) else none := rfl

theorem wordOr_eq (operation : Overflow) (n : Int) :
    wordOr operation n = if IsWord n then .ok (Int32.ofInt n) else .error operation := by
  rw [wordOr, word?_eq]
  by_cases fits : IsWord n
  · rw [if_pos fits, if_pos fits]
  · rw [if_neg fits, if_neg fits]

theorem readWord?_eq_some_iff {cs : List Char} {word : Int32} :
    readWord? cs = some word ↔ ∃ n, Numeral cs n ∧ IsWord n ∧ word = Int32.ofInt n := by
  simp only [readWord?, Option.bind_eq_some_iff, readInteger?_eq_some_iff, word?_eq,
    Option.ite_none_right_eq_some, Option.some.injEq]
  exact exists_congr fun n => and_congr_right fun _ => and_congr_right fun _ => eq_comm

/-- A multiple of 60 is never the least word, so the sign does not overflow. -/
theorem isWord_exactSeconds {sign hours minutes : Int} (unit : sign = 1 ∨ sign = -1)
    (fits : IsWord (3600 * hours + 60 * minutes)) : IsWord (exactSeconds sign hours minutes) := by
  unfold IsWord exactSeconds at *
  rcases unit with rfl | rfl <;> omega

/-- Only the hours are scaled too far, or the minutes bring the sum past the words. -/
theorem offsetWord_eq {sign hours minutes : Int} (unit : sign = 1 ∨ sign = -1)
    (hours_fit : IsWord hours) (minutes_fit : 0 ≤ minutes ∧ minutes < 60) :
    offsetWord (Int32.ofInt sign) (Int32.ofInt hours) (Int32.ofInt minutes) =
      if IsWord (3600 * hours) then
        if IsWord (3600 * hours + 60 * minutes) then
          .ok (Int32.ofInt (exactSeconds sign hours minutes))
        else .error .add
      else .error .multiply := by
  have unit_word : (Int32.ofInt sign).toInt = sign := by rcases unit with rfl | rfl <;> rfl
  have minutes_word : (Int32.ofInt minutes).toInt = minutes :=
    toInt_ofInt ⟨by omega, by omega⟩
  have scaled : IsWord (60 * minutes) := ⟨by omega, by omega⟩
  simp only [offsetWord, toInt_ofInt hours_fit, minutes_word, unit_word, wordOr_eq,
    Int.mul_comm hours, Int.mul_comm minutes]
  by_cases within : IsWord (3600 * hours)
  · rw [if_pos within, if_pos within, if_pos scaled]
    simp only [bind, Except.bind, toInt_ofInt within, toInt_ofInt scaled]
    by_cases fits : IsWord (3600 * hours + 60 * minutes)
    · rw [if_pos fits, if_pos fits]
      simp only [toInt_ofInt fits]
      exact if_pos (isWord_exactSeconds unit fits)
    · rw [if_neg fits, if_neg fits]
  · rw [if_neg within, if_neg within]
    rfl

/-! ### Offsets -/

def clockParts? (sign : Int32) (body : List Char) : Option (Int32 × Int32 × Int32) := do
  let (before, after) := body.span (· ≠ ':')
  let after ← after.tail?
  let hours ← readWord? before
  let minutes ← readWord? after
  if 0 ≤ minutes ∧ minutes < 60 then some (sign, hours, minutes) else none

theorem readClock?_signed {cs body : List Char} {sign : Int} (signed : Signed cs sign body)
    (nonempty : cs ≠ []) : readClock? cs = clockParts? (Int32.ofInt sign) body := by
  cases signed with
  | minus => rfl
  | plus => rfl
  | bare _ minus plus =>
    unfold readClock?
    split
    next => exact absurd rfl nonempty
    next => exact absurd rfl plus
    next => exact absurd rfl minus
    next => rfl

theorem span_clock {before : List Char} {hours : Int} (numeral : Numeral before hours)
    (after : List Char) : (before ++ ':' :: after).span (· ≠ ':') = (before, ':' :: after) := by
  have apart : ∀ c ∈ before, decide (c ≠ ':') = true := by
    intro c listed
    rw [decide_eq_true_eq]
    rintro rfl
    rcases numeral.eq_or_isDigit listed with eq | eq | eq <;> cases eq
  rw [List.span_eq_takeWhile_dropWhile, List.takeWhile_append_of_pos apart,
    List.dropWhile_append_of_pos apart]
  simp

theorem eq_of_span {body before tail after : List Char}
    (split : body.span (· ≠ ':') = (before, tail)) (more : tail.tail? = some after) :
    body = before ++ ':' :: after := by
  rw [List.span_eq_takeWhile_dropWhile, Prod.mk.injEq] at split
  obtain ⟨rfl, dropped⟩ := split
  cases tail with
  | nil => cases more
  | cons c rest =>
    cases more
    have nonempty : body.dropWhile (· ≠ ':') ≠ [] := by
      rw [dropped]
      exact List.cons_ne_nil c _
    have colon : c = ':' := by
      have stopped := List.head_dropWhile_not (fun c => decide (c ≠ ':')) nonempty
      simpa only [dropped, List.head_cons, decide_eq_false_iff_not, not_not] using stopped
    rw [← colon, ← dropped, colon, List.takeWhile_append_dropWhile]

theorem minute_range {minutes : Int} (fits : IsWord minutes) :
    (0 ≤ Int32.ofInt minutes ∧ Int32.ofInt minutes < 60) ↔ 0 ≤ minutes ∧ minutes < 60 := by
  rw [Int32.le_iff_toInt_le, Int32.lt_iff_toInt_lt, toInt_ofInt fits]
  rfl

theorem clockParts?_eq_some_iff {sign : Int32} {body : List Char} {parts : Int32 × Int32 × Int32} :
    clockParts? sign body = some parts ↔
      ∃ before after hours minutes, body = before ++ ':' :: after ∧
        Numeral before hours ∧ Numeral after minutes ∧ IsWord hours ∧
        (0 ≤ minutes ∧ minutes < 60) ∧ (sign, Int32.ofInt hours, Int32.ofInt minutes) = parts := by
  constructor
  · intro read
    obtain ⟨before, tail, split⟩ : ∃ before tail, body.span (· ≠ ':') = (before, tail) :=
      ⟨_, _, rfl⟩
    rw [clockParts?, split] at read
    simp only [Option.bind_eq_bind, Option.bind_eq_some_iff, readWord?_eq_some_iff,
      Option.ite_none_right_eq_some, Option.some.injEq] at read
    obtain ⟨after, more, _, ⟨hours, before_eq, hours_fit, rfl⟩, _,
      ⟨minutes, after_eq, minutes_fit, rfl⟩, bounds, same⟩ := read
    exact ⟨before, after, hours, minutes, eq_of_span split more, before_eq, after_eq, hours_fit,
      (minute_range minutes_fit).mp bounds, same⟩
  · rintro ⟨before, after, hours, minutes, rfl, before_eq, after_eq, hours_fit, minutes_fit, rfl⟩
    have minutes_word : IsWord minutes := ⟨by omega, by omega⟩
    rw [clockParts?, span_clock before_eq]
    simp only [Option.bind_eq_bind, List.tail?_cons, Option.bind_some,
      readWord?_eq_some_iff.mpr ⟨hours, before_eq, hours_fit, rfl⟩,
      readWord?_eq_some_iff.mpr ⟨minutes, after_eq, minutes_word, rfl⟩]
    exact if_pos ((minute_range minutes_word).mpr minutes_fit)

theorem ClockZone.colon_mem {zone : String} {sign hours minutes : Int}
    (clock : ClockZone zone sign hours minutes) : ':' ∈ zone.toList := by
  obtain ⟨before, after, signed, -, -⟩ := clock.written
  exact signed.mem (by simp)

theorem ClockZone.other {zone : String} {sign hours minutes : Int}
    (clock : ClockZone zone sign hours minutes) : ¬(zone = "UTC" ∨ zone = "Z") := by
  have colon := clock.colon_mem
  rintro (rfl | rfl) <;> exact absurd colon (by decide)

theorem readClock?_eq_some_iff {zone : String} {parts : Int32 × Int32 × Int32} :
    readClock? zone.toList = some parts ↔ ∃ sign hours minutes, ClockZone zone sign hours minutes ∧
      (Int32.ofInt sign, Int32.ofInt hours, Int32.ofInt minutes) = parts := by
  by_cases nonempty : zone.toList ≠ []
  · obtain ⟨sign, body, signed⟩ := Signed.exists_body zone.toList
    rw [readClock?_signed signed nonempty, clockParts?_eq_some_iff]
    constructor
    · rintro ⟨before, after, hours, minutes, rfl, before_eq, after_eq, hours_fit, minutes_fit, same⟩
      exact ⟨sign, hours, minutes,
        ⟨⟨before, after, signed, before_eq, after_eq⟩, hours_fit, minutes_fit⟩, same⟩
    · rintro ⟨sign', hours, minutes, ⟨⟨before, after, signed', before_eq, after_eq⟩, hours_fit,
        minutes_fit⟩, same⟩
      obtain ⟨rfl, rfl⟩ := signed.unique signed'
      exact ⟨before, after, hours, minutes, rfl, before_eq, after_eq, hours_fit, minutes_fit, same⟩
  · rw [not_not] at nonempty
    constructor
    · intro read
      rw [nonempty] at read
      cases read
    · rintro ⟨sign, hours, minutes, clock, -⟩
      have colon := clock.colon_mem
      rw [nonempty] at colon
      cases colon

theorem ClockZone.zoneOffset?_eq {zone : String} {sign hours minutes : Int}
    (clock : ClockZone zone sign hours minutes) :
    zoneOffset? zone =
      if IsWord (3600 * hours) then
        if IsWord (3600 * hours + 60 * minutes) then
          .ok (if (exactSeconds sign hours minutes).natAbs < 86400 then
            some (exactSeconds sign hours minutes) else none)
        else .error .add
      else .error .multiply := by
  obtain ⟨_, _, signed, -, -⟩ := clock.written
  have unit := signed.sign_eq
  rw [zoneOffset?, if_neg clock.other,
    readClock?_eq_some_iff.mpr ⟨sign, hours, minutes, clock, rfl⟩]
  simp only [offsetWord_eq unit clock.hours_fit clock.minutes_fit]
  by_cases within : IsWord (3600 * hours)
  · by_cases fits : IsWord (3600 * hours + 60 * minutes)
    · have exact := isWord_exactSeconds unit fits
      have short : (-86400 < exactSeconds sign hours minutes ∧
          exactSeconds sign hours minutes < 86400) ↔
          (exactSeconds sign hours minutes).natAbs < 86400 := by omega
      simp only [if_pos within, if_pos fits, bind, Except.bind, toInt_ofInt exact, short]
      rfl
    · simp only [if_pos within, if_neg fits, bind, Except.bind]
  · simp only [if_neg within, bind, Except.bind]

theorem zoneOffset?_of_no_clock {zone : String} (other : ¬(zone = "UTC" ∨ zone = "Z"))
    (alone : ∀ sign hours minutes, ¬ClockZone zone sign hours minutes) :
    zoneOffset? zone = .ok none := by
  have unread : readClock? zone.toList = none := by
    refine Option.eq_none_iff_forall_ne_some.mpr fun parts read => ?_
    obtain ⟨sign, hours, minutes, clock, -⟩ := readClock?_eq_some_iff.mp read
    exact alone sign hours minutes clock
  rw [zoneOffset?, if_neg other, unread]

theorem ClockZone.unique {zone : String} {sign hours minutes sign' hours' minutes' : Int}
    (first : ClockZone zone sign hours minutes) (second : ClockZone zone sign' hours' minutes') :
    sign = sign' ∧ hours = hours' ∧ minutes = minutes' := by
  obtain ⟨before, after, signed, before_eq, after_eq⟩ := first.written
  obtain ⟨before', after', signed', before_eq', after_eq'⟩ := second.written
  obtain ⟨same, body⟩ := signed.unique signed'
  have split := span_clock before_eq after
  rw [body, span_clock before_eq' after'] at split
  cases split
  exact ⟨same, before_eq.unique before_eq', after_eq.unique after_eq'⟩

theorem zone_cases (zone : String) :
    (zone = "UTC" ∨ zone = "Z") ∨ (∃ sign hours minutes, ClockZone zone sign hours minutes) ∨
      ¬(zone = "UTC" ∨ zone = "Z") ∧ ∀ sign hours minutes, ¬ClockZone zone sign hours minutes := by
  by_cases named : zone = "UTC" ∨ zone = "Z"
  · exact .inl named
  · by_cases clock : ∃ sign hours minutes, ClockZone zone sign hours minutes
    · exact .inr (.inl clock)
    · exact .inr (.inr ⟨named, by simpa only [not_exists] using clock⟩)

/-- A zone is accepted for the offset that it stands for. -/
theorem zoneOffset?_eq_some_iff {zone : String} {offset : Int} :
    zoneOffset? zone = .ok (some offset) ↔ ExactOffset zone offset := by
  rcases zone_cases zone with named | ⟨sign, hours, minutes, clock⟩ | ⟨other, alone⟩
  · have alone {sign hours minutes : Int} : ¬ClockZone zone sign hours minutes :=
      fun clock => clock.other named
    simp [zoneOffset?, ExactOffset, named, alone, eq_comm]
  · rw [clock.zoneOffset?_eq]
    constructor
    · intro read
      split at read
      · split at read
        · simp only [Except.ok.injEq, Option.ite_none_right_eq_some, Option.some.injEq] at read
          obtain ⟨short, rfl⟩ := read
          exact .inr ⟨sign, hours, minutes, clock, rfl, short⟩
        · cases read
      · cases read
    · rintro (⟨utc, -⟩ | ⟨sign', hours', minutes', clock', rfl, short⟩)
      · exact absurd utc clock.other
      · obtain ⟨rfl, rfl, rfl⟩ := clock.unique clock'
        obtain ⟨_, _, signed, -, -⟩ := clock.written
        have minutes_fit := clock.minutes_fit
        have near : (3600 * hours + 60 * minutes).natAbs < 86400 := by
          unfold exactSeconds at short
          rcases signed.sign_eq with rfl | rfl <;> omega
        have fits : IsWord (3600 * hours + 60 * minutes) := ⟨by omega, by omega⟩
        have within : IsWord (3600 * hours) := ⟨by omega, by omega⟩
        rw [if_pos within, if_pos fits, if_pos short]
  · rw [zoneOffset?_of_no_clock other alone]
    simp [ExactOffset, other, alone]

/-- An operation overflows for hours and minutes only, before the length is looked at. -/
theorem zoneOffset?_eq_error_iff {zone : String} {operation : Overflow} :
    zoneOffset? zone = .error operation ↔ Overflows zone operation := by
  rcases zone_cases zone with named | ⟨sign, hours, minutes, clock⟩ | ⟨other, alone⟩
  · rw [zoneOffset?, if_pos named]
    constructor
    · exact nofun
    · rintro (⟨clock, -⟩ | ⟨clock, -, -⟩) <;> exact absurd named clock.other
  · rw [clock.zoneOffset?_eq]
    constructor
    · intro overflows
      split at overflows
      next within =>
        split at overflows
        next => cases overflows
        next beyond =>
          cases overflows
          exact .add clock within beyond
      next beyond =>
        cases overflows
        exact .multiply clock beyond
    · rintro (⟨clock', beyond⟩ | ⟨clock', within, beyond⟩)
      · obtain ⟨rfl, rfl, rfl⟩ := clock.unique clock'
        rw [if_neg beyond]
      · obtain ⟨rfl, rfl, rfl⟩ := clock.unique clock'
        rw [if_pos within, if_neg beyond]
  · rw [zoneOffset?_of_no_clock other alone]
    constructor
    · exact nofun
    · rintro (⟨clock, -⟩ | ⟨clock, -, -⟩) <;> exact absurd clock (alone _ _ _)

/-- Up to 596522 hours nothing overflows. -/
theorem ClockZone.not_overflows {zone : String} {sign hours minutes : Int}
    (clock : ClockZone zone sign hours minutes) (few : hours.natAbs < 596523)
    (operation : Overflow) : ¬Overflows zone operation := by
  have minutes_fit := clock.minutes_fit
  rintro (⟨clock', beyond⟩ | ⟨clock', -, beyond⟩) <;>
    obtain ⟨rfl, rfl, rfl⟩ := clock.unique clock' <;>
    exact beyond ⟨by omega, by omega⟩

end Time

namespace Value

open Time

section

variable [HostObjects]

theorem receive_timestamp {t : Timestamp} {zone name : String} {f : Timestamp.Field}
    (listed : (name, f) ∈ Timestamp.Field.names) :
    (timestamp t).receive name [string zone] =
      match zoneOffset? zone with
      | .ok (some offset) => .ok (int (Int64.ofInt (t.field offset f)))
      | .ok none => .ok (failure .invalidArgument ("unsupported time zone '" ++ zone ++ "'"))
      | .error overflow => .error (overflowPanic overflow) := by
  have found : Timestamp.Field.ofName? name = some f := (lookup_eq_some_iff (by decide)).mpr listed
  have method :
      (timestamp t).method? name [string zone] = timestampMethod? t name [string zone] := by
    rw [method?]
  have receiver : (timestamp t).valueType.hasTrait .receiver = true := rfl
  rw [receive, propagate_regular (forall_pair rfl rfl)]
  simp only [if_pos receiver, method, timestampMethod?, found]
  rcases zoneOffset? zone with overflow | _ | offset <;> rfl

/-- In a zone, every accessor of a timestamp answers for the offset that the zone stands for. Where
the offset is not computed, the accessor panics. Any other zone is an invalid argument. A zone of up
to 596522 hours does not panic. -/
theorem zone_accessor_outcome (t : Timestamp) (zone : String) {name : String} {f : Timestamp.Field}
    (listed : (name, f) ∈ Timestamp.Field.names) :
    (∀ offset, ExactOffset zone offset →
      (timestamp t).receive name [string zone] = .ok (int (Int64.ofInt (t.field offset f)))) ∧
    (∀ operation, Overflows zone operation →
      (timestamp t).receive name [string zone] = .error (overflowPanic operation)) ∧
    ((∀ offset, ¬ExactOffset zone offset) → (∀ operation, ¬Overflows zone operation) →
      (timestamp t).receive name [string zone] =
        .ok (failure .invalidArgument ("unsupported time zone '" ++ zone ++ "'"))) ∧
    (∀ sign hours minutes, ClockZone zone sign hours minutes → hours.natAbs < 596523 →
      ∀ operation, ¬Overflows zone operation) := by
  rw [receive_timestamp listed]
  refine ⟨fun offset stands => ?_, fun operation overflows => ?_, fun unsupported computed => ?_,
    fun sign hours minutes clock few => clock.not_overflows few⟩
  · rw [zoneOffset?_eq_some_iff.mpr stands]
  · rw [zoneOffset?_eq_error_iff.mpr overflows]
  · cases read : zoneOffset? zone with
    | error operation => exact absurd (zoneOffset?_eq_error_iff.mp read) (computed operation)
    | ok found =>
      cases found with
      | none => rfl
      | some offset => exact absurd (zoneOffset?_eq_some_iff.mp read) (unsupported offset)

end

attribute [local instance] HostObjects.silent

/-- The first hour of 1970 is the second one to the east, and no zone is a day ahead. -/
theorem hours_in_zones :
    ("getHours", Timestamp.Field.hours) ∈ Timestamp.Field.names ∧
    (timestamp ⟨0, 0⟩).receive "getHours" [string "+01:30"] = .ok (int 1) ∧
    (timestamp ⟨0, 0⟩).receive "getHours" [string "24:00"] =
      .ok (failure .invalidArgument "unsupported time zone '24:00'") := by
  have listed : ("getHours", Timestamp.Field.hours) ∈ Timestamp.Field.names := by decide
  have east : zoneOffset? "+01:30" = .ok (some 5400) := by decide
  have dayAhead : zoneOffset? "24:00" = .ok none := by decide
  refine ⟨listed, ?_, ?_⟩
  · exact (zone_accessor_outcome ⟨0, 0⟩ "+01:30" listed).1 5400 (zoneOffset?_eq_some_iff.mp east)
  · refine (zone_accessor_outcome ⟨0, 0⟩ "24:00" listed).2.2.1 (fun offset stands => ?_)
      fun operation overflows => ?_
    · rw [← zoneOffset?_eq_some_iff, dayAhead] at stands
      cases stands
    · rw [← zoneOffset?_eq_error_iff, dayAhead] at overflows
      cases overflows

/-- A zone of 136 years is no offset, and the accessors panic. -/
theorem longZone_panics :
    ClockZone "1193047:00" 1 1193047 0 ∧ (∀ offset, ¬ExactOffset "1193047:00" offset) ∧
    (timestamp ⟨0, 0⟩).receive "getHours" [string "1193047:00"] =
      .error ⟨"attempt to multiply with overflow"⟩ := by
  have clock : ClockZone "1193047:00" 1 1193047 0 := by
    refine ⟨⟨"1193047".toList, "00".toList, .bare _ (by decide) (by decide), ?_, ?_⟩, by decide,
      by decide⟩ <;> rw [← Number.readInteger?_eq_some_iff] <;> decide
  refine ⟨clock, ?_, rfl⟩
  rintro offset (⟨utc, -⟩ | ⟨sign, hours, minutes, other, rfl, short⟩)
  · exact clock.other utc
  · obtain ⟨rfl, rfl, rfl⟩ := clock.unique other
    exact absurd short (by decide)

end Value

end ExprEngine
