import ExprEngine.Proofs.Number.Numerals
import ExprEngine.Time.Duration
import Mathlib.Data.List.TakeDrop
import Mathlib.Data.List.TakeWhile

/-!
# Parts of durations

A duration is written as a sequence of parts, numbers with their units. A text splits into parts in
one way only, and reading adds their nanoseconds up, in the order of the text.
-/

namespace ExprEngine.Time.Duration

open Text

/-- The units with their nanoseconds. -/
def units : List (List Char × Nat) :=
  [(['n', 's'], 1), (['u', 's'], 1000), (['µ', 's'], 1000), (['m', 's'], 1000000),
   (['s'], 1000000000), (['m'], 60000000000), (['h'], 3600000000000)]

theorem units_pos {name : List Char} {n : Nat} (listed : (name, n) ∈ units) : 0 < n := by
  have all : ∀ unit ∈ units, 0 < unit.2 := by decide
  exact all _ listed

theorem units_head {name : List Char} {n : Nat} (listed : (name, n) ∈ units) :
    ∃ c more, name = c :: more ∧ isDigit c = false ∧ c ≠ '.' := by
  have all : ∀ unit ∈ units, (unit.1.head?.any fun c =>
      decide (c.toNat < 1632 ∧ c.isDigit = false ∧ c ≠ '.')) = true := by
    decide
  obtain ⟨c, first, letter⟩ := (Option.any_eq_true _ _).mp (all _ listed)
  obtain ⟨low, other, point⟩ := of_decide_eq_true letter
  obtain ⟨more, rfl⟩ := List.head?_eq_some_iff.mp first
  exact ⟨c, more, rfl, (isDigit_eq low).trans other, point⟩

namespace Part

/-- `text` writes the part: digits of any script around a point, not all missing, and a unit. -/
structure Spelled (p : Part) (text : List Char) : Prop where
  whole : ∀ c ∈ p.whole, isDigit c = true
  fraction : ∀ c ∈ p.fraction, isDigit c = true
  number : p.whole ≠ [] ∨ p.fraction ≠ []
  unit : ∃ name, (name, p.unit) ∈ units ∧
    (text = p.whole ++ '.' :: p.fraction ++ name ∨ p.fraction = [] ∧ text = p.whole ++ name)

/-- The unit of the part ends before `rest`: a minute is not the beginning of `ms`. -/
def Ends (p : Part) (rest : List Char) : Prop := p.unit = 60000000000 → rest.head? ≠ some 's'

/-- The digits that count are ASCII digits: the whole number, and the first 18 of the fraction. -/
def Readable (p : Part) : Prop :=
  (∀ c ∈ p.whole, c.isDigit = true) ∧ ∀ c ∈ p.fraction.take 18, c.isDigit = true

def Ascii (p : Part) : Prop :=
  (∀ c ∈ p.whole, c.isDigit = true) ∧ ∀ c ∈ p.fraction, c.isDigit = true

def wholeNanos (p : Part) : Nat := Nat.ofDigitChars 10 p.whole 0 * p.unit

/-- The nanoseconds of the part, with 18 digits of the fraction, rounded down. -/
def nanos (p : Part) : Nat :=
  p.wholeNanos +
    Nat.ofDigitChars 10 (p.fraction.take 18) 0 * p.unit / 10 ^ (p.fraction.take 18).length

/-- The first 18 bytes of the fraction end inside a character. -/
def Splits (p : Part) : Prop :=
  ∃ before c after, p.fraction = before ++ c :: after ∧
    (before.map Char.utf8Size).sum < 18 ∧ 18 < (before.map Char.utf8Size).sum + c.utf8Size

variable {p : Part} {text rest : List Char}

theorem Spelled.unit_pos (spelled : p.Spelled text) : 0 < p.unit := by
  obtain ⟨name, listed, -⟩ := spelled.unit
  exact units_pos listed

theorem Spelled.exists_not_digit (spelled : p.Spelled text) : ∃ c ∈ text, isDigit c = false := by
  obtain ⟨name, listed, written⟩ := spelled.unit
  obtain ⟨c, more, rfl, other, -⟩ := units_head listed
  exact ⟨c, by rcases written with rfl | ⟨-, rfl⟩ <;> simp, other⟩

theorem Spelled.ne_nil (spelled : p.Spelled text) : text ≠ [] := by
  obtain ⟨c, listed, -⟩ := spelled.exists_not_digit
  exact List.ne_nil_of_mem listed

/-- A part begins with a digit or a point, so that no unit runs on into it. -/
theorem Spelled.head?_ne (spelled : p.Spelled text) : (text ++ rest).head? ≠ some 's' := by
  obtain ⟨name, -, written⟩ := spelled.unit
  have letter : isDigit 's' = false := isDigit_eq (by decide)
  cases first : p.whole with
  | nil =>
    rcases written with rfl | ⟨missing, -⟩
    · simp [first]
    · exact absurd missing (spelled.number.resolve_left (not_not_intro first))
  | cons c more =>
    have digit := spelled.whole c (by simp [first])
    have other : c ≠ 's' := by
      rintro rfl
      simp [letter] at digit
    rcases written with rfl | ⟨-, rfl⟩ <;> simpa [first] using other

end Part

/-! ### Splitting a text -/

theorem span_digits {digits rest : List Char} (all : ∀ c ∈ digits, isDigit c = true)
    (stop : ∀ c ∈ rest.head?, isDigit c = false) :
    (digits ++ rest).span isDigit = (digits, rest) := by
  rw [List.span_eq_takeWhile_dropWhile, List.takeWhile_append_of_pos all,
    List.dropWhile_append_of_pos all]
  cases rest with
  | nil => simp
  | cons c rest => simp [stop c rfl]

theorem exists_run (cs : List Char) :
    ∃ digits rest, cs = digits ++ rest ∧ (∀ c ∈ digits, isDigit c = true) ∧
      ∀ c ∈ rest.head?, isDigit c = false := by
  refine ⟨cs.takeWhile isDigit, cs.dropWhile isDigit, List.takeWhile_append_dropWhile.symm,
    fun c listed => List.mem_takeWhile_imp listed, fun c first => ?_⟩
  simpa [Option.mem_def.mp first] using List.head?_dropWhile_not isDigit cs

theorem readUnit?_of_listed {name rest : List Char} {n : Nat} (listed : (name, n) ∈ units)
    (ends : n = 60000000000 → rest.head? ≠ some 's') :
    readUnit? (name ++ rest) = some (n, rest) := by
  simp only [units, List.mem_cons, Prod.mk.injEq, List.not_mem_nil, or_false] at listed
  rcases listed with ⟨rfl, rfl⟩ | ⟨rfl, rfl⟩ | ⟨rfl, rfl⟩ | ⟨rfl, rfl⟩ | ⟨rfl, rfl⟩ | ⟨rfl, rfl⟩ |
    ⟨rfl, rfl⟩
  case inr.inr.inr.inr.inr.inl =>
    cases rest with
    | nil => rfl
    | cons c rest =>
      have other : c ≠ 's' := by simpa using ends rfl
      simp [readUnit?, other]
  all_goals simp [readUnit?]

theorem listed_of_readUnit? {cs rest : List Char} {n : Nat}
    (read : readUnit? cs = some (n, rest)) :
    ∃ name, (name, n) ∈ units ∧ cs = name ++ rest ∧
      (n = 60000000000 → rest.head? ≠ some 's') := by
  have whole (name : List Char) {n : Nat} (listed : (name, n) ∈ units) (other : n ≠ 60000000000)
      (rest : List Char) : ∃ name', (name', n) ∈ units ∧ name ++ rest = name' ++ rest ∧
        (n = 60000000000 → rest.head? ≠ some 's') :=
    ⟨name, listed, rfl, fun same => absurd same other⟩
  rw [readUnit?.eq_def] at read
  split at read
  case h_6 more other =>
    cases read
    refine ⟨['m'], by simp [units], rfl, fun _ first => ?_⟩
    obtain ⟨tail, rfl⟩ := List.head?_eq_some_iff.mp first
    exact other tail rfl
  all_goals cases read
  · exact whole ['n', 's'] (by simp [units]) (by decide) _
  · exact whole ['u', 's'] (by simp [units]) (by decide) _
  · exact whole ['µ', 's'] (by simp [units]) (by decide) _
  · exact whole ['m', 's'] (by simp [units]) (by decide) _
  · exact whole ['s'] (by simp [units]) (by decide) _
  · exact whole ['h'] (by simp [units]) (by decide) _

section

variable {whole fraction rest : List Char} (digits : ∀ c ∈ whole, isDigit c = true)
  (stop : ∀ c ∈ rest.head?, isDigit c = false)

include digits stop

theorem readPart?_point (more : ∀ c ∈ fraction, isDigit c = true) :
    readPart? (whole ++ '.' :: (fraction ++ rest)) =
      if whole = [] ∧ fraction = [] then none
      else (readUnit? rest).map fun (unit, rest) => (⟨whole, fraction, unit⟩, rest) := by
  have point : isDigit '.' = false := isDigit_eq (by decide)
  rw [readPart?, span_digits digits (by simpa using point)]
  simp only [span_digits more stop, Bool.and_eq_true, List.isEmpty_iff]

theorem readPart?_whole (point : rest.head? ≠ some '.') :
    readPart? (whole ++ rest) =
      if whole = [] then none
      else (readUnit? rest).map fun (unit, rest) => (⟨whole, [], unit⟩, rest) := by
  rw [readPart?, span_digits digits stop]
  dsimp only
  split
  next => exact absurd rfl point
  next => simp only [List.isEmpty_iff]

end

theorem readPart?_of_spelled {p : Part} {text rest : List Char} (spelled : p.Spelled text)
    (ends : p.Ends rest) : readPart? (text ++ rest) = some (p, rest) := by
  obtain ⟨name, listed, written⟩ := spelled.unit
  have unit := readUnit?_of_listed listed ends
  obtain ⟨c, more, rfl, other, notPoint⟩ := units_head listed
  have stop : ∀ d ∈ (c :: more ++ rest).head?, isDigit d = false := by simpa using other
  rcases written with rfl | ⟨missing, rfl⟩
  · have number : ¬(p.whole = [] ∧ p.fraction = []) := not_and_or.mpr spelled.number
    have text : p.whole ++ '.' :: p.fraction ++ c :: more ++ rest =
        p.whole ++ '.' :: (p.fraction ++ (c :: more ++ rest)) := by simp
    rw [text, readPart?_point spelled.whole stop spelled.fraction, if_neg number, unit]
    rfl
  · have number : p.whole ≠ [] := spelled.number.resolve_right (not_not_intro missing)
    rw [List.append_assoc, readPart?_whole spelled.whole stop (by simpa using notPoint),
      if_neg number, unit, ← missing]
    rfl

theorem spelled_of_readPart? {cs rest : List Char} {p : Part}
    (read : readPart? cs = some (p, rest)) :
    ∃ text, cs = text ++ rest ∧ p.Spelled text ∧ p.Ends rest := by
  obtain ⟨whole, tail, rfl, digits, stop⟩ := exists_run cs
  by_cases point : tail.head? = some '.'
  · obtain ⟨tail, rfl⟩ := List.head?_eq_some_iff.mp point
    obtain ⟨fraction, tail, rfl, more, stop⟩ := exists_run tail
    rw [readPart?_point digits stop more] at read
    split at read
    next => cases read
    next number =>
      obtain ⟨⟨n, tail⟩, unit, same⟩ := Option.map_eq_some_iff.mp read
      cases same
      obtain ⟨name, listed, rfl, ends⟩ := listed_of_readUnit? unit
      exact ⟨whole ++ '.' :: fraction ++ name, by simp,
        ⟨digits, more, not_and_or.mp number, name, listed, .inl rfl⟩, ends⟩
  · rw [readPart?_whole digits stop point] at read
    split at read
    next => cases read
    next number =>
      obtain ⟨⟨n, tail⟩, unit, same⟩ := Option.map_eq_some_iff.mp read
      cases same
      obtain ⟨name, listed, rfl, ends⟩ := listed_of_readUnit? unit
      exact ⟨whole ++ name, by simp,
        ⟨digits, by simp, .inl number, name, listed, .inr ⟨rfl, rfl⟩⟩, ends⟩

end ExprEngine.Time.Duration
