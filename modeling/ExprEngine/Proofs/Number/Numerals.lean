import ExprEngine.Number.Checked
import ExprEngine.Text.Class
import Mathlib.Data.List.Basic
import Mathlib.Tactic.Ring

/-!
# Numerals

Integers are written with an optional sign and at least one ASCII digit. Below the Arabic digits,
the ASCII digits are the only decimal digits.
-/

namespace ExprEngine

namespace Number

/-- `cs` is `body` after an optional sign, which stands for the factor `sign`. -/
inductive Signed : List Char → Int → List Char → Prop
  | minus (body : List Char) : Signed ('-' :: body) (-1) body
  | plus (body : List Char) : Signed ('+' :: body) 1 body
  | bare (body : List Char) (minus : body.head? ≠ some '-') (plus : body.head? ≠ some '+') :
    Signed body 1 body

/-- `cs` writes the integer `n` with an optional sign and at least one digit. -/
def Numeral (cs : List Char) (n : Int) : Prop :=
  ∃ sign digits, Signed cs sign digits ∧ digits ≠ [] ∧ (∀ c ∈ digits, c.isDigit = true) ∧
    n = sign * Nat.ofDigitChars 10 digits 0

namespace Signed

theorem exists_body (cs : List Char) : ∃ sign body, Signed cs sign body := by
  by_cases minus : cs.head? = some '-'
  · obtain ⟨body, rfl⟩ := List.head?_eq_some_iff.mp minus
    exact ⟨-1, body, .minus body⟩
  · by_cases plus : cs.head? = some '+'
    · obtain ⟨body, rfl⟩ := List.head?_eq_some_iff.mp plus
      exact ⟨1, body, .plus body⟩
    · exact ⟨1, cs, .bare cs minus plus⟩

theorem unique {cs body body' : List Char} {sign sign' : Int} (first : Signed cs sign body)
    (second : Signed cs sign' body') : sign = sign' ∧ body = body' := by
  cases first <;> cases second <;> simp_all

theorem mem {cs body : List Char} {sign : Int} (signed : Signed cs sign body) {c : Char}
    (listed : c ∈ body) : c ∈ cs := by
  cases signed with
  | minus => exact List.mem_cons_of_mem _ listed
  | plus => exact List.mem_cons_of_mem _ listed
  | bare => exact listed

theorem sign_eq {cs body : List Char} {sign : Int} (signed : Signed cs sign body) :
    sign = 1 ∨ sign = -1 := by
  cases signed <;> simp

end Signed

/-! ### Reading digits -/

theorem ofDigitChars_lt {digits : List Char} (all : ∀ c ∈ digits, c.isDigit = true) (start : Nat) :
    Nat.ofDigitChars 10 digits start < (start + 1) * 10 ^ digits.length := by
  induction digits generalizing start with
  | nil => simp
  | cons c digits ih =>
    rw [List.forall_mem_cons] at all
    have small : c.toNat - '0'.toNat ≤ 9 := by
      have digit := all.1
      simp only [Char.isDigit, Bool.and_eq_true, decide_eq_true_eq, UInt32.le_iff_toNat_le] at digit
      exact Nat.sub_le_of_le_add digit.2
    rw [Nat.ofDigitChars_cons, List.length_cons, Nat.pow_succ]
    calc Nat.ofDigitChars 10 digits (10 * start + (c.toNat - '0'.toNat))
        < (10 * start + (c.toNat - '0'.toNat) + 1) * 10 ^ digits.length := ih all.2 _
      _ ≤ (10 * (start + 1)) * 10 ^ digits.length := Nat.mul_le_mul_right _ (by omega)
      _ = (start + 1) * (10 ^ digits.length * 10) := by ring

theorem foldlM_digits (digits : List Char) (start : Nat) :
    digits.foldlM (fun n c => if c.isDigit then some (10 * n + (c.toNat - 48)) else none) start =
      if digits.all Char.isDigit then some (Nat.ofDigitChars 10 digits start) else none := by
  induction digits generalizing start with
  | nil => simp
  | cons c digits ih =>
    by_cases digit : c.isDigit = true
    · rw [List.foldlM_cons, if_pos digit, Nat.ofDigitChars_cons]
      exact (ih _).trans (by simp [digit])
    · rw [List.foldlM_cons, if_neg digit, if_neg (by simp [digit])]
      rfl

theorem ofDigits?_of_digits {digits : List Char} (some_digit : digits ≠ [])
    (all : ∀ c ∈ digits, c.isDigit = true) :
    ofDigits? digits = some (Nat.ofDigitChars 10 digits 0) := by
  rw [ofDigits?, if_neg (by simpa using some_digit), foldlM_digits,
    if_pos (List.all_eq_true.mpr all)]

theorem ofDigits?_eq_some_iff {digits : List Char} {n : Nat} :
    ofDigits? digits = some n ↔
      digits ≠ [] ∧ (∀ c ∈ digits, c.isDigit = true) ∧ n = Nat.ofDigitChars 10 digits 0 := by
  constructor
  · intro read
    rw [ofDigits?, foldlM_digits] at read
    split at read
    next => cases read
    next some_digit =>
      split at read
      next all =>
        exact ⟨by simpa using some_digit, List.all_eq_true.mp all, by simpa using read.symm⟩
      next => cases read
  · rintro ⟨some_digit, all, rfl⟩
    exact ofDigits?_of_digits some_digit all

theorem readInteger?_signed {cs digits : List Char} {sign : Int} (signed : Signed cs sign digits) :
    readInteger? cs = (ofDigits? digits).map fun n : Nat => sign * (n : Int) := by
  cases signed with
  | minus => cases read : ofDigits? digits <;> simp [readInteger?, read]
  | plus => cases read : ofDigits? digits <;> simp [readInteger?, read]
  | bare _ minus plus =>
    rw [readInteger?]
    · cases ofDigits? cs <;> simp
    · rintro rest rfl
      exact minus rfl
    · rintro rest rfl
      exact plus rfl

theorem readInteger?_eq_some_iff {cs : List Char} {n : Int} :
    readInteger? cs = some n ↔ Numeral cs n := by
  constructor
  · intro read
    obtain ⟨sign, digits, signed⟩ := Signed.exists_body cs
    rw [readInteger?_signed signed, Option.map_eq_some_iff] at read
    obtain ⟨m, found, rfl⟩ := read
    obtain ⟨some_digit, all, rfl⟩ := ofDigits?_eq_some_iff.mp found
    exact ⟨sign, digits, signed, some_digit, all, rfl⟩
  · rintro ⟨sign, digits, signed, some_digit, all, rfl⟩
    rw [readInteger?_signed signed, ofDigits?_of_digits some_digit all, Option.map_some]

theorem Numeral.unique {cs : List Char} {m n : Int} (first : Numeral cs m) (second : Numeral cs n) :
    m = n := by
  rw [← readInteger?_eq_some_iff] at first second
  exact Option.some.inj (first.symm.trans second)

theorem Numeral.eq_or_isDigit {cs : List Char} {n : Int} (numeral : Numeral cs n) {c : Char}
    (listed : c ∈ cs) : c = '-' ∨ c = '+' ∨ c.isDigit = true := by
  obtain ⟨sign, digits, signed, -, all, -⟩ := numeral
  cases signed with
  | minus =>
    rcases List.mem_cons.mp listed with rfl | later
    · exact .inl rfl
    · exact .inr (.inr (all c later))
  | plus =>
    rcases List.mem_cons.mp listed with rfl | later
    · exact .inr (.inl rfl)
    · exact .inr (.inr (all c later))
  | bare => exact .inr (.inr (all c listed))

/-! ### Writing integers -/

theorem toList_toString (i : Int) :
    (toString i).toList = (if i < 0 then ['-'] else []) ++ Nat.toDigits 10 i.natAbs := by
  cases i with
  | ofNat n => simp [toString, Int.repr]
  | negSucc n => simp [toString, Int.repr]

theorem head?_toDigits (n : Nat) {c : Char} (sign : c.isDigit = false) :
    (Nat.toDigits 10 n).head? ≠ some c := by
  intro first
  have digit := Nat.isDigit_of_mem_toDigits (by decide) (by decide) (List.mem_of_head? first)
  rw [sign] at digit
  cases digit

theorem signed_toString (i : Int) :
    Signed (toString i).toList (if i < 0 then -1 else 1) (Nat.toDigits 10 i.natAbs) := by
  rw [toList_toString]
  split
  next => exact .minus _
  next =>
    exact .bare _ (head?_toDigits _ (by decide)) (head?_toDigits _ (by decide))

theorem numeral_toString (i : Int) : Numeral (toString i).toList i := by
  refine ⟨_, _, signed_toString i, Nat.toDigits_ne_nil, fun c listed => ?_, ?_⟩
  · exact Nat.isDigit_of_mem_toDigits (by decide) (by decide) listed
  · rw [Nat.ofDigitChars_ten_toDigits]
    split <;> omega

theorem readInteger?_toString (i : Int) : readInteger? (toString i).toList = some i :=
  readInteger?_eq_some_iff.mpr (numeral_toString i)

theorem readSigned?_toString (i : Int64) : readSigned? (toString i.toInt) = some i := by
  rw [readSigned?, readInteger?_toString, Option.bind_some, signed?_eq_some_iff]

theorem readUnsigned?_toString (u : UInt64) : readUnsigned? (toString u.toNat) = some u := by
  have digits : (toString u.toNat).toList = (toString (u.toNat : Int)).toList := rfl
  have apart : (toString u.toNat).toList.head? ≠ some '-' := by
    rw [digits, toList_toString, if_neg (by omega)]
    exact head?_toDigits _ (by decide)
  rw [readUnsigned?, if_neg apart, digits, readInteger?_toString, Option.bind_some,
    unsigned?_eq_some_iff]

end Number

namespace Text

theorem CodePoints.ofRuns_ofList (runs : List Char) :
    CodePoints.ofRuns (String.ofList runs) =
      if runs.isEmpty then .empty else ⟨(runs.foldl Reading.step {}).finish.done.reverse⟩ := by
  rw [CodePoints.ofRuns, String.foldl_eq_foldl_toList, String.toList_ofList]
  cases runs <;> simp

theorem Category.points_eq {k : Category} (listed : k ∈ Category.all)
    (assigned : k ≠ .unassigned) : k.points = .ofRuns k.runs := by
  have table : Category.table = Category.all.map fun j => (j,
      if j = .unassigned then
        (CodePoints.join ((Category.all.map fun k => (k, CodePoints.ofRuns k.runs)).map
          Prod.snd)).complement
      else .ofRuns j.runs) := by
    rw [Category.table, List.map_map]
    exact List.map_congr_left fun j _ => (apply_ite (Prod.mk j) _ _ _).symm
  rw [Category.points, table, List.lookup_graph _ listed, if_neg assigned, Option.getD_some]

theorem intervals_digits (runs : List Char)
    (written : Category.decimalNumber.runs = String.ofList runs) :
    digits.intervals =
      if runs.isEmpty then []
      else (runs.foldl CodePoints.Reading.step {}).finish.done.reverse := by
  rw [digits, Category.points_eq (by decide) (by decide), written, CodePoints.ofRuns_ofList]
  split <;> rfl

set_option maxRecDepth 4000 in
/-- The first two scripts with digits are the Latin and the Arabic one. -/
theorem take_digits : digits.intervals.take 2 = [(48, 58), (1632, 1642)] := by
  rw [intervals_digits _ rfl]
  decide +kernel

theorem inIntervals_first {n : Nat} (low : n < 1642) (more : List (Nat × Nat)) :
    CodePoints.inIntervals n ([(48, 58), (1632, 1642)] ++ more) =
      decide (48 ≤ n ∧ n < 58 ∨ 1632 ≤ n) := by
  simp only [List.cons_append, CodePoints.inIntervals]
  grind

theorem isDigit_eq_decide {c : Char} (low : c.toNat < 1642) :
    isDigit c = decide (48 ≤ c.toNat ∧ c.toNat < 58 ∨ 1632 ≤ c.toNat) := by
  rw [isDigit, CodePoints.containsChar, CodePoints.contains,
    ← List.take_append_drop 2 digits.intervals, take_digits]
  exact inIntervals_first low _

theorem isDigit_eq {c : Char} (low : c.toNat < 1632) : isDigit c = c.isDigit := by
  rw [isDigit_eq_decide (low.trans (by decide)), Bool.eq_iff_iff]
  simp only [Char.isDigit, Bool.and_eq_true, decide_eq_true_eq, UInt32.le_iff_toNat_le]
  change 48 ≤ c.toNat ∧ c.toNat < 58 ∨ 1632 ≤ c.toNat ↔ 48 ≤ c.toNat ∧ c.toNat ≤ 57
  omega

theorem isDigit_of_ascii {c : Char} (digit : c.isDigit = true) : isDigit c = true := by
  rw [isDigit_eq, digit]
  simp only [Char.isDigit, Bool.and_eq_true, decide_eq_true_eq, UInt32.le_iff_toNat_le] at digit
  exact Nat.lt_of_le_of_lt digit.2 (by decide)

end Text

end ExprEngine
