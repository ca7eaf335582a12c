import ExprEngine.Proofs.Time.Parts

/-!
# Reading durations

The digits of a part that count must be ASCII digits, and the sum of the parts must fit a word. A
fraction is cut after 18 bytes, and the cut may fall inside a character. These are all the ways in
which a text that is made of parts can fail to denote a duration.
-/

namespace ExprEngine

namespace Time.Duration

open Text Number

/-! ### Cutting a fraction -/

theorem utf8Size_of_isDigit {c : Char} (digit : c.isDigit = true) : c.utf8Size = 1 := by
  simp only [Char.isDigit, Bool.and_eq_true, decide_eq_true_eq] at digit
  exact Char.utf8Size_eq_one_iff.mpr (UInt32.le_trans digit.2 (by decide))

theorem takeBytes_of_digits {cs : List Char} {n : Nat}
    (ascii : ∀ c ∈ cs.take n, c.isDigit = true) : takeBytes n cs = some (cs.take n) := by
  induction cs generalizing n with
  | nil => simp [takeBytes]
  | cons c cs ih =>
    cases n with
    | zero => rfl
    | succ n =>
      rw [List.take_succ_cons, List.forall_mem_cons] at ascii
      have size := utf8Size_of_isDigit ascii.1
      rw [takeBytes, if_neg (Nat.succ_ne_zero n), size, if_pos (Nat.le_add_left 1 n),
        Nat.add_sub_cancel, ih ascii.2]
      rfl

theorem eq_take_of_takeBytes {cs taken : List Char} {n : Nat} (cut : takeBytes n cs = some taken)
    (ascii : ∀ c ∈ taken, c.isDigit = true) : taken = cs.take n := by
  induction cs generalizing n taken with
  | nil =>
    cases cut
    simp
  | cons c cs ih =>
    rw [takeBytes] at cut
    split at cut
    next zero =>
      cases cut
      simp [zero]
    next positive =>
      split at cut
      next =>
        obtain ⟨rest, more, rfl⟩ := Option.map_eq_some_iff.mp cut
        rw [List.forall_mem_cons] at ascii
        rw [utf8Size_of_isDigit ascii.1] at more
        obtain ⟨n, rfl⟩ := Nat.exists_eq_succ_of_ne_zero positive
        rw [List.take_succ_cons, ih more ascii.2]
        rfl
      next => cases cut

theorem takeBytes_eq_none_iff {cs : List Char} {n : Nat} :
    takeBytes n cs = none ↔ ∃ before c after, cs = before ++ c :: after ∧
      (before.map Char.utf8Size).sum < n ∧ n < (before.map Char.utf8Size).sum + c.utf8Size := by
  induction cs generalizing n with
  | nil => simp [takeBytes]
  | cons c cs ih =>
    have positive := c.utf8Size_pos
    rw [takeBytes]
    constructor
    · intro cut
      split at cut
      next => cases cut
      next nonzero =>
        split at cut
        next fits =>
          obtain ⟨before, d, after, rfl, below, above⟩ := ih.mp (Option.map_eq_none_iff.mp cut)
          exact ⟨c :: before, d, after, rfl, by simp; omega, by simp; omega⟩
        next beyond => exact ⟨[], c, cs, rfl, by simp; omega, by simp; omega⟩
    · rintro ⟨before, d, after, same, below, above⟩
      rw [if_neg (by omega)]
      cases before with
      | nil =>
        obtain ⟨rfl, rfl⟩ : c = d ∧ cs = after := by simpa using same
        rw [if_neg (by simpa using above)]
      | cons e before =>
        obtain ⟨rfl, rfl⟩ : c = e ∧ cs = before ++ d :: after := by simpa using same
        simp only [List.map_cons, List.sum_cons] at below above
        rw [if_pos (by omega), Option.map_eq_none_iff]
        exact ih.mpr ⟨before, d, after, rfl, by omega, by omega⟩

/-! ### Adding up -/

theorem bounded_eq_ok_iff {n m : Nat} : bounded n = .ok m ↔ n < sumLimit ∧ n = m := by
  rw [bounded]
  split
  next fits => simp [fits]
  next beyond => simp [beyond]

theorem bounded_ne_split (n : Nat) : bounded n ≠ .error .splitCharacter := by
  rw [bounded]
  split <;> simp

theorem digitsValue_eq (digits : List Char) :
    digitsValue digits =
      if digits.all Char.isDigit then bounded (Nat.ofDigitChars 10 digits 0)
      else .error .malformed := by
  rw [digitsValue]
  by_cases none : digits = []
  · simp [none, bounded, sumLimit]
  · rw [if_neg (by simpa using none)]
    split
    next n read =>
      obtain ⟨-, all, rfl⟩ := ofDigits?_eq_some_iff.mp read
      rw [if_pos (List.all_eq_true.mpr all)]
    next unread =>
      have other : ¬digits.all Char.isDigit = true := fun all => by
        rw [ofDigits?_of_digits none (List.all_eq_true.mp all)] at unread
        cases unread
      rw [if_neg other]

section

variable {α β : Type} {x : Except Fault α} {f : α → Except Fault β}

theorem bind_eq_ok_iff {b : β} : x >>= f = .ok b ↔ ∃ a, x = .ok a ∧ f a = .ok b := by
  cases x <;> simp [bind, Except.bind]

theorem bind_eq_error_iff {e : Fault} :
    x >>= f = .error e ↔ x = .error e ∨ ∃ a, x = .ok a ∧ f a = .error e := by
  cases x <;> simp [bind, Except.bind]

end

theorem bounded_bind {a b : Nat} {f : Nat → Nat} (below : a ≤ b) (same : f a = b) :
    (bounded a >>= fun n => bounded (f n)) = bounded b := by
  by_cases fits : a < sumLimit
  · rw [show bounded a = .ok a from if_pos fits, ← same]
    rfl
  · rw [show bounded a = .error .malformed from if_neg fits,
      show bounded b = .error .malformed from if_neg fun less => fits (below.trans_lt less)]
    rfl

namespace Part

variable {p : Part} {sum : Nat}

theorem wholeSum_eq (positive : 0 < p.unit) :
    (digitsValue p.whole >>= fun n => bounded (n * p.unit) >>= fun m => bounded (sum + m)) =
      if p.whole.all Char.isDigit then bounded (sum + p.wholeNanos)
      else .error .malformed := by
  rw [digitsValue_eq]
  split
  next =>
    have product : (fun n => bounded (n * p.unit) >>= fun m => bounded (sum + m)) =
        fun n => bounded (sum + n * p.unit) :=
      funext fun n => bounded_bind (Nat.le_add_left _ _) rfl
    rw [product]
    exact bounded_bind ((Nat.le_mul_of_pos_right _ positive).trans (Nat.le_add_left _ _)) rfl
  next => rfl

theorem addTo_eq : p.addTo sum =
    (digitsValue p.whole >>= fun n => bounded (n * p.unit) >>= fun m => bounded (sum + m)) >>=
      fun sum => match takeBytes 18 p.fraction with
        | none => .error .splitCharacter
        | some digits => digitsValue digits >>= fun n =>
          bounded (sum + n * p.unit / Nat.pow 10 digits.length) := by
  rw [addTo, bind_assoc]
  exact congrArg _ (funext fun n => (bind_assoc _ _ _).symm)

theorem addTo_of_readable (positive : 0 < p.unit) (readable : p.Readable) :
    p.addTo sum = bounded (sum + p.nanos) := by
  obtain ⟨ascii, more⟩ := readable
  have small : Nat.ofDigitChars 10 (p.fraction.take 18) 0 < sumLimit :=
    (ofDigitChars_lt more 0).trans_le <| by
      rw [Nat.zero_add, Nat.one_mul]
      exact (Nat.pow_le_pow_right (by decide) (List.length_take_le 18 _)).trans (by decide)
  have value : digitsValue (p.fraction.take 18) =
      .ok (Nat.ofDigitChars 10 (p.fraction.take 18) 0) := by
    rw [digitsValue_eq, if_pos (List.all_eq_true.mpr more)]
    exact if_pos small
  rw [addTo_eq, wholeSum_eq positive, if_pos (List.all_eq_true.mpr ascii),
    takeBytes_of_digits more]
  simp only [value]
  exact bounded_bind (Nat.add_le_add_left (Nat.le_add_right _ _) _) (Nat.add_assoc _ _ _)

theorem readable_of_addTo {n : Nat} (positive : 0 < p.unit) (added : p.addTo sum = .ok n) :
    p.Readable := by
  rw [addTo_eq, wholeSum_eq positive, bind_eq_ok_iff] at added
  obtain ⟨whole, first, added⟩ := added
  split at first
  next ascii =>
    split at added
    next => cases added
    next digits cut =>
      obtain ⟨value, read, -⟩ := bind_eq_ok_iff.mp added
      rw [digitsValue_eq] at read
      split at read
      next more =>
        rw [List.all_eq_true] at ascii more
        exact ⟨ascii, eq_take_of_takeBytes cut more ▸ more⟩
      next => cases read
  next => cases first

theorem addTo_eq_split_iff (positive : 0 < p.unit) :
    p.addTo sum = .error .splitCharacter ↔
      (∀ c ∈ p.whole, c.isDigit = true) ∧ sum + p.wholeNanos < sumLimit ∧ p.Splits := by
  rw [addTo_eq, wholeSum_eq positive, bind_eq_error_iff, Splits, ← takeBytes_eq_none_iff]
  constructor
  · rintro (first | ⟨whole, first, cut⟩)
    · split at first
      next => exact absurd first (bounded_ne_split _)
      next => cases first
    · split at first
      next ascii =>
        refine ⟨List.all_eq_true.mp ascii, (bounded_eq_ok_iff.mp first).1, ?_⟩
        split at cut
        next none => exact none
        next digits _ =>
          rcases bind_eq_error_iff.mp cut with value | ⟨n, -, beyond⟩
          · rw [digitsValue_eq] at value
            split at value
            next => exact absurd value (bounded_ne_split _)
            next => cases value
          · exact absurd beyond (bounded_ne_split _)
      next => cases first
  · rintro ⟨ascii, fits, cut⟩
    exact .inr ⟨_, (if_pos (List.all_eq_true.mpr ascii)).trans (if_pos fits), by rw [cut]⟩

end Part

/-! ### Texts of parts -/

/-- `text` writes the parts one after the other. -/
inductive Written : List Part → List Char → Prop
  | nil : Written [] []
  | cons {p : Part} {ps : List Part} {text more : List Char} (first : p.Spelled text)
    (rest : Written ps more) : Written (p :: ps) (text ++ more)

def total (ps : List Part) : Nat := (ps.map Part.nanos).sum

namespace Written

variable {ps : List Part} {text rest : List Char}

theorem append {qs : List Part} {more : List Char} (first : Written ps text)
    (next : Written qs more) : Written (ps ++ qs) (text ++ more) := by
  induction first with
  | nil => exact next
  | cons spelled _ ih =>
    rw [List.append_assoc]
    exact .cons spelled ih

theorem unit_pos (written : Written ps text) : ∀ p ∈ ps, 0 < p.unit := by
  induction written with
  | nil => simp
  | cons spelled _ ih => exact List.forall_mem_cons.mpr ⟨spelled.unit_pos, ih⟩

theorem length_le (written : Written ps text) : ps.length ≤ text.length := by
  induction written with
  | nil => exact Nat.le_refl 0
  | cons spelled _ ih =>
    have := List.length_pos_iff.mpr spelled.ne_nil
    rw [List.length_cons, List.length_append]
    omega

theorem head?_ne (written : Written ps text) (next : rest.head? ≠ some 's') :
    (text ++ rest).head? ≠ some 's' := by
  cases written with
  | nil => exact next
  | cons spelled _ =>
    rw [List.append_assoc]
    exact spelled.head?_ne

theorem ne_zero (written : Written ps text) (some_part : ps ≠ []) (rest : List Char) :
    text ++ rest ≠ ['0'] := by
  cases written with
  | nil => exact absurd rfl some_part
  | cons spelled _ =>
    obtain ⟨c, listed, other⟩ := spelled.exists_not_digit
    intro zero
    have same : c ∈ ['0'] := zero ▸ by simp [listed]
    rw [List.mem_singleton.mp same, isDigit_of_ascii (by decide)] at other
    cases other

end Written

theorem sumParts_of_ne_nil {cs : List Char} {fuel sum : Nat} (nonempty : cs ≠ []) :
    sumParts (fuel + 1) cs sum =
      match readPart? cs with
      | none => .error .malformed
      | some (p, rest) => p.addTo sum >>= sumParts fuel rest :=
  sumParts.eq_3 cs sum fuel nonempty

theorem sumParts_cons {p : Part} {text rest : List Char} {fuel sum : Nat}
    (spelled : p.Spelled text) (ends : p.Ends rest) :
    sumParts (fuel + 1) (text ++ rest) sum = p.addTo sum >>= sumParts fuel rest := by
  rw [sumParts_of_ne_nil (by simp [spelled.ne_nil]), readPart?_of_spelled spelled ends]

theorem sumParts_written {ps : List Part} {text rest : List Char} {fuel sum : Nat}
    (written : Written ps text) (enough : ps.length ≤ fuel) (next : rest.head? ≠ some 's') :
    sumParts fuel (text ++ rest) sum =
      ps.foldlM (fun sum p => p.addTo sum) sum >>= sumParts (fuel - ps.length) rest := by
  induction written generalizing fuel sum with
  | nil => rfl
  | @cons p ps text more spelled written ih =>
    obtain ⟨fuel, rfl⟩ := Nat.exists_eq_add_one_of_ne_zero (Nat.ne_zero_of_lt enough)
    have ends : p.Ends (more ++ rest) := fun _ => written.head?_ne next
    rw [List.append_assoc, sumParts_cons spelled ends, List.foldlM_cons, bind_assoc,
      List.length_cons, Nat.add_sub_add_right]
    exact congrArg _ (funext fun sum => ih (Nat.le_of_succ_le_succ enough))

theorem written_of_sumParts {cs : List Char} {fuel sum n : Nat}
    (read : sumParts fuel cs sum = .ok n) :
    ∃ ps, Written ps cs ∧ ps.foldlM (fun sum p => p.addTo sum) sum = .ok n := by
  induction fuel generalizing cs sum with
  | zero =>
    cases cs with
    | nil => exact ⟨[], .nil, read⟩
    | cons => cases read
  | succ fuel ih =>
    cases cs with
    | nil => exact ⟨[], .nil, read⟩
    | cons c cs =>
      rw [sumParts_of_ne_nil (List.cons_ne_nil c cs)] at read
      split at read
      next => cases read
      next p rest part =>
        obtain ⟨text, same, spelled, -⟩ := spelled_of_readPart? part
        obtain ⟨sum', added, read⟩ := bind_eq_ok_iff.mp read
        obtain ⟨ps, written, folded⟩ := ih read
        refine ⟨p :: ps, same ▸ .cons spelled written, ?_⟩
        rw [List.foldlM_cons, added]
        exact folded

/-- A reading that fails at a cut has read some parts before and stopped at one that splits. -/
theorem exists_split_of_sumParts {cs : List Char} {fuel sum : Nat}
    (read : sumParts fuel cs sum = .error .splitCharacter) :
    ∃ (ps : List Part) (before : List Char) (p : Part) (text rest : List Char) (n : Nat),
      cs = before ++ (text ++ rest) ∧ Written ps before ∧ p.Spelled text ∧
      p.Ends rest ∧ ps.foldlM (fun sum p => p.addTo sum) sum = .ok n ∧
      p.addTo n = .error .splitCharacter := by
  induction fuel generalizing cs sum with
  | zero => cases cs <;> cases read
  | succ fuel ih =>
    cases cs with
    | nil => cases read
    | cons c cs =>
      rw [sumParts_of_ne_nil (List.cons_ne_nil c cs)] at read
      split at read
      next => cases read
      next p rest part =>
        obtain ⟨text, same, spelled, ends⟩ := spelled_of_readPart? part
        rcases bind_eq_error_iff.mp read with split | ⟨sum', added, later⟩
        · exact ⟨[], [], p, text, rest, sum, same, .nil, spelled, ends, rfl, split⟩
        · obtain ⟨ps, before, q, text', rest', n, rfl, written, facts⟩ := ih later
          refine ⟨p :: ps, text ++ before, q, text', rest', n, by rw [same, List.append_assoc],
            .cons spelled written, facts.1, facts.2.1, ?_, facts.2.2.2⟩
          rw [List.foldlM_cons, added]
          exact facts.2.2.1

theorem foldlM_addTo_eq_ok_iff {ps : List Part} {sum n : Nat} (positive : ∀ p ∈ ps, 0 < p.unit)
    (small : sum < sumLimit) :
    ps.foldlM (fun sum p => p.addTo sum) sum = .ok n ↔
      (∀ p ∈ ps, p.Readable) ∧ n = sum + total ps ∧ n < sumLimit := by
  induction ps generalizing sum with
  | nil =>
    rw [List.foldlM_nil]
    constructor
    · rintro ⟨⟩
      exact ⟨by simp, rfl, small⟩
    · rintro ⟨-, rfl, -⟩
      rfl
  | cons p ps ih =>
    rw [List.forall_mem_cons] at positive
    have parts : total (p :: ps) = p.nanos + total ps := by simp [total]
    rw [List.foldlM_cons, bind_eq_ok_iff, List.forall_mem_cons, parts, ← Nat.add_assoc]
    constructor
    · rintro ⟨sum', added, folded⟩
      have readable := Part.readable_of_addTo positive.1 added
      rw [Part.addTo_of_readable positive.1 readable, bounded_eq_ok_iff] at added
      obtain ⟨fits, rfl⟩ := added
      obtain ⟨all, same, bound⟩ := (ih positive.2 fits).mp folded
      exact ⟨⟨readable, all⟩, same, bound⟩
    · rintro ⟨⟨readable, all⟩, same, bound⟩
      have fits : sum + p.nanos < sumLimit := by omega
      refine ⟨sum + p.nanos, ?_, (ih positive.2 fits).mpr ⟨all, same, bound⟩⟩
      rw [Part.addTo_of_readable positive.1 readable]
      exact if_pos fits

end Time.Duration

end ExprEngine
