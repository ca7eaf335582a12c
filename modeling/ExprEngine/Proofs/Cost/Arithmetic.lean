import ExprEngine.Cost
import Mathlib.Algebra.GroupWithZero.Nat
import Mathlib.Tactic.SplitIfs

/-!
# Arithmetic of cost bounds

A cost admits a number of units if the number is no greater than its maximum, where a maximum that
has reached the end of the scale admits everything. Sums, alternatives and repetitions admit what
their parts admit together, although they stop at the end of the scale. Their minima never exceed
those of the parts.
-/

namespace ExprEngine.Cost

variable {a b c : Cost} {m n : Nat}

/-! ### The scale -/

theorem clamp_mono (h : m ≤ n) : clamp m ≤ clamp n := by
  unfold clamp
  exact Nat.le_min.mpr ⟨Nat.le_trans (Nat.min_le_left ..) h, Nat.min_le_right ..⟩

theorem clamp_le (n : Nat) : clamp n ≤ n := Nat.min_le_left ..

theorem clamp_eq (n : Nat) : clamp n = if n ≤ unbounded then n else unbounded := Nat.min_def

theorem clamp_add_clamp (m n : Nat) : clamp (clamp m + clamp n) = clamp (m + n) := by
  simp only [clamp_eq]
  split_ifs <;> omega

/-! ### Maxima -/

/-- So much work is within the maximum, or else the maximum bounds nothing. -/
def Admits (c : Cost) (n : Nat) : Prop := clamp n ≤ c.max

theorem admits_iff : c.Admits n ↔ n ≤ c.max ∨ unbounded ≤ c.max := by
  unfold Admits
  rw [clamp_eq]
  split_ifs <;> omega

theorem Admits.mono (admits : c.Admits n) (fewer : m ≤ n) : c.Admits m :=
  Nat.le_trans (clamp_mono fewer) admits

theorem admits_of_le (h : n ≤ c.max) : c.Admits n := Nat.le_trans (clamp_le n) h

theorem admits_zero (c : Cost) : c.Admits 0 := admits_of_le (Nat.zero_le _)

theorem max_add (a b : Cost) : (a + b).max = clamp (a.max + b.max) := rfl

theorem max_add_le (a b : Cost) : (a + b).max ≤ unbounded := clamp_le_unbounded _

theorem Admits.add (first : a.Admits m) (second : b.Admits n) : (a + b).Admits (m + n) := by
  unfold Admits at *
  rw [max_add, ← clamp_add_clamp]
  exact clamp_mono (Nat.add_le_add first second)

theorem Admits.either_left (admits : a.Admits n) (b : Cost) : (a.either b).Admits n :=
  Nat.le_trans admits (Nat.le_max_left ..)

theorem Admits.either_right (admits : b.Admits n) (a : Cost) : (a.either b).Admits n :=
  Nat.le_trans admits (Nat.le_max_right ..)

theorem max_foldl_add (start : Cost) (costs : List Cost) (within : start.max ≤ unbounded) :
    (costs.foldl (· + ·) start).max = clamp (start.max + (costs.map max).sum) := by
  induction costs generalizing start with
  | nil =>
    rw [List.foldl_nil, List.map_nil, List.sum_nil, clamp_eq, if_pos (by omega), Nat.add_zero]
  | cons c rest ih =>
    have later := ih (start + c) (max_add_le start c)
    rw [List.foldl_cons, later, List.map_cons, List.sum_cons, max_add, ← Nat.add_assoc]
    simp only [clamp_eq]
    split_ifs <;> omega

theorem max_sum (costs : List Cost) : (sum costs).max = clamp (costs.map max).sum := by
  have folded := max_foldl_add zero costs (Nat.zero_le _)
  rw [sum, folded, zero, Nat.zero_add]

theorem max_sum_le (costs : List Cost) : (sum costs).max ≤ unbounded := by
  rw [max_sum]
  exact clamp_le_unbounded _

theorem Admits.sum_cons {costs : List Cost} (first : c.Admits m) (others : (sum costs).Admits n) :
    (sum (c :: costs)).Admits (m + n) := by
  unfold Admits at *
  rw [max_sum] at *
  rw [List.map_cons, List.sum_cons, ← clamp_add_clamp m]
  simp only [clamp_eq] at *
  split_ifs at * <;> omega

theorem Admits.foldl_either {costs : List Cost} {start : Cost}
    (admits : start.Admits n ∨ ∃ c ∈ costs, c.Admits n) : (costs.foldl either start).Admits n := by
  induction costs generalizing start with
  | nil =>
    rcases admits with here | ⟨c, member, -⟩
    · exact here
    · cases member
  | cons d rest ih =>
    refine ih ?_
    rcases admits with here | ⟨c, member, there⟩
    · exact .inl (here.either_left d)
    · rcases List.mem_cons.mp member with rfl | later
      · exact .inl (there.either_right start)
      · exact .inr ⟨c, later, there⟩

theorem Admits.anyOf {costs : List Cost} (member : c ∈ costs) (admits : c.Admits n)
    (other : Cost) : ((anyOf? costs).getD other).Admits n := by
  cases costs with
  | nil => cases member
  | cons d rest =>
    refine Admits.foldl_either ?_
    rcases List.mem_cons.mp member with rfl | later
    · exact .inl admits
    · exact .inr ⟨c, later, admits⟩

theorem max_foldl_either_le {costs : List Cost} {start : Cost} {bound : Nat}
    (first : start.max ≤ bound) (others : ∀ c ∈ costs, c.max ≤ bound) :
    (costs.foldl either start).max ≤ bound := by
  induction costs generalizing start with
  | nil => exact first
  | cons d rest ih =>
    have here : d.max ≤ bound := others d List.mem_cons_self
    exact ih (Nat.max_le.mpr ⟨first, here⟩) fun c later => others c (List.mem_cons_of_mem d later)

theorem max_anyOf_le {costs : List Cost} {other : Cost} {bound : Nat}
    (each : ∀ c ∈ costs, c.max ≤ bound) (none : other.max ≤ bound) :
    ((anyOf? costs).getD other).max ≤ bound := by
  cases costs with
  | nil => exact none
  | cons d rest =>
    have first : d.max ≤ bound := each d List.mem_cons_self
    exact max_foldl_either_le first fun c later => each c (List.mem_cons_of_mem d later)

/-- What is done `times` times is admitted, if each time is and the number of times is no greater
than the one that is known. -/
theorem Admits.repeated {times : Nat} {known : Option Nat} (each : c.Admits m)
    (counted : ∀ k, known = some k → times ≤ k) (total : n ≤ m * times) :
    (c.repeated known).Admits n := by
  rcases Nat.eq_zero_or_pos times with rfl | positive
  · have nothing : n = 0 := Nat.le_zero.mp total
    exact nothing ▸ admits_zero _
  · rcases admits_iff.mp each with within | endless
    · cases known with
      | none =>
        -- Repeated without a known end, only what costs nothing has a bound.
        by_cases idle : c.max = 0
        · have nothing : m = 0 := by omega
          rw [nothing, Nat.zero_mul] at total
          exact (admits_zero _).mono total
        · refine admits_iff.mpr (.inr ?_)
          simp only [Cost.repeated, if_neg idle, Nat.le_refl]
      | some k =>
        have within : m * times ≤ c.max * k := Nat.mul_le_mul within (counted k rfl)
        exact clamp_mono (Nat.le_trans total within)
    · refine admits_iff.mpr (.inr ?_)
      cases known with
      | none =>
        have busy : c.max ≠ 0 := by
          intro idle
          rw [idle] at endless
          exact absurd endless (by decide)
        simp only [Cost.repeated, if_neg busy, Nat.le_refl]
      | some k =>
        have often : 1 ≤ k := Nat.le_trans positive (counted k rfl)
        have reached : unbounded ≤ c.max * k :=
          Nat.le_trans endless (Nat.le_mul_of_pos_right _ often)
        rw [Cost.repeated, clamp_eq (c.max * k)]
        split_ifs <;> simp only [reached, Nat.le_refl]

/-! ### Minima -/

theorem min_add_le (a b : Cost) : (a + b).min ≤ a.min + b.min := clamp_le _

theorem min_foldl_add_le (start : Cost) (costs : List Cost) :
    (costs.foldl (· + ·) start).min ≤ start.min + (costs.map min).sum := by
  induction costs generalizing start with
  | nil => exact Nat.le_add_right ..
  | cons c rest ih =>
    have later := ih (start + c)
    have here := min_add_le start c
    rw [List.foldl_cons, List.map_cons, List.sum_cons]
    omega

theorem min_sum_le (costs : List Cost) : (sum costs).min ≤ (costs.map min).sum := by
  have folded := min_foldl_add_le zero costs
  rwa [zero, Nat.zero_add] at folded

theorem min_foldl_either_le {costs : List Cost} {start : Cost}
    (least : start.min ≤ n ∨ ∃ c ∈ costs, c.min ≤ n) : (costs.foldl either start).min ≤ n := by
  induction costs generalizing start with
  | nil =>
    rcases least with here | ⟨c, member, -⟩
    · exact here
    · cases member
  | cons d rest ih =>
    refine ih ?_
    rcases least with here | ⟨c, member, there⟩
    · exact .inl (Nat.le_trans (Nat.min_le_left ..) here)
    · rcases List.mem_cons.mp member with rfl | later
      · exact .inl (Nat.le_trans (Nat.min_le_right ..) there)
      · exact .inr ⟨c, later, there⟩

theorem min_anyOf_le {costs : List Cost} (member : c ∈ costs) (least : c.min ≤ n) (other : Cost) :
    ((anyOf? costs).getD other).min ≤ n := by
  cases costs with
  | nil => cases member
  | cons d rest =>
    refine min_foldl_either_le ?_
    rcases List.mem_cons.mp member with rfl | later
    · exact .inl least
    · exact .inr ⟨c, later, least⟩

theorem min_repeated_le {known : Option Nat} {times : Nat} (each : c.min ≤ m)
    (counted : ∀ k, known = some k → k ≤ times) : (c.repeated known).min ≤ m * times := by
  cases known with
  | none => exact Nat.zero_le _
  | some k =>
    have within : c.min * k ≤ m * times := Nat.mul_le_mul each (counted k rfl)
    exact Nat.le_trans (clamp_le _) within

end ExprEngine.Cost
