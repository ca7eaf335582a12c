/-!
# Sets of unknown ids

The ids of the expressions that could not be resolved. They ascend strictly, so that each is kept
once, sets are merged in one walk, and sets with the same members are equal.
-/

namespace ExprEngine

structure UnknownSet where
  ids : List Int
  ascending : ids.Pairwise (· < ·)
deriving DecidableEq

namespace UnknownSet

/-! ### Merging -/

/-- The ids of two ascending lists in order; an id of both is kept once. -/
def mergeIds : List Int → List Int → List Int
  | [], ys => ys
  | xs, [] => xs
  | x :: xs, y :: ys =>
    if x < y then x :: mergeIds xs (y :: ys)
    else if y < x then y :: mergeIds (x :: xs) ys
    else x :: mergeIds xs ys
termination_by xs ys => xs.length + ys.length

theorem mem_mergeIds {id : Int} (xs ys : List Int) :
    id ∈ mergeIds xs ys ↔ id ∈ xs ∨ id ∈ ys := by
  fun_induction mergeIds xs ys with
  | case1 ys => simp
  | case2 xs => simp
  | case3 x xs y ys _ ih => simp only [List.mem_cons, ih, or_assoc]
  | case4 x xs y ys _ _ ih => simp only [List.mem_cons, ih, or_left_comm]
  | case5 x xs y ys _ _ ih =>
    obtain rfl : x = y := by omega
    rw [List.mem_cons, ih, List.mem_cons, List.mem_cons, or_or_distrib_left]

theorem lt_of_lt_head {x y : Int} {ys : List Int} (below : x < y)
    (ascending : (y :: ys).Pairwise (· < ·)) : ∀ z ∈ y :: ys, x < z := by
  intro z member
  rcases List.mem_cons.mp member with rfl | later
  · exact below
  · exact Int.lt_trans below (List.rel_of_pairwise_cons ascending later)

theorem ascending_cons_mergeIds {least : Int} {xs ys : List Int} (left : ∀ x ∈ xs, least < x)
    (right : ∀ y ∈ ys, least < y) (merged : (mergeIds xs ys).Pairwise (· < ·)) :
    (least :: mergeIds xs ys).Pairwise (· < ·) :=
  List.pairwise_cons.mpr
    ⟨fun id member => ((mem_mergeIds xs ys).mp member).elim (left id) (right id), merged⟩

theorem ascending_mergeIds {xs ys : List Int} (left : xs.Pairwise (· < ·))
    (right : ys.Pairwise (· < ·)) : (mergeIds xs ys).Pairwise (· < ·) := by
  fun_induction mergeIds xs ys with
  | case1 ys => exact right
  | case2 xs => exact left
  | case3 x xs y ys below ih =>
    obtain ⟨least, more⟩ := List.pairwise_cons.mp left
    exact ascending_cons_mergeIds least (lt_of_lt_head below right) (ih more right)
  | case4 x xs y ys _ below ih =>
    obtain ⟨least, more⟩ := List.pairwise_cons.mp right
    exact ascending_cons_mergeIds (lt_of_lt_head below left) least (ih left more)
  | case5 x xs y ys _ _ ih =>
    obtain rfl : x = y := by omega
    obtain ⟨leastLeft, moreLeft⟩ := List.pairwise_cons.mp left
    obtain ⟨leastRight, moreRight⟩ := List.pairwise_cons.mp right
    exact ascending_cons_mergeIds leastLeft leastRight (ih moreLeft moreRight)

/-! ### Sorting -/

def sortIds (ids : List Int) : List Int := ids.mergeSort.eraseReps

theorem mem_eraseRepsLoop {id x : Int} {ids kept : List Int} :
    id ∈ List.eraseRepsBy.loop (· == ·) x ids kept ↔ id ∈ kept ∨ id ∈ x :: ids := by
  induction ids generalizing x kept with
  | nil => simp [List.eraseRepsBy.loop, or_comm]
  | cons y ids ih =>
    rw [List.eraseRepsBy.loop]
    split
    · next same =>
      obtain rfl : x = y := by simpa using same
      simp [ih]
    · simp [ih, or_left_comm, or_assoc]

/-- The ids that are kept, last first, descend strictly down from `x`, the first of the rest. -/
theorem ascending_eraseRepsLoop {x : Int} {ids kept : List Int}
    (sorted : (x :: ids).Pairwise (· ≤ ·)) (descending : (x :: kept).Pairwise (· > ·)) :
    (List.eraseRepsBy.loop (· == ·) x ids kept).Pairwise (· < ·) := by
  induction ids generalizing x kept with
  | nil => simpa only [List.eraseRepsBy.loop, List.pairwise_reverse] using descending
  | cons y ids ih =>
    obtain ⟨least, rest⟩ := List.pairwise_cons.mp sorted
    rw [List.eraseRepsBy.loop]
    split
    · exact ih (sorted.sublist ((List.sublist_cons_self y ids).cons_cons x)) descending
    · next apart =>
      have above : y > x := by
        have atLeast := least y List.mem_cons_self
        have other : x ≠ y := by simpa using apart
        omega
      refine ih rest (List.pairwise_cons.mpr ⟨fun z member => ?_, descending⟩)
      rcases List.mem_cons.mp member with rfl | earlier
      · exact above
      · exact Int.lt_trans (List.rel_of_pairwise_cons descending earlier) above

theorem mem_sortIds {id : Int} (ids : List Int) : id ∈ sortIds ids ↔ id ∈ ids := by
  have kept : id ∈ ids.mergeSort ↔ id ∈ ids := List.mem_mergeSort
  rw [← kept, sortIds]
  cases ids.mergeSort with
  | nil => rfl
  | cons x rest => exact mem_eraseRepsLoop.trans (or_iff_right List.not_mem_nil)

theorem ascending_sortIds (ids : List Int) : (sortIds ids).Pairwise (· < ·) := by
  have sorted : ids.mergeSort.Pairwise (· ≤ ·) := by
    have inOrder : ids.mergeSort.Pairwise (fun a b => decide (a ≤ b) = true) :=
      List.pairwise_mergeSort (by simpa using fun a b c => Int.le_trans)
        (by simpa using Int.le_total) ids
    simpa only [decide_eq_true_eq] using inOrder
  rw [sortIds]
  cases split : ids.mergeSort with
  | nil => exact .nil
  | cons x rest =>
    rw [split] at sorted
    exact ascending_eraseRepsLoop sorted (List.pairwise_singleton ..)

/-! ### Sets -/

def empty : UnknownSet := ⟨[], .nil⟩

instance : Inhabited UnknownSet := ⟨empty⟩

def singleton (id : Int) : UnknownSet := ⟨[id], List.pairwise_singleton ..⟩

def ofList (ids : List Int) : UnknownSet := ⟨sortIds ids, ascending_sortIds ids⟩

def union (s t : UnknownSet) : UnknownSet :=
  ⟨mergeIds s.ids t.ids, ascending_mergeIds s.ascending t.ascending⟩

theorem mem_union {id : Int} (s t : UnknownSet) :
    id ∈ (s.union t).ids ↔ id ∈ s.ids ∨ id ∈ t.ids :=
  mem_mergeIds s.ids t.ids

/-- Whether `id` is one of the ids, which are searched by halving. -/
def contains (s : UnknownSet) (id : Int) : Bool := s.ids.toArray.binSearchContains id (· < ·)

def shown (s : UnknownSet) : String :=
  "unknown\x7b" ++ ", ".intercalate (s.ids.map toString) ++ "\x7d"

end UnknownSet

end ExprEngine
