import ExprEngine.Proofs.Overload.Registration
import ExprEngine.Proofs.Value.Equality
import Mathlib.Data.List.Nodup

/-!
# The order of values

The values of one comparable type stand on a scale: each has a place, and they are compared by
their places. Two values have the same place exactly when they are equal, so the order is total and
agrees with equality, and so do the comparison operators.
-/

namespace ExprEngine

namespace Registry

variable [HostObjects]

/-- What a call answers when it is dispatched among the registered overloads of its name. -/
def answer (r : Registry) (function : String) (args : List Value) : Value :=
  (dispatch function (r.find function) args).value

theorem answer_standard {o : Overload} (member : o ∈ Standard.overloads) (extra : List Overload)
    {args : List Value} (accepted : o.accepts args = true) (strict : o.nonStrict = false)
    (regular : ∀ v ∈ args, v.isFailure = false) :
    (standard.addAll extra).answer o.id args = o.result args := by
  obtain ⟨more, found, -⟩ := find_extended member extra
  rw [answer, found]
  exact value_dispatch_first accepted strict regular

end Registry

namespace Value

open Number Time

/-- A value of a type that is ordered, and not a NaN. -/
def IsComparable : Value → Prop
  | bool _ | int _ | uint _ | string _ | bytes _ | duration _ | timestamp _ => True
  | double d => d.isNaN = false
  | _ => False

/-- Values that are compared by their places. -/
structure Scale [HostObjects] where
  type : ValueType
  Carrier : Type
  value : Carrier → Value
  Place : Type
  [ord : Ord Place]
  [trans : Std.TransOrd Place]
  place : Carrier → Place
  regular : ∀ x, (value x).isFailure = false
  order_eq : ∀ x y, (value x).order (value y) = .ok (Ord.compare (place x) (place y))
  equal_eq : ∀ x y, (value x).equal (value y) = bool (Ord.compare (place x) (place y) == .eq)

namespace Scale

attribute [instance] Scale.ord Scale.trans

theorem beq_eq_compare {α β : Type} [BEq α] [LawfulBEq α] [Ord β] [Std.LawfulEqOrd β] {f : α → β}
    (injective : ∀ x y, f x = f y → x = y) (x y : α) :
    (x == y) = (Ord.compare (f x) (f y) == .eq) := by
  rw [Bool.eq_iff_iff, beq_iff_eq, beq_iff_eq, Std.LawfulEqOrd.compare_eq_iff_eq]
  exact ⟨congrArg f, injective x y⟩

theorem ofOrdering_inj {o p : Ordering} : ofOrdering o = ofOrdering p ↔ o = p := by
  cases o <;> cases p <;> simp [ofOrdering]

variable [HostObjects]

def bools : Scale where
  type := .bool
  Carrier := Bool
  value := .bool
  Place := Bool
  place b := b
  regular _ := rfl
  order_eq _ _ := rfl
  equal_eq a b := congrArg bool (beq_eq_compare (fun _ _ same => same) a b)

def ints : Scale where
  type := .int
  Carrier := Int64
  value := .int
  Place := Int
  place := Int64.toInt
  regular _ := rfl
  order_eq _ _ := rfl
  equal_eq a b := congrArg bool (beq_eq_compare (fun _ _ => Int64.toInt_inj.mp) a b)

def uints : Scale where
  type := .uint
  Carrier := UInt64
  value := .uint
  Place := Nat
  place := UInt64.toNat
  regular _ := rfl
  order_eq _ _ := rfl
  equal_eq a b := congrArg bool (beq_eq_compare (fun _ _ => UInt64.toNat_inj.mp) a b)

/-- The doubles that are not a NaN; the two zeros have one place. -/
def doubles : Scale where
  type := .double
  Carrier := { d : Double // d.isNaN = false }
  value d := .double d.1
  Place := Int
  place d := d.1.place
  regular _ := rfl
  order_eq d e := by simp [order, Double.compare?, d.2, e.2]
  equal_eq d e := by
    rw [equal, Double.equal, d.2, e.2, ← beq_eq_compare (fun _ _ same => same)]
    rfl

def strings : Scale where
  type := .string
  Carrier := String
  value := .string
  Place := String
  place s := s
  regular _ := rfl
  order_eq _ _ := rfl
  equal_eq a b := congrArg bool (beq_eq_compare (fun _ _ same => same) a b)

def byteArrays : Scale where
  type := .bytes
  Carrier := ByteArray
  value := .bytes
  Place := List Nat
  place b := b.data.toList.map UInt8.toNat
  regular _ := rfl
  order_eq _ _ := rfl
  equal_eq a b := by
    rw [equal, bool.injEq, Bool.eq_iff_iff, bytes_beq_iff, beq_iff_eq,
      Std.LawfulEqOrd.compare_eq_iff_eq]
    refine ⟨fun same => same ▸ rfl, fun same => ByteArray.ext (Array.toList_inj.mp ?_)⟩
    exact List.map_injective_iff.mpr (fun _ _ => UInt8.toNat_inj.mp) same

def durations : Scale where
  type := .duration
  Carrier := Duration
  value := .duration
  Place := Int
  place := Duration.nanos
  regular _ := rfl
  order_eq _ _ := rfl
  equal_eq a b := congrArg bool (beq_eq_compare (fun ⟨_⟩ ⟨_⟩ same => congrArg _ same) a b)

def timestamps : Scale where
  type := .timestamp
  Carrier := Timestamp
  value := .timestamp
  Place := Int × Nat
  ord := lexOrd
  trans := inferInstance
  place t := (t.seconds, t.nanos)
  regular _ := rfl
  order_eq _ _ := rfl
  equal_eq a b := by
    let _ : Ord (Int × Nat) := lexOrd
    have injective : ∀ t u : Timestamp, (t.seconds, t.nanos) = (u.seconds, u.nanos) → t = u := by
      rintro ⟨_, _⟩ ⟨_, _⟩ same
      cases same
      rfl
    exact congrArg bool (beq_eq_compare injective a b)

def all : List Scale :=
  [bools, ints, uints, doubles, strings, byteArrays, durations, timestamps]

theorem types_nodup : (all.map type).Nodup := by
  have types : all.map type =
      [.bool, .int, .uint, .double, .string, .bytes, .duration, .timestamp] := rfl
  rw [types]
  decide +kernel

theorem eq_of_type {s t : Scale} (left : s ∈ all) (right : t ∈ all) (same : s.type = t.type) :
    s = t :=
  List.inj_on_of_nodup_map types_nodup left right same

theorem exists_of_isComparable {v : Value} (comparable : v.IsComparable) :
    ∃ s ∈ all, s.type = v.valueType ∧ ∃ x, v = s.value x := by
  cases v with
  | bool b => exact ⟨bools, List.mem_of_getElem? (i := 0) rfl, rfl, b, rfl⟩
  | int i => exact ⟨ints, List.mem_of_getElem? (i := 1) rfl, rfl, i, rfl⟩
  | uint u => exact ⟨uints, List.mem_of_getElem? (i := 2) rfl, rfl, u, rfl⟩
  | double d => exact ⟨doubles, List.mem_of_getElem? (i := 3) rfl, rfl, ⟨d, comparable⟩, rfl⟩
  | string s => exact ⟨strings, List.mem_of_getElem? (i := 4) rfl, rfl, s, rfl⟩
  | bytes b => exact ⟨byteArrays, List.mem_of_getElem? (i := 5) rfl, rfl, b, rfl⟩
  | duration d => exact ⟨durations, List.mem_of_getElem? (i := 6) rfl, rfl, d, rfl⟩
  | timestamp t => exact ⟨timestamps, List.mem_of_getElem? (i := 7) rfl, rfl, t, rfl⟩
  | _ => exact comparable.elim

theorem exists_of_types {a b c : Value} (left : a.IsComparable) (middle : b.IsComparable)
    (right : c.IsComparable) (first : a.valueType = b.valueType)
    (second : b.valueType = c.valueType) :
    ∃ (s : Scale) (x y z : s.Carrier), a = s.value x ∧ b = s.value y ∧ c = s.value z := by
  obtain ⟨s, listed, type, x, rfl⟩ := exists_of_isComparable left
  obtain ⟨s', listed', type', y, rfl⟩ := exists_of_isComparable middle
  obtain ⟨s'', listed'', type'', z, rfl⟩ := exists_of_isComparable right
  obtain rfl := eq_of_type listed listed' (by rw [type, type', first])
  obtain rfl := eq_of_type listed listed'' (by rw [type', type'', second])
  exact ⟨s, x, y, z, rfl, rfl, rfl⟩

/-! ### Comparison on a scale -/

variable {s : Scale} (x y z : s.Carrier)

theorem compare_eq :
    (s.value x).compare (s.value y) = ofOrdering (Ord.compare (s.place x) (s.place y)) := by
  rw [Value.compare, strict_regular (by simp [s.regular]), s.order_eq]

theorem compare_swap :
    (s.value y).compare (s.value x) = ((s.value x).compare (s.value y)).negate := by
  rw [compare_eq, compare_eq, Std.OrientedOrd.eq_swap (a := s.place y)]
  cases Ord.compare (s.place x) (s.place y) <;> rfl

/-- A comparison that is not `1` says that the first value is not above the second. -/
theorem compare_ne_one_iff :
    (s.value x).compare (s.value y) ≠ int 1 ↔
      (Ord.compare (s.place x) (s.place y)).isLE = true := by
  rw [compare_eq]
  cases Ord.compare (s.place x) (s.place y) <;> simp [ofOrdering]

theorem compare_trans (first : (s.value x).compare (s.value y) ≠ int 1)
    (second : (s.value y).compare (s.value z) ≠ int 1) :
    (s.value x).compare (s.value z) ≠ int 1 := by
  rw [compare_ne_one_iff] at first second ⊢
  exact Std.TransCmp.isLE_trans first second

theorem compare_same
    (same : (s.value x).compare (s.value y) = (s.value y).compare (s.value z)) :
    (s.value x).compare (s.value z) = (s.value x).compare (s.value y) := by
  simp only [compare_eq, ofOrdering_inj] at same ⊢
  cases first : Ord.compare (s.place x) (s.place y) with
  | lt => exact Std.TransCmp.lt_trans first (same ▸ first)
  | eq => exact Std.TransCmp.eq_trans first (same ▸ first)
  | gt => exact Std.TransCmp.gt_trans first (same ▸ first)

theorem compare_eq_zero_iff :
    (s.value x).compare (s.value y) = int 0 ↔ (s.value x).equal (s.value y) = bool true := by
  rw [compare_eq, s.equal_eq]
  cases Ord.compare (s.place x) (s.place y) <;> simp [ofOrdering]

theorem ordered_eq (id : String) (holds : Int → Bool) :
    Standard.ordered id holds (s.value x) (s.value y) =
      bool (match Ord.compare (s.place x) (s.place y) with
        | .lt => holds (-1)
        | .eq => holds 0
        | .gt => holds 1) := by
  rw [Standard.ordered, compare_eq]
  cases Ord.compare (s.place x) (s.place y) <;> rfl

end Scale

/-! ### The operators -/

section Operators

variable [HostObjects]

variable {r : Registry} {extra : List Overload} (standard : r = Registry.standard.addAll extra)
  {a b : Value} (left : a.isFailure = false) (right : b.isFailure = false)

include standard left right

theorem answer_equals : r.answer Operator.equals [a, b] = a.equal b := by
  subst standard
  have member : Standard.binary Operator.equals Value.equal ∈ Standard.overloads :=
    List.mem_of_getElem? (i := 7) rfl
  exact Registry.answer_standard member extra rfl rfl (by simp [left, right])

theorem answer_ordering (comparer : a.valueType.hasTrait .comparer = true) {id : String}
    {holds : Int → Bool} (member : Standard.ordering id holds ∈ Standard.overloads) :
    r.answer id [a, b] = Standard.ordered id holds a b := by
  subst standard
  have accepted : (Standard.ordering id holds).accepts [a, b] = true := by
    simpa [Overload.accepts, Overload.takes, Overload.arity, Standard.ordering,
      Standard.guardedBy, Standard.guardedAt, Standard.binary, ValueType.hasTraits,
      ValueType.hasTrait] using comparer
  exact Registry.answer_standard member extra accepted rfl (by simp [left, right])

theorem answers_ordering (comparer : a.valueType.hasTrait .comparer = true) :
    r.answer Operator.less [a, b] = Standard.ordered Operator.less (· < 0) a b ∧
    r.answer Operator.lessEquals [a, b] = Standard.ordered Operator.lessEquals (· ≤ 0) a b ∧
    r.answer Operator.greater [a, b] = Standard.ordered Operator.greater (· > 0) a b ∧
    r.answer Operator.greaterEquals [a, b] =
      Standard.ordered Operator.greaterEquals (· ≥ 0) a b :=
  ⟨answer_ordering standard left right comparer (List.mem_of_getElem? (i := 9) rfl),
    answer_ordering standard left right comparer (List.mem_of_getElem? (i := 10) rfl),
    answer_ordering standard left right comparer (List.mem_of_getElem? (i := 11) rfl),
    answer_ordering standard left right comparer (List.mem_of_getElem? (i := 12) rfl)⟩

end Operators

theorem IsComparable.comparer {v : Value} (comparable : v.IsComparable) :
    v.valueType.hasTrait .comparer = true := by
  cases v <;> first | rfl | exact comparable.elim

/-- A NaN has no order, whatever it is compared with. -/
theorem ordered_nan {d e : Double} (nan : d.isNaN = true ∨ e.isNaN = true) (id : String)
    (holds : Int → Bool) :
    Standard.ordered id holds (double d) (double e) =
      failure .invalidArgument "NaN values cannot be ordered" := by
  have unordered : d.compare? e = none := by
    rw [Double.compare?, if_pos (by simpa using nan)]
  rw [Standard.ordered, Value.compare, strict_regular (by simp [isFailure]), order, unordered]
  rfl

section

variable [HostObjects]

/-- The values of one comparable type are totally ordered, in agreement with equality, and the
operators of any registry that extends the standard library follow that order. A NaN is not
ordered, and equal to nothing. -/
theorem compare_total_order {r : Registry} {extra : List Overload}
    (standard : r = Registry.standard.addAll extra) :
    (∀ a b c : Value, a.IsComparable → b.IsComparable → c.IsComparable →
      a.valueType = b.valueType → b.valueType = c.valueType →
        (a.compare b = int (-1) ∨ a.compare b = int 0 ∨ a.compare b = int 1) ∧
        b.compare a = (a.compare b).negate ∧
        (a.compare b ≠ int 1 → b.compare c ≠ int 1 → a.compare c ≠ int 1) ∧
        (a.compare b = b.compare c → a.compare c = a.compare b) ∧
        (a.compare b = int 0 ↔ a.equal b = bool true) ∧
        ∃ less same greater : Bool,
          r.answer Operator.less [a, b] = bool less ∧
          r.answer Operator.equals [a, b] = bool same ∧
          r.answer Operator.greater [a, b] = bool greater ∧
          [less, same, greater].count true = 1 ∧
          r.answer Operator.lessEquals [a, b] = bool (less || same) ∧
          r.answer Operator.greaterEquals [a, b] = bool (greater || same)) ∧
    ∀ d e : Double, d.isNaN = true ∨ e.isNaN = true →
      (∀ function ∈ [Operator.less, Operator.lessEquals, Operator.greater, Operator.greaterEquals],
        r.answer function [double d, double e] =
          failure .invalidArgument "NaN values cannot be ordered") ∧
      r.answer Operator.equals [double d, double e] = bool false := by
  constructor
  · intro a b c left middle right first second
    have comparer := left.comparer
    obtain ⟨s, x, y, z, rfl, rfl, rfl⟩ := Scale.exists_of_types left middle right first second
    obtain ⟨less, lessEquals, greater, greaterEquals⟩ :=
      answers_ordering standard (s.regular x) (s.regular y) comparer
    refine ⟨?_, Scale.compare_swap x y, Scale.compare_trans x y z, Scale.compare_same x y z,
      Scale.compare_eq_zero_iff x y, ?_⟩
    · rw [Scale.compare_eq]
      cases Ord.compare (s.place x) (s.place y) <;> simp [ofOrdering]
    · rw [less, lessEquals, greater, greaterEquals,
        answer_equals standard (s.regular x) (s.regular y), s.equal_eq]
      simp only [Scale.ordered_eq, bool.injEq]
      refine ⟨_, _, _, rfl, rfl, rfl, ?_⟩
      cases Ord.compare (s.place x) (s.place y) <;> decide
  · intro d e nan
    obtain ⟨less, lessEquals, greater, greaterEquals⟩ :=
      answers_ordering standard (a := double d) (b := double e) rfl rfl rfl
    constructor
    · simp [less, lessEquals, greater, greaterEquals, ordered_nan nan]
    · rw [answer_equals standard rfl rfl, equal, Double.equal]
      rcases nan with nan | nan <;> simp [nan]

end

attribute [local instance] HostObjects.silent

/-- The two zeros are equal and below one, and a NaN is not ordered with them. -/
theorem zeros_compare :
    let zero := double ⟨0⟩
    let negativeZero := double ⟨0x8000000000000000⟩
    let one := double ⟨0x3FF0000000000000⟩
    negativeZero.compare zero = int 0 ∧ negativeZero.equal zero = bool true ∧
    zero.compare one ≠ int 1 ∧ negativeZero.compare one ≠ int 1 ∧
    Double.nan.isNaN = true ∧
    Registry.standard.answer Operator.less [zero, double Double.nan] =
      failure .invalidArgument "NaN values cannot be ordered" := by
  intro zero negativeZero one
  have standard : Registry.standard = Registry.standard.addAll [] := (Registry.addAll_nil _).symm
  obtain ⟨ordered, unordered⟩ := compare_total_order standard
  obtain ⟨-, -, trans, -, same, -⟩ :=
    ordered negativeZero zero one rfl rfl rfl rfl rfl
  have zeros : negativeZero.compare zero = int 0 := rfl
  have below : zero.compare one ≠ int 1 := by
    rw [show zero.compare one = int (-1) from rfl]
    simp
  have nan : Double.nan.isNaN = true := rfl
  exact ⟨zeros, same.mp zeros, below, trans (by simp [zeros]) below, nan,
    (unordered ⟨0⟩ Double.nan (.inr nan)).1 _ List.mem_cons_self⟩

end Value

end ExprEngine
