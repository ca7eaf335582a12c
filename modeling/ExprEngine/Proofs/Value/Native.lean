import ExprEngine.Proofs.Value.Maps
import ExprEngine.Proofs.Value.Parts
import ExprEngine.Value.Native
import Mathlib.Data.List.Forall2

/-!
# Reading is the inverse of embedding

Data of a shape are read exactly from the values that embed them, as long as a null stands for one
option only and the keys of tables are keys of maps. Any other value gives the error of the first
part that does not fit, in the order of the items and of the entries, with each key before the value
under it.
-/

namespace ExprEngine

namespace Shape

def isKey : Shape → Bool
  | bool | int | int32 | uint | uint32 | text | sharedText => true
  | _ => false

def isNullable : Shape → Bool
  | value | option _ => true
  | _ => false

/-- Whether the shape is neither made of others nor the one of all values. -/
def isSimple : Shape → Bool
  | value | option _ | list _ | table .. => false
  | _ => true

/-- A null is always the missing data of one option, and the keys of tables are keys of maps. -/
def Regular : Shape → Prop
  | option s => s.isNullable = false ∧ s.Regular
  | list s => s.Regular
  | table k s => k.isKey = true ∧ s.Regular
  | _ => True

/-- The data are the same, where a table may have its entries in another order. -/
def Same : (s : Shape) → s.Carrier → s.Carrier → Prop
  | option s, x, y => Option.Rel s.Same x y
  | list s, xs, ys => List.Forall₂ s.Same xs ys
  | table _ s, xs, ys => ∃ order, order.Perm ys ∧
    List.Forall₂ (fun a b => a.1 = b.1 ∧ s.Same a.2 b.2) xs order
  | _, x, y => x = y

def Proper : (s : Shape) → s.Carrier → Prop
  | option s, x => ∀ y ∈ x, s.Proper y
  | list s, xs => ∀ y ∈ xs, s.Proper y
  | table _ s, xs => (xs.map Prod.fst).Nodup ∧ ∀ e ∈ xs, s.Proper e.2
  | _, _ => True

/-- The value embeds the data, where a map may have its entries in another order than the table. -/
def Embeds : (s : Shape) → Value → s.Carrier → Prop
  | option _, v, none => v = .null
  | option s, v, some x => s.Embeds v x
  | list s, v, xs => ∃ items, v = .list items ∧ List.Forall₂ s.Embeds items xs
  | table k s, v, xs => ∃ m, v = .map m ∧ ∃ order, order.Perm xs ∧
    List.Forall₂ (fun e x => e.1.toValue = k.embed x.1 ∧ s.Embeds e.2 x.2) m.toList order
  | s, v, x => v = s.embed x

/-- The value is that of some data of the shape. -/
def Fits (s : Shape) (v : Value) : Prop := ∃ x, s.Proper x ∧ v = s.embed x

/-- In `v`, which should have the shape `s`, the first part that does not fit is `p`, which should
have the shape `t`. -/
inductive Offends : Shape → Value → Shape → Value → Prop
  | single {s : Shape} {v : Value} (simple : s.isSimple = true) (unfit : ¬s.Fits v) :
    Offends s v s v
  | noList {s : Shape} {v : Value} (other : ∀ items, v ≠ .list items) :
    Offends (list s) v (list s) v
  | noTable {k s : Shape} {v : Value} (other : ∀ m, v ≠ .map m) :
    Offends (table k s) v (table k s) v
  | present {s t : Shape} {v p : Value} (regular : v ≠ .null) (first : Offends s v t p) :
    Offends (option s) v t p
  | item {s t : Shape} {before after : List Value} {v p : Value} (fit : ∀ w ∈ before, s.Fits w)
    (first : Offends s v t p) : Offends (list s) (.list (before ++ v :: after)) t p
  | key {k s t : Shape} {m : Entries Value} {before after : List (Key × Value)} {j : Key}
    {v p : Value} (listed : m.toList = before ++ (j, v) :: after)
    (fit : ∀ e ∈ before, k.Fits e.1.toValue ∧ s.Fits e.2) (first : Offends k j.toValue t p) :
    Offends (table k s) (.map m) t p
  | entry {k s t : Shape} {m : Entries Value} {before after : List (Key × Value)} {j : Key}
    {v p : Value} (listed : m.toList = before ++ (j, v) :: after)
    (fit : ∀ e ∈ before, k.Fits e.1.toValue ∧ s.Fits e.2) (fits : k.Fits j.toValue)
    (first : Offends s v t p) : Offends (table k s) (.map m) t p

variable {k s : Shape} {v : Value} {e : EvalError}

/-! ### Collecting results -/

section

variable {α β γ : Type} {f : α → Except EvalError β} {as : List α} {bs : List β}

theorem collect_cons (a : α) (as : List α) :
    collect f (a :: as) = (f a >>= fun b => (collect f as).map (b :: ·)) := by
  rw [collect]
  cases f a <;> cases collect f as <;> rfl

theorem collect_eq_ok_iff :
    collect f as = .ok bs ↔ List.Forall₂ (fun a b => f a = .ok b) as bs := by
  induction as generalizing bs with
  | nil => simp [collect, eq_comm]
  | cons a rest ih =>
    rw [collect_cons, List.forall₂_cons_left_iff]
    cases first : f a with
    | error e => simp [bind, Except.bind]
    | ok b =>
      cases others : collect f rest <;>
        simp [bind, Except.bind, Except.map, ← ih, others, eq_comm]

theorem collect_eq_error_iff :
    collect f as = .error e ↔ ∃ before a after, as = before ++ a :: after ∧
      (∀ b ∈ before, ∃ y, f b = .ok y) ∧ f a = .error e := by
  induction as with
  | nil => simp [collect]
  | cons a rest ih =>
    rw [collect_cons]
    constructor
    · intro failed
      cases first : f a with
      | error e' =>
        rw [first] at failed
        obtain rfl : e' = e := Except.error.inj failed
        exact ⟨[], a, rest, rfl, nofun, first⟩
      | ok b =>
        rw [first] at failed
        have later : collect f rest = .error e := by
          cases others : collect f rest <;> rw [others] at failed <;> cases failed
          rfl
        obtain ⟨before, c, after, rfl, succeed, fails⟩ := ih.mp later
        exact ⟨a :: before, c, after, rfl, List.forall_mem_cons.mpr ⟨⟨b, first⟩, succeed⟩, fails⟩
    · rintro ⟨_ | ⟨b, before⟩, c, after, split, succeed, fails⟩
      · obtain ⟨rfl, rfl⟩ := List.cons.inj split
        rw [fails]
        rfl
      · obtain ⟨rfl, rfl⟩ := List.cons.inj split
        obtain ⟨⟨y, first⟩, others⟩ := List.forall_mem_cons.mp succeed
        rw [first, ih.mpr ⟨before, c, after, rfl, others, fails⟩]
        rfl

theorem forall₂_eq_map_iff {g : β → α} :
    List.Forall₂ (fun a b => a = g b) as bs ↔ as = bs.map g := by
  rw [← List.forall₂_eq_eq_eq, List.forall₂_map_right_iff]

theorem forall₂_and_right_iff {P : β → Prop} {R : α → β → Prop} :
    List.Forall₂ (fun a b => P b ∧ R a b) as bs ↔ (∀ b ∈ bs, P b) ∧ List.Forall₂ R as bs := by
  constructor
  · intro both
    induction both with
    | nil => exact ⟨nofun, .nil⟩
    | cons first _ ih => exact ⟨List.forall_mem_cons.mpr ⟨first.1, ih.1⟩, .cons first.2 ih.2⟩
  · rintro ⟨holds, each⟩
    induction each with
    | nil => exact .nil
    | cons first _ ih =>
      obtain ⟨here, later⟩ := List.forall_mem_cons.mp holds
      exact .cons ⟨here, first⟩ (ih later)

theorem exists_forall₂_iff {R : α → β → Prop} {S : β → γ → Prop} {cs : List γ} :
    (∃ bs, List.Forall₂ R as bs ∧ List.Forall₂ S bs cs) ↔
      List.Forall₂ (fun a c => ∃ b, R a b ∧ S b c) as cs := by
  constructor
  · rintro ⟨bs, left, right⟩
    induction left generalizing cs with
    | nil =>
      cases right
      exact .nil
    | cons first _ ih =>
      cases right with
      | cons second later => exact .cons ⟨_, first, second⟩ (ih later)
  · intro both
    induction both with
    | nil => exact ⟨[], .nil, .nil⟩
    | cons first _ ih =>
      obtain ⟨b, left, right⟩ := first
      obtain ⟨bs, lefts, rights⟩ := ih
      exact ⟨b :: bs, .cons left lefts, .cons right rights⟩

end

/-! ### Lists -/

theorem read_list_eq_ok_iff {xs : (list s).Carrier} :
    (list s).read v = .ok xs ↔
      ∃ items, v = .list items ∧ List.Forall₂ (fun w x => s.read w = .ok x) items xs := by
  cases v with
  | list items =>
    change collect s.read items = _ ↔ _
    simp [collect_eq_ok_iff]
  | _ => exact iff_of_false nofun (by simp)

theorem proper_embed_list_iff {xs : (list s).Carrier} :
    (list s).Proper xs ∧ v = (list s).embed xs ↔
      ∃ items, v = .list items ∧ List.Forall₂ (fun w x => s.Proper x ∧ w = s.embed x) items xs := by
  simp only [forall₂_and_right_iff, forall₂_eq_map_iff, embed, Proper]
  constructor
  · rintro ⟨proper, rfl⟩
    exact ⟨_, rfl, proper, rfl⟩
  · rintro ⟨_, rfl, proper, rfl⟩
    exact ⟨proper, rfl⟩

theorem read_list_eq_error_iff :
    (list s).read v = .error e ↔
      ((∀ items, v ≠ .list items) ∧ (list s).mismatch v = e) ∨
      ∃ before w after, v = .list (before ++ w :: after) ∧
        (∀ u ∈ before, ∃ x, s.read u = .ok x) ∧ s.read w = .error e := by
  cases v with
  | list items =>
    change collect s.read items = _ ↔ _
    simp [collect_eq_error_iff]
  | _ => simp [read]

/-! ### Tables -/

section

variable {α β : Type} {x : Except EvalError α} {y : Except EvalError β}

theorem both_eq_ok_iff {p : α × β} :
    (do let a ← x; let b ← y; return (a, b)) = .ok p ↔ x = .ok p.1 ∧ y = .ok p.2 := by
  cases x <;> cases y <;> simp [bind, Except.bind, pure, Except.pure, Prod.ext_iff]

theorem both_eq_error_iff :
    (do let a ← x; let b ← y; return (a, b)) = .error e ↔
      x = .error e ∨ (∃ a, x = .ok a) ∧ y = .error e := by
  cases x <;> cases y <;> simp [bind, Except.bind, pure, Except.pure]

end

theorem read_table_eq_ok_iff {xs : (table k s).Carrier} :
    (table k s).read v = .ok xs ↔ ∃ m, v = .map m ∧
      List.Forall₂ (fun e x => k.read e.1.toValue = .ok x.1 ∧ s.read e.2 = .ok x.2)
        m.toList xs := by
  cases v with
  | map m =>
    rw [read, collect_eq_ok_iff]
    simp only [both_eq_ok_iff]
    simp
  | _ => exact iff_of_false nofun (by simp)

theorem read_table_eq_error_iff :
    (table k s).read v = .error e ↔
      ((∀ m, v ≠ .map m) ∧ (table k s).mismatch v = e) ∨
      ∃ m, v = .map m ∧ ∃ before j w after, m.toList = before ++ (j, w) :: after ∧
        (∀ u ∈ before, (∃ x, k.read u.1.toValue = .ok x) ∧ ∃ x, s.read u.2 = .ok x) ∧
        (k.read j.toValue = .error e ∨ (∃ x, k.read j.toValue = .ok x) ∧ s.read w = .error e) := by
  cases v with
  | map m =>
    rw [read, collect_eq_error_iff]
    simp only [both_eq_ok_iff, both_eq_error_iff]
    simp
  | _ => simp [read]

theorem exists_key (key : k.isKey = true) :
    ∃ keyOf : k.Carrier → Key, Function.Injective keyOf ∧ ∀ x, k.embed x = (keyOf x).toValue := by
  cases k with
  | bool => exact ⟨.bool, fun _ _ => Key.bool.inj, fun _ => rfl⟩
  | int => exact ⟨.int, fun _ _ => Key.int.inj, fun _ => rfl⟩
  | int32 =>
    refine ⟨fun i => .int i.toInt64, fun i j same => ?_, fun _ => rfl⟩
    rw [Key.int.injEq, ← Int64.toInt_inj, Int32.toInt_toInt64, Int32.toInt_toInt64] at same
    exact Int32.toInt_inj.mp same
  | uint => exact ⟨.uint, fun _ _ => Key.uint.inj, fun _ => rfl⟩
  | uint32 =>
    refine ⟨fun u => .uint u.toUInt64, fun u w same => ?_, fun _ => rfl⟩
    rw [Key.uint.injEq, ← UInt64.toNat_inj, UInt32.toNat_toUInt64, UInt32.toNat_toUInt64] at same
    exact UInt32.toNat_inj.mp same
  | text | sharedText => exact ⟨.string, fun _ _ => Key.string.inj, fun _ => rfl⟩
  | _ => cases key

/-- A table with distinct keys is embedded as the map of its entries. -/
theorem proper_embed_table_iff (key : k.isKey = true) {xs : (table k s).Carrier} :
    (table k s).Proper xs ∧ v = (table k s).embed xs ↔ ∃ m, v = .map m ∧
      List.Forall₂ (fun e x => e.1.toValue = k.embed x.1 ∧ s.Proper x.2 ∧ e.2 = s.embed x.2)
        m.toList xs := by
  obtain ⟨keyOf, injective, keys⟩ := exists_key key
  have entry (e : Key × Value) (x : k.Carrier × s.Carrier) :
      (e.1.toValue = k.embed x.1 ∧ s.Proper x.2 ∧ e.2 = s.embed x.2) ↔
        s.Proper x.2 ∧ e = (keyOf x.1, s.embed x.2) := by
    rw [keys, Key.toValue_injective.eq_iff, Prod.ext_iff, and_left_comm]
  simp only [entry, forall₂_and_right_iff, forall₂_eq_map_iff]
  have embedded : (table k s).embed xs =
      .mapOf (Value.entered (xs.map fun x => (keyOf x.1, s.embed x.2))) := by
    simp [embed, Value.entered, keys, Function.comp_def]
  have named : (xs.map fun x => (keyOf x.1, s.embed x.2)).map Prod.fst =
      (xs.map Prod.fst).map keyOf := by simp
  rw [embedded]
  constructor
  · rintro ⟨⟨distinct, proper⟩, rfl⟩
    rw [← List.nodup_map_iff injective, ← named] at distinct
    obtain ⟨m, listed⟩ := Entries.exists_toList_eq_iff.mpr distinct
    exact ⟨m, Value.mapOf_eq_map_iff.mpr (by rw [listed]), proper, listed⟩
  · rintro ⟨m, rfl, proper, listed⟩
    have distinct := m.keys_nodup
    rw [← Entries.keys_toList, listed, named] at distinct
    exact ⟨⟨distinct.of_map keyOf, proper⟩, (Value.mapOf_eq_map_iff.mpr (by rw [listed])).symm⟩

/-! ### The inverse -/

theorem read_int32_eq_ok_iff {i : Int64} {x : Int32} :
    int32.read (.int i) = .ok x ↔ i = x.toInt64 := by
  have low := x.le_toInt
  have high := x.toInt_lt
  rw [read, ← Int64.toInt_inj, Int32.toInt_toInt64]
  split
  next fits =>
    rw [Except.ok.injEq, ← Int32.toInt_inj, Int64.toInt_toInt32, Int.bmod_eq_of_le] <;> omega
  next large => exact iff_of_false nofun fun same => large (by omega)

theorem read_uint32_eq_ok_iff {u : UInt64} {x : UInt32} :
    uint32.read (.uint u) = .ok x ↔ u = x.toUInt64 := by
  have high := x.toNat_lt
  rw [read, ← UInt64.toNat_inj, UInt32.toNat_toUInt64]
  split
  next fits =>
    rw [Except.ok.injEq, ← UInt32.toNat_inj, UInt64.toNat_toUInt32, Nat.mod_eq_of_lt fits]
  next large => exact iff_of_false nofun fun same => large (by omega)

theorem embed_ne_null (other : s.isNullable = false) (x : s.Carrier) : s.embed x ≠ .null := by
  cases s with
  | value | option => cases other
  | table =>
    rw [embed, Value.mapOf]
    split
    · exact Value.noConfusion
    · split <;> exact Value.noConfusion
  | _ => exact Value.noConfusion

theorem read_option (present : v ≠ .null) : (option s).read v = (s.read v).map some := by
  cases v <;> first | rfl | exact absurd rfl present

theorem read_option_eq_ok_iff (present : v ≠ .null) {x : (option s).Carrier} :
    (option s).read v = .ok x ↔ ∃ y, x = some y ∧ s.read v = .ok y := by
  rw [read_option present]
  cases s.read v <;> simp [Except.map, eq_comm]

theorem regular_of_isKey (key : k.isKey = true) : k.Regular := by
  cases k <;> trivial

theorem proper_of_isKey (key : k.isKey = true) (x : k.Carrier) : k.Proper x := by
  cases k <;> trivial

/-- Reading gives exactly the data that are embedded, with tables in the order of the maps. -/
theorem read_eq_ok_iff (regular : s.Regular) {x : s.Carrier} :
    s.read v = .ok x ↔ s.Proper x ∧ v = s.embed x := by
  induction s generalizing v with
  | int32 =>
    cases v with
    | int i =>
      rw [read_int32_eq_ok_iff, embed, Value.int.injEq]
      exact (and_iff_right trivial).symm
    | _ => exact iff_of_false nofun nofun
  | uint32 =>
    cases v with
    | uint u =>
      rw [read_uint32_eq_ok_iff, embed, Value.uint.injEq]
      exact (and_iff_right trivial).symm
    | _ => exact iff_of_false nofun nofun
  | value => simp [read, embed, Proper]
  | option s ih =>
    -- Data that are present are not embedded as null, as the inner shape is not nullable.
    by_cases null : v = .null
    · subst null
      cases x with
      | none => exact iff_of_true rfl ⟨by simp [Proper], rfl⟩
      | some y => exact iff_of_false nofun fun same => embed_ne_null regular.1 y same.2.symm
    · simp only [read_option_eq_ok_iff null, ih regular.2]
      cases x with
      | none => exact iff_of_false (by simp) fun same => null same.2
      | some y => simp [Proper, embed]
  | list s ih =>
    rw [read_list_eq_ok_iff, proper_embed_list_iff]
    simp only [ih regular]
  | table k s first second =>
    rw [read_table_eq_ok_iff, proper_embed_table_iff regular.1]
    simp only [first (regular_of_isKey regular.1), second regular.2, proper_of_isKey regular.1,
      true_and]
  | _ => cases v <;> simp [read, embed, Proper]

theorem read_eq_ok_or (simple : s.isSimple = true) (v : Value) :
    (∃ x, s.read v = .ok x) ∨ s.read v = .error (s.mismatch v) := by
  cases s with
  | int32 =>
    cases v with
    | int i =>
      rw [read]
      split
      · exact .inl ⟨_, rfl⟩
      · exact .inr rfl
    | _ => exact .inr rfl
  | uint32 =>
    cases v with
    | uint u =>
      rw [read]
      split
      · exact .inl ⟨_, rfl⟩
      · exact .inr rfl
    | _ => exact .inr rfl
  | value | option | list | table => cases simple
  | _ => cases v <;> first | exact .inl ⟨_, rfl⟩ | exact .inr rfl

theorem fits_iff (regular : s.Regular) : s.Fits v ↔ ∃ x, s.read v = .ok x := by
  simp only [Fits, read_eq_ok_iff regular]

/-! ### The first part that does not fit -/

theorem offends_simple_iff (simple : s.isSimple = true) {t : Shape} {p : Value} :
    s.Offends v t p ↔ ¬s.Fits v ∧ s = t ∧ v = p := by
  constructor
  · intro offends
    cases offends with
    | single _ unfit => exact ⟨unfit, rfl, rfl⟩
    | _ => cases simple
  · rintro ⟨unfit, rfl, rfl⟩
    exact .single simple unfit

theorem read_simple_eq_error_iff (simple : s.isSimple = true) (regular : s.Regular) :
    s.read v = .error e ↔ ∃ t p, s.Offends v t p ∧ t.mismatch p = e := by
  simp only [offends_simple_iff simple, fits_iff regular]
  rcases read_eq_ok_or simple v with ⟨x, read⟩ | read <;> simp [read]

theorem read_eq_error_iff (regular : s.Regular) :
    s.read v = .error e ↔ ∃ t p, s.Offends v t p ∧ t.mismatch p = e := by
  induction s generalizing v with
  | value =>
    refine iff_of_false nofun ?_
    rintro ⟨t, p, offends, -⟩
    cases offends
    contradiction
  | option s ih =>
    by_cases null : v = .null
    · subst null
      refine iff_of_false nofun ?_
      rintro ⟨t, p, offends, -⟩
      cases offends with
      | single simple => cases simple
      | present other => exact other rfl
    · rw [read_option null]
      have mapped : (s.read v).map some = .error e ↔ s.read v = .error e := by
        cases s.read v <;> simp [Except.map]
      rw [mapped, ih regular.2]
      constructor
      · rintro ⟨t, p, offends, same⟩
        exact ⟨t, p, .present null offends, same⟩
      · rintro ⟨t, p, offends, same⟩
        cases offends with
        | single simple => cases simple
        | present _ first => exact ⟨t, p, first, same⟩
  | list s ih =>
    rw [read_list_eq_error_iff]
    simp only [ih regular, ← fits_iff (show s.Regular from regular)]
    constructor
    · rintro (⟨other, same⟩ | ⟨before, w, after, rfl, fit, t, p, offends, same⟩)
      · exact ⟨_, _, .noList other, same⟩
      · exact ⟨t, p, .item fit offends, same⟩
    · rintro ⟨t, p, offends, same⟩
      cases offends with
      | single simple => cases simple
      | noList other => exact .inl ⟨other, same⟩
      | item fit first => exact .inr ⟨_, _, _, rfl, fit, t, p, first, same⟩
  | table k s first second =>
    have key := regular_of_isKey regular.1
    rw [read_table_eq_error_iff]
    simp only [first key, second regular.2, ← fits_iff key, ← fits_iff regular.2]
    constructor
    · rintro (⟨other, same⟩ | ⟨m, rfl, before, j, w, after, listed, fit,
        ⟨t, p, offends, same⟩ | ⟨fits, t, p, offends, same⟩⟩)
      · exact ⟨_, _, .noTable other, same⟩
      · exact ⟨t, p, .key listed fit offends, same⟩
      · exact ⟨t, p, .entry listed fit fits offends, same⟩
    · rintro ⟨t, p, offends, same⟩
      cases offends with
      | single simple => cases simple
      | noTable other => exact .inl ⟨other, same⟩
      | key listed fit first =>
        exact .inr ⟨_, rfl, _, _, _, _, listed, fit, .inl ⟨t, p, first, same⟩⟩
      | entry listed fit fits first =>
        exact .inr ⟨_, rfl, _, _, _, _, listed, fit, .inr ⟨fits, t, p, first, same⟩⟩
  | _ => exact read_simple_eq_error_iff rfl regular

/-! ### Tables without an order -/

theorem same_refl (x : s.Carrier) : s.Same x x := by
  induction s with
  | option s ih =>
    cases x with
    | none => exact .none
    | some x => exact .some (ih x)
  | list s ih => exact List.forall₂_same.mpr fun y _ => ih y
  | table k s _ ih => exact ⟨x, .refl x, List.forall₂_same.mpr fun e _ => ⟨rfl, ih e.2⟩⟩
  | _ => rfl

theorem embeds_iff (regular : s.Regular) {x : s.Carrier} :
    s.Embeds v x ↔ ∃ y, s.read v = .ok y ∧ s.Same y x := by
  induction s generalizing v with
  | option s ih =>
    cases x with
    | none =>
      constructor
      · rintro rfl
        exact ⟨none, rfl, .none⟩
      · rintro ⟨_, read, ⟨⟩⟩
        exact ((read_eq_ok_iff regular).mp read).2
    | some x =>
      change s.Embeds v x ↔ _
      rw [ih regular.2]
      by_cases null : v = .null
      · subst null
        refine iff_of_false (fun ⟨y, read, _⟩ => ?_) fun ⟨y, read, same⟩ => ?_
        · exact embed_ne_null regular.1 y ((read_eq_ok_iff regular.2).mp read).2.symm
        · obtain rfl : none = y := Except.ok.inj read
          cases same
      · simp only [read_option_eq_ok_iff null]
        constructor
        · rintro ⟨y, read, same⟩
          exact ⟨some y, ⟨y, rfl, read⟩, .some same⟩
        · rintro ⟨_, ⟨y, rfl, read⟩, ⟨same⟩⟩
          exact ⟨y, read, same⟩
  | list s ih =>
    change (∃ items, v = .list items ∧ List.Forall₂ s.Embeds items x) ↔ _
    constructor
    · rintro ⟨items, rfl, embedded⟩
      obtain ⟨ys, read, same⟩ := exists_forall₂_iff.mpr (embedded.imp fun _ _ => (ih regular).mp)
      exact ⟨ys, read_list_eq_ok_iff.mpr ⟨items, rfl, read⟩, same⟩
    · rintro ⟨ys, read, same⟩
      obtain ⟨items, rfl, each⟩ := read_list_eq_ok_iff.mp read
      exact ⟨items, rfl,
        (exists_forall₂_iff.mp ⟨ys, each, same⟩).imp fun _ _ => (ih regular).mpr⟩
  | table k s _ ih =>
    have key (u : Value) (a : k.Carrier) : k.read u = .ok a ↔ u = k.embed a := by
      rw [read_eq_ok_iff (regular_of_isKey regular.1), and_iff_right (proper_of_isKey regular.1 a)]
    -- The order of the entries is the same on both sides, so they are related one by one.
    have each (e : Key × Value) (x : k.Carrier × s.Carrier) :
        (e.1.toValue = k.embed x.1 ∧ s.Embeds e.2 x.2) ↔
          ∃ y : k.Carrier × s.Carrier, (k.read e.1.toValue = .ok y.1 ∧ s.read e.2 = .ok y.2) ∧
            y.1 = x.1 ∧ s.Same y.2 x.2 := by
      rw [ih regular.2]
      simp only [key]
      constructor
      · rintro ⟨named, y, read, same⟩
        exact ⟨(x.1, y), ⟨named, read⟩, rfl, same⟩
      · rintro ⟨y, ⟨named, read⟩, listed, same⟩
        exact ⟨listed ▸ named, y.2, read, same⟩
    constructor
    · rintro ⟨m, rfl, order, perm, embedded⟩
      obtain ⟨ys, read, same⟩ := exists_forall₂_iff.mpr (embedded.imp fun e x => (each e x).mp)
      exact ⟨ys, read_table_eq_ok_iff.mpr ⟨m, rfl, read⟩, order, perm, same⟩
    · rintro ⟨ys, read, order, perm, same⟩
      obtain ⟨m, rfl, listed⟩ := read_table_eq_ok_iff.mp read
      exact ⟨m, rfl, order, perm,
        (exists_forall₂_iff.mp ⟨ys, listed, same⟩).imp fun e x => (each e x).mpr⟩
  | _ => simp [Embeds, Same, read_eq_ok_iff regular, Proper]

/-- Reading is the inverse of embedding: it succeeds exactly for the values that embed data of the
shape, and gives these data, in which no table has a key twice. For every other value it fails with
the error of the first part that does not fit, which is the part itself if that is an error. -/
theorem read_inverts_embed (regular : s.Regular) (v : Value) :
    (∀ x, s.read v = .ok x ↔ s.Proper x ∧ v = s.embed x) ∧
    (∀ x, (∃ y, s.read v = .ok y ∧ s.Same y x) ↔ s.Embeds v x) ∧
    ((∀ x, ¬s.Embeds v x) → ∃ t p, s.Offends v t p) ∧
    (∀ t p, s.Offends v t p → s.read v = .error (t.mismatch p)) ∧
    ∀ t e, s.Offends v t (.error e) → s.read v = .error e := by
  have embeds (x) : (∃ y, s.read v = .ok y ∧ s.Same y x) ↔ s.Embeds v x := (embeds_iff regular).symm
  have fails (t p) (offends : s.Offends v t p) : s.read v = .error (t.mismatch p) :=
    (read_eq_error_iff regular).mpr ⟨t, p, offends, rfl⟩
  refine ⟨fun x => read_eq_ok_iff regular, embeds, fun none => ?_, fails, ?_⟩
  · cases read : s.read v with
    | ok x => exact absurd ((embeds x).mp ⟨x, read, same_refl x⟩) (none x)
    | error e =>
      obtain ⟨t, p, offends, -⟩ := (read_eq_error_iff regular).mp read
      exact ⟨t, p, offends⟩
  · exact fun t e offends => fails t (.error e) offends

def sparse : Shape := table text (list (option int32))

def singles : Value :=
  .map ((Entries.empty.push (.string "a") (.list [.int 1])).push (.string "b") (.list [.null]))

def broken (e : EvalError) : Entries Value :=
  Entries.empty.push (.string "a") (.list [.null, .error e, .string "1"])

/-- The entries may stand in another order than in the table, and the error comes out as it is. -/
theorem sparse_read :
    sparse.Regular ∧
    (∃ y, sparse.read singles = .ok y ∧ sparse.Proper y ∧
      sparse.Same y [("b", [none]), ("a", [some 1])]) ∧
    ∀ e, sparse.read (.map (broken e)) = .error e := by
  have regular : sparse.Regular := ⟨rfl, rfl, trivial⟩
  refine ⟨regular, ?_, fun e => ?_⟩
  · have embedded : sparse.Embeds singles [("b", [none]), ("a", [some 1])] := by
      refine ⟨_, rfl, [("a", [some 1]), ("b", [none])], .swap _ _ _, ?_⟩
      exact .cons ⟨rfl, _, rfl, .cons rfl .nil⟩ (.cons ⟨rfl, _, rfl, .cons rfl .nil⟩ .nil)
    obtain ⟨reads, embeds, -⟩ := read_inverts_embed regular singles
    obtain ⟨y, read, same⟩ := (embeds _).mpr embedded
    exact ⟨y, read, ((reads y).mp read).1, same⟩
  · have third : (option int32).Offends (.error e) int32 (.error e) := by
      refine .present (by simp) (.single rfl ?_)
      rintro ⟨x, -, ⟨⟩⟩
    have items : (list (option int32)).Offends
        (.list ([.null] ++ .error e :: [.string "1"])) int32 (.error e) :=
      .item (List.forall_mem_singleton.mpr ⟨none, nofun, rfl⟩) third
    have listed : (broken e).toList =
        [] ++ (.string "a", .list ([.null] ++ .error e :: [.string "1"])) :: [] := rfl
    have entries : sparse.Offends (.map (broken e)) int32 (.error e) :=
      .entry listed (List.forall_mem_nil _) ⟨"a", trivial, rfl⟩ items
    obtain ⟨-, -, -, -, fails⟩ := read_inverts_embed regular (.map (broken e))
    exact fails int32 e entries

end Shape

end ExprEngine
