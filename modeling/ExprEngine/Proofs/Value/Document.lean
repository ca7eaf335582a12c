import ExprEngine.Proofs.Number.Numerals
import ExprEngine.Proofs.Value.Parts
import ExprEngine.Value.Conversion
import ExprEngine.Value.Document
import Mathlib.Data.List.Forall2
import Mathlib.Data.List.Nodup

/-!
# Members of documents

A map is written as an object with one member for each entry. The names of the members tell the
truth values and the numbers among the keys apart, and the texts too, but a text may be the name of
a key of another type. Only then the object has a name twice.
-/

namespace ExprEngine

namespace Key

open Number

def ofName? (s : String) : Option Key :=
  match readSigned? s with
  | some i => some (int i)
  | none =>
    if s.toList.getLast? = some 'u' then
      (readUnsigned? (String.ofList s.toList.dropLast)).map uint
    else (Value.readBool? s).map bool

theorem readSigned?_shown_uint (u : UInt64) : readSigned? (uint u).shown = none := by
  have unread : readInteger? (uint u).shown.toList = none := by
    refine Option.eq_none_iff_forall_ne_some.mpr fun n read => ?_
    -- The letter behind the digits is no part of a numeral.
    have listed : 'u' ∈ (uint u).shown.toList := by simp [shown]
    rcases (readInteger?_eq_some_iff.mp read).eq_or_isDigit listed with eq | eq | eq <;> cases eq
  rw [readSigned?, unread, Option.bind_none]

theorem ofName?_shown {k : Key} (other : ∀ s, k ≠ string s) : ofName? k.shown = some k := by
  cases k with
  | bool b => cases b <;> decide
  | int i => rw [ofName?, shown, readSigned?_toString]
  | uint u =>
    have letters : (uint u).shown.toList = (toString u.toNat).toList ++ ['u'] := by simp [shown]
    rw [ofName?, readSigned?_shown_uint, letters, List.getLast?_concat, if_pos rfl,
      List.dropLast_concat, String.ofList_toList, readUnsigned?_toString, Option.map_some]
  | string s => exact absurd rfl (other s)

theorem memberName_of_other {k : Key} (other : ∀ s, k ≠ string s) : k.memberName = k.shown := by
  cases k with
  | string s => exact absurd rfl (other s)
  | _ => rfl

/-- Keys have different names unless one of them is a text. -/
theorem memberName_inj {j k : Key} (first : ∀ s, j ≠ string s) (second : ∀ s, k ≠ string s)
    (same : j.memberName = k.memberName) : j = k := by
  rw [memberName_of_other first, memberName_of_other second] at same
  have read : ofName? j.shown = ofName? k.shown := congrArg ofName? same
  rwa [ofName?_shown first, ofName?_shown second, Option.some.injEq] at read

/-- No key of another type has the name of a text among the keys. -/
def NamesApart (keys : List Key) : Prop :=
  ∀ k ∈ keys, string k.memberName ∈ keys → k = string k.memberName

instance (keys : List Key) : Decidable (NamesApart keys) :=
  inferInstanceAs (Decidable (∀ k ∈ keys, _ → _))

theorem nodup_memberNames_iff {keys : List Key} (distinct : keys.Nodup) :
    (keys.map memberName).Nodup ↔ NamesApart keys := by
  constructor
  · intro names k listed text
    exact List.inj_on_of_nodup_map names listed text rfl
  · intro apart
    refine List.Nodup.map_on (fun j mine k other same => ?_) distinct
    -- A text is its own name, so `apart` decides as soon as one of the two keys is a text.
    by_cases first : ∃ s, j = string s
    · obtain ⟨s, rfl⟩ := first
      change s = k.memberName at same
      subst same
      exact (apart k other mine).symm
    by_cases second : ∃ s, k = string s
    · obtain ⟨s, rfl⟩ := second
      change j.memberName = s at same
      subst same
      exact apart j mine other
    exact memberName_inj (not_exists.mp first) (not_exists.mp second) same

end Key

namespace Value

section

variable [HostObjects]

def IsRegular (v : Value) : Prop := v.isFailure = false

/-- The document of a value is made of the documents of its parts in their order. A map becomes an
object with one member for each entry, and the names of these differ unless a text among the keys is
the name of another key. -/
def Written : Value → Prop
  | list items => ∃ documents, (list items).document = .ok (.array documents) ∧
    List.Forall₂ (fun v d => v.document = .ok d) items documents
  | map m => ∃ members, (map m).document = .ok (.object members) ∧
    List.Forall₂ (fun e m => m.1 = e.1.memberName ∧ e.2.document = .ok m.2) m.toList members ∧
    ((members.map Prod.fst).Nodup ↔ Key.NamesApart m.keys)
  | object .record t fields => ∃ members,
    (object .record t fields).document = .ok (.object members) ∧
    List.Forall₂ (fun f m => m.1 = f.1 ∧ f.2.document = .ok m.2) fields members
  | object .host t state => ∃ members,
    (object .host t state).document = .ok (.object members) ∧
    List.Forall₂ (fun f m => m.1 = f.1 ∧ f.2.document = .ok m.2)
      (state.filter fun f => HostObjects.isWritten t f.1) members
  | v => ∃ d, v.document = .ok d

theorem Written.document_eq {v : Value} (written : v.Written) : ∃ d, v.document = .ok d := by
  cases v with
  | list | map =>
    obtain ⟨_, document, -⟩ := written
    exact ⟨_, document⟩
  | object origin =>
    cases origin <;>
    · obtain ⟨_, document, -⟩ := written
      exact ⟨_, document⟩
  | _ => exact written

/-! ### Documents of parts -/

theorem itemDocuments_eq {items : List Value} (all : ∀ v ∈ items, ∃ d, v.document = .ok d) :
    ∃ documents, itemDocuments items = .ok documents ∧
      List.Forall₂ (fun v d => v.document = .ok d) items documents := by
  induction items with
  | nil => exact ⟨[], rfl, .nil⟩
  | cons v rest ih =>
    obtain ⟨⟨d, first⟩, later⟩ := List.forall_mem_cons.mp all
    obtain ⟨documents, others, each⟩ := ih later
    refine ⟨d :: documents, ?_, .cons first each⟩
    rw [itemDocuments, first, others]
    rfl

theorem members_eq {fields : List (String × Value)}
    (all : ∀ f ∈ fields, ∃ d, f.2.document = .ok d) :
    ∃ members, Document.members (fields.map fun f => (f.1, f.2.document)) = .ok members ∧
      List.Forall₂ (fun f m => m.1 = f.1 ∧ f.2.document = .ok m.2) fields members := by
  induction fields with
  | nil => exact ⟨[], rfl, .nil⟩
  | cons f rest ih =>
    obtain ⟨⟨d, first⟩, later⟩ := List.forall_mem_cons.mp all
    obtain ⟨members, others, each⟩ := ih later
    refine ⟨(f.1, d) :: members, ?_, .cons ⟨rfl, first⟩ each⟩
    rw [List.map_cons, Document.members, first, others]
    rfl

theorem fieldDocuments_eq (fields : List (String × Value)) :
    fieldDocuments fields = fields.map fun f => (f.1, f.2.document) := by
  induction fields with
  | nil => rfl
  | cons f rest ih => rw [fieldDocuments, List.map_cons, ih]

/-- Entries are written as fields with the names of their keys. -/
theorem document_map (m : Entries Value) :
    (map m).document =
      (Document.members ((m.toList.map fun e => (e.1.memberName, e.2)).map
        fun f => (f.1, f.2.document))).map .object := by
  have each : (map m).document =
      (Document.members ((m.map document).toList.map fun e => (e.1.memberName, e.2))).map
        .object := rfl
  rw [each, Entries.toList_map, List.map_map, List.map_map]
  rfl

theorem written_list {items : List Value} (all : ∀ v ∈ items, ∃ d, v.document = .ok d) :
    (list items).Written := by
  obtain ⟨documents, written, each⟩ := itemDocuments_eq all
  exact ⟨documents, by rw [document, written]; rfl, each⟩

theorem written_record {t : ValueType} {fields : List (String × Value)}
    (all : ∀ f ∈ fields, ∃ d, f.2.document = .ok d) : (object .record t fields).Written := by
  obtain ⟨members, written, each⟩ := members_eq all
  exact ⟨members, by rw [document, fieldDocuments_eq, written]; rfl, each⟩

theorem written_host {t : ValueType} {state : List (String × Value)}
    (all : ∀ f ∈ state, ∃ d, f.2.document = .ok d) : (object .host t state).Written := by
  obtain ⟨members, written, each⟩ :=
    members_eq fun f (member : f ∈ state.filter fun f => HostObjects.isWritten t f.1) =>
      all f (List.mem_of_mem_filter member)
  refine ⟨members, ?_, each⟩
  rw [document, fieldDocuments_eq, List.filter_map]
  exact congrArg (Except.map Document.object) written

theorem written_map {m : Entries Value} (all : ∀ e ∈ m.toList, ∃ d, e.2.document = .ok d) :
    (map m).Written := by
  have fields : ∀ f ∈ m.toList.map fun e => (e.1.memberName, e.2), ∃ d, f.2.document = .ok d :=
    List.forall_mem_map.mpr all
  obtain ⟨members, written, each⟩ := members_eq fields
  rw [List.forall₂_map_left_iff] at each
  have names : members.map Prod.fst = m.keys.map Key.memberName := by
    rw [← m.keys_toList, List.map_map, ← List.forall₂_eq_eq_eq, List.forall₂_map_left_iff,
      List.forall₂_map_right_iff]
    exact each.flip.imp fun _ _ same => same.1
  refine ⟨members, by rw [document_map, written]; rfl, each, ?_⟩
  rw [names, Key.nodup_memberNames_iff m.keys_nodup]

/-- Every value without a failure has a document, in which each map at each depth is an object with
one member for each entry, in their order. The names of the members are distinct just when no text
among the keys of the map is the name of a key of another type. -/
theorem documents_keep_entries {v : Value} (regular : v.Everywhere IsRegular) :
    v.Everywhere Written := by
  induction v using partsInduction with
  | list items ih =>
    have parts := fun w member => ih w member ((everywhere_list.mp regular).2 w member)
    exact everywhere_list.mpr
      ⟨written_list fun w member => (parts w member).here.document_eq, parts⟩
  | map entries ih =>
    have parts := fun e member => ih e member ((everywhere_map.mp regular).2 e member)
    exact everywhere_map.mpr
      ⟨written_map fun e member => (parts e member).here.document_eq, parts⟩
  | object origin t fields ih =>
    have parts := fun f member => ih f member ((everywhere_object.mp regular).2 f member)
    refine everywhere_object.mpr ⟨?_, parts⟩
    cases origin with
    | record => exact written_record fun f member => (parts f member).here.document_eq
    | host => exact written_host fun f member => (parts f member).here.document_eq
  | single v single =>
    rw [everywhere_iff_of_not_isCompound single] at regular ⊢
    cases v with
    | list | map | object => cases single
    | error | unknown => cases regular
    | _ => exact ⟨_, rfl⟩

end

attribute [local instance] HostObjects.silent

/-- A number and the texts of other keys, in a map that is an item of a list. -/
def keyedItems : Entries Value :=
  (((Entries.empty.push (.int 1) null).push (.uint 1) (list [])).push (.string "one")
    (bool true)).push (.bool true) null

theorem keyedItems_written :
    (list [map keyedItems]).Everywhere IsRegular ∧
    ∃ members, (list [map keyedItems]).document = .ok (.array [.object members]) ∧
      members.map Prod.fst = ["1", "1u", "one", "true"] ∧ (members.map Prod.fst).Nodup := by
  have regular : (list [map keyedItems]).Everywhere IsRegular := by
    rw [everywhere_list, List.forall_mem_singleton, everywhere_map]
    simp [keyedItems, Everywhere, EverywhereAll, IsRegular, isFailure]
  have whole := documents_keep_entries regular
  obtain ⟨members, document, -, names⟩ :=
    ((everywhere_list.mp whole).2 (map keyedItems) List.mem_cons_self).here
  obtain rfl : members = [("1", .null), ("1u", .array []), ("one", .bool true), ("true", .null)] :=
    Document.object.inj (Except.ok.inj (document.symm.trans rfl))
  exact ⟨regular, _, rfl, rfl, names.mpr (by decide)⟩

/-- An integer and its text are two keys with one name. -/
theorem memberNames_collide :
    let m := (Entries.empty.push (.int 1) (bool true)).push (.string "1") (bool false)
    mapOf [(int 1, bool true), (string "1", bool false)] = map m ∧
    (map m).Everywhere IsRegular ∧
    ∃ members, (map m).document = .ok (.object members) ∧ ¬(members.map Prod.fst).Nodup := by
  refine ⟨rfl, ?_, [("1", .bool true), ("1", .bool false)], rfl, by decide⟩
  rw [everywhere_map]
  simp [Everywhere, IsRegular, isFailure]

end Value

end ExprEngine
