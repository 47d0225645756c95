import Mathlib.Data.List.Forall2
import Mathlib.Data.List.Nodup
import Mathlib.Data.List.Perm.Subperm
import Grounding.Query
import Grounding.Proofs.Rounding

/-!
# Equality as an equivalence

Equality of values goes across types: `1`, `1.0` and `true` are equal, and dictionaries are equal
in any order. What truth values, integers and doubles have in common is the number that they stand
for (`Value.numeral?`). They are equal to what stands for the same number, and to nothing else
(`Value.equal_iff_of_numeral`).

A value is regular if it stands for a number wherever it is one of these, that is, if it holds no
NaN, and if its keys are distinct. On regular values equality is reflexive, symmetric and transitive
(`Regular.equal_refl`, `Regular.equal_symm`, `Regular.equal_trans`), and so it is on queries with
regular metadata and contexts.
-/

set_option autoImplicit false
set_option relaxedAutoImplicit false

namespace Grounding

open Grounding.Binary64

/-- Assumes: distinct keys on the left, and as many on the right. If all keys on the left are on the
right, all those on the right are on the left. -/
theorem Dict.keys_subset_of_length {α β : Type} {entries : Dict α} {others : Dict β}
    (hkeys : (keys entries).Nodup) (hlength : entries.length = others.length)
    (h : keys entries ⊆ keys others) : keys others ⊆ keys entries := by
  have hcount : (keys others).length ≤ (keys entries).length := by
    simp [keys, hlength]
  exact ((List.subperm_of_subset hkeys h).perm_of_length_le hcount).symm.subset

/-! ### Rows of related elements -/

section Rows

variable {α : Type} {r : α → α → Prop} {items middle others : List α}

/-- A row of related elements, read from the other side. -/
theorem forall₂_symm (h : List.Forall₂ r items others)
    (hsymm : ∀ item ∈ items, ∀ other ∈ others, r item other → r other item) :
    List.Forall₂ r others items := by
  induction h with
  | nil => exact .nil
  | cons hhead _ ih =>
    refine .cons (hsymm _ List.mem_cons_self _ List.mem_cons_self hhead) (ih ?_)
    exact fun item hitem other hother ↦
      hsymm item (List.mem_cons_of_mem _ hitem) other (List.mem_cons_of_mem _ hother)

/-- Two rows of related elements, put together. -/
theorem forall₂_trans (h : List.Forall₂ r items middle) (hnext : List.Forall₂ r middle others)
    (htrans : ∀ item ∈ items, ∀ between ∈ middle, ∀ other ∈ others,
      r item between → r between other → r item other) : List.Forall₂ r items others := by
  induction h generalizing others with
  | nil =>
    cases hnext
    exact .nil
  | cons hhead _ ih =>
    cases hnext with
    | cons hother hothers =>
      refine .cons (htrans _ List.mem_cons_self _ List.mem_cons_self _ List.mem_cons_self hhead
        hother) (ih hothers ?_)
      exact fun item hitem between hbetween other hlast ↦ htrans item
        (List.mem_cons_of_mem _ hitem) between (List.mem_cons_of_mem _ hbetween) other
        (List.mem_cons_of_mem _ hlast)

end Rows

namespace Value

/-! ### Numbers -/

/-- What number a value stands for: a signed number of units, or an infinity. -/
inductive Numeral
  | finite (units : Int)
  | infinite (negative : Bool)

/-- An integer as a number of units. -/
def Numeral.ofInt (number : Int) : Numeral :=
  .finite (number * unitsPerOne)

/-- The number that a double is. -/
def numeralOf? (x : Float) : Option Numeral :=
  match read x with
  | .nan => none
  | .infinite negative => some (.infinite negative)
  | .finite negative units => some (.finite (signedUnits negative units))

/-- The number that a value stands for. A NaN stands for none. -/
def numeral? : Value → Option Numeral
  | .bool truth => some (.ofInt (ofTruth truth))
  | .int number => some (.ofInt number)
  | .float number => numeralOf? number
  | _ => none

theorem Numeral.ofInt_inj {a b : Int} : ofInt a = ofInt b ↔ a = b := by
  constructor
  · intro h
    exact Int.eq_of_mul_eq_mul_right (Int.ne_of_gt unitsPerOne_pos) (Numeral.finite.inj h)
  · rintro rfl
    rfl

theorem isSome_numeralOf? (x : Float) : (numeralOf? x).isSome = !isNaN x := by
  unfold numeralOf? isNaN
  cases read x <;> rfl

/-- Doubles are equal if they are the same number. -/
theorem equal_float_iff (x y : Float) :
    Binary64.equal x y = true ↔ ∃ numeral, numeralOf? x = some numeral ∧
      numeralOf? y = some numeral := by
  have hx := @units_lt_of_read x
  have hy := @units_lt_of_read y
  have hlimit := Int.natCast_pos.mp unitsPerOne_pos
  have hpositive := Nat.mul_pos hlimit hlimit
  unfold Binary64.equal rank numeralOf?
  generalize unitsPerOne * unitsPerOne = limit at *
  cases hreadx : read x with
  | nan => simp
  | infinite negative =>
    cases hready : read y with
    | nan => simp
    | infinite other => cases negative <;> cases other <;> simp [signedUnits] <;> omega
    | finite other units =>
      have hless := hy hready
      cases negative <;> cases other <;> simp [signedUnits] <;> omega
  | finite negative units =>
    cases hready : read y with
    | nan => simp
    | infinite other =>
      have hless := hx hreadx
      cases negative <;> cases other <;> simp [signedUnits] <;> omega
    | finite other others => simp [eq_comm]

/-- An integer and a double are equal if they are the same number. -/
theorem sameNumber_iff (n : Int) (x : Float) :
    sameNumber n x = true ↔ numeralOf? x = some (.ofInt n) := by
  unfold sameNumber numeralOf? Numeral.ofInt
  generalize (unitsPerOne : Int) = scale
  cases read x <;> simp [eq_comm]

theorem ofTruth_inj {a b : Bool} : ofTruth a = ofTruth b ↔ a = b := by
  cases a <;> cases b <;> simp [ofTruth]

/-- Assumes: a value that stands for a number. It is equal to what stands for the same number. -/
theorem equal_iff_of_numeral {a b : Value} {numeral : Numeral} (h : a.numeral? = some numeral) :
    equal a b = true ↔ b.numeral? = some numeral := by
  cases a with
  | bool truth =>
    obtain rfl := Option.some.inj h
    cases b <;> simp [equal, numeral?, sameNumber_iff, Numeral.ofInt_inj, ofTruth_inj] <;>
      exact eq_comm
  | int number =>
    obtain rfl := Option.some.inj h
    cases b <;> simp [equal, numeral?, sameNumber_iff, Numeral.ofInt_inj] <;> exact eq_comm
  | float number =>
    have hnumber : numeralOf? number = some numeral := h
    cases b <;> simp [equal, numeral?, sameNumber_iff, equal_float_iff, hnumber] <;> exact eq_comm
  | _ => cases h

/-! ### Regular values -/

/-- A value that holds no NaN, and whose keys are distinct. -/
inductive Regular : Value → Prop
  | null : Regular .null
  | number {value : Value} {numeral : Numeral} (h : value.numeral? = some numeral) : Regular value
  | text (content : String) : Regular (.text content)
  | list {items : List Value} (h : ∀ item ∈ items, Regular item) : Regular (.list items)
  | dict {entries : Context} (hkeys : (Dict.keys entries).Nodup)
    (h : ∀ entry ∈ entries, Regular entry.2) : Regular (.dict entries)
  | predicate (mark : Nat) (rule : Predicate Value) : Regular (.predicate mark rule)
  | record (kind : RecordKind) {fields : Context} (hkeys : (Dict.keys fields).Nodup)
    (h : ∀ field ∈ fields, Regular field.2) : Regular (.record kind fields)

theorem Regular.bool (truth : Bool) : Regular (.bool truth) :=
  .number (show numeral? (.bool truth) = some (.ofInt (ofTruth truth)) from rfl)

theorem Regular.int (number : Int) : Regular (.int number) :=
  .number (show numeral? (.int number) = some (.ofInt number) from rfl)

/-- A double is regular if it is no NaN. -/
theorem regular_float_iff (x : Float) : Regular (.float x) ↔ isNaN x = false := by
  rw [← Bool.not_eq_true', ← isSome_numeralOf?, Option.isSome_iff_exists]
  constructor
  · intro hregular
    cases hregular with
    | number h => exact ⟨_, h⟩
  · rintro ⟨numeral, h⟩
    exact .number h

theorem Regular.items {items : List Value} (h : Regular (.list items)) :
    ∀ item ∈ items, Regular item := by
  cases h with
  | number h => cases h
  | list h => exact h

theorem Regular.entries {entries : Context} (h : Regular (.dict entries)) :
    (Dict.keys entries).Nodup ∧ ∀ entry ∈ entries, Regular entry.2 := by
  cases h with
  | number h => cases h
  | dict hkeys h => exact ⟨hkeys, h⟩

theorem Regular.fields {kind : RecordKind} {fields : Context} (h : Regular (.record kind fields)) :
    (Dict.keys fields).Nodup ∧ ∀ field ∈ fields, Regular field.2 := by
  cases h with
  | number h => cases h
  | record _ hkeys h => exact ⟨hkeys, h⟩

/-- What is held by lists and dictionaries is compared as such, unless it holds a NaN. -/
theorem Regular.same_or_equal {a : Value} (h : Regular a) (b : Value) :
    (same a b || equal a b) = equal a b := by
  rw [Bool.or_eq_right_iff_imp]
  intro hsame
  cases h with
  | number hnumeral =>
    cases a with
    | float x =>
      have hnumber : isNaN x = false := (regular_float_iff x).mp (.number hnumeral)
      cases b <;> simp [same, hnumber] at hsame
    | bool _ | int _ => cases b <;> simp [same] at hsame
    | _ => cases hnumeral
  | predicate mark rule => cases b <;> simp_all [same, equal]
  | _ => cases b <;> simp [same] at hsame

theorem equalItems_iff {items : List Value} (h : ∀ item ∈ items, Regular item)
    (others : List Value) :
    equalItems items others = true ↔
      List.Forall₂ (fun item other ↦ equal item other = true) items others := by
  induction items generalizing others with
  | nil => cases others <;> simp [equalItems]
  | cons item rest ih =>
    obtain ⟨hhead, hrest⟩ := List.forall_mem_cons.mp h
    cases others with
    | nil => simp [equalItems]
    | cons other others => simp [equalItems, hhead.same_or_equal, ih hrest]

theorem equalEntries_iff {entries : Context} (h : ∀ entry ∈ entries, Regular entry.2)
    (others : Context) :
    equalEntries entries others = true ↔ ∀ entry ∈ entries, ∃ other,
      others.get? entry.1 = some other ∧ equal entry.2 other = true := by
  induction entries with
  | nil => simp [equalEntries]
  | cons entry rest ih =>
    obtain ⟨key, value⟩ := entry
    obtain ⟨hhead, hrest⟩ := List.forall_mem_cons.mp h
    rw [equalEntries, Bool.and_eq_true, ih hrest, List.forall_mem_cons]
    apply and_congr_left'
    cases Dict.get? others key with
    | none => simp
    | some other => simp [hhead.same_or_equal]

/-- A regular value equals itself. -/
theorem Regular.equal_refl {a : Value} (h : Regular a) : equal a a = true := by
  have hentries : ∀ {entries : Context}, (Dict.keys entries).Nodup →
      (∀ entry ∈ entries, Regular entry.2) →
      (∀ entry ∈ entries, equal entry.2 entry.2 = true) → equalEntries entries entries = true := by
    intro entries hkeys hregular hself
    rw [equalEntries_iff hregular]
    intro entry hentry
    exact ⟨entry.2, Dict.get?_of_mem hkeys hentry, hself entry hentry⟩
  induction h with
  | null => simp [equal]
  | number h => exact (equal_iff_of_numeral h).mpr h
  | text content => simp [equal]
  | list h ih =>
    rw [equal, equalItems_iff h, List.forall₂_same]
    exact ih
  | dict hkeys h ih => simp [equal, hentries hkeys h ih]
  | predicate mark rule => simp [equal]
  | record kind hkeys h ih => simp [equal, hentries hkeys h ih]

/-- Assumes: as many entries with distinct keys on both sides. If every entry has an equal one under
its key, the equality being symmetric for it, then so it is the other way round. -/
theorem equalEntries_symm {entries others : Context} (hkeys : (Dict.keys entries).Nodup)
    (hentries : ∀ entry ∈ entries, Regular entry.2) (hother : (Dict.keys others).Nodup)
    (hothers : ∀ entry ∈ others, Regular entry.2) (hlength : entries.length = others.length)
    (hsymm : ∀ entry ∈ entries, ∀ b, Regular b → equal entry.2 b = true → equal b entry.2 = true)
    (h : equalEntries entries others = true) : equalEntries others entries = true := by
  rw [equalEntries_iff hentries] at h
  rw [equalEntries_iff hothers]
  have hsubset : Dict.keys entries ⊆ Dict.keys others := by
    intro key hkey
    obtain ⟨entry, hentry, rfl⟩ := List.mem_map.mp hkey
    obtain ⟨other, hget, -⟩ := h entry hentry
    exact List.mem_map.mpr ⟨_, Dict.mem_of_get? hget, rfl⟩
  intro entry hentry
  have hkey : entry.1 ∈ Dict.keys entries :=
    Dict.keys_subset_of_length hkeys hlength hsubset (List.mem_map_of_mem hentry)
  obtain ⟨value, hvalue⟩ := Option.isSome_iff_exists.mp ((Dict.get?_isSome_iff _ _).mpr hkey)
  have hmem := Dict.mem_of_get? hvalue
  obtain ⟨other, hget, hequal⟩ := h _ hmem
  rw [Dict.get?_of_mem hother hentry] at hget
  obtain rfl := Option.some.inj hget
  exact ⟨value, hvalue, hsymm _ hmem _ (hothers entry hentry) hequal⟩

/-- Equality of regular values goes in both directions. -/
theorem Regular.equal_symm {a b : Value} (ha : Regular a) (hb : Regular b)
    (h : equal a b = true) : equal b a = true := by
  induction ha generalizing b with
  | null => cases b <;> simp_all [equal]
  | number hnumeral =>
    have hother := (equal_iff_of_numeral hnumeral).mp h
    exact (equal_iff_of_numeral hother).mpr hnumeral
  | text content => cases b <;> simp_all [equal]
  | list hitems ih =>
    cases b with
    | list others =>
      rw [equal, equalItems_iff hitems] at h
      rw [equal, equalItems_iff hb.items]
      exact forall₂_symm h fun item hitem other hother ↦ ih item hitem (hb.items other hother)
    | _ => simp [equal] at h
  | dict hkeys hentries ih =>
    cases b with
    | dict others =>
      simp only [equal, Bool.and_eq_true, beq_iff_eq] at h ⊢
      obtain ⟨hother, hothers⟩ := hb.entries
      exact ⟨h.1.symm, equalEntries_symm hkeys hentries hother hothers h.1
        (fun entry hmem _ ↦ ih entry hmem) h.2⟩
    | _ => simp [equal] at h
  | predicate mark rule => cases b <;> simp_all [equal]
  | record kind hkeys hentries ih =>
    cases b with
    | record other others =>
      simp only [equal, Bool.and_eq_true, beq_iff_eq, decide_eq_true_eq] at h ⊢
      obtain ⟨hother, hothers⟩ := hb.fields
      exact ⟨⟨h.1.1.symm, h.1.2.symm⟩, equalEntries_symm hkeys hentries hother hothers h.1.2
        (fun field hmem _ ↦ ih field hmem) h.2⟩
    | _ => simp [equal] at h

/-- Assumes: entries that have equal ones under their keys on the right, and these have equal ones
further on. So have the entries, the equality being transitive for them. -/
theorem equalEntries_trans {entries middle others : Context}
    (hentries : ∀ entry ∈ entries, Regular entry.2) (hmiddle : ∀ entry ∈ middle, Regular entry.2)
    (hothers : ∀ entry ∈ others, Regular entry.2)
    (htrans : ∀ entry ∈ entries, ∀ b c, Regular b → Regular c → equal entry.2 b = true →
      equal b c = true → equal entry.2 c = true)
    (hfirst : equalEntries entries middle = true) (hsecond : equalEntries middle others = true) :
    equalEntries entries others = true := by
  rw [equalEntries_iff hentries] at hfirst ⊢
  rw [equalEntries_iff hmiddle] at hsecond
  intro entry hentry
  obtain ⟨between, hbetween, hequal⟩ := hfirst entry hentry
  have hmem := Dict.mem_of_get? hbetween
  obtain ⟨other, hother, hnext⟩ := hsecond _ hmem
  exact ⟨other, hother, htrans entry hentry between other (hmiddle _ hmem)
    (hothers _ (Dict.mem_of_get? hother)) hequal hnext⟩

/-- What equals something equal is equal. -/
theorem Regular.equal_trans {a b c : Value} (ha : Regular a) (hb : Regular b) (hc : Regular c)
    (hab : equal a b = true) (hbc : equal b c = true) : equal a c = true := by
  induction ha generalizing b c with
  | null =>
    cases b with
    | null => exact hbc
    | _ => simp [equal] at hab
  | number hnumeral =>
    have hmiddle := (equal_iff_of_numeral hnumeral).mp hab
    exact (equal_iff_of_numeral hnumeral).mpr ((equal_iff_of_numeral hmiddle).mp hbc)
  | text content =>
    cases b with
    | text between =>
      obtain rfl : content = between := by simpa [equal] using hab
      exact hbc
    | _ => simp [equal] at hab
  | list hitems ih =>
    cases b with
    | list middle =>
      cases c with
      | list others =>
        rw [equal, equalItems_iff hitems] at hab ⊢
        rw [equal, equalItems_iff hb.items] at hbc
        exact forall₂_trans hab hbc fun item hitem between hbetween other hother ↦
          ih item hitem (hb.items between hbetween) (hc.items other hother)
      | _ => simp [equal] at hbc
    | _ => simp [equal] at hab
  | dict hkeys hentries ih =>
    cases b with
    | dict middle =>
      cases c with
      | dict others =>
        simp only [equal, Bool.and_eq_true, beq_iff_eq] at hab hbc ⊢
        exact ⟨hab.1.trans hbc.1, equalEntries_trans hentries hb.entries.2 hc.entries.2
          (fun entry hmem _ _ ↦ ih entry hmem) hab.2 hbc.2⟩
      | _ => simp [equal] at hbc
    | _ => simp [equal] at hab
  | predicate mark rule =>
    cases b with
    | predicate => cases c <;> simp_all [equal]
    | _ => simp [equal] at hab
  | record kind hkeys hentries ih =>
    cases b with
    | record between middle =>
      cases c with
      | record other others =>
        simp only [equal, Bool.and_eq_true, beq_iff_eq, decide_eq_true_eq] at hab hbc ⊢
        exact ⟨⟨hab.1.1.trans hbc.1.1, hab.1.2.trans hbc.1.2⟩, equalEntries_trans hentries
          hb.fields.2 hc.fields.2 (fun field hmem _ _ ↦ ih field hmem) hab.2 hbc.2⟩
      | _ => simp [equal] at hbc
    | _ => simp [equal] at hab

end Value

/-! ### Queries -/

/-- A context that holds no NaN, and whose keys are distinct. -/
def Context.Regular (context : Context) : Prop :=
  Value.Regular (.dict context)

namespace Message

theorem equal_iff (a b : Message) : a.equal b = true ↔
    a.role = b.role ∧ a.text = b.text ∧ Context.equal a.metadata b.metadata = true := by
  simp [equal, and_assoc]

theorem equalAll_iff (a b : List Message) :
    equalAll a b = true ↔ List.Forall₂ (fun first second ↦ first.equal second = true) a b := by
  induction a generalizing b with
  | nil => cases b <;> simp [equalAll]
  | cons message rest ih => cases b <;> simp [equalAll, ih]

theorem equal_refl {a : Message} (h : Context.Regular a.metadata) : a.equal a = true := by
  rw [equal_iff]
  exact ⟨rfl, rfl, h.equal_refl⟩

theorem equal_symm {a b : Message} (ha : Context.Regular a.metadata)
    (hb : Context.Regular b.metadata) (h : a.equal b = true) : b.equal a = true := by
  rw [equal_iff] at h ⊢
  exact ⟨h.1.symm, h.2.1.symm, ha.equal_symm hb h.2.2⟩

theorem equal_trans {a b c : Message} (ha : Context.Regular a.metadata)
    (hb : Context.Regular b.metadata) (hc : Context.Regular c.metadata) (hab : a.equal b = true)
    (hbc : b.equal c = true) : a.equal c = true := by
  rw [equal_iff] at hab hbc ⊢
  exact ⟨hab.1.trans hbc.1, hab.2.1.trans hbc.2.1, ha.equal_trans hb hc hab.2.2 hbc.2.2⟩

end Message

namespace Query

/-- A query with regular metadata and a regular context. -/
structure Regular (query : Query) : Prop where
  history : ∀ message ∈ query.history, Context.Regular message.metadata
  context : Context.Regular query.context

theorem equal_iff (a b : Query) : a.equal b = true ↔
    a.text = b.text ∧ List.Forall₂ (fun first second ↦ first.equal second = true) a.history
      b.history ∧ Context.equal a.context b.context = true := by
  simp [equal, Message.equalAll_iff, and_assoc]

/-- A regular query equals itself. -/
theorem Regular.equal_refl {a : Query} (h : a.Regular) : a.equal a = true := by
  rw [equal_iff, List.forall₂_same]
  exact ⟨rfl, fun message hmem ↦ Message.equal_refl (h.history message hmem),
    Value.Regular.equal_refl h.context⟩

/-- Equality of regular queries goes in both directions. -/
theorem Regular.equal_symm {a b : Query} (ha : a.Regular) (hb : b.Regular)
    (h : a.equal b = true) : b.equal a = true := by
  rw [equal_iff] at h ⊢
  obtain ⟨htext, hhistory, hcontext⟩ := h
  refine ⟨htext.symm, forall₂_symm hhistory ?_,
    Value.Regular.equal_symm ha.context hb.context hcontext⟩
  exact fun message hmem other hother ↦
    Message.equal_symm (ha.history message hmem) (hb.history other hother)

/-- A regular query that equals something equal is equal. -/
theorem Regular.equal_trans {a b c : Query} (ha : a.Regular) (hb : b.Regular) (hc : c.Regular)
    (hab : a.equal b = true) (hbc : b.equal c = true) : a.equal c = true := by
  rw [equal_iff] at hab hbc ⊢
  obtain ⟨htext, hhistory, hcontext⟩ := hab
  obtain ⟨hnextText, hnextHistory, hnextContext⟩ := hbc
  refine ⟨htext.trans hnextText, forall₂_trans hhistory hnextHistory ?_,
    Value.Regular.equal_trans ha.context hb.context hc.context hcontext hnextContext⟩
  exact fun message hmem between hbetween other hother ↦ Message.equal_trans
    (ha.history message hmem) (hb.history between hbetween) (hc.history other hother)

end Query

end Grounding
