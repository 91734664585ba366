import Flowgraph.Document.Standard
import Mathlib.Data.List.Forall2

namespace Flowgraph.Document

def collect {α : Type} (done entries : List (String × α)) : List (String × α) :=
  entries.foldl (fun table e ↦ putNamed e.1 e.2 table) done

/-- What the field under some names is in a mapping: what a check makes of the value there, or the
default. -/
inductive FieldReads {α : Type} (es : Entries) (names : List String) (default : Option α)
    (check : Check α) (a : α) : Prop
  | there {name : String} {v : Value} (h : findField names es = some (name, v))
    (hv : check v = .fits a) : FieldReads es names default check a
  | absent (h : findField names es = none) (hd : default = some a) :
    FieldReads es names default check a

def Fields.Reads (es : Entries) {α : Type} : Fields α → α → Prop
  | .made a => (· = a)
  | .field front names default check =>
    fun b ↦ ∃ f, front.Reads es f ∧ ∃ a, FieldReads es names default check a ∧ f a = b

/-- When the checks of a library succeed, and with what. Of plain values this says only that they are
taken as they are: what else stands for one, and what is said of faults, is left to the library. -/
structure Library.Lawful (L : Library) : Prop where
  anything (v : Value) : L.anything v = .fits v
  string (s : String) : L.string (.str s) = .fits s
  integer (i : Int) : L.integer (.int i) = .fits i
  float (x : Float) : L.float (.float x) = .fits x
  truth (b : Bool) : L.truth (.bool b) = .fits b
  minLength {length : ℕ} {v : Value} {s : String} :
    L.minLength length v = .fits s ↔ L.string v = .fits s ∧ length ≤ s.length
  atLeast {low x : Float} {v : Value} :
    L.atLeast low v = .fits x ↔ L.float v = .fits x ∧ low ≤ x
  literal {words : List String} {v : Value} {s : String} :
    L.literal words v = .fits s ↔ v = .str s ∧ s ∈ words
  nullable {α : Type} {check : Check α} {v : Value} {a? : Option α} :
    L.nullable check v = .fits a? ↔
      (v = .null ∧ a? = none) ∨ (v ≠ .null ∧ ∃ a, check v = .fits a ∧ a? = some a)
  list {α : Type} {check : Check α} {mark : ℕ} {vs : List Value} {as : List α} :
    L.list check (.list mark vs) = .fits as ↔ List.Forall₂ (fun v a ↦ check v = .fits a) vs as
  items {α : Type} {check : Check α} {v : Value} {as : List α} :
    L.list check v = .fits as → ∃ vs, List.Forall₂ (fun v a ↦ check v = .fits a) vs as
  /-- Of entries under one text the last stays, where the first was. -/
  table {α : Type} {check : Check α} {v : Value} {table : List (String × α)} :
    L.table check v = .fits table ↔ ∃ mark es entries, v = .mapping mark es ∧
      List.Forall₂ (fun e a ↦ L.string e.1.toValue = .fits a.1 ∧ check e.2 = .fits a.2)
        es entries ∧ collect [] entries = table
  record {α : Type} {name : String} {fields : Fields α} {v : Value} {a : α} :
    L.record name fields v = .fits a ↔ ∃ mark es, v = .mapping mark es ∧ fields.Reads es a
  union {α : Type} {d : Discriminator} {variants : List (String × Check α)} {v : Value} {a : α} :
    L.union d variants v = .fits a ↔
      ∃ tag check, d.tag? v = some tag ∧ variants.lookup tag = some check ∧ check v = .fits a
  before {α : Type} {f : Value → Except String Value} {check : Check α} {v : Value} {a : α} :
    L.before f check v = .fits a ↔ ∃ w, f v = .ok w ∧ check w = .fits a
  after {α β : Type} {f : α → β} {check : Check α} {v : Value} {b : β} :
    L.after f check v = .fits b ↔ ∃ a, check v = .fits a ∧ f a = b

namespace Checked

variable {α β : Type} {f : Checked (α → β)} {a : Checked α} {b : β}

theorem seq_eq_fits :
    f <*> a = .fits b ↔ ∃ g, f = .fits g ∧ ∃ x, a = .fits x ∧ g x = b := by
  change f.apply a = _ ↔ _
  cases f <;> cases a <;> simp [apply]

theorem map_eq_fits {g : α → β} : g <$> a = .fits b ↔ ∃ x, a = .fits x ∧ g x = b := by
  change Checked.apply (.fits g) a = _ ↔ _
  cases a <;> simp [apply]

theorem at_eq_fits {step : String} {x : α} : a.at step = .fits x ↔ a = .fits x := by
  cases a <;> simp [«at»]

theorem andThen_eq_fits {f : α → Checked β} :
    a.andThen f = .fits b ↔ ∃ x, a = .fits x ∧ f x = .fits b := by
  cases a <;> simp [andThen]

end Checked

open Checked

section Standard

variable {α : Type} {check : Check α} {v : Value}

theorem checkMinLength_eq_fits {length : ℕ} {s : String} :
    checkMinLength length v = .fits s ↔ checkString v = .fits s ∧ length ≤ s.length := by
  unfold checkMinLength
  rw [andThen_eq_fits]
  constructor
  · rintro ⟨t, ht, h⟩
    split at h <;> cases h
    exact ⟨ht, ‹_›⟩
  · rintro ⟨hs, hlength⟩
    exact ⟨s, hs, if_pos hlength⟩

theorem checkAtLeast_eq_fits {low x : Float} :
    checkAtLeast low v = .fits x ↔ checkFloat v = .fits x ∧ low ≤ x := by
  unfold checkAtLeast
  rw [andThen_eq_fits]
  constructor
  · rintro ⟨y, hy, h⟩
    split at h <;> cases h
    exact ⟨hy, ‹_›⟩
  · rintro ⟨hx, hlow⟩
    exact ⟨x, hx, if_pos hlow⟩

theorem checkLiteral_eq_fits {words : List String} {s : String} :
    checkLiteral words v = .fits s ↔ v = .str s ∧ s ∈ words := by
  unfold checkLiteral
  constructor
  · intro h
    dsimp only at h
    split at h
    · split at h <;> cases h
      exact ⟨rfl, ‹_›⟩
    · cases h
  · rintro ⟨rfl, hs⟩
    exact if_pos hs

theorem checkNullable_eq_fits {a? : Option α} :
    checkNullable check v = .fits a? ↔
      (v = .null ∧ a? = none) ∨ (v ≠ .null ∧ ∃ a, check v = .fits a ∧ a? = some a) := by
  unfold checkNullable
  split
  · simp [eq_comm]
  · rename_i hv
    rw [map_eq_fits, or_iff_right fun h ↦ hv h.1]
    exact ⟨fun ⟨a, ha, h⟩ ↦ ⟨hv, a, ha, h.symm⟩, fun ⟨_, a, ha, h⟩ ↦ ⟨a, ha, h.symm⟩⟩

theorem checkItemsFrom_eq_fits {index : ℕ} {vs : List Value} {as : List α} :
    checkItemsFrom check index vs = .fits as ↔
      List.Forall₂ (fun v a ↦ check v = .fits a) vs as := by
  induction vs generalizing index as with
  | nil => simp [checkItemsFrom, eq_comm]
  | cons v vs ih =>
    rw [checkItemsFrom, seq_eq_fits, List.forall₂_cons_left_iff]
    constructor
    · rintro ⟨_, hhead, as, hrest, rfl⟩
      obtain ⟨a, ha, rfl⟩ := map_eq_fits.1 hhead
      exact ⟨a, as, at_eq_fits.1 ha, ih.1 hrest, rfl⟩
    · rintro ⟨a, as, ha, hrest, rfl⟩
      exact ⟨_, map_eq_fits.2 ⟨a, at_eq_fits.2 ha, rfl⟩, as, ih.2 hrest, rfl⟩

theorem checkEntries_eq_fits {es : Entries} {entries : List (String × α)} :
    checkEntries check es = .fits entries ↔
      List.Forall₂ (fun e a ↦ checkString e.1.toValue = .fits a.1 ∧ check e.2 = .fits a.2)
        es entries := by
  induction es generalizing entries with
  | nil => simp [checkEntries, eq_comm]
  | cons e es ih =>
    rw [checkEntries, seq_eq_fits, List.forall₂_cons_left_iff]
    constructor
    · rintro ⟨_, hentry, entries, hrest, rfl⟩
      obtain ⟨_, hkey, a, ha, rfl⟩ := seq_eq_fits.1 hentry
      obtain ⟨name, hname, rfl⟩ := map_eq_fits.1 hkey
      exact ⟨(name, a), entries, ⟨at_eq_fits.1 (at_eq_fits.1 hname), at_eq_fits.1 ha⟩,
        ih.1 hrest, rfl⟩
    · rintro ⟨⟨name, a⟩, entries, ⟨hname, ha⟩, hrest, rfl⟩
      refine ⟨_, seq_eq_fits.2 ⟨_, map_eq_fits.2 ⟨name, ?_, rfl⟩, a, at_eq_fits.2 ha, rfl⟩,
        entries, ih.2 hrest, rfl⟩
      exact at_eq_fits.2 (at_eq_fits.2 hname)

theorem checkTable_eq_fits {table : List (String × α)} :
    checkTable check v = .fits table ↔ ∃ mark es entries, v = .mapping mark es ∧
      List.Forall₂ (fun e a ↦ checkString e.1.toValue = .fits a.1 ∧ check e.2 = .fits a.2)
        es entries ∧ collect [] entries = table := by
  unfold checkTable
  rw [map_eq_fits]
  constructor
  · rintro ⟨entries, hentries, htable⟩
    obtain ⟨es, hes, hentries⟩ := andThen_eq_fits.1 hentries
    unfold checkMapping at hes
    split at hes <;> cases hes
    exact ⟨_, _, entries, rfl, checkEntries_eq_fits.1 hentries, htable⟩
  · rintro ⟨mark, es, entries, rfl, hentries, htable⟩
    exact ⟨entries, andThen_eq_fits.2 ⟨es, rfl, checkEntries_eq_fits.2 hentries⟩, htable⟩

theorem checkField_eq_fits {names : List String} {default : Option α} {es : Entries} {a : α} :
    checkField names default check es = .fits a ↔ FieldReads es names default check a := by
  unfold checkField
  constructor
  · intro h
    split at h
    · exact .there ‹_› (at_eq_fits.1 h)
    · cases h
      exact .absent ‹_› rfl
    · cases h
  · rintro (⟨hfound, hv⟩ | ⟨habsent, rfl⟩)
    · rw [hfound]
      exact at_eq_fits.2 hv
    · rw [habsent]

theorem check_eq_fits {fields : Fields α} {es : Entries} {a : α} :
    fields.check es = .fits a ↔ fields.Reads es a := by
  induction fields with
  | made b =>
    change Checked.fits b = _ ↔ a = b
    rw [Checked.fits.injEq, eq_comm]
  | field front names default check ih =>
    change front.check es <*> checkField names default check es = _ ↔ ∃ f, _ ∧ ∃ a, _ ∧ _
    simp only [seq_eq_fits, ih, checkField_eq_fits]

theorem checkRecord_eq_fits {name : String} {fields : Fields α} {a : α} :
    checkRecord name fields v = .fits a ↔ ∃ mark es, v = .mapping mark es ∧ fields.Reads es a := by
  unfold checkRecord
  split
  · rename_i mark es
    rw [check_eq_fits]
    constructor
    · exact fun h ↦ ⟨mark, es, rfl, h⟩
    · rintro ⟨_, _, heq, h⟩
      cases heq
      exact h
  · rename_i hv
    refine iff_of_false nofun ?_
    rintro ⟨mark, es, rfl, -⟩
    exact hv mark es rfl

theorem tagged_eq_ok {variants : List (String × Check α)} {shown t tag : String}
    {found : Option (Check α)} :
    tagged variants shown t found = .ok (tag, check) ↔ t = tag ∧ found = some check := by
  unfold tagged
  cases found <;> simp

theorem variantOf_eq_ok {d : Discriminator} {variants : List (String × Check α)} {tag : String} :
    variantOf d variants v = .ok (tag, check) ↔
      d.tag? v = some tag ∧ variants.lookup tag = some check := by
  have hlookup (shown t : String) : tagged variants shown t (variants.lookup t) = .ok (tag, check) ↔
      t = tag ∧ variants.lookup tag = some check := by
    rw [tagged_eq_ok]
    exact and_congr_right fun h ↦ h ▸ .rfl
  cases d with
  | function name tag? =>
    unfold variantOf Discriminator.tag?
    dsimp only
    cases tag? v with
    | none => simp
    | some t => simp [hlookup]
  | key name =>
    cases v with
    | mapping mark es =>
      unfold variantOf Discriminator.tag?
      dsimp only
      cases Entries.get? es (.str name) with
      | none => simp
      | some w =>
        cases w with
        | str t => simp [hlookup]
        | _ => simp [tagged_eq_ok]
    | _ => simp [variantOf, Discriminator.tag?]

theorem checkUnion_eq_fits {d : Discriminator} {variants : List (String × Check α)} {a : α} :
    checkUnion d variants v = .fits a ↔
      ∃ tag check, d.tag? v = some tag ∧ variants.lookup tag = some check ∧ check v = .fits a := by
  unfold checkUnion
  constructor
  · intro h
    split at h
    · next tag check hvariant =>
      obtain ⟨htag, hcheck⟩ := variantOf_eq_ok.1 hvariant
      exact ⟨tag, check, htag, hcheck, at_eq_fits.1 h⟩
    · cases h
  · rintro ⟨tag, check, htag, hcheck, h⟩
    rw [variantOf_eq_ok.2 ⟨htag, hcheck⟩]
    exact at_eq_fits.2 h

theorem checkBefore_eq_fits {f : Value → Except String Value} {a : α} :
    checkBefore f check v = .fits a ↔ ∃ w, f v = .ok w ∧ check w = .fits a := by
  unfold checkBefore
  cases f v <;> simp [fault]

end Standard

theorem Library.standard_lawful : Library.standard.Lawful where
  anything _ := rfl
  string _ := rfl
  integer _ := rfl
  float _ := rfl
  truth _ := rfl
  minLength := checkMinLength_eq_fits
  atLeast := checkAtLeast_eq_fits
  literal := checkLiteral_eq_fits
  nullable := checkNullable_eq_fits
  list := checkItemsFrom_eq_fits
  items h := by
    obtain ⟨vs, -, hvs⟩ := andThen_eq_fits.1 h
    exact ⟨vs, checkItemsFrom_eq_fits.1 hvs⟩
  table := checkTable_eq_fits
  record := checkRecord_eq_fits
  union := checkUnion_eq_fits
  before := checkBefore_eq_fits
  after := map_eq_fits

end Flowgraph.Document
