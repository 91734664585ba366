import Flowgraph.Document.Written
import Flowgraph.Proofs.Document.Lawful
import Mathlib.Data.List.Nodup

namespace Flowgraph.Document

variable {α β : Type} {check : Check α} {write : α → Value}

/-- A check makes the same again of the written form of what it has made of a value. -/
def Recovers (check : Check α) (write : α → Value) : Prop :=
  ∀ v a, check v = .fits a → check (write a) = .fits a

section Fields

variable {names : List String} {name : String} {es : Entries} {a : α} {default : Option α}
  {v : Value} {front : Fields (α → β)} {f : α → β}

theorem FieldReads.of_get? (h : Entries.get? es (.str name) = some v) (hv : check v = .fits a) :
    FieldReads es (name :: names) default check a := by
  have hfound : findField (name :: names) es = some (name, v) := by
    unfold findField
    rw [List.findSome?_cons, h]
    rfl
  exact .there hfound hv

theorem FieldReads.exists_fits (h : FieldReads es names none check a) : ∃ v, check v = .fits a := by
  cases h with
  | there hfound hv => exact ⟨_, hv⟩
  | absent habsent hdefault => cases hdefault

theorem FieldReads.recover (ha : FieldReads es names none check a) (h : Recovers check write) :
    check (write a) = .fits a := by
  obtain ⟨v, hv⟩ := ha.exists_fits
  exact h v a hv

/-- What a field has read is recovered from its written form, if the default is. -/
theorem FieldReads.recover_default {d : α} (ha : FieldReads es names (some d) check a)
    (h : Recovers check write) (hd : check (write d) = .fits d) : check (write a) = .fits a := by
  cases ha with
  | there hfound hv => exact h _ a hv
  | absent habsent hdefault =>
    cases hdefault
    exact hd

theorem Fields.Reads.made (a : α) : (Fields.made a).Reads es a := rfl

theorem Fields.Reads.field (hf : front.Reads es f) (ha : FieldReads es names default check a) :
    (front.field names default check).Reads es (f a) := ⟨f, hf, a, ha, rfl⟩

end Fields

section Tables

variable {name : String} {a : α} {table done entries : List (String × α)}

theorem putNamed_of_notMem (h : name ∉ table.map Prod.fst) :
    putNamed name a table = table ++ [(name, a)] := by
  induction table with
  | nil => rfl
  | cons e table ih =>
    rw [List.map_cons, List.mem_cons, not_or] at h
    unfold putNamed
    rw [if_neg (by simpa using Ne.symm h.1), ih h.2]
    rfl

theorem mem_putNamed {e : String × α} (h : e ∈ putNamed name a table) :
    e = (name, a) ∨ e ∈ table := by
  induction table with
  | nil => exact .inl (List.mem_singleton.1 h)
  | cons d table ih =>
    unfold putNamed at h
    split at h
    · exact (List.mem_cons.1 h).imp id (List.mem_cons_of_mem d)
    · obtain rfl | h := List.mem_cons.1 h
      · exact .inr List.mem_cons_self
      · exact (ih h).imp id (List.mem_cons_of_mem d)

theorem nodup_putNamed (h : (table.map Prod.fst).Nodup) :
    ((putNamed name a table).map Prod.fst).Nodup := by
  induction table with
  | nil => exact List.nodup_singleton name
  | cons e table ih =>
    obtain ⟨he, htable⟩ := List.nodup_cons.1 h
    unfold putNamed
    split
    · rename_i hname
      rw [← eq_of_beq hname]
      exact h
    · rename_i hname
      refine List.nodup_cons.2 ⟨fun hmem ↦ ?_, ih htable⟩
      obtain ⟨d, hd, hde⟩ := List.mem_map.1 hmem
      obtain rfl | hd := mem_putNamed hd
      · exact hname (beq_iff_eq.2 hde.symm)
      · exact he (List.mem_map.2 ⟨d, hd, hde⟩)

theorem nodup_collect (h : (done.map Prod.fst).Nodup) :
    ((collect done entries).map Prod.fst).Nodup := by
  induction entries generalizing done with
  | nil => exact h
  | cons e entries ih => exact ih (nodup_putNamed h)

theorem forall_collect {P : String × α → Prop} (hentries : ∀ e ∈ entries, P e)
    (hdone : ∀ e ∈ done, P e) : ∀ e ∈ collect done entries, P e := by
  induction entries generalizing done with
  | nil => exact hdone
  | cons e entries ih =>
    obtain ⟨he, hentries⟩ := List.forall_mem_cons.1 hentries
    refine ih hentries fun d hd ↦ ?_
    obtain rfl | hd := mem_putNamed hd
    · exact he
    · exact hdone d hd

/-- Entries under different names stay as they are. -/
theorem collect_of_nodup (h : ((done ++ entries).map Prod.fst).Nodup) :
    collect done entries = done ++ entries := by
  induction entries generalizing done with
  | nil => exact (List.append_nil done).symm
  | cons e entries ih =>
    have hnew : e.1 ∉ done.map Prod.fst := by
      rw [List.map_append, List.map_cons] at h
      exact fun hmem ↦ List.disjoint_of_nodup_append h hmem List.mem_cons_self
    rw [List.append_cons] at h ⊢
    rw [← ih h, ← putNamed_of_notMem hnew]
    rfl

def tableValue (write : α → Value) (table : List (String × α)) : Value :=
  record (table.map fun e ↦ (e.1, write e.2))

end Tables

theorem exists_of_forall₂_left {γ : Type} {R : γ → α → Prop} {xs : List γ} {as : List α}
    (h : List.Forall₂ R xs as) : ∀ a ∈ as, ∃ x, R x a := by
  induction h with
  | nil => exact fun a ha ↦ nomatch ha
  | cons hx _ ih => exact List.forall_mem_cons.2 ⟨⟨_, hx⟩, ih⟩

namespace Library.Lawful

variable {L : Library} (hL : L.Lawful)

include hL

theorem recovers_string : Recovers L.string .str := fun _ s _ ↦ hL.string s

theorem recovers_integer : Recovers L.integer .int := fun _ i _ ↦ hL.integer i

theorem recovers_anything : Recovers L.anything fun v ↦ v := fun _ v _ ↦ hL.anything v

theorem recovers_minLength (length : ℕ) : Recovers (L.minLength length) .str :=
  fun _ s h ↦ hL.minLength.2 ⟨hL.string s, (hL.minLength.1 h).2⟩

theorem recovers_atLeast (low : Float) : Recovers (L.atLeast low) .float :=
  fun _ x h ↦ hL.atLeast.2 ⟨hL.float x, (hL.atLeast.1 h).2⟩

theorem recovers_literal (words : List String) : Recovers (L.literal words) .str :=
  fun _ _ h ↦ hL.literal.2 ⟨rfl, (hL.literal.1 h).2⟩

theorem recovers_nullable {write : Option α → Value} (hnone : write none = .null)
    (hsome : ∀ a, write (some a) ≠ .null) (h : Recovers check fun a ↦ write (some a)) :
    Recovers (L.nullable check) write := by
  intro v a? hv
  obtain ⟨-, rfl⟩ | ⟨-, a, ha, rfl⟩ := hL.nullable.1 hv
  · exact hL.nullable.2 (.inl ⟨hnone, rfl⟩)
  · exact hL.nullable.2 (.inr ⟨hsome a, a, h v a ha, rfl⟩)

theorem recovers_list (h : Recovers check write) :
    Recovers (L.list check) fun as ↦ .ofList (as.map write) := by
  intro v as has
  obtain ⟨vs, hvs⟩ := hL.items has
  refine hL.list.2 (List.forall₂_map_left_iff.2 (List.forall₂_same.2 fun a ha ↦ ?_))
  obtain ⟨w, hw⟩ := exists_of_forall₂_left hvs a ha
  exact h w a hw

theorem table_tableValue {table : List (String × α)} (hnodup : (table.map Prod.fst).Nodup)
    (h : ∀ e ∈ table, check (write e.2) = .fits e.2) :
    L.table check (tableValue write table) = .fits table := by
  refine hL.table.2 ⟨0, _, table, rfl, ?_, collect_of_nodup hnodup⟩
  rw [List.map_map, List.forall₂_map_left_iff, List.forall₂_same]
  exact fun e he ↦ ⟨hL.string e.1, h e he⟩

theorem recovers_table (h : Recovers check write) :
    Recovers (L.table check) (tableValue write) := by
  intro v table hv
  obtain ⟨mark, es, entries, rfl, hentries, rfl⟩ := hL.table.1 hv
  refine hL.table_tableValue (nodup_collect List.nodup_nil) (forall_collect ?_ nofun)
  intro a ha
  obtain ⟨e, -, he⟩ := exists_of_forall₂_left hentries a ha
  exact h e.2 a.2 he

end Library.Lawful

end Flowgraph.Document
