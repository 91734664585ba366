import Flowgraph.Value.Mark
import Mathlib.Tactic.Common

namespace Flowgraph

namespace Value

mutual

/-- Every container in a value that has the mark of an edit has the contents that the edit gives. -/
def Follows (e : Edit) : Value → Prop
  | .tuple vs => ItemsFollow e vs
  | .list m vs => (m = e.mark → ∀ ws, e.contents = .items ws → vs = ws) ∧ ItemsFollow e vs
  | .mapping m es | .view _ m es =>
    (m = e.mark → ∀ fs, e.contents = .entries fs → es = fs) ∧ EntriesFollow e es
  | .set m ks => m = e.mark → ∀ ls, e.contents = .members ls → ks = ls
  | _ => True
termination_by structural v => v

def ItemsFollow (e : Edit) : List Value → Prop
  | [] => True
  | v :: vs => v.Follows e ∧ ItemsFollow e vs
termination_by structural vs => vs

def EntriesFollow (e : Edit) : List (Key × Value) → Prop
  | [] => True
  | (_, v) :: es => v.Follows e ∧ EntriesFollow e es
termination_by structural es => es

end

section

variable {e : Edit}

mutual

theorem follows_of_holds (v : Value) (h : v.holds e.mark = false) : v.Follows e := by
  match v with
  | .tuple vs => exact itemsFollow_of_anyHolds vs h
  | .list m vs =>
    simp only [holds, Bool.or_eq_false_iff, beq_eq_false_iff_ne] at h
    exact ⟨fun hm ↦ absurd hm h.1, itemsFollow_of_anyHolds vs h.2⟩
  | .mapping m es | .view kind m es =>
    simp only [holds, Bool.or_eq_false_iff, beq_eq_false_iff_ne] at h
    exact ⟨fun hm ↦ absurd hm h.1, entriesFollow_of_anyMemberHolds es h.2⟩
  | .set m ks => exact fun hm ↦ absurd hm (beq_eq_false_iff_ne.1 h)
  | .undefined | .null | .bool _ | .int _ | .float _ | .str _ | .bytes _ | .stamp _ => trivial
termination_by structural v

theorem itemsFollow_of_anyHolds (vs : List Value) (h : anyHolds e.mark vs = false) :
    ItemsFollow e vs := by
  match vs with
  | [] => trivial
  | v :: vs =>
    simp only [anyHolds, Bool.or_eq_false_iff] at h
    exact ⟨follows_of_holds v h.1, itemsFollow_of_anyHolds vs h.2⟩
termination_by structural vs

theorem entriesFollow_of_anyMemberHolds (es : List (Key × Value))
    (h : anyMemberHolds e.mark es = false) : EntriesFollow e es := by
  match es with
  | [] => trivial
  | (k, v) :: es =>
    simp only [anyMemberHolds, Bool.or_eq_false_iff] at h
    exact ⟨follows_of_holds v h.1, entriesFollow_of_anyMemberHolds es h.2⟩
termination_by structural es

end

/-- The contents of an edit are in accord with it, as the container is not among them. -/
theorem itemsFollow_contents {vs : List Value} (h : e.contents = .items vs) : ItemsFollow e vs :=
  itemsFollow_of_anyHolds vs (by simpa only [h, Contents.holds] using e.finite)

theorem entriesFollow_contents {es : Entries} (h : e.contents = .entries es) : EntriesFollow e es :=
  entriesFollow_of_anyMemberHolds es (by simpa only [h, Contents.holds] using e.finite)

mutual

theorem follows_edit (he : e.mark ≠ 0) (v : Value) : (v.edit e).Follows e := by
  match v with
  | .tuple vs => exact itemsFollow_editItems he vs
  | .list m vs =>
    have hinside := itemsFollow_editItems he vs
    unfold edit
    split
    · next new hcontents =>
      split_ifs with hm
      · refine ⟨fun _ _ hnew ↦ ?_, itemsFollow_contents hcontents⟩
        cases hcontents.symm.trans hnew
        rfl
      · exact ⟨fun hmark ↦ absurd (by simp [hmark, he]) hm, hinside⟩
    · next hother => exact ⟨fun _ _ hnew ↦ absurd hnew (hother _), hinside⟩
  | .mapping m es | .view kind m es =>
    have hinside := entriesFollow_editEntries he es
    unfold edit
    split
    · next new hcontents =>
      split_ifs with hm
      · refine ⟨fun _ _ hnew ↦ ?_, entriesFollow_contents hcontents⟩
        cases hcontents.symm.trans hnew
        rfl
      · exact ⟨fun hmark ↦ absurd (by simp [hmark, he]) hm, hinside⟩
    · next hother => exact ⟨fun _ _ hnew ↦ absurd hnew (hother _), hinside⟩
  | .set m ks =>
    unfold edit
    split
    · next new hcontents =>
      split_ifs with hm
      · intro _ _ hnew
        cases hcontents.symm.trans hnew
        rfl
      · exact fun hmark ↦ absurd (by simp [hmark, he]) hm
    · next hother => exact fun _ _ hnew ↦ absurd hnew (hother _)
  | .undefined | .null | .bool _ | .int _ | .float _ | .str _ | .bytes _ | .stamp _ => trivial
termination_by structural v

theorem itemsFollow_editItems (he : e.mark ≠ 0) (vs : List Value) :
    ItemsFollow e (editItems e vs) := by
  match vs with
  | [] => trivial
  | v :: vs => exact ⟨follows_edit he v, itemsFollow_editItems he vs⟩
termination_by structural vs

theorem entriesFollow_editEntries (he : e.mark ≠ 0) (es : List (Key × Value)) :
    EntriesFollow e (editEntries e es) := by
  match es with
  | [] => trivial
  | (k, v) :: es => exact ⟨follows_edit he v, entriesFollow_editEntries he es⟩
termination_by structural es

end

end

end Value

/-- After an edit, every container of a run state that has the mark has the contents that the edit gives,
wherever it is. -/
theorem State.follows_edit {e : Edit} (he : e.mark ≠ 0) (s : State) :
    (s.edit e).toValue.Follows e :=
  ⟨fun hmark ↦ absurd hmark.symm he, Value.entriesFollow_editEntries he s.entries⟩

end Flowgraph
