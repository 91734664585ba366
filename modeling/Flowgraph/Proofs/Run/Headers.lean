import Flowgraph.Run.Exchange
import Mathlib.Data.List.Basic
import Mathlib.Data.List.Pairwise
import Mathlib.Tactic.Common

namespace Flowgraph.Run

def SameName (m n : String) : Prop := Text.toLower m.toList = Text.toLower n.toList

/-- A header of this name has its place: nothing is told of a body that is not there. -/
def Belongs (hasBody : Bool) (name : String) : Prop := hasBody = true ∨ isContentType name = false

/-- The headers are named differently, where `R` says which names are the same. -/
def Distinct (R : String → String → Prop) (hs : Headers) : Prop :=
  hs.Pairwise fun h k ↦ ¬ R h.1 k.1

structure Overrides (R : String → String → Prop) (shared own : Headers) (hasBody : Bool)
    (sent : Headers) : Prop where
  distinct : Distinct R sent
  carried : ∀ o ∈ own, Belongs hasBody o.1 →
    (∃ h ∈ sent, R h.1 o.1) ∧ ∀ h ∈ sent, R h.1 o.1 → h.2 = o.2
  typed : (∃ h ∈ sent, isContentType h.1 = true) ↔ hasBody = true
  kept : ∀ h ∈ shared, Belongs hasBody h.1 → (∀ o ∈ own, ¬ R o.1 h.1) → h ∈ sent

theorem sameName_equivalence : Equivalence SameName :=
  ⟨fun _ ↦ rfl, fun h ↦ h.symm, fun h h' ↦ h.trans h'⟩

theorem SameName.isContentType_eq {m n : String} (h : SameName m n) :
    isContentType m = isContentType n := by
  unfold isContentType
  rw [h]

theorem isContentType_contentType : isContentType contentType = true := by
  decide +kernel

variable {R : String → String → Prop} {shared own hs : Headers} {hasBody : Bool}
  {h x y : String × String}

theorem Distinct.eq (hR : Equivalence R) (hd : Distinct R hs) (hx : x ∈ hs) (hy : y ∈ hs)
    (hxy : R x.1 y.1) : x = y := by
  by_contra hne
  have hsymm : Std.Symm fun a b : String × String ↦ ¬ R a.1 b.1 := ⟨fun a b h h' ↦ h (hR.symm h')⟩
  exact hd.forall hx hy hne hxy

theorem Distinct.spelled (hR : Equivalence R) (hd : Distinct R hs) : Distinct Eq hs := by
  refine hd.imp fun hne heq ↦ hne ?_
  rw [heq]
  exact hR.refl _

theorem mem_setHeader_iff {n v : String} (hd : Distinct Eq hs) :
    x ∈ setHeader hs n v ↔ x = (n, v) ∨ x ∈ hs ∧ x.1 ≠ n := by
  induction hs with
  | nil => simp [setHeader]
  | cons h hs ih =>
    obtain ⟨hfront, hd⟩ := List.pairwise_cons.1 hd
    unfold setHeader
    by_cases hn : h.1 = n
    · have hother (hx : x ∈ hs) : x.1 ≠ n := fun hxn ↦ hfront x hx (hn.trans hxn.symm)
      rw [if_pos (beq_iff_eq.2 hn)]
      simp only [List.mem_cons]
      constructor
      · rintro (hx | hx)
        · exact .inl hx
        · exact .inr ⟨.inr hx, hother hx⟩
      · rintro (hx | ⟨rfl | hx, hxn⟩)
        · exact .inl hx
        · exact absurd hn hxn
        · exact .inr hx
    · rw [if_neg (by simpa using hn)]
      simp only [List.mem_cons, ih hd]
      constructor
      · rintro (rfl | hx | ⟨hx, hxn⟩)
        · exact .inr ⟨.inl rfl, hn⟩
        · exact .inl hx
        · exact .inr ⟨.inr hx, hxn⟩
      · rintro (hx | ⟨hx | hx, hxn⟩)
        · exact .inr (.inl hx)
        · exact .inl hx
        · exact .inr (.inr ⟨hx, hxn⟩)

theorem Distinct.setHeader {n v : String} (hd : Distinct Eq hs) :
    Distinct Eq (setHeader hs n v) := by
  induction hs with
  | nil => exact List.pairwise_singleton _ _
  | cons h hs ih =>
    obtain ⟨hfront, hd⟩ := List.pairwise_cons.1 hd
    unfold Run.setHeader
    by_cases hn : h.1 = n
    · rw [if_pos (beq_iff_eq.2 hn)]
      exact List.pairwise_cons.2 ⟨hn ▸ hfront, hd⟩
    · rw [if_neg (by simpa using hn)]
      refine List.pairwise_cons.2 ⟨fun x hx ↦ ?_, ih hd⟩
      obtain rfl | ⟨hx, -⟩ := (mem_setHeader_iff hd).1 hx
      · exact hn
      · exact hfront x hx

/-- The headers of both, the own ones over shared ones that are spelled in the same way. -/
def overlay (shared own : Headers) : Headers :=
  own.foldl (fun hs h ↦ setHeader hs h.1 h.2) shared

theorem distinct_overlay (hs : Distinct Eq shared) : Distinct Eq (overlay shared own) := by
  unfold overlay
  induction own generalizing shared with
  | nil => exact hs
  | cons o own ih => exact ih hs.setHeader

theorem mem_overlay_iff (hs : Distinct Eq shared) (ho : Distinct Eq own) :
    x ∈ overlay shared own ↔ x ∈ own ∨ x ∈ shared ∧ ∀ o ∈ own, o.1 ≠ x.1 := by
  unfold overlay
  induction own generalizing shared with
  | nil => simp
  | cons o own ih =>
    obtain ⟨hfront, ho⟩ := List.pairwise_cons.1 ho
    rw [List.foldl_cons, ih hs.setHeader ho, mem_setHeader_iff hs]
    rw [List.mem_cons, List.forall_mem_cons]
    constructor
    · rintro (hx | ⟨rfl | ⟨hx, hxo⟩, hno⟩)
      · exact .inl (.inr hx)
      · exact .inl (.inl rfl)
      · exact .inr ⟨hx, hxo.symm, hno⟩
    · rintro ((rfl | hx) | ⟨hx, hxo, hno⟩)
      · exact .inr ⟨.inl rfl, fun o' ho' heq ↦ hfront o' ho' heq.symm⟩
      · exact .inl hx
      · exact .inr ⟨.inr ⟨hx, hxo.symm⟩, hno⟩

/-- What is sent: the headers of both, and the type of the body if none of them tells it. -/
theorem joinHeaders_eq (shared own : Headers) (hasBody : Bool) : joinHeaders shared own hasBody =
    if hasBody = false then (overlay shared own).filter fun h ↦ !isContentType h.1
    else if ∃ h ∈ overlay shared own, isContentType h.1 = true then overlay shared own
    else overlay shared own ++ [(contentType, "application/json")] := by
  cases hasBody with
  | false => rfl
  | true =>
    simp only [← List.any_eq_true]
    rfl

theorem mem_joinHeaders_of_overlay (hx : x ∈ overlay shared own) (ht : Belongs hasBody x.1) :
    x ∈ joinHeaders shared own hasBody := by
  rw [joinHeaders_eq]
  split_ifs with hbody
  · have htype : isContentType x.1 = false := ht.resolve_left (by simp [hbody])
    simpa [htype] using hx
  · exact hx
  · exact List.mem_append_left _ hx

theorem overlay_or_default (hx : x ∈ joinHeaders shared own hasBody) : x ∈ overlay shared own ∨
    x = (contentType, "application/json") ∧ ∀ h ∈ overlay shared own, isContentType h.1 = false := by
  rw [joinHeaders_eq] at hx
  split_ifs at hx with hbody hsome
  · exact .inl (List.mem_of_mem_filter hx)
  · exact .inl hx
  · obtain hx | hx := List.mem_append.1 hx
    · exact .inl hx
    · refine .inr ⟨List.mem_singleton.1 hx, fun h hh ↦ Bool.eq_false_iff.2 fun htype ↦ ?_⟩
      exact hsome ⟨h, hh, htype⟩

theorem belongs_of_mem_joinHeaders (hx : x ∈ joinHeaders shared own hasBody) : Belongs hasBody x.1 := by
  rw [joinHeaders_eq] at hx
  split_ifs at hx with hbody
  · exact .inr (by simpa using List.of_mem_filter hx)
  all_goals exact .inl (by simpa using hbody)

theorem exists_contentType_iff : (∃ h ∈ joinHeaders shared own hasBody, isContentType h.1 = true) ↔
    hasBody = true := by
  constructor
  · rintro ⟨h, hh, htype⟩
    exact (belongs_of_mem_joinHeaders hh).resolve_right (by simp [htype])
  · intro hbody
    rw [joinHeaders_eq, if_neg (by simp [hbody])]
    split_ifs with hsome
    · exact hsome
    · exact ⟨_, List.mem_append_right _ List.mem_cons_self, isContentType_contentType⟩

theorem distinct_joinHeaders (hs : Distinct Eq shared) :
    Distinct Eq (joinHeaders shared own hasBody) := by
  have hoverlay : Distinct Eq (overlay shared own) := distinct_overlay hs
  rw [joinHeaders_eq]
  split_ifs with hbody hsome
  · exact hoverlay.filter _
  · exact hoverlay
  · refine List.pairwise_append.2 ⟨hoverlay, List.pairwise_singleton _ _, fun h hh k hk heq ↦ ?_⟩
    obtain rfl := List.mem_singleton.1 hk
    refine hsome ⟨h, hh, ?_⟩
    rw [heq]
    exact isContentType_contentType

section SameNames

variable (hR : Equivalence R) (htype : ∀ m n, R m n → isContentType m = isContentType n)
  (hshared : Distinct R shared) (hown : Distinct R own)
  (hclash : ∀ o ∈ own, ∀ h ∈ shared, Belongs hasBody h.1 → R o.1 h.1 → o.1 = h.1)

include hR htype hshared hown hclash

/-- If no name is spelled in one way by the request and in another way for all requests, each is
sent in one spelling. -/
theorem spelling_eq (hx : x ∈ joinHeaders shared own hasBody)
    (hy : y ∈ joinHeaders shared own hasBody) (hxy : R x.1 y.1) : x.1 = y.1 := by
  have hsame := htype _ _ hxy
  have hmem (z : String × String) :=
    mem_overlay_iff (x := z) (hshared.spelled hR) (hown.spelled hR)
  have htx := belongs_of_mem_joinHeaders hx
  have hty := belongs_of_mem_joinHeaders hy
  rcases overlay_or_default hx with hx | ⟨rfl, hnone⟩ <;>
    rcases overlay_or_default hy with hy | ⟨rfl, hnone'⟩
  · rcases (hmem x).1 hx with hx | ⟨hx, -⟩ <;> rcases (hmem y).1 hy with hy | ⟨hy, -⟩
    · rw [hown.eq hR hx hy hxy]
    · exact hclash x hx y hy hty hxy
    · exact (hclash y hy x hx htx (hR.symm hxy)).symm
    · rw [hshared.eq hR hx hy hxy]
  · rw [isContentType_contentType, hnone' x hx] at hsame
    cases hsame
  · rw [isContentType_contentType, hnone y hy] at hsame
    cases hsame
  · rfl

theorem overrides_joinHeaders : Overrides R shared own hasBody (joinHeaders shared own hasBody) where
  distinct := by
    refine (distinct_joinHeaders (hshared.spelled hR)).imp_of_mem fun hx hy hne hxy ↦ hne ?_
    exact spelling_eq hR htype hshared hown hclash hx hy hxy
  carried o ho ht := by
    have hsent : o ∈ joinHeaders shared own hasBody := by
      refine mem_joinHeaders_of_overlay ?_ ht
      exact (mem_overlay_iff (hshared.spelled hR) (hown.spelled hR)).2 (.inl ho)
    refine ⟨⟨o, hsent, hR.refl _⟩, fun h hh hho ↦ ?_⟩
    have heq := spelling_eq hR htype hshared hown hclash hh hsent hho
    rw [(distinct_joinHeaders (hshared.spelled hR)).eq eq_equivalence hh hsent heq]
  typed := exists_contentType_iff
  kept h hh ht hno := by
    refine mem_joinHeaders_of_overlay ((mem_overlay_iff (hshared.spelled hR) (hown.spelled hR)).2 ?_) ht
    refine .inr ⟨hh, fun o ho heq ↦ hno o ho ?_⟩
    rw [heq]
    exact hR.refl _

end SameNames

/-- A request's own headers always come before the shared ones of the same spelling. They come
before those of the same name just when none that is sent is spelled in another way for all
requests: such a header is sent beside the request's own. -/
theorem joinHeaders_overrides (hshared : Distinct SameName shared) (hown : Distinct SameName own)
    (hasBody : Bool) :
    Overrides Eq shared own hasBody (joinHeaders shared own hasBody) ∧
    (Overrides SameName shared own hasBody (joinHeaders shared own hasBody) ↔
      ∀ o ∈ own, ∀ h ∈ shared, Belongs hasBody h.1 → SameName o.1 h.1 → o.1 = h.1) := by
  have hspelled : Overrides Eq shared own hasBody (joinHeaders shared own hasBody) :=
    overrides_joinHeaders eq_equivalence (fun _ _ h ↦ h ▸ rfl) (hshared.spelled sameName_equivalence)
      (hown.spelled sameName_equivalence) fun _ _ _ _ _ h ↦ h
  refine ⟨hspelled, fun h o ho k hk ht hok ↦ ?_, fun h ↦ ?_⟩
  · by_contra hne
    have hto : Belongs hasBody o.1 := by rwa [Belongs, hok.isContentType_eq]
    obtain ⟨⟨o', ho', heq⟩, hvalue⟩ := hspelled.carried o ho hto
    -- The shared header is spelled as none of the request's own, so both are sent.
    have hsent : k ∈ joinHeaders shared own hasBody := by
      refine hspelled.kept k hk ht fun p hp hpk ↦ hne ?_
      have hpo : SameName p.1 o.1 := hpk ▸ sameName_equivalence.symm hok
      rw [← hown.eq sameName_equivalence hp ho hpo, hpk]
    have hboth : o' = k := h.distinct.eq sameName_equivalence ho' hsent (heq ▸ hok)
    exact hne (heq.symm.trans (hboth ▸ rfl))
  · exact overrides_joinHeaders sameName_equivalence (fun _ _ ↦ SameName.isContentType_eq) hshared hown h

/-- A shared header spelled in the same way, and another name. -/
theorem joinHeaders_overrides_accept :
    Overrides SameName [("Accept", "a"), ("X", "1")] [("Accept", "b")] false
      (joinHeaders [("Accept", "a"), ("X", "1")] [("Accept", "b")] false) := by
  have hx : ¬ SameName "Accept" "X" := by
    unfold SameName
    decide +kernel
  have hshared : Distinct SameName [("Accept", "a"), ("X", "1")] := by simpa [Distinct] using hx
  refine (joinHeaders_overrides hshared (List.pairwise_singleton _ _) false).2.2 ?_
  simpa using fun _ h ↦ absurd h hx

theorem joinHeaders_twice :
    Distinct SameName [("content-type", "a")] ∧ Distinct SameName [("Content-Type", "b")] ∧
    joinHeaders [("content-type", "a")] [("Content-Type", "b")] true =
      [("content-type", "a"), ("Content-Type", "b")] ∧
    ¬ Overrides SameName [("content-type", "a")] [("Content-Type", "b")] true
      (joinHeaders [("content-type", "a")] [("Content-Type", "b")] true) := by
  have hsent : joinHeaders [("content-type", "a")] [("Content-Type", "b")] true =
      [("content-type", "a"), ("Content-Type", "b")] := by decide +kernel
  have hsame : SameName "content-type" "Content-Type" := by
    unfold SameName
    decide +kernel
  refine ⟨List.pairwise_singleton _ _, List.pairwise_singleton _ _, hsent, fun h ↦ ?_⟩
  have hdistinct := h.distinct
  rw [hsent] at hdistinct
  exact (List.pairwise_cons.1 hdistinct).1 _ List.mem_cons_self hsame

end Flowgraph.Run
