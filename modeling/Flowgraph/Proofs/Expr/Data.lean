import Flowgraph.Proofs.Evaluations
import Flowgraph.Proofs.Expr.Filtering
import Flowgraph.Proofs.Expr.Sorting
import Flowgraph.Proofs.Value.Data

namespace Flowgraph

theorem except_bind_eq_ok {ε α β : Type} {r : Except ε α} {f : α → Except ε β} {b : β} :
    r >>= f = .ok b ↔ ∃ a, r = .ok a ∧ f a = .ok b := by
  cases r <;> simp [bind, Except.bind]

theorem except_map_eq_ok {ε α β : Type} {r : Except ε α} {g : α → β} {b : β} :
    g <$> r = .ok b ↔ ∃ a, r = .ok a ∧ g a = b := by
  cases r <;> simp [Functor.map, Except.map]

theorem mapError_eq_ok {ε ε' α : Type} {r : Except ε α} {g : ε → ε'} {a : α} :
    r.mapError g = .ok a ↔ r = .ok a := by
  cases r <;> simp [Except.mapError]

namespace Expr

open Value (IsData)

variable {v w : Value} {vs : List Value}

theorem isData_first (h : v.IsData) : (first v).IsData := by
  unfold first
  split
  · exact h.items _ List.mem_cons_self
  · exact .undefined

theorem isData_last (h : v.IsData) : (last v).IsData := by
  unfold last
  split
  · next vs =>
    cases hlast : vs.getLast? with
    | none => exact .undefined
    | some w => exact h.items _ (List.mem_of_getLast? hlast)
  · exact .undefined

theorem isData_memberOf (h : v.IsData) (property : String) : (memberOf v property).IsData := by
  unfold memberOf
  split
  · split
    · exact isData_first h
    · exact isData_last h
    · exact .int _
    · exact .undefined
  · exact Value.isData_get h.members _
  · split
    · exact .int _
    · exact .undefined
  · exact .undefined

theorem isData_find (h : v.IsData) (criteria property : Value) :
    (find v criteria property).IsData := by
  unfold find
  split
  · next vs =>
    cases hfind : vs.find? (findMatches criteria property) with
    | none => exact .undefined
    | some w => exact h.items _ (List.mem_of_find?_eq_some hfind)
  · exact .undefined

theorem isData_ofList (h : ∀ v ∈ vs, v.IsData) : (Value.ofList vs).IsData := .list 0 h

theorem isData_filter {query : Value} (hv : v.IsData) (h : filter v query = .ok w) :
    w.IsData := by
  unfold filter at h
  split at h
  · obtain ⟨ws, hpassing, rfl⟩ := except_map_eq_ok.1 h
    obtain ⟨-, rfl⟩ := passing_eq_ok.1 hpassing
    exact isData_ofList fun u hu ↦ hv.items u (List.mem_of_mem_filter hu)
  · cases h
  · cases h
    exact isData_ofList (List.forall_mem_nil _)

theorem mem_of_withFields {path : Value} {pairs : List (Value × Value)}
    (h : withFields path vs = .ok pairs) : ∀ p ∈ pairs, p.2 ∈ vs := by
  unfold withFields at h
  split at h
  · next a b r =>
    obtain ⟨g, -, h⟩ := except_bind_eq_ok.1 h
    obtain ⟨f, -, h⟩ := except_bind_eq_ok.1 h
    obtain ⟨fs, -, h⟩ := except_bind_eq_ok.1 h
    cases h
    have hzip : ∀ p ∈ fs.zip r, p.2 ∈ a :: b :: r := fun p hp ↦
      List.mem_cons_of_mem _ (List.mem_cons_of_mem _ (List.of_mem_zip hp).2)
    exact List.forall_mem_cons.2 ⟨List.mem_cons_self,
      List.forall_mem_cons.2 ⟨List.mem_cons_of_mem _ List.mem_cons_self, hzip⟩⟩
  · cases h
    exact List.forall_mem_map.2 fun v hv ↦ hv

theorem isData_sort {path direction : Value} (hv : v.IsData)
    (h : sort v path direction = .ok w) : w.IsData := by
  unfold sort at h
  split at h
  · obtain ⟨pairs, hpairs, h⟩ := except_bind_eq_ok.1 h
    cases h
    refine isData_ofList (List.forall_mem_map.2 fun p hp ↦ ?_)
    have hmem := (perm_insertionSort _ pairs).mem_iff.1 hp
    exact hv.items _ (mem_of_withFields hpairs p hmem)
  · cases h
    exact isData_ofList (List.forall_mem_nil _)

theorem mem_of_better {x : Extremum} {best : Value} (h : x.better best v = .ok w) :
    w = best ∨ w = v := by
  obtain ⟨wins, -, h⟩ := except_bind_eq_ok.1 h
  cases h
  cases wins
  · exact .inl rfl
  · exact .inr rfl

theorem mem_of_foldlM_better {x : Extremum} (h : vs.foldlM x.better v = .ok w) : w ∈ v :: vs := by
  induction vs generalizing v with
  | nil =>
    cases h
    exact List.mem_cons_self
  | cons u us ih =>
    rw [List.foldlM_cons] at h
    obtain ⟨best, hbest, h⟩ := except_bind_eq_ok.1 h
    rcases List.mem_cons.1 (ih h) with rfl | hmem
    · rcases mem_of_better hbest with rfl | rfl
      · exact List.mem_cons_self
      · exact List.mem_cons_of_mem _ List.mem_cons_self
    · exact List.mem_cons_of_mem _ (List.mem_cons_of_mem _ hmem)

theorem mem_of_extremum {x : Extremum} (h : x.apply vs = .ok v) : v ∈ vs := by
  cases vs with
  | nil => cases h
  | cons u us => exact mem_of_foldlM_better h

theorem isData_apply {f : PathFunction} (h : ∀ v ∈ vs, v.IsData) (hw : f.apply vs = .ok w) :
    w.IsData := by
  have harg := Value.isData_getD h 0
  unfold PathFunction.apply at hw
  split at hw
  · cases hw
  · cases f with
    | find =>
      cases hw
      exact isData_find harg _ _
    | filter => exact isData_filter harg hw
    | sort => exact isData_sort harg (mapError_eq_ok.1 hw)
    | first =>
      cases hw
      exact isData_first harg
    | last =>
      cases hw
      exact isData_last harg

def AreMembers (es : Entries) : Prop := ∀ e ∈ es, (∃ s : String, e.1 = .str s) ∧ e.2.IsData

theorem AreMembers.ofList {es : Entries} (h : AreMembers es) : AreMembers (Entries.ofList es) :=
  Entries.forall_ofList (P := fun k ↦ ∃ s : String, k = .str s) h

theorem AreMembers.isData {es : Entries} (h : AreMembers es) : (Value.ofEntries es).IsData :=
  .mapping 0 (fun e he ↦ (h e he).1) fun e he ↦ (h e he).2

/-- An answer is such that `Q`, and if something cannot be written it is an integer. -/
structure Outcome.ComesTo {α : Type} (Q : α → Prop) (o : Outcome α) : Prop where
  ok : ∀ {a}, o.result = .ok a → Q a
  text : ∀ {e}, o.result = .error (.text e) → e = .integer

namespace Outcome

variable {α β : Type} {P : α → Prop} {Q : β → Prop} {o : Outcome α}

theorem comesTo_pure {a : α} (h : P a) : (Outcome.pure a).ComesTo P where
  ok ha := by cases ha; exact h
  text he := by cases he

theorem comesTo_fail (f : EvalFault) : (Outcome.fail f : Outcome α).ComesTo P :=
  ⟨fun h ↦ (by cases h), fun h ↦ (by cases h)⟩

theorem ComesTo.map {g : α → β} (ho : o.ComesTo P) (hg : ∀ a, P a → Q (g a)) :
    (o.map g).ComesTo Q := by
  obtain ⟨r, edits⟩ := o
  cases r with
  | error e => exact ⟨fun h ↦ (by cases h), fun h ↦ ho.text (by cases h; rfl)⟩
  | ok a => exact ⟨fun h ↦ by cases h; exact hg a (ho.ok rfl), fun h ↦ (by cases h)⟩

theorem ComesTo.andThen {f : α → List Edit → Outcome β} (ho : o.ComesTo P) (hedits : o.edits = [])
    (hf : ∀ a, o.result = .ok a → P a → (f a []).ComesTo Q) : (o.andThen f).ComesTo Q := by
  obtain ⟨r, edits⟩ := o
  obtain rfl : edits = [] := hedits
  cases r with
  | error e => exact ⟨fun h ↦ (by cases h), fun h ↦ ho.text (by cases h; rfl)⟩
  | ok a =>
    have ha := hf a rfl (ho.ok rfl)
    exact ⟨fun h ↦ ha.ok h, fun h ↦ ha.text h⟩

end Outcome

theorem comesTo_indexOf (hv : v.IsData) (w : Value) :
    Outcome.ComesTo IsData ⟨indexOf v w, []⟩ := by
  have hnone : Outcome.ComesTo IsData ⟨.ok .undefined, []⟩ := Outcome.comesTo_pure .undefined
  cases v with
  | list mark vs =>
    simp only [indexOf]
    split
    · refine Outcome.comesTo_pure ?_
      split
      · exact Value.isData_getD hv.items _
      · exact .undefined
    · exact hnone
  | mapping mark es =>
    have hdisplay (h : w.IsData) : Outcome.ComesTo IsData
        ⟨(w.display.mapError Fault.text).map fun s ↦ Entries.get es (.str s), []⟩ := by
      have hinteger := h.failsAtInteger_display
      cases hw : w.display with
      | error e => exact ⟨fun h ↦ (by cases h), fun h ↦ hinteger _ (by cases h; exact hw)⟩
      | ok s => exact Outcome.comesTo_pure (Value.isData_get hv.members _)
    cases w with
    | str s => exact Outcome.comesTo_pure (Value.isData_get hv.members _)
    | int i => exact hdisplay (.int i)
    | float x => exact hdisplay (.float x)
    | _ => exact hnone
  | _ => exact hnone

section

variable {methods : Methods} {s : State}

mutual

theorem comesTo_eval (hs : s.toValue.IsData) (e : Expr) (h : e.calls methods anyMethod s = false) :
    (eval methods s e).ComesTo IsData := by
  match e with
  | .literal l => exact Outcome.comesTo_pure (by cases l <;> constructor)
  | .name n => exact Outcome.comesTo_pure (Value.isData_get hs.members _)
  | .object ps => exact (comesTo_evalProperties hs ps h).map fun es hes ↦ hes.ofList.isData
  | .member e p =>
    refine (comesTo_eval hs e h).map fun v hv ↦ ?_
    split
    · exact .undefined
    · exact isData_memberOf hv p
  | .index e i =>
    simp only [calls, Bool.or_eq_false_iff] at h
    refine (comesTo_eval hs e h.1).andThen
      (edits_eval_of_calls (countsMutation_anyMethod _) s e h.1) fun v hres hv ↦ ?_
    have hi := Outcome.any_eq_false h.2 hres
    cases hnull : v.isNullish with
    | true => exact Outcome.comesTo_pure .undefined
    | false =>
      rw [hnull] at hi
      rw [if_neg Bool.false_ne_true]
      exact (comesTo_eval hs i hi).andThen (edits_eval_of_calls (countsMutation_anyMethod _) s i hi)
        fun w _ _ ↦ comesTo_indexOf hv w
  | .call f as =>
    unfold eval
    split
    · exact Outcome.comesTo_fail _
    · next x hx =>
      simp only [calls, hx, Option.isSome_some, Bool.true_and] at h
      refine (comesTo_evalAll hs as h).andThen
        (edits_evalAll_of_calls (countsMutation_anyMethod _) s as h) fun vs _ hvs ↦ ?_
      split
      · next hv => exact Outcome.comesTo_pure (hvs _ (mem_of_extremum hv))
      · exact Outcome.comesTo_fail _
  | .method e m as =>
    simp only [calls, Bool.or_eq_false_iff] at h
    refine (comesTo_eval hs e h.1).andThen
      (edits_eval_of_calls (countsMutation_anyMethod _) s e h.1) fun v hres hv ↦ ?_
    have hm := Outcome.any_eq_false h.2 hres
    cases hnull : v.isNullish with
    | true => exact Outcome.comesTo_fail _
    | false =>
      simp only [hnull, Bool.not_false, Bool.true_and] at hm
      dsimp only
      rw [if_neg Bool.false_ne_true]
      split
      · next f hf =>
        rw [hf] at hm
        refine (comesTo_evalAll hs as hm).andThen
          (edits_evalAll_of_calls (countsMutation_anyMethod _) s as hm) fun vs _ hvs ↦ ?_
        split
        · next hw => exact Outcome.comesTo_pure (isData_apply (List.forall_mem_cons.2 ⟨hv, hvs⟩) hw)
        · exact Outcome.comesTo_fail _
      · next hf =>
        rw [hf] at hm
        split
        · exact Outcome.comesTo_fail _
        · next hhas =>
          simp only [hhas, Bool.not_false, Bool.true_and, Bool.or_eq_false_iff] at hm
          refine (comesTo_evalAll hs as hm.1).andThen
            (edits_evalAll_of_calls (countsMutation_anyMethod _) s as hm.1) fun vs hvs _ ↦ ?_
          exact absurd (Outcome.any_eq_false hm.2 hvs) (by simp)
termination_by structural e

theorem comesTo_evalAll (hs : s.toValue.IsData) (es : List Expr)
    (h : anyCalls methods anyMethod s es = false) : (evalAll methods s es).ComesTo fun vs ↦ ∀ v ∈ vs, v.IsData := by
  match es with
  | [] => exact Outcome.comesTo_pure (List.forall_mem_nil _)
  | e :: es =>
    simp only [anyCalls, Bool.or_eq_false_iff] at h
    refine (comesTo_eval hs e h.1).andThen
      (edits_eval_of_calls (countsMutation_anyMethod _) s e h.1) fun v hres hv ↦ ?_
    have hes := Outcome.any_eq_false h.2 hres
    exact (comesTo_evalAll hs es hes).andThen
      (edits_evalAll_of_calls (countsMutation_anyMethod _) s es hes) fun vs _ hvs ↦
        Outcome.comesTo_pure (List.forall_mem_cons.2 ⟨hv, hvs⟩)
termination_by structural es

theorem comesTo_evalProperties (hs : s.toValue.IsData) (ps : List (String × Expr))
    (h : propertiesCall methods anyMethod s ps = false) : (evalProperties methods s ps).ComesTo AreMembers := by
  match ps with
  | [] => exact Outcome.comesTo_pure (List.forall_mem_nil _)
  | (k, e) :: ps =>
    simp only [propertiesCall, Bool.or_eq_false_iff] at h
    refine (comesTo_eval hs e h.1).andThen
      (edits_eval_of_calls (countsMutation_anyMethod _) s e h.1) fun v hres hv ↦ ?_
    have hps := Outcome.any_eq_false h.2 hres
    exact (comesTo_evalProperties hs ps hps).andThen
      (edits_evalProperties_of_calls (countsMutation_anyMethod _) s ps hps) fun es _ hes ↦
        Outcome.comesTo_pure (List.forall_mem_cons.2 ⟨⟨⟨k, rfl⟩, hv⟩, hes⟩)
termination_by structural ps

end

end

end Expr

end Flowgraph
