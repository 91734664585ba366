import Flowgraph.Expr.Eval
import Flowgraph.Proofs.Expr.Complaints
import Flowgraph.Proofs.Json.RoundTrip
import Mathlib.Tactic.Common

namespace Flowgraph.Expr

namespace Outcome

variable {α β : Type} {o : Outcome α} {e : Fault}

theorem result_map_eq_error {g : α → β} : (o.map g).result = .error e ↔ o.result = .error e := by
  obtain ⟨_ | a, edits⟩ := o <;> simp [map, Functor.map, Except.map]

theorem result_andThen_eq_error {f : α → List Edit → Outcome β} : (o.andThen f).result = .error e ↔
    o.result = .error e ∨ ∃ a, o.result = .ok a ∧ (f a o.edits).result = .error e := by
  obtain ⟨_ | a, edits⟩ := o <;> simp [andThen]

end Outcome

def TakesArguments (methods : Methods) (v : Value) (m : String) : Prop :=
  v.isNullish = false ∧
    ((PathFunction.ofName? m).isSome = true ∨ isWithheld m = false ∧ methods.has v m = true)

mutual

/-- Evaluation in a state comes by an expression inside, in the state that it finds there. -/
inductive Visits (methods : Methods) : State → Expr → State → Expr → Prop
  | here (s : State) (e : Expr) : Visits methods s e s e
  | object {s t : State} {ps : List (String × Expr)} {d : Expr} :
      VisitsRow methods s (ps.map (·.2)) t d → Visits methods s (.object ps) t d
  | member {s t : State} {e d : Expr} {p : String} : Visits methods s e t d → Visits methods s (.member e p) t d
  | indexed {s t : State} {e i d : Expr} : Visits methods s e t d → Visits methods s (.index e i) t d
  | index {s t : State} {e i d : Expr} {v : Value} : (eval methods s e).result = .ok v →
      v.isNullish = false → Visits methods (s.edits (eval methods s e).edits) i t d → Visits methods s (.index e i) t d
  | call {s t : State} {f : String} {as : List Expr} {d : Expr} :
      (Extremum.ofName? f).isSome = true → VisitsRow methods s as t d → Visits methods s (.call f as) t d
  | receiver {s t : State} {e d : Expr} {m : String} {as : List Expr} :
      Visits methods s e t d → Visits methods s (.method e m as) t d
  | arguments {s t : State} {e d : Expr} {m : String} {as : List Expr} {v : Value} :
      (eval methods s e).result = .ok v → TakesArguments methods v m →
      VisitsRow methods (s.edits (eval methods s e).edits) as t d → Visits methods s (.method e m as) t d

inductive VisitsRow (methods : Methods) : State → List Expr → State → Expr → Prop
  | head {s t : State} {e d : Expr} {es : List Expr} : Visits methods s e t d → VisitsRow methods s (e :: es) t d
  | tail {s t : State} {e d : Expr} {es : List Expr} {v : Value} : (eval methods s e).result = .ok v →
      VisitsRow methods (s.edits (eval methods s e).edits) es t d → VisitsRow methods s (e :: es) t d

end

def Overlong (methods : Methods) (s : State) (e i : Expr) : Prop := ∃ mark es n,
  (eval methods s e).result = .ok (.mapping mark es) ∧
  (eval methods (s.edits (eval methods s e).edits) i).result = .ok (.int n) ∧
  10 ^ Number.longestInteger ≤ n.natAbs

/-- The faults of an expression itself: those of a call, and a key that cannot be written. -/
inductive Raises (methods : Methods) (s : State) : Expr → Fault → Prop
  | call {f : String} {as : List Expr} {g : EvalFault} :
      (eval methods s (.call f as)).result = .error (.eval g) → Raises methods s (.call f as) (.eval g)
  | method {e : Expr} {m : String} {as : List Expr} {g : EvalFault} :
      (eval methods s (.method e m as)).result = .error (.eval g) →
      Raises methods s (.method e m as) (.eval g)
  | key {e i : Expr} : Overlong methods s e i → Raises methods s (.index e i) (.text .integer)

section

variable {methods : Methods}

theorem result_evalProperties_eq_error {s : State} {ps : List (String × Expr)} {f : Fault} :
    (evalProperties methods s ps).result = .error f ↔ (evalAll methods s (ps.map (·.2))).result = .error f := by
  induction ps generalizing s with
  | nil => simp [evalProperties, evalAll, Outcome.pure]
  | cons p ps ih =>
    obtain ⟨k, e⟩ := p
    simp [evalProperties, evalAll, Outcome.result_andThen_eq_error, ih, Outcome.pure]

theorem display_int_eq_error {n : ℤ} {w : Json.WriteError} :
    (Value.int n).display = .error w ↔ w = .integer ∧ 10 ^ Number.longestInteger ≤ n.natAbs := by
  by_cases h : n.natAbs < 10 ^ Number.longestInteger
  · rw [Value.display, Json.writeInt_eq h]
    simp [Functor.map, Except.map, h]
  · have hwrite : Json.writeInt n = .error .integer := by
      rw [Json.writeInt, Number.integerText, if_neg (mt Number.length_toString_le_iff.1 h)]
    rw [Value.display, hwrite]
    simp [Functor.map, Except.map, Nat.not_lt.1 h, eq_comm]

theorem exists_edits_eq_mapping {v : Value} {edits : List Edit} :
    (∃ mark es, v.edits edits = .mapping mark es) ↔ ∃ mark es, v = .mapping mark es := by
  have hstep (v : Value) (e : Edit) :
      (∃ mark es, v.edit e = .mapping mark es) ↔ ∃ mark es, v = .mapping mark es := by
    cases v with
    | list mark vs | mapping mark es | view kind mark es | set mark ks =>
      unfold Value.edit
      split
      · split <;> simp
      · simp
    | _ => simp [Value.edit]
  induction edits generalizing v with
  | nil => rfl
  | cons e edits ih => exact ih.trans (hstep v e)

theorem indexOf_eq_error {v w : Value} {f : Fault} : indexOf v w = .error f ↔
    f = .text .integer ∧ (∃ mark es, v = .mapping mark es) ∧
      ∃ n, w = .int n ∧ 10 ^ Number.longestInteger ≤ n.natAbs := by
  cases v with
  | mapping mark es =>
    have hdisplay (r : Except Json.WriteError String) :
        (r.mapError Fault.text).map (fun s ↦ Entries.get es (.str s)) = .error f ↔
          ∃ w, f = .text w ∧ r = .error w := by
      cases r <;> simp [Except.mapError, Except.map, eq_comm]
    cases w with
    | int n => simp [indexOf, hdisplay, display_int_eq_error]
    | float x =>
      simp only [indexOf, hdisplay, Value.display]
      cases Number.integral? x <;> simp
    | _ => simp [indexOf]
  | list mark vs =>
    simp only [indexOf]
    cases position? w <;> simp
  | _ => simp [indexOf]

theorem result_eval_index_eq_error {s : State} {e i : Expr} {f : Fault} :
    (eval methods s (.index e i)).result = .error f ↔ (eval methods s e).result = .error f ∨
      (∃ v, (eval methods s e).result = .ok v ∧ v.isNullish = false ∧
        (eval methods (s.edits (eval methods s e).edits) i).result = .error f) ∨
      f = .text .integer ∧ Overlong methods s e i := by
  rw [eval, Outcome.result_andThen_eq_error]
  refine or_congr_right ?_
  constructor
  · rintro ⟨v, hv, h⟩
    cases hnull : v.isNullish with
    | true => simp [hnull, Outcome.pure] at h
    | false =>
      rw [hnull, if_neg Bool.false_ne_true, Outcome.result_andThen_eq_error] at h
      obtain h | ⟨w, hw, h⟩ := h
      · exact .inl ⟨v, hv, hnull, h⟩
      · obtain ⟨rfl, hmapping, n, rfl, hn⟩ := indexOf_eq_error.1 h
        obtain ⟨mark, es, rfl⟩ := exists_edits_eq_mapping.1 hmapping
        exact .inr ⟨rfl, mark, es, n, hv, hw, hn⟩
  · rintro (⟨v, hv, hnull, h⟩ | ⟨rfl, mark, es, n, hv, hw, hn⟩)
    · refine ⟨v, hv, ?_⟩
      rw [hnull, if_neg Bool.false_ne_true, Outcome.result_andThen_eq_error]
      exact .inl h
    · refine ⟨_, hv, ?_⟩
      rw [if_neg (by simp [Value.isNullish]), Outcome.result_andThen_eq_error]
      exact .inr ⟨_, hw, indexOf_eq_error.2 ⟨rfl, exists_edits_eq_mapping.2 ⟨mark, es, rfl⟩, n, rfl, hn⟩⟩

mutual

theorem Visits.result_eq_error {s t : State} {e d : Expr} {f : Fault}
    (hf : (eval methods t d).result = .error f) :
    Visits methods s e t d → (eval methods s e).result = .error f
  | .here _ _ => hf
  | .object h => by
    rw [eval, Outcome.result_map_eq_error, result_evalProperties_eq_error]
    exact h.result_eq_error hf
  | .member h => by
    rw [eval, Outcome.result_map_eq_error]
    exact h.result_eq_error hf
  | .indexed h => result_eval_index_eq_error.2 (.inl (h.result_eq_error hf))
  | .index hv hnull h =>
    result_eval_index_eq_error.2 (.inr (.inl ⟨_, hv, hnull, h.result_eq_error hf⟩))
  | .call hx h => by
    obtain ⟨x, hx⟩ := Option.isSome_iff_exists.1 hx
    rw [eval, hx, Outcome.result_andThen_eq_error]
    exact .inl (h.result_eq_error hf)
  | .receiver h => by
    rw [eval, Outcome.result_andThen_eq_error]
    exact .inl (h.result_eq_error hf)
  | .arguments hv hm h => by
    rw [eval, Outcome.result_andThen_eq_error]
    refine .inr ⟨_, hv, ?_⟩
    rw [if_neg (by simp [hm.1])]
    dsimp only
    split
    · rw [Outcome.result_andThen_eq_error]
      exact .inl (h.result_eq_error hf)
    · next hnone =>
      obtain ⟨hwithheld, hhas⟩ := hm.2.resolve_left (by simp [hnone])
      rw [if_neg (by simp [hwithheld, hhas]), Outcome.result_andThen_eq_error]
      exact .inl (h.result_eq_error hf)
termination_by structural h => h

theorem VisitsRow.result_eq_error {s t : State} {es : List Expr} {d : Expr} {f : Fault}
    (hf : (eval methods t d).result = .error f) :
    VisitsRow methods s es t d → (evalAll methods s es).result = .error f
  | .head h => by
    rw [evalAll, Outcome.result_andThen_eq_error]
    exact .inl (h.result_eq_error hf)
  | .tail hv h => by
    rw [evalAll, Outcome.result_andThen_eq_error]
    refine .inr ⟨_, hv, ?_⟩
    rw [Outcome.result_andThen_eq_error]
    exact .inl (h.result_eq_error hf)
termination_by structural h => h

end

theorem Raises.result_eq_error {s : State} {e : Expr} {f : Fault} (h : Raises methods s e f) :
    (eval methods s e).result = .error f := by
  cases h with
  | call h | method h => exact h
  | key h => exact result_eval_index_eq_error.2 (.inr (.inr ⟨rfl, h⟩))

theorem callMethod_ne_text {s : State} {v : Value} {m : String} {args : List Value}
    {w : Json.WriteError} : (callMethod methods s v m args).result ≠ .error (.text w) := by
  unfold callMethod
  dsimp only
  cases (methods.call s.next v m args).answer <;> simp [Except.mapError]

mutual

theorem exists_raises {s : State} {f : Fault} (e : Expr) (h : (eval methods s e).result = .error f) :
    ∃ t d, Visits methods s e t d ∧ Raises methods t d f := by
  match e with
  | .literal l => cases h
  | .name n => cases h
  | .object ps =>
    rw [eval, Outcome.result_map_eq_error] at h
    obtain ⟨t, d, hd, hf⟩ := exists_raises_of_properties ps h
    exact ⟨t, d, .object hd, hf⟩
  | .member e p =>
    rw [eval, Outcome.result_map_eq_error] at h
    obtain ⟨t, d, hd, hf⟩ := exists_raises e h
    exact ⟨t, d, .member hd, hf⟩
  | .index e i =>
    obtain h | ⟨v, hv, hnull, h⟩ | ⟨rfl, hlong⟩ := result_eval_index_eq_error.1 h
    · obtain ⟨t, d, hd, hf⟩ := exists_raises e h
      exact ⟨t, d, .indexed hd, hf⟩
    · obtain ⟨t, d, hd, hf⟩ := exists_raises i h
      exact ⟨t, d, .index hv hnull hd, hf⟩
    · exact ⟨s, _, .here s _, .key hlong⟩
  | .call g as =>
    cases f with
    | eval f => exact ⟨s, _, .here s _, .call h⟩
    | text w =>
      unfold eval at h
      split at h
      · cases h
      · next x hx =>
        rw [Outcome.result_andThen_eq_error] at h
        obtain h | ⟨vs, -, h⟩ := h
        · obtain ⟨t, d, hd, hf⟩ := exists_raises_of_row as h
          exact ⟨t, d, .call (by simp [hx]) hd, hf⟩
        · split at h <;> cases h
  | .method e m as =>
    cases f with
    | eval f => exact ⟨s, _, .here s _, .method h⟩
    | text w =>
      rw [eval, Outcome.result_andThen_eq_error] at h
      obtain h | ⟨v, hv, h⟩ := h
      · obtain ⟨t, d, hd, hf⟩ := exists_raises e h
        exact ⟨t, d, .receiver hd, hf⟩
      · cases hnull : v.isNullish with
        | true =>
          rw [hnull, if_pos rfl] at h
          cases h
        | false =>
          rw [hnull, if_neg Bool.false_ne_true] at h
          dsimp only at h
          split at h
          · next g hg =>
            rw [Outcome.result_andThen_eq_error] at h
            obtain h | ⟨vs, -, h⟩ := h
            · obtain ⟨t, d, hd, hf⟩ := exists_raises_of_row as h
              exact ⟨t, d, .arguments hv ⟨hnull, .inl (by simp [hg])⟩ hd, hf⟩
            · split at h <;> cases h
          · split at h
            · cases h
            · next hhas =>
              rw [Outcome.result_andThen_eq_error] at h
              obtain h | ⟨vs, -, h⟩ := h
              · obtain ⟨t, d, hd, hf⟩ := exists_raises_of_row as h
                exact ⟨t, d, .arguments hv ⟨hnull, .inr (by simpa using hhas)⟩ hd, hf⟩
              · exact absurd h callMethod_ne_text
termination_by structural e

theorem exists_raises_of_row {s : State} {f : Fault} (es : List Expr)
    (h : (evalAll methods s es).result = .error f) :
    ∃ t d, VisitsRow methods s es t d ∧ Raises methods t d f := by
  match es with
  | [] => cases h
  | e :: es =>
    rw [evalAll, Outcome.result_andThen_eq_error] at h
    obtain h | ⟨v, hv, h⟩ := h
    · obtain ⟨t, d, hd, hf⟩ := exists_raises e h
      exact ⟨t, d, .head hd, hf⟩
    · rw [Outcome.result_andThen_eq_error] at h
      obtain h | ⟨vs, -, h⟩ := h
      · obtain ⟨t, d, hd, hf⟩ := exists_raises_of_row es h
        exact ⟨t, d, .tail hv hd, hf⟩
      · cases h
termination_by structural es

theorem exists_raises_of_properties {s : State} {f : Fault} (ps : List (String × Expr))
    (h : (evalProperties methods s ps).result = .error f) :
    ∃ t d, VisitsRow methods s (ps.map (·.2)) t d ∧ Raises methods t d f := by
  match ps with
  | [] => cases h
  | (k, e) :: ps =>
    rw [evalProperties, Outcome.result_andThen_eq_error] at h
    obtain h | ⟨v, hv, h⟩ := h
    · obtain ⟨t, d, hd, hf⟩ := exists_raises e h
      exact ⟨t, d, .head hd, hf⟩
    · rw [Outcome.result_andThen_eq_error] at h
      obtain h | ⟨vs, -, h⟩ := h
      · obtain ⟨t, d, hd, hf⟩ := exists_raises_of_properties ps h
        exact ⟨t, d, .tail hv hd, hf⟩
      · cases h
termination_by structural ps

end

inductive CallFree : Expr → Prop
  | literal (l : Literal) : CallFree (.literal l)
  | name (n : String) : CallFree (.name n)
  | object {ps : List (String × Expr)} : (∀ e ∈ ps.map (·.2), CallFree e) → CallFree (.object ps)
  | member {e : Expr} {p : String} : CallFree e → CallFree (.member e p)
  | index {e i : Expr} : CallFree e → CallFree i → CallFree (.index e i)

mutual

theorem Visits.callFree {s t : State} {e d : Expr} : Visits methods s e t d → CallFree e → CallFree d
  | .here _ _, he => he
  | .object h, .object he => h.callFree he
  | .member h, .member he => h.callFree he
  | .indexed h, .index he _ => h.callFree he
  | .index _ _ h, .index _ hi => h.callFree hi
termination_by structural h => h

theorem VisitsRow.callFree {s t : State} {es : List Expr} {d : Expr} :
    VisitsRow methods s es t d → (∀ e ∈ es, CallFree e) → CallFree d
  | .head h, he => h.callFree (he _ List.mem_cons_self)
  | .tail _ h, he => h.callFree fun e hmem ↦ he e (List.mem_cons_of_mem _ hmem)
termination_by structural h => h

end

end

end Flowgraph.Expr
