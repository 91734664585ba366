import Flowgraph.Expr.Eval
import Mathlib.Tactic.Common

namespace Flowgraph.Expr

namespace Outcome

variable {α β : Type} {o : Outcome α}

def any (o : Outcome α) (test : α → Bool) : Bool :=
  match o.result with
  | .ok a => test a
  | .error _ => false

theorem any_eq_false {test : α → Bool} (h : o.any test = false) {a : α} (ha : o.result = .ok a) :
    test a = false := by
  unfold any at h
  rwa [ha] at h

theorem any_eq_false_of_forall {test : α → Bool} (h : ∀ a, test a = false) : o.any test = false := by
  unfold any
  split
  · exact h _
  · rfl

theorem edits_andThen {f : α → List Edit → Outcome β} (ho : o.edits = [])
    (hf : ∀ a, o.result = .ok a → (f a []).edits = []) : (o.andThen f).edits = [] := by
  obtain ⟨r, edits⟩ := o
  obtain rfl : edits = [] := ho
  cases r with
  | error e => rfl
  | ok a => exact hf a rfl

end Outcome

mutual

/-- Evaluation in a state calls a native method that counts. Up to the first such call, if all
methods that make edits count, the state stays as it is. -/
def calls (methods : Methods) (counts : Value → String → Bool) (s : State) : Expr → Bool
  | literal _ | name _ => false
  | object ps => propertiesCall methods counts s ps
  | member e _ => e.calls methods counts s
  | index e i => e.calls methods counts s ||
      (eval methods s e).any fun v ↦ !v.isNullish && i.calls methods counts s
  | call f as => (Extremum.ofName? f).isSome && anyCalls methods counts s as
  | method e m as => e.calls methods counts s ||
      (eval methods s e).any fun v ↦ !v.isNullish && match PathFunction.ofName? m with
      | some _ => anyCalls methods counts s as
      | none => !(isWithheld m || !methods.has v m) &&
          (anyCalls methods counts s as || (evalAll methods s as).any fun _ ↦ counts v m)
termination_by structural e => e

def anyCalls (methods : Methods) (counts : Value → String → Bool) (s : State) :
    List Expr → Bool
  | [] => false
  | e :: es => e.calls methods counts s || (eval methods s e).any fun _ ↦ anyCalls methods counts s es
termination_by structural es => es

def propertiesCall (methods : Methods) (counts : Value → String → Bool) (s : State) :
    List (String × Expr) → Bool
  | [] => false
  | (_, e) :: ps => e.calls methods counts s || (eval methods s e).any fun _ ↦ propertiesCall methods counts s ps
termination_by structural ps => ps

end

abbrev anyMethod (_ : Value) (_ : String) : Bool := true

def CountsMutation (methods : Methods) (counts : Value → String → Bool) : Prop :=
  ∀ v m, counts v m = false → ∀ next args, (methods.call next v m args).edits = []

theorem countsMutation_anyMethod (methods : Methods) : CountsMutation methods anyMethod :=
  fun _ _ h ↦ nomatch h

section

variable {methods : Methods} {counts : Value → String → Bool}

mutual

theorem edits_eval_of_calls (hcounts : CountsMutation methods counts) (s : State) (e : Expr)
    (h : e.calls methods counts s = false) : (eval methods s e).edits = [] := by
  match e with
  | .literal _ | .name _ => rfl
  | .object ps => exact edits_evalProperties_of_calls hcounts s ps h
  | .member e p => exact edits_eval_of_calls hcounts s e h
  | .index e i =>
    simp only [calls, Bool.or_eq_false_iff] at h
    refine Outcome.edits_andThen (edits_eval_of_calls hcounts s e h.1) fun v hv ↦ ?_
    have hi := Outcome.any_eq_false h.2 hv
    cases hnull : v.isNullish with
    | true => rfl
    | false =>
      rw [hnull] at hi
      rw [if_neg Bool.false_ne_true]
      exact Outcome.edits_andThen (edits_eval_of_calls hcounts s i hi) fun w _ ↦ rfl
  | .call f as =>
    unfold eval
    split
    · rfl
    · next x hx =>
      simp only [calls, hx, Option.isSome_some, Bool.true_and] at h
      refine Outcome.edits_andThen (edits_evalAll_of_calls hcounts s as h) fun vs _ ↦ ?_
      split <;> rfl
  | .method e m as =>
    simp only [calls, Bool.or_eq_false_iff] at h
    refine Outcome.edits_andThen (edits_eval_of_calls hcounts s e h.1) fun v hv ↦ ?_
    have hm := Outcome.any_eq_false h.2 hv
    cases hnull : v.isNullish with
    | true => rfl
    | false =>
      simp only [hnull, Bool.not_false, Bool.true_and] at hm
      dsimp only
      rw [if_neg Bool.false_ne_true]
      split
      · next f hf =>
        rw [hf] at hm
        refine Outcome.edits_andThen (edits_evalAll_of_calls hcounts s as hm) fun vs _ ↦ ?_
        split <;> rfl
      · next hf =>
        rw [hf] at hm
        split
        · rfl
        · next hhas =>
          simp only [hhas, Bool.not_false, Bool.true_and, Bool.or_eq_false_iff] at hm
          refine Outcome.edits_andThen (edits_evalAll_of_calls hcounts s as hm.1) fun vs hvs ↦ ?_
          exact hcounts _ m (Outcome.any_eq_false hm.2 hvs) _ _
termination_by structural e

theorem edits_evalAll_of_calls (hcounts : CountsMutation methods counts) (s : State) (es : List Expr)
    (h : anyCalls methods counts s es = false) : (evalAll methods s es).edits = [] := by
  match es with
  | [] => rfl
  | e :: es =>
    simp only [anyCalls, Bool.or_eq_false_iff] at h
    refine Outcome.edits_andThen (edits_eval_of_calls hcounts s e h.1) fun v hv ↦ ?_
    have hes := Outcome.any_eq_false h.2 hv
    exact Outcome.edits_andThen (edits_evalAll_of_calls hcounts s es hes) fun vs _ ↦ rfl
termination_by structural es

theorem edits_evalProperties_of_calls (hcounts : CountsMutation methods counts) (s : State)
    (ps : List (String × Expr)) (h : propertiesCall methods counts s ps = false) :
    (evalProperties methods s ps).edits = [] := by
  match ps with
  | [] => rfl
  | (k, e) :: ps =>
    simp only [propertiesCall, Bool.or_eq_false_iff] at h
    refine Outcome.edits_andThen (edits_eval_of_calls hcounts s e h.1) fun v hv ↦ ?_
    have hps := Outcome.any_eq_false h.2 hv
    exact Outcome.edits_andThen (edits_evalProperties_of_calls hcounts s ps hps) fun es _ ↦ rfl
termination_by structural ps

end

end

mutual

/-- A native method of a value is called somewhere: one that is no function on lists. -/
def callsNative : Expr → Bool
  | literal _ | name _ => false
  | object ps => propertiesCallNative ps
  | member e _ => e.callsNative
  | index e i => e.callsNative || i.callsNative
  | call _ as => anyCallsNative as
  | method e m as => e.callsNative || (PathFunction.ofName? m).isNone || anyCallsNative as
termination_by structural e => e

def anyCallsNative : List Expr → Bool
  | [] => false
  | e :: es => e.callsNative || anyCallsNative es
termination_by structural es => es

def propertiesCallNative : List (String × Expr) → Bool
  | [] => false
  | (_, e) :: ps => e.callsNative || propertiesCallNative ps
termination_by structural ps => ps

end

section

variable (methods : Methods) (counts : Value → String → Bool) (s : State)

mutual

theorem calls_of_callsNative (e : Expr) (h : e.callsNative = false) :
    e.calls methods counts s = false := by
  match e with
  | .literal _ | .name _ => rfl
  | .object ps => exact propertiesCall_of_callsNative ps h
  | .member e p => exact calls_of_callsNative e h
  | .index e i =>
    simp only [callsNative, Bool.or_eq_false_iff] at h
    rw [calls, calls_of_callsNative e h.1, Bool.false_or]
    refine Outcome.any_eq_false_of_forall fun v ↦ ?_
    rw [calls_of_callsNative i h.2, Bool.and_false]
  | .call f as =>
    have has := anyCalls_of_callsNative as h
    rw [calls, has, Bool.and_false]
  | .method e m as =>
    simp only [callsNative, Bool.or_eq_false_iff] at h
    obtain ⟨⟨he, hm⟩, has⟩ := h
    rw [calls, calls_of_callsNative e he, Bool.false_or]
    refine Outcome.any_eq_false_of_forall fun v ↦ ?_
    obtain ⟨f, hf⟩ := Option.isSome_iff_exists.1 (Option.isNone_eq_false_iff.1 hm)
    rw [hf, anyCalls_of_callsNative as has, Bool.and_false]
termination_by structural e

theorem anyCalls_of_callsNative (es : List Expr) (h : anyCallsNative es = false) :
    anyCalls methods counts s es = false := by
  match es with
  | [] => rfl
  | e :: es =>
    simp only [anyCallsNative, Bool.or_eq_false_iff] at h
    rw [anyCalls, calls_of_callsNative e h.1, Bool.false_or]
    exact Outcome.any_eq_false_of_forall fun v ↦ anyCalls_of_callsNative es h.2
termination_by structural es

theorem propertiesCall_of_callsNative (ps : List (String × Expr))
    (h : propertiesCallNative ps = false) : propertiesCall methods counts s ps = false := by
  match ps with
  | [] => rfl
  | (k, e) :: ps =>
    simp only [propertiesCallNative, Bool.or_eq_false_iff] at h
    rw [propertiesCall, calls_of_callsNative e h.1, Bool.false_or]
    exact Outcome.any_eq_false_of_forall fun v ↦ propertiesCall_of_callsNative ps h.2
termination_by structural ps

end

end

theorem edits_eval (methods : Methods) (s : State) (e : Expr) (h : e.callsNative = false) :
    (eval methods s e).edits = [] :=
  edits_eval_of_calls (countsMutation_anyMethod methods) s e
    (calls_of_callsNative methods anyMethod s e h)

/-- A text makes no edits if the expression that is read from it makes none. -/
theorem edits_evalText {runtime : Runtime} {s : State} {source : String}
    (h : ∀ e, parseWithin runtime.brackets source = .ok e → e.height ≤ runtime.height →
      (eval runtime.methods s e).edits = []) : (evalText runtime s source).2 = [] := by
  unfold evalText
  split
  · rfl
  · rfl
  · next e he =>
    by_cases hheight : runtime.height < e.height
    · rw [if_pos hheight]
    · have hedits := h e he (Nat.not_lt.1 hheight)
      rw [if_neg hheight]
      dsimp only
      split <;> exact hedits

section

variable {next mark : ℕ} {vs args : List Value} {es : Entries} {v : Value} {m : String}

end

end Flowgraph.Expr
