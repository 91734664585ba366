import Flowgraph.Proofs.Evaluations

namespace Flowgraph.Condition

open Act

/-- A comparison or a name without a condition, and the journal on which it has its turn. -/
structure Turn where
  leaf : Condition
  journal : Journal

def Turn.result (st : Setting) (t : Turn) : Except Fault Bool × Journal := eval st 1 t.leaf t.journal

def noted (st : Setting) (word : String) (index : Nat) (b : Bool) (j : Journal) : Journal :=
  j.note st.traceLevel (word ++ "[" ++ toString index ++ "]: " ++ yesNo b) []

/-- The turns in a row of conditions that are asked until one gives the answer `stop`. -/
def reachedUntil (st : Setting) (word : String) (stop : Bool) (f : Condition → Act Journal Bool)
    (reach : Condition → Journal → List Turn) (index : Nat) :
    List Condition → Journal → List Turn
  | [] => fun _ ↦ []
  | c :: cs => fun j ↦ reach c j ++ (f c).next (fun b k ↦
      if b == stop then []
      else reachedUntil st word stop f reach (index + 1) cs (noted st word index b k)) j

def reached (st : Setting) : Nat → Condition → Journal → List Turn
  | 0, _ => fun _ ↦ []
  | _ + 1, simple path r operand => fun j ↦ [⟨simple path r operand, j⟩]
  | depth + 1, all cs => reachedUntil st "AND" false (eval st depth) (reached st depth) 0 cs
  | depth + 1, any cs => reachedUntil st "OR" true (eval st depth) (reached st depth) 0 cs
  | depth + 1, named n =>
    match st.table.lookup n with
    | some c => reached st depth c
    | none => fun j ↦ [⟨named n, j⟩]

section

variable {st : Setting} {word : String} {stop : Bool} {f : Condition → Act Journal Bool}
  {reach : Condition → Journal → List Turn} {i : ℕ} {c : Condition} {cs : List Condition}
  {j k : Journal} {e : Fault}

/-- How a row of conditions comes out, and the turns on the way. -/
inductive Row (st : Setting) (word : String) (stop : Bool) (f : Condition → Act Journal Bool)
    (reach : Condition → Journal → List Turn) :
    ℕ → List Condition → Journal → Except Fault Bool × Journal → List Turn → Prop
  | nil {i : ℕ} {j : Journal} : Row st word stop f reach i [] j (.ok !stop, j) []
  | fail {i : ℕ} {c : Condition} {cs : List Condition} {j k : Journal} {e : Fault} :
      f c j = (.error e, k) → Row st word stop f reach i (c :: cs) j (.error e, k) (reach c j)
  | decide {i : ℕ} {c : Condition} {cs : List Condition} {j k : Journal} :
      f c j = (.ok stop, k) →
      Row st word stop f reach i (c :: cs) j (.ok stop, noted st word i stop k) (reach c j)
  | go {i : ℕ} {c : Condition} {cs : List Condition} {j k : Journal}
      {r : Except Fault Bool × Journal} {ts : List Turn} : f c j = (.ok !stop, k) →
      Row st word stop f reach (i + 1) cs (noted st word i (!stop) k) r ts →
      Row st word stop f reach i (c :: cs) j r (reach c j ++ ts)

theorem evalUntil_of_error (h : f c j = (.error e, k)) :
    evalUntil st word stop f i (c :: cs) j = (.error e, k) := bind_of_error h

theorem evalUntil_of_stop (h : f c j = (.ok stop, k)) :
    evalUntil st word stop f i (c :: cs) j = (.ok stop, noted st word i stop k) := by
  refine (bind_of_ok h).trans ((bind_of_ok rfl).trans ?_)
  rw [beq_self_eq_true, if_pos rfl]
  rfl

theorem evalUntil_of_not (h : f c j = (.ok !stop, k)) :
    evalUntil st word stop f i (c :: cs) j =
      evalUntil st word stop f (i + 1) cs (noted st word i (!stop) k) := by
  refine (bind_of_ok h).trans ((bind_of_ok rfl).trans ?_)
  rw [if_neg (by simp)]
  rfl

theorem reachedUntil_of_error (h : f c j = (.error e, k)) :
    reachedUntil st word stop f reach i (c :: cs) j = reach c j := by
  change reach c j ++ (f c).next _ j = _
  rw [next_of_error h, List.append_nil]

theorem reachedUntil_of_stop (h : f c j = (.ok stop, k)) :
    reachedUntil st word stop f reach i (c :: cs) j = reach c j := by
  change reach c j ++ (f c).next _ j = _
  rw [next_of_ok h, beq_self_eq_true, if_pos rfl, List.append_nil]

theorem reachedUntil_of_not (h : f c j = (.ok !stop, k)) :
    reachedUntil st word stop f reach i (c :: cs) j =
      reach c j ++ reachedUntil st word stop f reach (i + 1) cs (noted st word i (!stop) k) := by
  change reach c j ++ (f c).next _ j = _
  rw [next_of_ok h, if_neg (by simp)]

theorem row_evalUntil (st : Setting) (word : String) (stop : Bool)
    (f : Condition → Act Journal Bool) (reach : Condition → Journal → List Turn) (i : ℕ)
    (cs : List Condition) (j : Journal) :
    Row st word stop f reach i cs j (evalUntil st word stop f i cs j)
      (reachedUntil st word stop f reach i cs j) := by
  induction cs generalizing i j with
  | nil => exact .nil
  | cons c cs ih =>
    rcases h : f c j with ⟨e | b, k⟩
    · rw [evalUntil_of_error h, reachedUntil_of_error h]
      exact .fail h
    by_cases hb : b = stop
    · subst hb
      rw [evalUntil_of_stop h, reachedUntil_of_stop h]
      exact .decide h
    · obtain rfl := Bool.eq_not.2 hb
      rw [evalUntil_of_not h, reachedUntil_of_not h]
      exact .go h (ih _ _)

theorem Row.eq {r : Except Fault Bool × Journal} {ts : List Turn}
    (h : Row st word stop f reach i cs j r ts) :
    evalUntil st word stop f i cs j = r ∧ reachedUntil st word stop f reach i cs j = ts := by
  induction h with
  | nil => exact ⟨rfl, rfl⟩
  | fail h => exact ⟨evalUntil_of_error h, reachedUntil_of_error h⟩
  | decide h => exact ⟨evalUntil_of_stop h, reachedUntil_of_stop h⟩
  | go h _ ih =>
    refine ⟨(evalUntil_of_not h).trans ih.1, ?_⟩
    rw [reachedUntil_of_not h, ih.2]

end

section

variable {st : Setting}

theorem eval_named_of_none {n : String} (h : st.table.lookup n = none) (depth : ℕ) :
    eval st (depth + 1) (named n) = Act.fail (.unknownCondition n (st.table.map (·.1))) := by
  rw [eval, h]

theorem eval_named_of_some {n : String} {c : Condition} (h : st.table.lookup n = some c)
    (depth : ℕ) : eval st (depth + 1) (named n) = eval st depth c := by
  rw [eval, h]

theorem reached_named_of_none {n : String} (h : st.table.lookup n = none) (depth : ℕ) (j : Journal) :
    reached st (depth + 1) (named n) j = [⟨named n, j⟩] := by
  rw [reached, h]

theorem reached_named_of_some {n : String} {c : Condition} (h : st.table.lookup n = some c)
    (depth : ℕ) : reached st (depth + 1) (named n) = reached st depth c := by
  rw [reached, h]

def Falls (st : Setting) (ts : List Turn) (e : Fault) : Prop := ∃ t ∈ ts, (t.result st).1 = .error e

theorem Row.error_iff {word : String} {stop : Bool} {f : Condition → Act Journal Bool}
    {reach : Condition → Journal → List Turn} {i : ℕ} {cs : List Condition} {j : Journal}
    {r : Except Fault Bool × Journal} {ts : List Turn} {e : Fault}
    (h : Row st word stop f reach i cs j r ts)
    (hf : ∀ c j, (f c j).1 = .error e ∧ e ≠ .tooDeep ↔ Falls st (reach c j) e) :
    r.1 = .error e ∧ e ≠ .tooDeep ↔ Falls st ts e := by
  -- A part that gives an answer has had no turn that fails.
  have hnot {c : Condition} {j k : Journal} {b : Bool} (hc : f c j = (.ok b, k)) :
      ¬ Falls st (reach c j) e := by
    intro hfalls
    have herror := ((hf c j).2 hfalls).1
    rw [hc] at herror
    cases herror
  induction h with
  | nil => simp [Falls]
  | @fail i c cs j k e' hc => rw [← hf c j, hc]
  | decide hc => exact iff_of_false (by simp) (hnot hc)
  | @go i c cs j k r ts hc _ ih =>
    refine ih.trans ?_
    unfold Falls
    simp only [List.mem_append, or_and_right, exists_or]
    exact (or_iff_right (hnot hc)).symm

/-- A condition fails if and only if one of the parts that have their turn does, but for a lack of
depth. -/
theorem eval_error_iff (st : Setting) (depth : ℕ) (c : Condition) (j : Journal) (e : Fault) :
    (eval st depth c j).1 = .error e ∧ e ≠ .tooDeep ↔ Falls st (reached st depth c j) e := by
  have hsingle (t : Turn) : Falls st [t] e ↔ (t.result st).1 = .error e := by simp [Falls]
  induction depth generalizing c j with
  | zero =>
    refine iff_of_false ?_ (by simp [Falls, reached])
    rintro ⟨h, hne⟩
    cases h
    exact hne rfl
  | succ depth ih =>
    cases c with
    | simple path r operand =>
      refine Iff.trans (and_iff_left_of_imp fun h ↦ ?_) (hsingle ⟨simple path r operand, j⟩).symm
      rintro rfl
      exact (failsOnly_evalSimple st path r operand).error (Prod.ext h rfl)
    | all cs => exact (row_evalUntil st "AND" false _ _ 0 cs j).error_iff ih
    | any cs => exact (row_evalUntil st "OR" true _ _ 0 cs j).error_iff ih
    | named n =>
      cases hn : st.table.lookup n with
      | some c =>
        rw [eval_named_of_some hn, reached_named_of_some hn]
        exact ih c j
      | none =>
        rw [eval_named_of_none hn, reached_named_of_none hn, hsingle, Turn.result,
          eval_named_of_none hn]
        refine and_iff_left_of_imp fun h ↦ ?_
        cases h
        rintro ⟨⟩

def Turn.IsLeaf (st : Setting) (t : Turn) : Prop :=
  match t.leaf with
  | simple .. => True
  | named n => st.table.lookup n = none
  | all _ | any _ => False

/-- What holds of the turns of each part holds of all turns in a row. -/
theorem Row.forall_turns {word : String} {stop : Bool} {f : Condition → Act Journal Bool}
    {reach : Condition → Journal → List Turn} {i : ℕ} {cs : List Condition} {j : Journal}
    {r : Except Fault Bool × Journal} {ts : List Turn} (h : Row st word stop f reach i cs j r ts)
    {P : Turn → Prop} (hf : ∀ c ∈ cs, ∀ j, ∀ t ∈ reach c j, P t) : ∀ t ∈ ts, P t := by
  induction h with
  | nil => exact fun t ht ↦ nomatch ht
  | fail | decide => exact hf _ List.mem_cons_self _
  | go _ _ ih =>
    obtain ⟨hc, hcs⟩ := List.forall_mem_cons.1 hf
    exact List.forall_mem_append.2 ⟨hc _, ih hcs⟩

theorem isLeaf_of_reached (st : Setting) (depth : ℕ) (c : Condition) (j : Journal) :
    ∀ t ∈ reached st depth c j, t.IsLeaf st := by
  induction depth generalizing c j with
  | zero => exact fun t ht ↦ nomatch ht
  | succ depth ih =>
    cases c with
    | simple path r operand => exact List.forall_mem_singleton.2 trivial
    | all cs => exact (row_evalUntil st "AND" false _ _ 0 cs j).forall_turns fun c _ ↦ ih c
    | any cs => exact (row_evalUntil st "OR" true _ _ 0 cs j).forall_turns fun c _ ↦ ih c
    | named n =>
      cases hn : st.table.lookup n with
      | some c =>
        rw [reached_named_of_some hn]
        exact ih c j
      | none =>
        rw [reached_named_of_none hn]
        exact List.forall_mem_singleton.2 hn

/-- A condition fails over an unknown name if and only if that name has its turn. -/
theorem eval_unknown_iff (st : Setting) (depth : ℕ) (c : Condition) (j : Journal) (n : String) :
    (∃ names, (eval st depth c j).1 = .error (.unknownCondition n names)) ↔
      ∃ k, ⟨named n, k⟩ ∈ reached st depth c j := by
  constructor
  · rintro ⟨names, h⟩
    obtain ⟨⟨leaf, k⟩, ht, hresult⟩ := (eval_error_iff st depth c j _).1 ⟨h, by rintro ⟨⟩⟩
    have hleaf := isLeaf_of_reached st depth c j _ ht
    cases leaf with
    | simple path r operand =>
      exact ((failsOnly_evalSimple st path r operand).error (Prod.ext hresult rfl)).elim
    | named m =>
      rw [Turn.result, eval_named_of_none hleaf] at hresult
      cases hresult
      exact ⟨k, ht⟩
    | all cs | any cs => exact hleaf.elim
  · rintro ⟨k, ht⟩
    have hleaf := isLeaf_of_reached st depth c j _ ht
    have hresult : (Turn.result st ⟨named n, k⟩).1 =
        .error (.unknownCondition n (st.table.map (·.1))) := by
      rw [Turn.result, eval_named_of_none hleaf]
      rfl
    exact ⟨_, ((eval_error_iff st depth c j _).2 ⟨_, ht, hresult⟩).1⟩

end

end Flowgraph.Condition
