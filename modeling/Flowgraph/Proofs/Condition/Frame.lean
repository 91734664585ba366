import Flowgraph.Proofs.Condition.Reach

namespace Flowgraph.Condition

open Act

/-- The turns lead from one state to another, and none of them begins elsewhere. -/
def Leads (st : Setting) (s : State) : List Turn → State → Prop
  | [], s' => s' = s
  | t :: ts, s' => t.journal.state = s ∧ Leads st (t.result st).2.state ts s'

def Turn.evaluations (st : Setting) (t : Turn) : List Evaluation :=
  match t.leaf with
  | simple path _ operand => evaluationsOfSimple st.runtime path operand t.journal
  | _ => []

def evaluations (st : Setting) (depth : Nat) (c : Condition) (j : Journal) : List Evaluation :=
  (reached st depth c j).flatMap (Turn.evaluations st)

section

variable {st : Setting} {s s' u : State} {ts us : List Turn}

theorem Leads.append (h : Leads st s ts u) (h' : Leads st u us s') :
    Leads st s (ts ++ us) s' := by
  induction ts generalizing s with
  | nil =>
    cases h
    exact h'
  | cons t ts ih => exact ⟨h.1, ih h.2⟩

theorem leads_singleton (t : Turn) : Leads st t.journal.state [t] (t.result st).2.state :=
  ⟨rfl, rfl⟩

theorem Row.leads {word : String} {stop : Bool} {f : Condition → Act Journal Bool}
    {reach : Condition → Journal → List Turn} {i : ℕ} {cs : List Condition} {j : Journal}
    {r : Except Fault Bool × Journal} (h : Row st word stop f reach i cs j r ts)
    (hf : ∀ c j, Leads st j.state (reach c j) (f c j).2.state) :
    Leads st j.state ts r.2.state := by
  have hpart {c : Condition} {j k : Journal} {b : Except Fault Bool} (hc : f c j = (b, k)) :
      Leads st j.state (reach c j) k.state := by
    have hlead := hf c j
    rwa [hc] at hlead
  induction h with
  | nil => exact rfl
  | fail hc => exact hpart hc
  | @decide i c cs j k hc =>
    change Leads st j.state (reach c j) k.state
    exact hpart hc
  | go hc _ ih => exact (hpart hc).append ih

theorem leads_eval (st : Setting) (depth : ℕ) (c : Condition) (j : Journal) :
    Leads st j.state (reached st depth c j) (eval st depth c j).2.state := by
  induction depth generalizing c j with
  | zero => exact rfl
  | succ depth ih =>
    cases c with
    | simple path r operand => exact leads_singleton ⟨simple path r operand, j⟩
    | all cs => exact (row_evalUntil st "AND" false _ _ 0 cs j).leads ih
    | any cs => exact (row_evalUntil st "OR" true _ _ 0 cs j).leads ih
    | named n =>
      cases hn : st.table.lookup n with
      | some c =>
        rw [eval_named_of_some hn, reached_named_of_some hn]
        exact ih c j
      | none =>
        rw [eval_named_of_none hn, reached_named_of_none hn]
        refine ⟨rfl, ?_⟩
        rw [Turn.result, eval_named_of_none hn]
        rfl

/-- Where no turn changes the state, all begin in the same. -/
theorem Leads.unchanged (h : Leads st s ts s')
    (hts : ∀ t ∈ ts, (t.result st).2.state = t.journal.state) :
    s' = s ∧ ∀ t ∈ ts, t.journal.state = s := by
  induction ts generalizing s with
  | nil => exact ⟨h, fun t ht ↦ nomatch ht⟩
  | cons t ts ih =>
    obtain ⟨ht, hts⟩ := List.forall_mem_cons.1 hts
    obtain ⟨hs, hrest⟩ := h
    rw [ht, hs] at hrest
    obtain ⟨hs', hall⟩ := ih hrest hts
    exact ⟨hs', List.forall_mem_cons.2 ⟨hs, hall⟩⟩

theorem Turn.IsLeaf.state_result {t : Turn} (h : t.IsLeaf st) :
    (t.result st).2.state = (t.evaluations st).foldl Evaluation.change t.journal.state := by
  obtain ⟨leaf, j⟩ := t
  cases leaf with
  | simple path r operand => exact evaluates_evalSimple st path r operand j
  | named n =>
    rw [Turn.result, eval_named_of_none h]
    rfl
  | all cs | any cs => exact h.elim

theorem Leads.foldl_change (h : Leads st s ts s') (hts : ∀ t ∈ ts, t.IsLeaf st) :
    s' = (ts.flatMap (Turn.evaluations st)).foldl Evaluation.change s := by
  induction ts generalizing s with
  | nil => exact h
  | cons t ts ih =>
    obtain ⟨ht, hts⟩ := List.forall_mem_cons.1 hts
    obtain ⟨rfl, hrest⟩ := h
    rw [List.flatMap_cons, List.foldl_append, ← ht.state_result]
    exact ih hrest hts

end

theorem evaluates_eval (st : Setting) (depth : ℕ) (c : Condition) :
    Evaluates (eval st depth c) (evaluations st depth c) := fun j ↦
  (leads_eval st depth c j).foldl_change (isLeaf_of_reached st depth c j)

def shelf (items : List Value) : Journal := { state := ⟨[(.str "items", .list 1 items)], 2⟩ }

def plain : Setting := ⟨[], .debug, .standard⟩

end Flowgraph.Condition
