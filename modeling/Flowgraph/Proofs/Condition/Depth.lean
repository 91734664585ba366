import Flowgraph.Proofs.Acyclic
import Flowgraph.Proofs.Faults

namespace Flowgraph

theorem mem_of_lookup {α : Type} {l : List (String × α)} {k : String} {a : α}
    (h : l.lookup k = some a) : (k, a) ∈ l := by
  obtain ⟨l₁, l₂, rfl, -⟩ := List.lookup_eq_some_iff.1 h
  simp

def ConditionTable.RefersTo (table : ConditionTable) (n m : String) : Prop :=
  ∃ c, table.lookup n = some c ∧ m ∈ c.references

theorem ConditionTable.RefersTo.mem {table : ConditionTable} {n m : String}
    (h : table.RefersTo n m) : n ∈ table.map (·.1) := by
  obtain ⟨c, hc, -⟩ := h
  exact List.mem_map_of_mem (mem_of_lookup hc)

namespace Condition

open Act

theorem mem_referencesAll {n : String} {c : Condition} {cs : List Condition} (hc : c ∈ cs)
    (hn : n ∈ c.references) : n ∈ referencesAll cs := by
  induction cs with
  | nil => cases hc
  | cons d cs ih =>
    rw [referencesAll, List.mem_append]
    obtain rfl | hc := List.mem_cons.1 hc
    · exact .inl hn
    · exact .inr (ih hc)

variable {table : ConditionTable}

/-- From `depth` on, evaluations of the condition are all the same and none lacks depth. -/
def Settled (table : ConditionTable) (depth : ℕ) (c : Condition) : Prop :=
  ∀ st : Setting, st.table = table → ∀ k, depth ≤ k →
    eval st k c = eval st depth c ∧ (eval st k c).FailsOnly (· ≠ .tooDeep)

theorem Settled.mono {d d' : ℕ} {c : Condition} (h : Settled table d c) (hd : d ≤ d') :
    Settled table d' c := by
  intro st hst k hk
  have hk' := h st hst k (hd.trans hk)
  have hd' := h st hst d' hd
  exact ⟨hk'.1.trans hd'.1.symm, hk'.2⟩

theorem exists_settled_of_forall {cs : List Condition} (h : ∀ c ∈ cs, ∃ d, Settled table d c) :
    ∃ d, ∀ c ∈ cs, Settled table d c := by
  induction cs with
  | nil => exact ⟨0, fun c hc ↦ by cases hc⟩
  | cons c cs ih =>
    obtain ⟨d, hd⟩ := h c List.mem_cons_self
    obtain ⟨d', hd'⟩ := ih fun c hc ↦ h c (List.mem_cons_of_mem _ hc)
    refine ⟨max d d', fun e he ↦ ?_⟩
    obtain rfl | he := List.mem_cons.1 he
    · exact hd.mono (le_max_left d d')
    · exact (hd' e he).mono (le_max_right d d')

theorem evalUntil_congr {st : Setting} {word : String} {stop : Bool}
    {f f' : Condition → Act Journal Bool} {cs : List Condition} (h : ∀ c ∈ cs, f c = f' c) (i : ℕ) :
    evalUntil st word stop f i cs = evalUntil st word stop f' i cs := by
  induction cs generalizing i with
  | nil => rfl
  | cons c cs ih =>
    have hc := h c List.mem_cons_self
    have hcs := ih (fun c hc ↦ h c (List.mem_cons_of_mem _ hc)) (i + 1)
    rw [evalUntil, evalUntil, hc, hcs]

/-- A condition goes one deeper than those directly inside it. -/
theorem settled_succ {d : ℕ} {c : Condition} (h : ∀ st : Setting, st.table = table → ∀ k, d ≤ k →
      eval st (k + 1) c = eval st (d + 1) c ∧ (eval st (k + 1) c).FailsOnly (· ≠ .tooDeep)) :
    Settled table (d + 1) c := by
  intro st hst k hk
  obtain ⟨k, rfl⟩ := Nat.exists_eq_add_of_le' (Nat.one_le_of_lt hk)
  exact h st hst k (Nat.le_of_succ_le_succ hk)

theorem settled_simple (path : String) (r : Relation) (operand : Value) :
    Settled table 1 (.simple path r operand) := by
  refine settled_succ fun st hst k _ ↦ ⟨rfl, ?_⟩
  refine (failsOnly_evalSimple st path r operand).mono fun f hf ↦ ?_
  rintro rfl
  exact hf

/-- A sequence of conditions needs the depth that each of them needs. -/
theorem settled_evalUntil {d : ℕ} {cs : List Condition} (h : ∀ c ∈ cs, Settled table d c)
    {st : Setting} (hst : st.table = table) (word : String) (stop : Bool) {k : ℕ} (hk : d ≤ k) :
    evalUntil st word stop (eval st k) 0 cs = evalUntil st word stop (eval st d) 0 cs ∧
      (evalUntil st word stop (eval st k) 0 cs).FailsOnly (· ≠ .tooDeep) :=
  ⟨evalUntil_congr (fun c hc ↦ (h c hc st hst k hk).1) 0,
    failsOnly_evalUntil (fun c hc ↦ (h c hc st hst k hk).2) 0⟩

mutual

theorem exists_settled (c : Condition) (h : ∀ n ∈ c.references, ∃ d, Settled table d (.named n)) :
    ∃ d, Settled table d c := by
  cases c with
  | simple path r operand => exact ⟨1, settled_simple path r operand⟩
  | named n => exact h n List.mem_cons_self
  | all cs =>
    obtain ⟨d, hd⟩ := exists_settled_of_forall (forall_settled cs h)
    exact ⟨d + 1, settled_succ fun st hst k hk ↦ settled_evalUntil hd hst "AND" false hk⟩
  | any cs =>
    obtain ⟨d, hd⟩ := exists_settled_of_forall (forall_settled cs h)
    exact ⟨d + 1, settled_succ fun st hst k hk ↦ settled_evalUntil hd hst "OR" true hk⟩
termination_by structural c

theorem forall_settled (cs : List Condition)
    (h : ∀ n ∈ referencesAll cs, ∃ d, Settled table d (.named n)) :
    ∀ c ∈ cs, ∃ d, Settled table d c := by
  cases cs with
  | nil =>
    intro c hc
    cases hc
  | cons c cs =>
    have hc := exists_settled c fun n hn ↦ h n (List.mem_append_left _ hn)
    have hcs := forall_settled cs fun n hn ↦ h n (List.mem_append_right _ hn)
    exact List.forall_mem_cons.2 ⟨hc, hcs⟩
termination_by structural cs

end

theorem exists_settled_named {n : String} (h : Acc (Function.swap table.RefersTo) n) :
    ∃ d, Settled table d (.named n) := by
  induction h with
  | intro n _ ih =>
    cases hn : table.lookup n with
    | none =>
      refine ⟨1, settled_succ fun st hst k _ ↦ ?_⟩
      rw [eval, eval, hst, hn]
      exact ⟨rfl, yields_fail (by rintro ⟨⟩)⟩
    | some c =>
      obtain ⟨d, hd⟩ := exists_settled c fun m hm ↦ ih m ⟨c, hn, hm⟩
      refine ⟨d + 1, settled_succ fun st hst k hk ↦ ?_⟩
      rw [eval, eval, hst, hn]
      exact hd st hst k hk

end Condition

end Flowgraph
