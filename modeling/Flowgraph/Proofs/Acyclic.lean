import Mathlib.Data.Finset.Card
import Mathlib.Data.Finset.Filter
import Mathlib.Data.Fintype.Defs
import Mathlib.Logic.Relation

namespace Flowgraph

variable {α : Type} {r : α → α → Prop} {a b : α}

def AcyclicFrom (r : α → α → Prop) (a : α) : Prop :=
  ∀ b, Relation.ReflTransGen r a b → ¬ Relation.TransGen r b b

def Shallow (r : α → α → Prop) : ℕ → α → Prop
  | 0, a => ∀ b, ¬ r a b
  | n + 1, a => ∀ b, r a b → Shallow r n b

theorem AcyclicFrom.step (h : AcyclicFrom r a) (hab : r a b) : AcyclicFrom r b :=
  fun c hbc ↦ h c (.head hab hbc)

theorem AcyclicFrom.reach (h : AcyclicFrom r a) (hab : Relation.ReflTransGen r a b) :
    AcyclicFrom r b :=
  fun c hbc ↦ h c (hab.trans hbc)

theorem not_transGen_of_lt (rank : α → ℕ) (h : ∀ {a b}, r a b → rank b < rank a) (a : α) :
    ¬ Relation.TransGen r a a := by
  have hlt {b : α} (hab : Relation.TransGen r a b) : rank b < rank a := by
    induction hab with
    | single hab => exact h hab
    | tail _ hbc ih => exact (h hbc).trans ih
  intro ha
  exact lt_irrefl _ (hlt ha)

theorem shallow_of_acyclicFrom {sources : List α} (hsources : ∀ {a b}, r a b → a ∈ sources)
    (h : AcyclicFrom r a) : Shallow r sources.length a := by
  classical
  -- A step loses the source that it starts from, since no path leads back there.
  let reached (a : α) : Finset α := sources.toFinset.filter fun c ↦ Relation.ReflTransGen r a c
  have hmem {a b : α} (hab : r a b) : a ∈ reached a :=
    Finset.mem_filter.2 ⟨List.mem_toFinset.2 (hsources hab), .refl⟩
  have hless {a b : α} (ha : AcyclicFrom r a) (hab : r a b) :
      (reached b).card < (reached a).card := by
    refine Finset.card_lt_card ⟨fun c hc ↦ ?_, fun hle ↦ ?_⟩
    · obtain ⟨hc, hbc⟩ := Finset.mem_filter.1 hc
      exact Finset.mem_filter.2 ⟨hc, .head hab hbc⟩
    · have hba := (Finset.mem_filter.1 (hle (hmem hab))).2
      exact ha a .refl (.head' hab hba)
  have hshallow (n : ℕ) (a : α) (ha : AcyclicFrom r a) (hn : (reached a).card ≤ n) :
      Shallow r n a := by
    induction n generalizing a with
    | zero =>
      intro b hab
      have hpos := Finset.card_pos.2 ⟨a, hmem hab⟩
      omega
    | succ n ih =>
      intro b hab
      have hlt := hless ha hab
      exact ih b (ha.step hab) (by omega)
  have hcard : (reached a).card ≤ sources.length :=
    (Finset.card_filter_le _ _).trans sources.toFinset_card_le
  exact hshallow _ a h hcard

theorem Shallow.acc {n : ℕ} (h : Shallow r n a) : Acc (Function.swap r) a := by
  induction n generalizing a with
  | zero => exact .intro a fun b hab ↦ absurd hab (h b)
  | succ n ih => exact .intro a fun b hab ↦ ih (h b hab)

end Flowgraph
