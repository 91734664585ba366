import Flowgraph.Proofs.Evaluations
import Flowgraph.Proofs.Value.Display

namespace Flowgraph

open Act

namespace Template

inductive Demand where
  | text (v : Value)
  | value (x : Evaluation)

def Demand.fault? : Demand → Option Fault
  | text v =>
    match v.display with
    | .ok _ => none
    | .error e => some (.text e)
  | value x =>
    match (Expr.evalText x.runtime x.state x.source).1 with
    | .error (.text e) => some (.text e)
    | _ => none

def Demand.IsMet : Demand → Prop
  | text v => v.isShowable
  | value x => ∀ e, (Expr.evalText x.runtime x.state x.source).1 ≠ .error (.text e)

theorem Demand.isMet_iff (d : Demand) : d.IsMet ↔ d.fault? = none := by
  cases d with
  | text v =>
    rw [IsMet, ← v.isOk_display, fault?]
    cases v.display <;> simp [Except.isOk, Except.toBool]
  | value x =>
    rw [IsMet, fault?]
    rcases (Expr.evalText x.runtime x.state x.source).1 with e | v
    · cases e <;> simp
    · simp

abbrev Asks {α : Type} (m : Act Journal α) (demands : Journal → List Demand) : Prop :=
  Hinges Demand.fault? m demands

theorem asks_display (v : Value) : Asks (display v) fun _ ↦ [.text v] := by
  intro j f
  unfold display Act.ofExcept
  simp only [List.mem_singleton, exists_eq_left, Demand.fault?]
  cases v.display <;> simp [Except.mapError]

theorem asks_evaluate (runtime : Expr.Runtime) (source : String) :
    Asks (evaluate runtime source) fun j ↦ [.value ⟨runtime, j.state, source⟩] := by
  intro j f
  unfold evaluate
  simp only [List.mem_singleton, exists_eq_left, Demand.fault?]
  rcases Expr.evalText runtime j.state source with ⟨e | v, edits⟩
  · cases e <;> simp
  · simp

/-- The search for a span with a value begins anew after each text that is filled in. -/
def demandsOfFilling (source : Source) : ℕ → List Char → Journal → List Demand
  | 0, text => fun j ↦ (evaluationsToHit source.runtime text j).map .value
  | passes + 1, text => fun j ↦ (evaluationsToHit source.runtime text j).map .value ++
      (nextHit source.runtime [] text).next (fun hit? ↦
        match hit? with
        | none => fun _ ↦ []
        | some hit => fun j ↦ [.text hit.value] ++ (display hit.value).next (fun shown ↦
            demandsOfFilling source passes (hit.before ++ shown.toList ++ hit.after)) j) j

end Template

end Flowgraph
