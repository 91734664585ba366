import Flowgraph.Proofs.Expr.Accesses
import Flowgraph.Proofs.Template.Demands

namespace Flowgraph

open Act

def isDotted (path : String) : Bool := !path.toList.contains '(' && !path.toList.contains '['

section Paths

variable {runtime : Expr.Runtime} {path : String} {j k : Journal} {v : Value} {edits : List Edit}

theorem resolvePath_of_isDotted (h : isDotted path = true) :
    resolvePath runtime path j =
      ((fun v ↦ (v, [])) <$> (j.state.toValue.getPath path).mapError .path, j) := by
  have hwalk : resolvePath runtime path = get >>= fun j ↦
      ofExcept ((j.state.toValue.getPath path).mapError .path) >>= fun v ↦ pure (v, []) := if_pos h
  rw [hwalk, bind_of_ok (rfl : get j = (.ok j, j))]
  cases hv : j.state.toValue.getPath path with
  | error f => exact bind_of_error rfl
  | ok v => exact bind_of_ok rfl

theorem resolvePath_of_not_isDotted (h : isDotted path = false) :
    resolvePath runtime path = evaluate runtime path >>= fun r ↦
      match r with
      | .ok r => pure r
      | .error e => do
        note .warning ("Error evaluating path '" ++ path ++ "': " ++ e.message)
          [("path", .str path)]
        return (.undefined, []) := if_neg (Bool.not_eq_true _ ▸ h)

end Paths

namespace Condition

/-- A dotted path that is walked, or what interpolation can depend on as well. -/
inductive Demand where
  | walk (s : State) (path : String)
  | part (d : Template.Demand)

def Demand.fault? : Demand → Option Fault
  | walk s path =>
    match s.toValue.getPath path with
    | .ok _ => none
    | .error f => some (.path f)
  | part d => d.fault?

def Demand.IsMet : Demand → Prop
  | walk s path => ∀ f, ¬ Value.Missteps s.toValue (Text.splitAt '.' path.toList) f
  | part d => d.IsMet

theorem Demand.isMet_iff (d : Demand) : d.IsMet ↔ d.fault? = none := by
  cases d with
  | walk s path =>
    simp only [IsMet, fault?, ← Value.walk_eq_error, ← Value.getPath_eq_walk]
    cases s.toValue.getPath path <;> simp
  | part d => exact d.isMet_iff

abbrev Asks {α : Type} (m : Act Journal α) (demands : Journal → List Demand) : Prop :=
  Hinges Demand.fault? m demands

theorem asks_of_template {α : Type} {m : Act Journal α} {demands : Journal → List Template.Demand}
    (h : Template.Asks m demands) : Asks m fun j ↦ (demands j).map .part := by
  intro j f
  rw [h j f]
  simp [Demand.fault?]

theorem asks_display (v : Value) : Asks (display v) fun _ ↦ [.part (.text v)] :=
  asks_of_template (Template.asks_display v)

def demandsOfPath (runtime : Expr.Runtime) (path : String) (j : Journal) : List Demand :=
  if isDotted path then [.walk j.state path] else [.part (.value ⟨runtime, j.state, path⟩)]

theorem asks_resolvePath (runtime : Expr.Runtime) (path : String) :
    Asks (resolvePath runtime path) (demandsOfPath runtime path) := by
  intro j f
  unfold demandsOfPath
  cases h : isDotted path with
  | true =>
    rw [resolvePath_of_isDotted h]
    simp only [if_true, List.mem_singleton, exists_eq_left, Demand.fault?]
    cases j.state.toValue.getPath path <;> simp [Except.mapError, Functor.map, Except.map]
  | false =>
    rw [resolvePath_of_not_isDotted h]
    refine Hinges.bind_pure (asks_of_template (Template.asks_evaluate runtime path)) (fun r ↦ ?_) j f
    cases r with
    | ok r => exact hinges_pure r
    | error e => exact (hinges_modify _).bind_pure fun _ ↦ hinges_pure _

def demandsOfOperand (runtime : Expr.Runtime) (operand : Value) : Journal → List Demand :=
  match operand with
  | .str s => if isPathLike s then demandsOfPath runtime s else fun _ ↦ []
  | _ => fun _ ↦ []

theorem asks_resolveOperand (runtime : Expr.Runtime) (left operand : Value) :
    Asks (resolveOperand runtime left operand) (demandsOfOperand runtime operand) := by
  unfold resolveOperand demandsOfOperand
  cases operand with
  | str s =>
    dsimp only
    split
    · refine (asks_resolvePath runtime s).bind_pure fun r ↦ ?_
      split <;> exact hinges_pure _
    · exact hinges_pure _
  | _ => exact hinges_pure _

def demandsOfSimple (runtime : Expr.Runtime) (path : String) (operand : Value) (j : Journal) :
    List Demand :=
  demandsOfPath runtime path j ++ (resolvePath runtime path).next (fun left j ↦
    demandsOfOperand runtime operand j ++ (resolveOperand runtime left.1 operand).next (fun sides j ↦
      .part (.text sides.1) :: (display sides.1).next (fun _ _ ↦ [.part (.text sides.2)]) j) j) j

theorem asks_evalSimple (st : Setting) (path : String) {r : Relation} (operand : Value)
    (hr : ∀ s, r ≠ .unknown s) :
    Asks (evalSimple st path r operand) (demandsOfSimple st.runtime path operand) := by
  refine (asks_resolvePath _ _).bind fun left ↦ (asks_resolveOperand _ _ _).bind fun sides ↦
    (asks_display _).bind fun shownLeft ↦ (asks_display _).bind_pure fun shownRight ↦
      (hinges_modify _).bind_pure fun _ ↦ ?_
  cases r with
  | equal => exact hinges_pure _
  | unequal => exact hinges_pure _
  | order op =>
    dsimp only
    split
    · exact (hinges_modify _).bind_pure fun _ ↦ hinges_pure _
    · exact hinges_pure _
  | unknown s => exact absurd rfl (hr s)

end Condition

end Flowgraph
