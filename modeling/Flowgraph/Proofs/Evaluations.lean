import Flowgraph.Condition.Eval
import Flowgraph.Proofs.Act
import Flowgraph.Proofs.Expr.Edits
import Flowgraph.Proofs.Faults
import Flowgraph.Template.Interpolation

namespace Flowgraph

open Act

/-- The text of an expression that is evaluated, and the state it is evaluated in. -/
structure Evaluation where
  runtime : Expr.Runtime
  state : State
  source : String

namespace Evaluation

def edits (x : Evaluation) : List Edit := (Expr.evalText x.runtime x.state x.source).2

def change (s : State) (x : Evaluation) : State := s.edits x.edits

def calls (counts : Value → String → Bool) (x : Evaluation) : Bool :=
  match Expr.parseWithin x.runtime.brackets x.source with
  | .ok e => e.height ≤ x.runtime.height && e.calls x.runtime.methods counts x.state
  | .error _ => false

variable {counts : Value → String → Bool}

theorem edits_of_calls {x : Evaluation} (hcounts : Expr.CountsMutation x.runtime.methods counts)
    (h : x.calls counts = false) : x.edits = [] := by
  refine Expr.edits_evalText fun e he hheight ↦ ?_
  have hcalls : e.calls x.runtime.methods counts x.state = false := by
    simpa only [calls, he, hheight, decide_true, Bool.true_and] using h
  exact Expr.edits_eval_of_calls hcounts x.state e hcalls

theorem change_of_calls {x : Evaluation} (hcounts : Expr.CountsMutation x.runtime.methods counts)
    (h : x.calls counts = false) (s : State) : change s x = s := by
  rw [change, edits_of_calls hcounts h]
  rfl

theorem foldl_change_of_calls {xs : List Evaluation}
    (hcounts : ∀ x ∈ xs, Expr.CountsMutation x.runtime.methods counts)
    (h : ∀ x ∈ xs, x.calls counts = false) (s : State) : xs.foldl change s = s := by
  induction xs with
  | nil => rfl
  | cons x xs ih =>
    obtain ⟨hx, hxs⟩ := List.forall_mem_cons.1 h
    obtain ⟨hcountsx, hcountsxs⟩ := List.forall_mem_cons.1 hcounts
    rw [List.foldl_cons, change_of_calls hcountsx hx]
    exact ih hcountsxs hxs

end Evaluation

/-- The evaluations of an action account for all that it does to the state. -/
abbrev Evaluates {α : Type} (m : Act Journal α) (xs : Journal → List Evaluation) : Prop :=
  Told Journal.state Evaluation.change m xs

theorem keeps_note (level : Log.Level) (event : String) (fields : List (String × Value)) :
    Keeps Journal.state (note level event fields) := fun _ ↦ rfl

theorem keeps_display (v : Value) : Keeps Journal.state (display v) := keeps_ofExcept _

theorem evaluates_evaluate (runtime : Expr.Runtime) (source : String) :
    Evaluates (evaluate runtime source) fun j ↦ [⟨runtime, j.state, source⟩] := by
  intro j
  have h : (evaluate runtime source j).2 = j.edits (Evaluation.edits ⟨runtime, j.state, source⟩) := by
    unfold evaluate
    dsimp only
    split <;> rfl
  rw [h]
  rfl

namespace Template

theorem keeps_fillPieces {opening : List Char} {value? : String → Act Journal (Option String)}
    (h : ∀ name, Keeps Journal.state (value? name)) (ps : List Piece) :
    Keeps Journal.state (fillPieces opening value? ps) := by
  induction ps with
  | nil => exact keeps_pure []
  | cons piece ps ih =>
    cases piece with
    | char c => exact ih.map
    | hole name => exact (h _).bind fun r ↦ ih.bind fun text ↦ keeps_pure _

theorem keeps_fillVariables (text : List Char) : Keeps Journal.state (fillVariables text) := by
  refine keeps_fillPieces (fun name ↦ keeps_get.bind fun j ↦ ?_) _
  split
  · exact (keeps_note _ _ _).bind fun _ ↦ keeps_pure none
  · exact (keeps_display _).map

theorem keeps_fillSecrets (secret : String → Option String) (text : List Char) :
    Keeps Journal.state (fillSecrets secret text) := by
  have hsecret (name : String) : Keeps Journal.state (secretText secret name) := by
    unfold secretText
    cases secret name with
    | some s => exact keeps_pure (some s)
    | none => exact (keeps_note _ _ _).bind fun _ ↦ keeps_pure none
  unfold fillSecrets
  generalize secretOpenings = openings
  induction openings generalizing text with
  | nil => exact keeps_pure text
  | cons opening openings ih =>
    rw [List.foldlM_cons]
    exact (keeps_fillPieces hsecret _).bind fun text ↦ ih text

def evaluationsToHit (runtime : Expr.Runtime) (text : List Char) : Journal → List Evaluation :=
  match text with
  | '\x7b' :: '\x7b' :: s =>
    match closeSpan 2 s with
    | none => evaluationsToHit runtime s
    | some (inner, _) => fun j ↦
      let source := spanSource inner
      ⟨runtime, j.state, source⟩ :: (evaluate runtime source).next (fun r ↦
        match r with
        | .ok _ => fun _ ↦ []
        | .error e => (noteFailure source e).next fun _ ↦ evaluationsToHit runtime s) j
  | _ :: s => evaluationsToHit runtime s
  | [] => fun _ ↦ []
termination_by structural text

theorem evaluates_nextHit (runtime : Expr.Runtime) (before text : List Char) :
    Evaluates (nextHit runtime before text) (evaluationsToHit runtime text) := by
  fun_induction nextHit runtime before text with
  | case1 before s hs ih =>
    rw [evaluationsToHit, hs]
    exact ih
  | case2 before s inner after hs source ih =>
    rw [evaluationsToHit, hs]
    refine (evaluates_evaluate runtime source).bind fun r ↦ ?_
    cases r with
    | ok r => exact (keeps_pure _).told
    | error e => exact (keeps_note _ _ _).told_bind fun _ ↦ ih
  | case3 before c s hs ih =>
    rw [evaluationsToHit.eq_2 runtime c s hs]
    exact ih
  | case4 before => exact (keeps_pure none).told

def evaluationsOfFilling (source : Source) : Nat → List Char → Journal → List Evaluation
  | 0, text => evaluationsToHit source.runtime text
  | passes + 1, text => fun j ↦
    evaluationsToHit source.runtime text j ++ (nextHit source.runtime [] text).next (fun hit? ↦
      match hit? with
      | none => fun _ ↦ []
      | some hit => (display hit.value).next fun shown ↦
          evaluationsOfFilling source passes (hit.before ++ shown.toList ++ hit.after)) j

theorem evaluates_fillExpressions (source : Source) (template : List Char) (passes : ℕ)
    (text : List Char) :
    Evaluates (fillExpressions source template passes text)
      (evaluationsOfFilling source passes text) := by
  induction passes generalizing text with
  | zero =>
    unfold fillExpressions
    refine (evaluates_nextHit _ _ _).bind_keeps fun hit? ↦ ?_
    cases hit? with
    | none => exact keeps_pure text
    | some hit => exact (keeps_note _ _ _).bind fun _ ↦ keeps_pure text
  | succ passes ih =>
    unfold fillExpressions
    refine (evaluates_nextHit _ _ _).bind fun hit? ↦ ?_
    cases hit? with
    | none => exact (keeps_pure text).told
    | some hit => exact (keeps_display _).told_bind fun shown ↦ ih _

def evaluationsOf (source : Source) (template : String) : Journal → List Evaluation :=
  (fillVariables template.toList).next fun text ↦
    (fillSecrets source.secret text).next fun text ↦
      evaluationsOfFilling source source.maxPasses text

theorem evaluates_interpolate (source : Source) (template : String) :
    Evaluates (interpolate source template) (evaluationsOf source template) :=
  (keeps_fillVariables _).told_bind fun _ ↦ (keeps_fillSecrets _ _).told_bind fun text ↦
    (evaluates_fillExpressions source text source.maxPasses text).map

mutual

def evaluationsOfValue (source : Source) : Value → Journal → List Evaluation
  | .str s => evaluationsOf source s
  | .list _ vs => evaluationsOfItems source vs
  | .mapping _ es => evaluationsOfEntries source es
  | _ => fun _ ↦ []
termination_by structural v => v

def evaluationsOfItems (source : Source) : List Value → Journal → List Evaluation
  | [] => fun _ ↦ []
  | v :: vs => fun j ↦ evaluationsOfValue source v j ++
      (interpolateValue source v).next (fun _ ↦ evaluationsOfItems source vs) j
termination_by structural vs => vs

def evaluationsOfEntries (source : Source) : List (Key × Value) → Journal → List Evaluation
  | [] => fun _ ↦ []
  | (k, v) :: es => (keyText k).next fun text j ↦ evaluationsOf source text j ++
      (interpolate source text).next (fun _ j ↦ evaluationsOfValue source v j ++
        (interpolateValue source v).next (fun _ ↦ evaluationsOfEntries source es) j) j
termination_by structural es => es

end

theorem keeps_keyText (k : Key) : Keeps Journal.state (keyText k) := by
  unfold keyText
  split
  · exact keeps_pure k.text
  · exact keeps_fail _

mutual

theorem evaluates_interpolateValue (source : Source) (v : Value) :
    Evaluates (interpolateValue source v) (evaluationsOfValue source v) := by
  cases v with
  | str s => exact (evaluates_interpolate source s).map
  | list m vs => exact (evaluates_interpolateItems source vs).map
  | mapping m es => exact (evaluates_interpolateEntries source [] es).map
  | _ => exact (keeps_pure _).told
termination_by structural v

theorem evaluates_interpolateItems (source : Source) (vs : List Value) :
    Evaluates (interpolateItems source vs) (evaluationsOfItems source vs) := by
  cases vs with
  | nil => exact (keeps_pure []).told
  | cons v vs =>
    exact (evaluates_interpolateValue source v).bind fun w ↦
      (evaluates_interpolateItems source vs).map
termination_by structural vs

theorem evaluates_interpolateEntries (source : Source) (done : Entries)
    (es : List (Key × Value)) :
    Evaluates (interpolateEntries source done es) (evaluationsOfEntries source es) := by
  cases es with
  | nil => exact (keeps_pure done).told
  | cons e es =>
    obtain ⟨k, v⟩ := e
    exact (keeps_keyText k).told_bind fun text ↦ (evaluates_interpolate source text).bind
      fun name ↦ (evaluates_interpolateValue source v).bind fun w ↦
        evaluates_interpolateEntries source _ es
termination_by structural es

end

end Template

def evaluationsOfPath (runtime : Expr.Runtime) (path : String) : Journal → List Evaluation := fun j ↦
  if !path.toList.contains '(' && !path.toList.contains '[' then [] else [⟨runtime, j.state, path⟩]

theorem evaluates_resolvePath (runtime : Expr.Runtime) (path : String) :
    Evaluates (resolvePath runtime path) (evaluationsOfPath runtime path) := by
  unfold resolvePath evaluationsOfPath
  split
  · exact (keeps_get.bind fun j ↦ (keeps_ofExcept _).bind fun v ↦ keeps_pure _).told
  · refine (evaluates_evaluate runtime path).bind_keeps fun r ↦ ?_
    cases r with
    | ok r => exact keeps_pure r
    | error e => exact (keeps_note _ _ _).bind fun _ ↦ keeps_pure _

namespace Condition

def evaluationsOfOperand (runtime : Expr.Runtime) (operand : Value) : Journal → List Evaluation :=
  match operand with
  | .str s => if isPathLike s then evaluationsOfPath runtime s else fun _ ↦ []
  | _ => fun _ ↦ []

theorem evaluates_resolveOperand (runtime : Expr.Runtime) (left operand : Value) :
    Evaluates (resolveOperand runtime left operand) (evaluationsOfOperand runtime operand) := by
  unfold resolveOperand evaluationsOfOperand
  cases operand with
  | str s =>
    dsimp only
    split
    · refine (evaluates_resolvePath runtime s).bind_keeps fun r ↦ ?_
      split <;> exact keeps_pure _
    · exact (keeps_pure _).told
  | _ => exact (keeps_pure _).told

/-- A comparison evaluates its path, and then its operand where that names a path. -/
def evaluationsOfSimple (runtime : Expr.Runtime) (path : String) (operand : Value) :
    Journal → List Evaluation := fun j ↦
  evaluationsOfPath runtime path j ++
    (resolvePath runtime path).next (fun _ ↦ evaluationsOfOperand runtime operand) j

theorem evaluates_evalSimple (st : Setting) (path : String) (r : Relation) (operand : Value) :
    Evaluates (evalSimple st path r operand) (evaluationsOfSimple st.runtime path operand) := by
  refine (evaluates_resolvePath _ _).bind fun left ↦
    (evaluates_resolveOperand _ left.1 _).bind_keeps fun sides ↦ (keeps_display _).bind
      fun shownLeft ↦ (keeps_display _).bind fun shownRight ↦ (keeps_note _ _ _).bind fun _ ↦ ?_
  cases r with
  | equal => exact keeps_pure _
  | unequal => exact keeps_pure _
  | order op =>
    dsimp only
    split
    · exact (keeps_note _ _ _).bind fun _ ↦ keeps_pure _
    · exact keeps_pure _
  | unknown s => exact keeps_fail _

end Condition

end Flowgraph
