import Flowgraph.Condition.Eval
import Flowgraph.Proofs.Faults
import Flowgraph.Template.Interpolation

namespace Flowgraph

open Act

/-- A relation of journals with the same state that takes no notice of logs: it lasts where both are
changed alike, where both note the same alarm, and where the first notes at `level` what the second
notes at `level'`. -/
structure Parallel (level level' : Log.Level) (R : Journal → Journal → Prop) : Prop where
  state : ∀ {j k}, R j k → j.state = k.state
  setState : ∀ {j k}, R j k → ∀ s, R { j with state := s } { k with state := s }
  setNode : ∀ {j k}, R j k → ∀ n, R { j with node := n } { k with node := n }
  alarm : ∀ {j k l}, R j k → Log.Level.warning.number ≤ l.number → ∀ event fields,
    R (j.note l event fields) (k.note l event fields)
  trace : ∀ {j k}, R j k → ∀ event fields,
    R (j.note level event fields) (k.note level' event fields)

/-- What is read and noted alike is so whatever the log holds. -/
theorem parallel_state (level : Log.Level) :
    Parallel level level fun j k ↦ j.state = k.state where
  state h := h
  setState _ _ := rfl
  setNode h _ := h
  alarm h _ _ _ := h
  trace h _ _ := h

namespace Template

variable {R : Journal → Journal → Prop} {source : Source}

theorem agrees_fillPieces {opening : List Char} {value? : String → Act Journal (Option String)}
    (h : ∀ name, Agrees R (value? name) (value? name)) (ps : List Piece) :
    Agrees R (fillPieces opening value? ps) (fillPieces opening value? ps) := by
  induction ps with
  | nil => exact agrees_pure []
  | cons piece ps ih =>
    cases piece with
    | char c => exact ih.map
    | hole name => exact (h _).bind fun r ↦ ih.bind fun text ↦ agrees_pure _

theorem agrees_keyText (k : Key) : Agrees R (keyText k) (keyText k) := by
  unfold keyText
  split
  · exact agrees_pure k.text
  · exact agrees_fail _

mutual

theorem agrees_interpolateValue
    (h : ∀ text, Agrees R (interpolate source text) (interpolate source text)) (v : Value) :
    Agrees R (interpolateValue source v) (interpolateValue source v) := by
  cases v with
  | str s => exact (h s).map
  | list m vs => exact (agrees_interpolateItems h vs).map
  | mapping m es => exact (agrees_interpolateEntries h [] es).map
  | _ => exact agrees_pure _
termination_by structural v

theorem agrees_interpolateItems
    (h : ∀ text, Agrees R (interpolate source text) (interpolate source text)) (vs : List Value) :
    Agrees R (interpolateItems source vs) (interpolateItems source vs) := by
  cases vs with
  | nil => exact agrees_pure []
  | cons v vs =>
    exact (agrees_interpolateValue h v).bind fun w ↦ (agrees_interpolateItems h vs).map
termination_by structural vs

theorem agrees_interpolateEntries
    (h : ∀ text, Agrees R (interpolate source text) (interpolate source text)) (done : Entries)
    (es : List (Key × Value)) :
    Agrees R (interpolateEntries source done es) (interpolateEntries source done es) := by
  cases es with
  | nil => exact agrees_pure done
  | cons e es =>
    obtain ⟨k, v⟩ := e
    exact (agrees_keyText k).bind fun text ↦ (h text).bind fun name ↦
      (agrees_interpolateValue h v).bind fun w ↦ agrees_interpolateEntries h _ es
termination_by structural es

end

end Template

namespace Parallel

variable {level level' : Log.Level} {R : Journal → Journal → Prop} (hR : Parallel level level' R)
include hR

theorem note_alarm {l : Log.Level} (hl : Log.Level.warning.number ≤ l.number) (event : String)
    (fields : List (String × Value)) : Agrees R (note l event fields) (note l event fields) :=
  agrees_modify fun _ _ h ↦ hR.alarm h hl event fields

theorem warn (event : String) (fields : List (String × Value)) :
    Agrees R (note .warning event fields) (note .warning event fields) :=
  hR.note_alarm (Nat.le_refl _) event fields

theorem note_trace (event : String) (fields : List (String × Value)) :
    Agrees R (note level event fields) (note level' event fields) :=
  agrees_modify fun _ _ h ↦ hR.trace h event fields

theorem evaluate (runtime : Expr.Runtime) (source : String) :
    Agrees R (evaluate runtime source) (evaluate runtime source) := by
  intro j k h
  have hedits := hR.setState h (k.state.edits (Expr.evalText runtime k.state source).2)
  unfold Flowgraph.evaluate Journal.edits
  rw [hR.state h]
  dsimp only
  split <;> exact ⟨rfl, hedits⟩

theorem variableText (name : String) :
    Agrees R (Template.variableText name) (Template.variableText name) := by
  refine agrees_get_bind fun j k h ↦ ?_
  rw [hR.state h]
  split
  · exact (hR.warn _ _).bind fun _ ↦ agrees_pure none
  · exact (agrees_ofExcept _).map

theorem fillSecrets (secret : String → Option String) (text : List Char) :
    Agrees R (Template.fillSecrets secret text) (Template.fillSecrets secret text) := by
  have hsecret (name : String) :
      Agrees R (Template.secretText secret name) (Template.secretText secret name) := by
    unfold Template.secretText
    cases secret name with
    | some s => exact agrees_pure (some s)
    | none => exact (hR.warn _ _).bind fun _ ↦ agrees_pure none
  unfold Template.fillSecrets
  generalize Template.secretOpenings = openings
  induction openings generalizing text with
  | nil => exact agrees_pure text
  | cons opening openings ih =>
    rw [List.foldlM_cons]
    exact (Template.agrees_fillPieces hsecret _).bind fun text ↦ ih text

theorem nextHit (runtime : Expr.Runtime) (before text : List Char) :
    Agrees R (Template.nextHit runtime before text) (Template.nextHit runtime before text) := by
  fun_induction Template.nextHit runtime before text with
  | case1 before s hs ih => exact ih
  | case2 before s inner after hs source ih =>
    refine (hR.evaluate runtime source).bind fun r ↦ ?_
    cases r with
    | ok r => exact agrees_pure _
    | error e => exact (hR.warn _ _).bind fun _ ↦ ih
  | case3 before c s hs ih => exact ih
  | case4 before => exact agrees_pure none

theorem fillExpressions (source : Template.Source) (template : List Char) (passes : ℕ)
    (text : List Char) :
    Agrees R (Template.fillExpressions source template passes text)
      (Template.fillExpressions source template passes text) := by
  induction passes generalizing text with
  | zero =>
    unfold Template.fillExpressions
    refine (hR.nextHit _ _ _).bind fun hit? ↦ ?_
    cases hit? with
    | none => exact agrees_pure text
    | some hit => exact (hR.warn _ _).bind fun _ ↦ agrees_pure text
  | succ passes ih =>
    unfold Template.fillExpressions
    refine (hR.nextHit _ _ _).bind fun hit? ↦ ?_
    cases hit? with
    | none => exact agrees_pure text
    | some hit => exact (agrees_ofExcept _).bind fun shown ↦ ih _

theorem interpolate (source : Template.Source) (template : String) :
    Agrees R (Template.interpolate source template) (Template.interpolate source template) :=
  (Template.agrees_fillPieces hR.variableText _).bind fun _ ↦ (hR.fillSecrets _ _).bind fun text ↦
    (hR.fillExpressions source text source.maxPasses text).map

theorem interpolateValue (source : Template.Source) (v : Value) :
    Agrees R (Template.interpolateValue source v) (Template.interpolateValue source v) :=
  Template.agrees_interpolateValue (hR.interpolate source) v

theorem resolvePath (runtime : Expr.Runtime) (path : String) :
    Agrees R (resolvePath runtime path) (resolvePath runtime path) := by
  unfold Flowgraph.resolvePath
  split
  · refine agrees_get_bind fun j k h ↦ ?_
    rw [hR.state h]
    exact (agrees_ofExcept _).bind fun v ↦ agrees_pure _
  · refine (hR.evaluate runtime path).bind fun r ↦ ?_
    cases r with
    | ok r => exact agrees_pure r
    | error e => exact (hR.warn _ _).bind fun _ ↦ agrees_pure _

theorem resolveOperand (runtime : Expr.Runtime) (left operand : Value) :
    Agrees R (Condition.resolveOperand runtime left operand)
      (Condition.resolveOperand runtime left operand) := by
  unfold Condition.resolveOperand
  split
  · split
    · refine (hR.resolvePath runtime _).bind fun r ↦ ?_
      dsimp only
      split <;> exact agrees_pure _
    · exact agrees_pure _
  · exact agrees_pure _

variable {table : ConditionTable} {runtime : Expr.Runtime}

theorem evalSimple (path : String) (r : Relation) (operand : Value) :
    Agrees R (Condition.evalSimple ⟨table, level, runtime⟩ path r operand)
      (Condition.evalSimple ⟨table, level', runtime⟩ path r operand) := by
  refine (hR.resolvePath _ _).bind fun left ↦ (hR.resolveOperand _ _ _).bind
    fun sides ↦ (agrees_ofExcept _).bind fun shownLeft ↦ (agrees_ofExcept _).bind
      fun shownRight ↦ (hR.note_trace _ _).bind fun _ ↦ ?_
  cases r with
  | equal => exact agrees_pure _
  | unequal => exact agrees_pure _
  | order op =>
    dsimp only
    split
    · exact (hR.note_trace _ _).bind fun _ ↦ agrees_pure _
    · exact agrees_pure _
  | unknown s => exact agrees_fail _

theorem evalUntil {word : String} {stop : Bool} {f f' : Condition → Act Journal Bool}
    (hf : ∀ c, Agrees R (f c) (f' c)) (i : ℕ) (cs : List Condition) :
    Agrees R (Condition.evalUntil ⟨table, level, runtime⟩ word stop f i cs)
      (Condition.evalUntil ⟨table, level', runtime⟩ word stop f' i cs) := by
  induction cs generalizing i with
  | nil => exact agrees_pure _
  | cons c cs ih =>
    refine (hf c).bind fun b ↦ (hR.note_trace _ _).bind fun _ ↦ ?_
    split
    · exact agrees_pure stop
    · exact ih (i + 1)

theorem eval (depth : ℕ) (c : Condition) :
    Agrees R (Condition.eval ⟨table, level, runtime⟩ depth c)
      (Condition.eval ⟨table, level', runtime⟩ depth c) := by
  induction depth generalizing c with
  | zero => exact agrees_fail _
  | succ depth ih =>
    cases c with
    | simple path r operand => exact hR.evalSimple path r operand
    | all cs => exact hR.evalUntil ih 0 cs
    | any cs => exact hR.evalUntil ih 0 cs
    | named n =>
      unfold Condition.eval
      dsimp only
      split
      · exact ih _
      · exact agrees_fail _

end Parallel

end Flowgraph
