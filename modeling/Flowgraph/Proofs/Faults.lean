import Flowgraph.Proofs.Act
import Flowgraph.Run.Executor

namespace Flowgraph

open Act

namespace Fault

def OfTemplate : Fault → Prop
  | text _ => True
  | _ => False

def OfComparison : Fault → Prop
  | text _ | path _ | unknownOperator _ => True
  | _ => False

def OfExecutor : Fault → Prop
  | text _ | http .. | reported _ | tooDeep => True
  | _ => False

theorem OfTemplate.ofComparison {f : Fault} (h : f.OfTemplate) : f.OfComparison := by
  cases f <;> trivial

theorem OfTemplate.ofExecutor {f : Fault} (h : f.OfTemplate) : f.OfExecutor := by
  cases f <;> trivial

end Fault

theorem failsOnly_note {E : Fault → Prop} (level : Log.Level) (event : String)
    (fields : List (String × Value)) : (note level event fields).FailsOnly E :=
  failsOnly_modify _

theorem failsOnly_display (v : Value) : (display v).FailsOnly Fault.OfTemplate := by
  unfold display
  cases v.display with
  | ok s => exact failsOnly_pure s
  | error e => exact yields_fail trivial

theorem failsOnly_evaluate (runtime : Expr.Runtime) (source : String) :
    (evaluate runtime source).FailsOnly Fault.OfTemplate where
  ok _ := trivial
  error {j f k} h := by
    unfold evaluate at h
    rcases hr : Expr.evalText runtime j.state source with ⟨e | v, es⟩
    · rw [hr] at h
      cases e with
      | text e => cases h; trivial
      | invalid e source => cases h
      | eval f source => cases h
      | tooDeep => cases h
    · rw [hr] at h
      cases h

namespace Template

theorem failsOnly_fillPieces {opening : List Char} {value? : String → Act Journal (Option String)}
    (h : ∀ name, (value? name).FailsOnly Fault.OfTemplate) (ps : List Piece) :
    (fillPieces opening value? ps).FailsOnly Fault.OfTemplate := by
  induction ps with
  | nil => exact failsOnly_pure []
  | cons piece ps ih =>
    cases piece with
    | char c => exact ih.bind fun s ↦ failsOnly_pure _
    | hole name =>
      refine (h _).bind fun r ↦ ?_
      cases r with
      | none => exact ih.bind fun s ↦ failsOnly_pure _
      | some t => exact ih.bind fun s ↦ failsOnly_pure _

theorem failsOnly_variableText (name : String) :
    (variableText name).FailsOnly Fault.OfTemplate := by
  refine failsOnly_get.bind fun j ↦ ?_
  split
  · exact (failsOnly_note _ _ _).bind fun _ ↦ failsOnly_pure none
  · exact (failsOnly_display _).map

theorem failsOnly_secretText (secret : String → Option String) (name : String) :
    (secretText secret name).FailsOnly Fault.OfTemplate := by
  unfold secretText
  cases secret name with
  | some s => exact failsOnly_pure (some s)
  | none => exact (failsOnly_note _ _ _).bind fun _ ↦ failsOnly_pure none

theorem failsOnly_fillSecrets (secret : String → Option String) (text : List Char) :
    (fillSecrets secret text).FailsOnly Fault.OfTemplate :=
  (failsOnly_fillPieces (failsOnly_secretText secret) _).bind fun _ ↦
    (failsOnly_fillPieces (failsOnly_secretText secret) _).bind fun s ↦ failsOnly_pure s

theorem failsOnly_nextHit (runtime : Expr.Runtime) (before text : List Char) :
    (nextHit runtime before text).FailsOnly Fault.OfTemplate := by
  fun_induction nextHit runtime before text with
  | case1 before s hs ih => exact ih
  | case2 before s inner after hs source ih =>
    refine (failsOnly_evaluate runtime source).bind fun r ↦ ?_
    cases r with
    | ok r => exact failsOnly_pure _
    | error e => exact (failsOnly_note _ _ _).bind fun _ ↦ ih
  | case3 before c s hs ih => exact ih
  | case4 before => exact failsOnly_pure none

theorem failsOnly_fillExpressions (source : Source) (template : List Char) (passes : ℕ)
    (text : List Char) :
    (fillExpressions source template passes text).FailsOnly Fault.OfTemplate := by
  induction passes generalizing text with
  | zero =>
    unfold fillExpressions
    refine (failsOnly_nextHit _ _ _).bind fun r ↦ ?_
    cases r with
    | none => exact failsOnly_pure text
    | some hit => exact (failsOnly_note _ _ _).bind fun _ ↦ failsOnly_pure text
  | succ passes ih =>
    unfold fillExpressions
    refine (failsOnly_nextHit _ _ _).bind fun r ↦ ?_
    cases r with
    | none => exact failsOnly_pure text
    | some hit => exact (failsOnly_display _).bind fun shown ↦ ih _

theorem failsOnly_interpolate (source : Source) (template : String) :
    (interpolate source template).FailsOnly Fault.OfTemplate :=
  (failsOnly_fillPieces failsOnly_variableText _).bind fun _ ↦
    (failsOnly_fillSecrets _ _).bind fun _ ↦ (failsOnly_fillExpressions _ _ _ _).map

theorem failsOnly_keyText (k : Key) : (keyText k).FailsOnly Fault.OfTemplate := by
  unfold keyText
  split
  · exact failsOnly_pure k.text
  · exact yields_fail trivial

mutual

theorem failsOnly_interpolateValue (source : Source) (v : Value) :
    (interpolateValue source v).FailsOnly Fault.OfTemplate := by
  cases v with
  | str s => exact (failsOnly_interpolate source s).map
  | list m vs => exact (failsOnly_interpolateItems source vs).map
  | mapping m es => exact (failsOnly_interpolateEntries source [] es).map
  | _ => exact failsOnly_pure _
termination_by structural v

theorem failsOnly_interpolateItems (source : Source) (vs : List Value) :
    (interpolateItems source vs).FailsOnly Fault.OfTemplate := by
  cases vs with
  | nil => exact failsOnly_pure []
  | cons v vs =>
    exact (failsOnly_interpolateValue source v).bind fun w ↦
      (failsOnly_interpolateItems source vs).bind fun ws ↦ failsOnly_pure _
termination_by structural vs

theorem failsOnly_interpolateEntries (source : Source) (done : Entries)
    (es : List (Key × Value)) :
    (interpolateEntries source done es).FailsOnly Fault.OfTemplate := by
  cases es with
  | nil => exact failsOnly_pure done
  | cons e es =>
    obtain ⟨k, v⟩ := e
    exact (failsOnly_keyText k).bind fun text ↦ (failsOnly_interpolate source text).bind
      fun name ↦ (failsOnly_interpolateValue source v).bind fun w ↦
        failsOnly_interpolateEntries source _ es
termination_by structural es

end

end Template

theorem failsOnly_resolvePath (runtime : Expr.Runtime) (path : String) :
    (resolvePath runtime path).FailsOnly Fault.OfComparison := by
  unfold resolvePath
  split
  · refine failsOnly_get.bind fun j ↦ FailsOnly.bind ?_ fun v ↦ failsOnly_pure _
    cases j.state.toValue.getPath path with
    | ok v => exact failsOnly_pure v
    | error e => exact yields_fail trivial
  · refine ((failsOnly_evaluate runtime path).mono fun _ ↦ Fault.OfTemplate.ofComparison).bind
      fun r ↦ ?_
    cases r with
    | ok r => exact failsOnly_pure r
    | error e => exact (failsOnly_note _ _ _).bind fun _ ↦ failsOnly_pure _

namespace Condition

theorem failsOnly_resolveOperand (runtime : Expr.Runtime) (left operand : Value) :
    (resolveOperand runtime left operand).FailsOnly Fault.OfComparison := by
  unfold resolveOperand
  split
  · split
    · refine (failsOnly_resolvePath runtime _).bind fun r ↦ ?_
      dsimp only
      split <;> exact failsOnly_pure _
    · exact failsOnly_pure _
  · exact failsOnly_pure _

theorem failsOnly_evalSimple (st : Setting) (path : String) (r : Relation) (operand : Value) :
    (evalSimple st path r operand).FailsOnly Fault.OfComparison := by
  have hshow (v : Value) : (display v).FailsOnly Fault.OfComparison :=
    (failsOnly_display v).mono fun _ ↦ Fault.OfTemplate.ofComparison
  refine (failsOnly_resolvePath _ _).bind fun left ↦ (failsOnly_resolveOperand _ _ _).bind
    fun sides ↦ (hshow _).bind fun shownLeft ↦ (hshow _).bind fun shownRight ↦
      (failsOnly_note _ _ _).bind fun _ ↦ ?_
  cases r with
  | equal => exact failsOnly_pure _
  | unequal => exact failsOnly_pure _
  | order op =>
    dsimp only
    split
    · exact (failsOnly_note _ _ _).bind fun _ ↦ failsOnly_pure _
    · exact failsOnly_pure _
  | unknown s => exact yields_fail trivial

theorem failsOnly_evalUntil {st : Setting} {E : Fault → Prop} {word : String} {stop : Bool}
    {f : Condition → Act Journal Bool} {cs : List Condition}
    (hf : ∀ c ∈ cs, (f c).FailsOnly E) (i : ℕ) : (evalUntil st word stop f i cs).FailsOnly E := by
  induction cs generalizing i with
  | nil => exact failsOnly_pure _
  | cons c cs ih =>
    refine (hf c List.mem_cons_self).bind fun b ↦ (failsOnly_note _ _ _).bind fun _ ↦ ?_
    split
    · exact failsOnly_pure stop
    · exact ih (fun c hc ↦ hf c (List.mem_cons_of_mem _ hc)) (i + 1)

end Condition

namespace Run

variable {s : Setup}

theorem failsOnly_onJournal {α : Type} {m : Act Journal α} {E : Fault → Prop}
    (hm : m.FailsOnly E) : (onJournal m).FailsOnly E where
  ok _ := trivial
  error {p f q} h := by
    unfold onJournal at h
    rcases hj : m p.journal with ⟨r, j⟩
    rw [hj] at h
    cases h
    exact hm.error hj

theorem failsOnly_trace {E : Fault → Prop} (message : String) (fields : List (String × Value)) :
    (trace s message fields).FailsOnly E := failsOnly_onJournal (failsOnly_note _ _ _)

theorem failsOnly_template {α : Type} {m : Act Journal α} (hm : m.FailsOnly Fault.OfTemplate) :
    (onJournal m).FailsOnly Fault.OfExecutor :=
  (failsOnly_onJournal hm).mono fun _ ↦ Fault.OfTemplate.ofExecutor

theorem failsOnly_interpolateHeaders (hs : Headers) :
    (interpolateHeaders s hs).FailsOnly Fault.OfExecutor := by
  induction hs with
  | nil => exact failsOnly_pure []
  | cons h hs ih =>
    exact (failsOnly_template (Template.failsOnly_interpolate _ _)).bind fun v ↦
      ih.bind fun vs ↦ failsOnly_pure _

theorem failsOnly_prepare (r : Request) : (prepare s r).FailsOnly Fault.OfExecutor := by
  refine (failsOnly_template (Template.failsOnly_interpolate _ _)).bind fun url ↦
    (failsOnly_template (Template.failsOnly_interpolateValue _ _)).bind fun body ↦
      (failsOnly_interpolateHeaders _).bind fun headers ↦ ?_
  dsimp only
  split_ifs
  · cases Json.writeText .request body with
    | ok text => exact failsOnly_pure _
    | error e => exact yields_fail trivial
  · exact failsOnly_pure _

theorem failsOnly_heed (stops : Bool) : (heed s stops).FailsOnly Fault.OfExecutor := by
  unfold heed
  split
  · exact (failsOnly_modify _).bind fun _ ↦ failsOnly_trace _ _
  · exact failsOnly_pure ()

theorem failsOnly_send (o : Outgoing) : (send s o).FailsOnly Fault.OfExecutor := by
  have hreply : nextReply.FailsOnly Fault.OfExecutor := by
    refine ⟨fun _ ↦ trivial, fun {p f q} h ↦ ?_⟩
    unfold nextReply at h
    cases hr : p.replies <;> rw [hr] at h <;> cases h
  exact (failsOnly_modify _).bind fun _ ↦ hreply.bind fun r ↦ (failsOnly_heed _).bind fun _ ↦
    failsOnly_pure _

theorem failsOnly_receive (o : Outgoing) (label : String) (status : Int) (body : String) :
    (receive s o label status body).FailsOnly Fault.OfExecutor := by
  have hnote : (noteStatus o label status).FailsOnly Fault.OfExecutor := by
    unfold noteStatus
    split
    · exact failsOnly_onJournal (failsOnly_note _ _ _)
    · exact failsOnly_pure ()
  refine hnote.bind fun _ ↦ ?_
  split
  · exact failsOnly_pure _
  · exact yields_fail trivial
  · exact yields_fail trivial

theorem failsOnly_runRequest (r : Request) (label : String) :
    (runRequest s r label).FailsOnly Fault.OfExecutor := by
  have hbody (o : Outgoing) : (traceBody s o label).FailsOnly Fault.OfExecutor := by
    unfold traceBody
    split
    · exact failsOnly_trace _ _
    · exact failsOnly_pure ()
  have htext (v : Value) : (payloadText v).FailsOnly Fault.OfExecutor := by
    unfold payloadText
    cases Json.writeText .request v with
    | ok text => exact failsOnly_pure text
    | error e => exact yields_fail trivial
  have hstore (v : Value) : (store r v).FailsOnly Fault.OfExecutor := by
    unfold store
    split
    · split
      · exact failsOnly_pure ()
      · exact failsOnly_modify _
    · exact failsOnly_pure ()
  refine (failsOnly_prepare r).bind fun o ↦ (failsOnly_trace _ _).bind fun _ ↦
    (hbody o).bind fun _ ↦ (failsOnly_send o).bind fun response ↦ ?_
  cases response with
  | timedOut => exact yields_fail trivial
  | refused message => exact yields_fail trivial
  | failed report => exact yields_fail trivial
  | received status body =>
    exact (failsOnly_receive o label status body).bind fun v ↦ (htext v).bind fun text ↦
      (failsOnly_trace _ _).bind fun _ ↦ (hstore v).bind fun _ ↦ failsOnly_pure v

theorem failsOnly_attended {m : Act Progress Unit} (hm : m.FailsOnly Fault.OfExecutor) :
    (attended s m).FailsOnly Fault.OfExecutor := by
  have hsignal : nextSignal.FailsOnly Fault.OfExecutor := by
    refine ⟨fun _ ↦ trivial, fun {p f q} h ↦ ?_⟩
    unfold nextSignal at h
    cases hp : p.signals <;> rw [hp] at h <;> cases h
  exact hm.bind fun _ ↦ hsignal.bind fun b ↦ (failsOnly_heed b).bind fun _ ↦ failsOnly_pure _

theorem failsOnly_runExecutor (x : Executor) (label : String) :
    (runExecutor s x label).FailsOnly Fault.OfExecutor := by
  have hperform : (perform s x label).FailsOnly Fault.OfExecutor := by
    cases x with
    | http r => exact failsOnly_runRequest r label
    | sleep ms => exact failsOnly_attended ((failsOnly_trace _ _).bind fun _ ↦ failsOnly_modify _)
    | none => exact failsOnly_attended (failsOnly_trace _ _)
    | stop code => exact failsOnly_attended ((failsOnly_modify _).bind fun _ ↦ failsOnly_trace _ _)
  refine hperform.attempt.bind fun r hr ↦ ?_
  cases r with
  | ok v => exact failsOnly_pure v
  | error f =>
    dsimp only
    split
    · exact (failsOnly_onJournal (failsOnly_note _ _ _)).bind fun _ ↦ yields_fail (hr.2 f rfl)
    · exact (failsOnly_onJournal (failsOnly_note _ _ _)).bind fun _ ↦ yields_fail (hr.2 f rfl)

theorem failsOnly_runHooks (kind : HookKind) (hooks : List (String × Executor)) :
    (runHooks s kind hooks).FailsOnly fun _ ↦ False := by
  have hhook (name : String) (x : Executor) :
      (runHook s kind name x).FailsOnly fun _ ↦ False := by
    refine (failsOnly_trace _ _).bind fun _ ↦ (failsOnly_runExecutor x _).attempt.bind fun r _ ↦ ?_
    cases r with
    | ok v => exact failsOnly_pure ()
    | error f => exact failsOnly_onJournal (failsOnly_note _ _ _)
  have heach (hooks : List (String × Executor)) :
      (runEachHook s kind hooks).FailsOnly fun _ ↦ False := by
    induction hooks with
    | nil => exact failsOnly_pure ()
    | cons h hooks ih => exact (hhook h.1 h.2).bind fun _ ↦ ih
  unfold runHooks
  split
  · exact failsOnly_pure ()
  · exact (failsOnly_trace _ _).bind fun _ ↦ heach hooks

end Run

end Flowgraph
