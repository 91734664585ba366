import Flowgraph.Proofs.Parallel
import Flowgraph.Proofs.Run.Visit
import Mathlib.Data.List.Forall2

namespace Flowgraph

def Graph.withVerbose (g : Graph) (verbose : Bool) : Graph :=
  { g with options := { g.options with verbose } }

theorem Graph.node?_withVerbose (g : Graph) (verbose : Bool) (name : String) :
    (g.withVerbose verbose).node? name = g.node? name := rfl

namespace Log

/-- An entry of a run that traces in full, and the entry in its place where the run does not: a trace
is found one level down, everything else has the same level in both. -/
inductive Entry.Muted : Entry → Entry → Prop
  | trace (event : String) (fields : List (String × Value)) :
      Muted ⟨.info, event, fields⟩ ⟨.debug, event, fields⟩
  | alarm {l : Level} (hl : Level.warning.number ≤ l.number) (event : String)
      (fields : List (String × Value)) : Muted ⟨l, event, fields⟩ ⟨l, event, fields⟩

end Log

/-- Journals of runs that began with the same log, the first of which traces in full. -/
structure Muted (before : List Log.Entry) (j k : Journal) : Prop where
  state : j.state = k.state
  node : j.node = k.node
  log : ∃ loud quiet, j.log = before ++ loud ∧ k.log = before ++ quiet ∧
    List.Forall₂ Log.Entry.Muted loud quiet

theorem Muted.note {before : List Log.Entry} {j k : Journal} {l l' : Log.Level} {event : String}
    {fields : List (String × Value)} (h : Muted before j k)
    (hentry : ∀ fields, Log.Entry.Muted ⟨l, event, fields⟩ ⟨l', event, fields⟩) :
    Muted before (j.note l event fields) (k.note l' event fields) := by
  obtain ⟨loud, quiet, hj, hk, hlogs⟩ := h.log
  unfold Journal.note
  simp only [h.node, hj, hk, List.append_assoc]
  exact ⟨h.state, rfl, _, _, rfl, rfl, List.rel_append hlogs (.cons (hentry _) .nil)⟩

theorem parallel_muted (before : List Log.Entry) : Parallel .info .debug (Muted before) where
  state h := h.state
  setState h _ := ⟨rfl, h.node, h.log⟩
  setNode h _ := ⟨h.state, rfl, h.log⟩
  alarm h hl _ _ := h.note (.alarm hl _)
  trace h _ _ := h.note (.trace _)

namespace Run

open Act

def Setup.withVerbose (s : Setup) (verbose : Bool) : Setup :=
  { s with options := { s.options with verbose } }

theorem Setup.room_withVerbose (s : Setup) (verbose : Bool) :
    (s.withVerbose verbose).room = s.room := rfl

theorem Progress.hangs_withVerbose (p : Progress) (s : Setup) (verbose : Bool) :
    p.hangs (s.withVerbose verbose) = p.hangs s := rfl

structure Abreast (R : Journal → Journal → Prop) (p q : Progress) : Prop where
  journal : R p.journal q.journal
  rest : q = { p with journal := q.journal }

namespace Abreast

variable {R : Journal → Journal → Prop} {p q : Progress}

theorem exitCode (h : Abreast R p q) : q.exitCode = p.exitCode := by rw [h.rest]

theorem running (h : Abreast R p q) : q.running = p.running := by rw [h.rest]

theorem executed (h : Abreast R p q) : q.executed = p.executed := by rw [h.rest]

theorem replies (h : Abreast R p q) : q.replies = p.replies := by rw [h.rest]

theorem signals (h : Abreast R p q) : q.signals = p.signals := by rw [h.rest]

theorem hangs (h : Abreast R p q) (s : Setup) : q.hangs s = p.hangs s := by rw [h.rest]; rfl

theorem agrees_onJournal {α : Type} {m m' : Act Journal α} (h : Agrees R m m') :
    Agrees (Abreast R) (onJournal m) (onJournal m') := by
  intro p q hpq
  obtain ⟨hresult, hjournal⟩ := h p.journal q.journal hpq.journal
  refine ⟨hresult, hjournal, ?_⟩
  rw [hpq.rest]
  rfl

/-- A change that leaves the journal alone and does not depend on it. -/
theorem agrees_modify {f : Progress → Progress}
    (hjournal : ∀ p, (f p).journal = p.journal := by exact fun _ ↦ rfl)
    (hrest : ∀ p j, f { p with journal := j } = { f p with journal := j } := by
      exact fun _ _ ↦ rfl) :
    Agrees (Abreast R) (modify f) (modify f) := by
  refine Act.agrees_modify fun p q h ↦ ⟨?_, ?_⟩
  · rw [hjournal, hjournal]
    exact h.journal
  · rw [hjournal, ← hrest, ← h.rest]

end Abreast

variable {s : Setup} {g : Graph} {b b' : Bool} {R : Journal → Journal → Prop}
  (hR : Parallel (s.withVerbose b).traceLevel (s.withVerbose b').traceLevel R)
include hR

namespace Abreast

theorem agrees_trace (message : String) (fields : List (String × Value)) :
    Agrees (Abreast R) (trace (s.withVerbose b) message fields)
      (trace (s.withVerbose b') message fields) :=
  agrees_onJournal (hR.note_trace message fields)

theorem agrees_warn (message : String) (fields : List (String × Value)) :
    Agrees (Abreast R) (onJournal (note .warning message fields))
      (onJournal (note .warning message fields)) :=
  agrees_onJournal (hR.warn message fields)

theorem agrees_blame (message : String) (fields : List (String × Value)) :
    Agrees (Abreast R) (onJournal (note .error message fields))
      (onJournal (note .error message fields)) :=
  agrees_onJournal (hR.note_alarm (by decide) message fields)

theorem agrees_interpolateHeaders (hs : Headers) :
    Agrees (Abreast R) (interpolateHeaders (s.withVerbose b) hs)
      (interpolateHeaders (s.withVerbose b') hs) := by
  induction hs with
  | nil => exact agrees_pure []
  | cons h hs ih =>
    exact (agrees_onJournal (hR.interpolate _ _)).bind fun v ↦ ih.bind fun hs ↦ agrees_pure _

theorem agrees_prepare (r : Request) :
    Agrees (Abreast R) (prepare (s.withVerbose b) r) (prepare (s.withVerbose b') r) := by
  refine (agrees_onJournal (hR.interpolate _ _)).bind fun url ↦
    (agrees_onJournal (hR.interpolateValue _ _)).bind fun body ↦
      (agrees_interpolateHeaders hR _).bind fun headers ↦ ?_
  dsimp only
  split_ifs
  · cases Json.writeText .request body with
    | ok text => exact agrees_pure _
    | error e => exact agrees_fail _
  · exact agrees_pure _

omit hR in
theorem agrees_nextReply : Agrees (Abreast R) nextReply nextReply := by
  intro p q h
  unfold nextReply
  rw [h.replies]
  cases p.replies with
  | nil => exact ⟨rfl, h⟩
  | cons reply replies => exact ⟨rfl, h.journal, by rw [h.rest]⟩

theorem agrees_heed (stops : Bool) :
    Agrees (Abreast R) (heed (s.withVerbose b) stops) (heed (s.withVerbose b') stops) := by
  unfold heed
  split
  · exact Agrees.bind agrees_modify fun _ ↦ agrees_trace hR _ _
  · exact agrees_pure ()

theorem agrees_send (o : Outgoing) :
    Agrees (Abreast R) (send (s.withVerbose b) o) (send (s.withVerbose b') o) :=
  Agrees.bind agrees_modify fun _ ↦ agrees_nextReply.bind
    fun reply ↦ (agrees_heed hR reply.stops).bind fun _ ↦ agrees_pure _

theorem agrees_receive (o : Outgoing) (label : String) (status : Int) (body : String) :
    Agrees (Abreast R) (receive (s.withVerbose b) o label status body)
      (receive (s.withVerbose b') o label status body) := by
  have hstatus : Agrees (Abreast R) (noteStatus o label status) (noteStatus o label status) := by
    unfold noteStatus
    split
    · exact agrees_warn hR _ _
    · exact agrees_pure ()
  refine hstatus.bind fun _ ↦ ?_
  rw [Setup.room_withVerbose, Setup.room_withVerbose]
  split
  · exact agrees_pure _
  · exact agrees_fail _
  · exact agrees_fail _

theorem agrees_store (r : Request) (payload : Value) :
    Agrees (Abreast R) (store r payload) (store r payload) := by
  unfold store
  split
  · split
    · exact agrees_pure ()
    · refine Act.agrees_modify fun p q h ↦ ⟨?_, by rw [h.rest]⟩
      rw [← hR.state h.journal]
      exact hR.setState h.journal _
  · exact agrees_pure ()

theorem agrees_runRequest (r : Request) (label : String) :
    Agrees (Abreast R) (runRequest (s.withVerbose b) r label)
      (runRequest (s.withVerbose b') r label) := by
  have hbody (o : Outgoing) : Agrees (Abreast R) (traceBody (s.withVerbose b) o label)
      (traceBody (s.withVerbose b') o label) := by
    unfold traceBody
    split
    · exact agrees_trace hR _ _
    · exact agrees_pure ()
  refine (agrees_prepare hR r).bind fun o ↦ (agrees_trace hR _ _).bind fun _ ↦
    (hbody o).bind fun _ ↦ (agrees_send hR o).bind fun response ↦ ?_
  cases response with
  | timedOut => exact agrees_fail _
  | refused message => exact agrees_fail _
  | failed report => exact agrees_fail _
  | received status body =>
    exact (agrees_receive hR o label status body).bind fun payload ↦
      (agrees_ofExcept _).bind fun text ↦ (agrees_trace hR _ _).bind fun _ ↦
        (agrees_store hR r payload).bind fun _ ↦ agrees_pure payload

theorem agrees_attended {m m' : Act Progress Unit} (hm : Agrees (Abreast R) m m') :
    Agrees (Abreast R) (attended (s.withVerbose b) m) (attended (s.withVerbose b') m') := by
  have hsignal : Agrees (Abreast R) nextSignal nextSignal := by
    intro p q h
    unfold nextSignal
    rw [h.signals]
    cases p.signals with
    | nil => exact ⟨rfl, h⟩
    | cons signal signals => exact ⟨rfl, h.journal, by rw [h.rest]⟩
  exact hm.bind fun _ ↦ hsignal.bind fun stops ↦ (agrees_heed hR stops).bind fun _ ↦ agrees_pure _

theorem agrees_perform (x : Executor) (label : String) :
    Agrees (Abreast R) (perform (s.withVerbose b) x label)
      (perform (s.withVerbose b') x label) := by
  cases x with
  | http r => exact agrees_runRequest hR r label
  | sleep ms =>
    exact agrees_attended hR ((agrees_trace hR _ _).bind fun _ ↦ agrees_modify)
  | none => exact agrees_attended hR (agrees_trace hR _ _)
  | stop code =>
    exact agrees_attended hR (Agrees.bind agrees_modify fun _ ↦ agrees_trace hR _ _)

theorem agrees_runExecutor (x : Executor) (label : String) :
    Agrees (Abreast R) (runExecutor (s.withVerbose b) x label)
      (runExecutor (s.withVerbose b') x label) := by
  refine (agrees_perform hR x label).attempt.bind fun r ↦ ?_
  cases r with
  | ok v => exact agrees_pure v
  | error f =>
    dsimp only
    split
    · exact (agrees_blame hR _ _).bind fun _ ↦ agrees_fail f
    · exact (agrees_blame hR _ _).bind fun _ ↦ agrees_fail f

theorem agrees_runHooks (kind : HookKind) (hooks : List (String × Executor)) :
    Agrees (Abreast R) (runHooks (s.withVerbose b) kind hooks)
      (runHooks (s.withVerbose b') kind hooks) := by
  have heach : Agrees (Abreast R) (runEachHook (s.withVerbose b) kind hooks)
      (runEachHook (s.withVerbose b') kind hooks) := by
    induction hooks with
    | nil => exact agrees_pure ()
    | cons h hooks ih =>
      refine ((agrees_trace hR _ _).bind fun _ ↦
        (agrees_runExecutor hR h.2 _).attempt.bind fun r ↦ ?_).bind fun _ ↦ ih
      cases r with
      | ok v => exact agrees_pure ()
      | error f => exact agrees_warn hR _ _
  unfold runHooks
  split
  · exact agrees_pure ()
  · exact (agrees_trace hR _ _).bind fun _ ↦ heach

theorem agrees_targets (es : List Edge) :
    Agrees (Abreast R) (targets (s.withVerbose b) (g.withVerbose b) es)
      (targets (s.withVerbose b') (g.withVerbose b') es) := by
  have hfollow (e : Edge) : Agrees (Abreast R) (follow (s.withVerbose b) (g.withVerbose b) e)
      (follow (s.withVerbose b') (g.withVerbose b') e) := by
    unfold follow
    cases e.condition with
    | none => exact agrees_pure _
    | some c =>
      exact (agrees_runHooks hR .all g.before.all).bind fun _ ↦
        (agrees_onJournal (hR.eval s.depth c)).bind fun holds ↦
          (agrees_trace hR _ _).bind fun _ ↦ agrees_pure _
  induction es with
  | nil => exact agrees_pure []
  | cons e es ih => exact (hfollow e).bind fun t ↦ ih.bind fun ts ↦ agrees_pure _

theorem agrees_advance (name : String) (n : Node) :
    Agrees (Abreast R) (advance (s.withVerbose b) (g.withVerbose b) name n)
      (advance (s.withVerbose b') (g.withVerbose b') name n) := by
  have hmove : Agrees (Abreast R) (move (s.withVerbose b) (g.withVerbose b) name n)
      (move (s.withVerbose b') (g.withVerbose b') name n) := by
    refine (agrees_runExecutor hR n.executor name).bind fun _ ↦ agrees_get_bind fun p q h ↦ ?_
    rw [h.running]
    split
    · exact (agrees_targets hR n.edges).map
    · exact agrees_pure _
  refine hmove.attempt.bind fun r ↦ ?_
  cases r with
  | ok ts => exact agrees_pure ts
  | error f => exact (agrees_blame hR _ _).bind fun _ ↦ agrees_fail f

theorem agrees_enter (name : String) (n : Node) :
    Agrees (Abreast R) (enter (s.withVerbose b) name n) (enter (s.withVerbose b') name n) := by
  have hentry : Agrees (Abreast R)
      (modify fun p ↦ { p with
        journal := { p.journal with node := some name }, executed := p.executed ++ [name] })
      (modify fun p ↦ { p with
        journal := { p.journal with node := some name }, executed := p.executed ++ [name] }) :=
    Act.agrees_modify fun p q h ↦ ⟨hR.setNode h.journal _, by rw [h.rest]⟩
  refine hentry.bind fun _ ↦ (agrees_trace hR _ _).bind fun _ ↦ ?_
  split
  · exact agrees_trace hR _ _
  · exact agrees_pure ()

theorem agrees_visit (name : String) :
    Agrees (Abreast R) (visit (s.withVerbose b) (g.withVerbose b) name)
      (visit (s.withVerbose b') (g.withVerbose b') name) := by
  unfold visit
  rw [Graph.node?_withVerbose, Graph.node?_withVerbose]
  cases g.node? name with
  | none => exact agrees_fail _
  | some n =>
    refine (agrees_enter hR name n).bind fun _ ↦ ?_
    split
    · exact Agrees.bind agrees_modify fun _ ↦
        (agrees_trace hR _ _).bind fun _ ↦ agrees_pure _
    · refine (agrees_advance hR name n).bind fun r ↦ ?_
      split
      · exact agrees_pure _
      · exact (agrees_trace hR _ _).bind fun _ ↦ agrees_pure _
      · exact (agrees_trace hR _ _).bind fun _ ↦ agrees_pure _

theorem agrees_loop (visits : ℕ) (agenda : List String) :
    Agrees (Abreast R) (loop (s.withVerbose b) (g.withVerbose b) visits agenda)
      (loop (s.withVerbose b') (g.withVerbose b') visits agenda) := by
  induction visits generalizing agenda with
  | zero =>
    unfold loop
    refine agrees_get_bind fun p q h ↦ ?_
    rw [h.running]
    cases agenda <;> split <;> exact agrees_pure _
  | succ visits ih =>
    unfold loop
    refine agrees_get_bind fun p q h ↦ ?_
    rw [h.running]
    split
    · exact agrees_pure _
    cases agenda with
    | nil => exact agrees_pure _
    | cons name rest =>
      refine (agrees_visit hR name).bind fun r ↦ ?_
      cases r with
      | none => exact agrees_pure _
      | some ts => exact ih _

theorem agrees_copyState : Agrees (Abreast R) copyState copyState := by
  refine agrees_get_bind fun p q h ↦ ?_
  rw [hR.state h.journal]
  dsimp only
  split
  · exact agrees_pure _
  · exact agrees_fail _

theorem agrees_close (outcome : Except Fault Ending) :
    Agrees (Abreast R) (close (s.withVerbose b) outcome) (close (s.withVerbose b') outcome) := by
  have hleave : Agrees (Abreast R)
      (modify fun p ↦ { p with journal := { p.journal with node := none } })
      (modify fun p ↦ { p with journal := { p.journal with node := none } }) :=
    Act.agrees_modify fun p q h ↦ ⟨hR.setNode h.journal _, by rw [h.rest]⟩
  refine agrees_get_bind fun p q h ↦ ?_
  rw [Progress.hangs_withVerbose, Progress.hangs_withVerbose, h.hangs s]
  split
  · exact agrees_pure none
  refine Agrees.bind agrees_modify fun _ ↦ agrees_get_bind fun p q h ↦ ?_
  rw [h.exitCode]
  refine (agrees_trace hR _ _).bind fun _ ↦ hleave.bind fun _ ↦ (agrees_ofExcept _).bind fun _ ↦
    agrees_get_bind fun p q h ↦ ?_
  rw [h.exitCode, h.executed]
  exact (agrees_copyState hR).bind fun state ↦ agrees_pure _

theorem agrees_execute (visits : ℕ) (start : Option String) :
    Agrees (Abreast R) (execute (s.withVerbose b) (g.withVerbose b) visits start)
      (execute (s.withVerbose b') (g.withVerbose b') visits start) := by
  refine Agrees.bind agrees_modify fun _ ↦ (agrees_trace hR _ _).bind
    fun _ ↦ ((agrees_runHooks hR .start g.before.start).bind fun _ ↦
      agrees_loop hR visits _).attempt.bind fun outcome ↦ ?_
  split
  · exact agrees_pure none
  · exact agrees_close hR outcome

end Abreast

omit hR

/-- A run that traces in full and one that does not have the same outcome and come equally far: they
differ in their logs alone, and there only in the level of the traces. -/
theorem execute_verbose (s : Setup) (g : Graph) (visits : ℕ) (start : Option String)
    (p : Progress) :
    let run (verbose : Bool) :=
      execute (s.withVerbose verbose) (g.withVerbose verbose) visits start p
    (run true).1 = (run false).1 ∧ ∃ loud quiet,
      List.Forall₂ Log.Entry.Muted loud quiet ∧
      (run true).2.journal.log = p.journal.log ++ loud ∧
      (run false).2 = { (run true).2 with
        journal := { (run true).2.journal with log := p.journal.log ++ quiet } } := by
  intro run
  have hstart : Abreast (Muted p.journal.log) p p :=
    ⟨⟨rfl, rfl, [], [], (List.append_nil _).symm, (List.append_nil _).symm, .nil⟩, rfl⟩
  have hR : Parallel (s.withVerbose true).traceLevel (s.withVerbose false).traceLevel
      (Muted p.journal.log) := parallel_muted p.journal.log
  have hruns : (run true).1 = (run false).1 ∧
      Abreast (Muted p.journal.log) (run true).2 (run false).2 :=
    Abreast.agrees_execute hR visits start p p hstart
  obtain ⟨houtcome, ⟨hstate, hnode, loud, quiet, hloud, hquiet, hlogs⟩, hrest⟩ := hruns
  refine ⟨houtcome, loud, quiet, hlogs, hloud, ?_⟩
  dsimp only
  rw [← hquiet, hstate, hnode]
  exact hrest

end Run

end Flowgraph
