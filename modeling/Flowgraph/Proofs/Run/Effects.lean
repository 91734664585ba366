import Flowgraph.Proofs.Act
import Flowgraph.Run.Loop

namespace Flowgraph.Run

open Act

variable {s : Setup} {g : Graph} {R : Progress → Progress → Prop}

/-- A preorder that holds over each change that a request makes. -/
structure AllowsRequests (R : Progress → Progress → Prop) : Prop where
  refl : ∀ p, R p p
  trans : ∀ {p q r}, R p q → R q r → R p r
  journal : ∀ p j, R p { p with journal := j }
  replies : ∀ p rs, R p { p with replies := rs }
  requests : ∀ p os, R p { p with requests := os }
  stop : ∀ p, R p { p with running := false }

/-- A preorder that holds over each change that an executor makes. -/
structure AllowsExecutors (R : Progress → Progress → Prop) : Prop extends AllowsRequests R where
  signals : ∀ p bs, R p { p with signals := bs }
  pauses : ∀ p xs, R p { p with pauses := xs }
  exitCode : ∀ p c, R p { p with exitCode := c }

namespace AllowsRequests

variable (hR : AllowsRequests R)
include hR

theorem onJournal {α : Type} (m : Act Journal α) : Within R (onJournal m) :=
  fun p ↦ hR.journal p (m p.journal).2

theorem trace (message : String) (fields : List (String × Value)) :
    Within R (trace s message fields) := hR.onJournal _

theorem bind {α β : Type} {m : Act Progress α} {f : α → Act Progress β} (hm : Within R m)
    (hf : ∀ a, Within R (f a)) : Within R (m >>= f) := hm.bind hR.trans hf

theorem interpolateHeaders (hs : Headers) : Within R (interpolateHeaders s hs) := by
  induction hs with
  | nil => exact within_pure hR.refl _
  | cons h hs ih =>
    exact hR.bind (hR.onJournal _) fun v ↦ hR.bind ih fun hs ↦ within_pure hR.refl _

theorem prepare (r : Request) : Within R (prepare s r) := by
  refine hR.bind (hR.onJournal _) fun url ↦ hR.bind (hR.onJournal _) fun body ↦
    hR.bind (hR.interpolateHeaders _) fun headers ↦ ?_
  dsimp only
  split_ifs
  · cases Json.writeText .request body with
    | ok text => exact within_pure hR.refl _
    | error e => exact within_fail hR.refl _
  · exact within_pure hR.refl _

theorem nextReply : Within R nextReply := by
  intro p
  unfold Run.nextReply
  split
  · exact hR.replies p _
  · exact hR.refl p

theorem heed (stops : Bool) : Within R (heed s stops) := by
  unfold Run.heed
  split
  · exact hR.bind hR.stop fun _ ↦ hR.trace _ _
  · exact within_pure hR.refl _

theorem send (o : Outgoing) : Within R (send s o) :=
  hR.bind (fun p ↦ hR.requests p _) fun _ ↦ hR.bind hR.nextReply fun r ↦
    hR.bind (hR.heed r.stops) fun _ ↦ within_pure hR.refl _

theorem receive (o : Outgoing) (label : String) (status : Int) (body : String) :
    Within R (receive s o label status body) := by
  have hnote : Within R (noteStatus o label status) := by
    unfold noteStatus
    split
    · exact hR.onJournal _
    · exact within_pure hR.refl _
  refine hR.bind hnote fun _ ↦ ?_
  split
  · exact within_pure hR.refl _
  · exact within_fail hR.refl _
  · exact within_fail hR.refl _

theorem store (r : Request) (payload : Value) : Within R (store r payload) := by
  unfold Run.store
  split
  · split
    · exact within_pure hR.refl _
    · exact fun p ↦ hR.journal p _
  · exact within_pure hR.refl _

theorem runRequest (r : Request) (label : String) : Within R (runRequest s r label) := by
  have htext (o : Outgoing) : Within R (traceBody s o label) := by
    unfold traceBody
    split
    · exact hR.trace _ _
    · exact within_pure hR.refl _
  refine hR.bind (hR.prepare r) fun o ↦ hR.bind (hR.trace _ _) fun _ ↦
    hR.bind (htext o) fun _ ↦ hR.bind (hR.send o) fun response ↦ ?_
  cases response with
  | timedOut => exact within_fail hR.refl _
  | refused message => exact within_fail hR.refl _
  | failed report => exact within_fail hR.refl _
  | received status body =>
    exact hR.bind (hR.receive o label status body) fun v ↦
      hR.bind (within_ofExcept hR.refl _) fun text ↦ hR.bind (hR.trace _ _) fun _ ↦
        hR.bind (hR.store r v) fun _ ↦ within_pure hR.refl _

end AllowsRequests

namespace AllowsExecutors

variable (hR : AllowsExecutors R)
include hR

theorem nextSignal : Within R nextSignal := by
  intro p
  unfold Run.nextSignal
  split
  · exact hR.signals p _
  · exact hR.refl p

theorem attended {m : Act Progress Unit} (hm : Within R m) : Within R (attended s m) :=
  hR.bind hm fun _ ↦ hR.bind hR.nextSignal fun b ↦ hR.bind (hR.heed b) fun _ ↦
    within_pure hR.refl _

theorem perform (x : Executor) (label : String) : Within R (perform s x label) := by
  cases x with
  | http r => exact hR.runRequest r label
  | sleep ms => exact hR.attended (hR.bind (hR.trace _ _) fun _ p ↦ hR.pauses p _)
  | none => exact hR.attended (hR.trace _ _)
  | stop code =>
    refine hR.attended (hR.bind (fun p ↦ ?_) fun _ ↦ hR.trace _ _)
    exact hR.trans (hR.exitCode p code) (hR.stop _)

theorem runExecutor (x : Executor) (label : String) : Within R (runExecutor s x label) := by
  refine hR.bind (hR.perform x label).attempt fun r ↦ ?_
  cases r with
  | ok v => exact within_pure hR.refl v
  | error f =>
    dsimp only
    split
    · exact hR.bind (hR.onJournal _) fun _ ↦ within_fail hR.refl f
    · exact hR.bind (hR.onJournal _) fun _ ↦ within_fail hR.refl f

theorem runHook (kind : HookKind) (name : String) (x : Executor) :
    Within R (runHook s kind name x) := by
  refine hR.bind (hR.trace _ _) fun _ ↦ hR.bind (hR.runExecutor x _).attempt fun r ↦ ?_
  cases r with
  | ok v => exact within_pure hR.refl ()
  | error f => exact hR.onJournal _

theorem runHooks (kind : HookKind) (hooks : List (String × Executor)) :
    Within R (runHooks s kind hooks) := by
  have heach (hooks : List (String × Executor)) : Within R (runEachHook s kind hooks) := by
    induction hooks with
    | nil => exact within_pure hR.refl ()
    | cons h hooks ih => exact hR.bind (hR.runHook kind h.1 h.2) fun _ ↦ ih
  unfold Run.runHooks
  split
  · exact within_pure hR.refl ()
  · exact hR.bind (hR.trace _ _) fun _ ↦ heach hooks

theorem follow (e : Edge) : Within R (follow s g e) := by
  unfold Run.follow
  split
  · exact within_pure hR.refl _
  · exact hR.bind (hR.runHooks .all _) fun _ ↦ hR.bind (hR.onJournal _) fun holds ↦
      hR.bind (hR.trace _ _) fun _ ↦ within_pure hR.refl _

theorem targets (es : List Edge) : Within R (targets s g es) := by
  induction es with
  | nil => exact within_pure hR.refl []
  | cons e es ih =>
    exact hR.bind (hR.follow e) fun t ↦ hR.bind ih fun ts ↦ within_pure hR.refl _

end AllowsExecutors

theorem executed_allows : AllowsExecutors fun p q ↦ q.executed = p.executed where
  refl _ := rfl
  trans h h' := h'.trans h
  journal _ _ := rfl
  replies _ _ := rfl
  requests _ _ := rfl
  stop _ := rfl
  signals _ _ := rfl
  pauses _ _ := rfl
  exitCode _ _ := rfl

theorem running_allows : AllowsExecutors fun p q ↦ p.running = false → q.running = false where
  refl _ h := h
  trans h h' hp := h' (h hp)
  journal _ _ h := h
  replies _ _ h := h
  requests _ _ h := h
  stop _ _ := rfl
  signals _ _ h := h
  pauses _ _ h := h
  exitCode _ _ h := h

end Flowgraph.Run
