import Flowgraph.Proofs.Condition.Depth
import Flowgraph.Proofs.Condition.Frame
import Flowgraph.Proofs.Run.Visit

namespace Flowgraph

open Act

def Graph.hooks (g : Graph) : Run.HookKind → List (String × Executor)
  | .start => g.before.start
  | .all => g.before.all

namespace Run

inductive Event where
  | evaluated (x : Evaluation)
  | performed (label : String) (x : Executor) (outcome : Except Fault Value)
  | finished (code : Int)

structure Standing where
  state : State
  exitCode : Int
  pauses : List Float

def Progress.standing (p : Progress) : Standing := ⟨p.journal.state, p.exitCode, p.pauses⟩

namespace Event

def evaluation? : Event → Option Evaluation
  | evaluated x => some x
  | _ => none

/-- The value of a request that has succeeded is written under the name that the request gives. -/
def write? : Event → Option (String × Value)
  | performed _ (.http r) (.ok v) =>
    r.mutate.bind fun name ↦ if name.isEmpty then none else some (name, v)
  | _ => none

def code? : Event → Option Int
  | performed _ (.stop code) _ => some code
  | finished code => some code
  | _ => none

def pause? : Event → Option Float
  | performed _ (.sleep ms) (.ok _) => some (ms / 1000.0)
  | _ => none

def change (s : State) (e : Event) : State :=
  match e with
  | evaluated x => x.change s
  | e => e.write?.elim s fun w ↦ s.set w.1 w.2

def apply (t : Standing) (e : Event) : Standing :=
  ⟨e.change t.state, e.code?.getD t.exitCode,
    e.pause?.elim t.pauses fun seconds ↦ t.pauses ++ [seconds]⟩

end Event

theorem foldl_apply_evaluated (xs : List Evaluation) (t : Standing) :
    (xs.map .evaluated).foldl Event.apply t = { t with state := xs.foldl Evaluation.change t.state } := by
  induction xs generalizing t with
  | nil => rfl
  | cons x xs ih =>
    rw [List.map_cons, List.foldl_cons, ih]
    rfl

theorem apply_error (label : String) (x : Executor) (f : Fault) (t : Standing)
    (hx : ∀ code, x ≠ .stop code) : Event.apply t (.performed label x (.error f)) = t := by
  cases x with
  | stop code => exact absurd rfl (hx code)
  | _ => rfl

def onRun (xs : Journal → List Evaluation) (p : Progress) : List Event :=
  (xs p.journal).map .evaluated

def headersEvents (s : Setup) : Headers → Progress → List Event
  | [] => fun _ ↦ []
  | (_, v) :: hs => fun p ↦ onRun (Template.evaluationsOf s.source v) p ++
      (onJournal (Template.interpolate s.source v)).next (fun _ ↦ headersEvents s hs) p

def prepareEvents (s : Setup) (r : Request) (p : Progress) : List Event :=
  let url := s.options.baseUrl ++ r.endpoint
  let headers := joinHeaders s.options.headers r.headers !(r.body matches .null)
  onRun (Template.evaluationsOf s.source url) p ++
    (onJournal (Template.interpolate s.source url)).next (fun _ p ↦
      onRun (Template.evaluationsOfValue s.source r.body) p ++
        (onJournal (Template.interpolateValue s.source r.body)).next
          (fun _ ↦ headersEvents s headers) p) p

def executorEvents (s : Setup) (x : Executor) (label : String) (p : Progress) : List Event :=
  (match x with
    | .http r => prepareEvents s r p
    | _ => []) ++ [.performed label x (runExecutor s x label p).1]

def HookKind.label (kind : HookKind) (name : String) : String :=
  "before:" ++ kind.name ++ ":" ++ name

def hookEvents (s : Setup) (kind : HookKind) (name : String) (x : Executor) :
    Progress → List Event :=
  (trace s ("Executing " ++ kind.name ++ " before hook: " ++ name)).next fun _ ↦
    executorEvents s x (kind.label name)

def eachHookEvents (s : Setup) (kind : HookKind) :
    List (String × Executor) → Progress → List Event
  | [] => fun _ ↦ []
  | (name, x) :: hs => fun p ↦ hookEvents s kind name x p ++
      (runHook s kind name x).next (fun _ ↦ eachHookEvents s kind hs) p

def hooksEvents (s : Setup) (kind : HookKind) (hooks : List (String × Executor)) :
    Progress → List Event :=
  if hooks.isEmpty then fun _ ↦ []
  else (trace s ("Executing before hooks (" ++ kind.name ++ ")")).next fun _ ↦
    eachHookEvents s kind hooks

def followEvents (s : Setup) (g : Graph) (e : Edge) : Progress → List Event :=
  match e.condition with
  | none => fun _ ↦ []
  | some c => fun p ↦ hooksEvents s .all g.before.all p ++
      (runHooks s .all g.before.all).next
        (fun _ ↦ onRun (c.evaluations (conditionSetting s g) s.depth)) p

def targetsEvents (s : Setup) (g : Graph) : List Edge → Progress → List Event
  | [] => fun _ ↦ []
  | e :: es => fun p ↦ followEvents s g e p ++
      (follow s g e).next (fun _ ↦ targetsEvents s g es) p

def moveEvents (s : Setup) (g : Graph) (name : String) (n : Node) (p : Progress) : List Event :=
  executorEvents s n.executor name p ++ (runExecutor s n.executor name).next
    (fun _ p ↦ if p.running then targetsEvents s g n.edges p else []) p

def visitEvents (s : Setup) (g : Graph) (name : String) (p : Progress) : List Event :=
  match g.node? name with
  | none => []
  | some n =>
    if n.isEnd then [.finished (n.code.getD 0)] else moveEvents s g name n (entered s name n p)

def loopEvents (s : Setup) (g : Graph) (visits : Nat) (agenda : List String) (p : Progress) :
    List Event :=
  if !p.running then []
  else
    match agenda, visits with
    | [], _ => []
    | _, 0 => []
    | name :: rest, visits + 1 => visitEvents s g name p ++ (visit s g name).next (fun ts? p ↦
        match ts? with
        | none => []
        | some ts => loopEvents s g visits (ts ++ rest) p) p
termination_by structural visits

def begun (s : Setup) (first : String) (p : Progress) : Progress :=
  (trace s ("Starting graph execution at '" ++ first ++ "'") []
    { p with running := true, executed := [] }).2

def events (s : Setup) (g : Graph) (visits : Nat) (start : Option String) (p : Progress) :
    List Event :=
  let first := startNode s start
  hooksEvents s .start g.before.start (begun s first p) ++
    loopEvents s g visits [first] (opened s g first p)

section

variable {s : Setup} {g : Graph}

/-- The events of an action on a run account for all that it does to the state and the exit code. -/
abbrev Makes {α : Type} (m : Act Progress α) (es : Progress → List Event) : Prop :=
  Told Progress.standing Event.apply m es

theorem makes_onJournal {α : Type} {m : Act Journal α} {xs : Journal → List Evaluation}
    (hm : Evaluates m xs) : Makes (onJournal m) (onRun xs) := by
  intro p
  rw [onRun, foldl_apply_evaluated]
  exact congrArg (fun state ↦ (⟨state, p.exitCode, p.pauses⟩ : Standing)) (hm p.journal)

def LogBlind {τ : Type} (view : Progress → τ) : Prop :=
  ∀ p j, j.state = p.journal.state → view { p with journal := j } = view p

theorem logBlind_standing : LogBlind Progress.standing := fun p _ h ↦
  congrArg (fun state ↦ (⟨state, p.exitCode, p.pauses⟩ : Standing)) h

section LogBlind

variable {τ : Type} {view : Progress → τ} (hview : LogBlind view)
include hview

theorem LogBlind.onJournal {α : Type} {m : Act Journal α} (hm : Keeps Journal.state m) :
    Keeps view (onJournal m) := fun p ↦ hview p _ (hm p.journal)

theorem LogBlind.trace (message : String) (fields : List (String × Value)) :
    Keeps view (trace s message fields) := hview.onJournal (keeps_note _ _ _)

theorem LogBlind.traceBody (o : Outgoing) (label : String) : Keeps view (traceBody s o label) := by
  unfold Run.traceBody
  split
  · exact hview.trace _ _
  · exact keeps_pure ()

theorem LogBlind.receive (o : Outgoing) (label : String) (status : Int) (body : String) :
    Keeps view (receive s o label status body) := by
  have hnote : Keeps view (noteStatus o label status) := by
    unfold noteStatus
    split
    · exact hview.onJournal (keeps_note _ _ _)
    · exact keeps_pure ()
  refine hnote.bind fun _ ↦ ?_
  split
  · exact keeps_pure _
  · exact keeps_fail _
  · exact keeps_fail _

end LogBlind

theorem keeps_trace (message : String) (fields : List (String × Value)) :
    Keeps Progress.standing (trace s message fields) := logBlind_standing.trace message fields

theorem makes_interpolateHeaders (hs : Headers) :
    Makes (interpolateHeaders s hs) (headersEvents s hs) := by
  induction hs with
  | nil => exact (keeps_pure []).told
  | cons h hs ih =>
    exact (makes_onJournal (Template.evaluates_interpolate _ _)).bind fun v ↦ ih.map

theorem makes_prepare (r : Request) : Makes (prepare s r) (prepareEvents s r) := by
  refine (makes_onJournal (Template.evaluates_interpolate _ _)).bind fun url ↦
    (makes_onJournal (Template.evaluates_interpolateValue _ _)).bind fun body ↦
      (makes_interpolateHeaders _).bind_keeps fun headers ↦ ?_
  dsimp only
  split_ifs
  · cases Json.writeText .request body with
    | ok text => exact keeps_pure _
    | error e => exact keeps_fail _
  · exact keeps_pure _

theorem keeps_heed (stops : Bool) : Keeps Progress.standing (heed s stops) := by
  unfold heed
  split
  · exact Keeps.bind (fun _ ↦ rfl) fun _ ↦ keeps_trace _ _
  · exact keeps_pure ()

theorem keeps_send (o : Outgoing) : Keeps Progress.standing (send s o) := by
  have hreply : Keeps Progress.standing nextReply := by
    intro p
    unfold nextReply
    split <;> rfl
  exact Keeps.bind (fun _ ↦ rfl) fun _ ↦ hreply.bind fun r ↦ (keeps_heed _).bind fun _ ↦
    keeps_pure _

def Concludes (event : Except Fault Value → Event) (m : Act Progress Value) : Prop :=
  ∀ p, (m p).2.standing = Event.apply p.standing (event (m p).1)

theorem concludes_fail {event : Except Fault Value → Event}
    (hfail : ∀ f t, Event.apply t (event (.error f)) = t) (f : Fault) :
    Concludes event (Act.fail f) := fun p ↦ (hfail f p.standing).symm

theorem concludes_bind {α : Type} {event : Except Fault Value → Event} {m : Act Progress α}
    {f : α → Act Progress Value} (hfail : ∀ f t, Event.apply t (event (.error f)) = t)
    (hm : Keeps Progress.standing m) (hf : ∀ a, Concludes event (f a)) :
    Concludes event (m >>= f) := by
  intro p
  have h := hm p
  rcases hp : m p with ⟨e | a, q⟩ <;> rw [hp] at h
  · rw [bind_of_error hp, hfail e]
    exact h
  · rw [bind_of_ok hp, ← h]
    exact hf a q

def deliver (s : Setup) (r : Request) (label : String) (o : Outgoing) : Act Progress Value := do
  trace s ("HTTP " ++ o.method ++ " " ++ o.url) [("node", .str label)]
  traceBody s o label
  match ← send s o with
  | .timedOut => Act.fail (.http o.method o.url
      ("Request timed out after " ++ Number.generalText s.settings.timeout ++ "s") none)
  | .refused message => Act.fail (.http o.method o.url ("Client error: " ++ message) none)
  | .failed report => Act.fail (.reported report)
  | .received status body =>
    let payload ← receive s o label status body
    trace s ("Response: " ++ (← payloadText payload)) [("node", .str label)]
    store r payload
    return payload

theorem runRequest_eq (r : Request) (label : String) :
    runRequest s r label = prepare s r >>= deliver s r label := rfl

/-- Storing a value does what the event of a request with that value does. -/
theorem store_eq (r : Request) (label : String) (v : Value) (p : Progress) :
    store r v p = (.ok (), { p with journal := { p.journal with
      state := Event.change p.journal.state (.performed label (.http r) (.ok v)) } }) := by
  obtain ⟨method, endpoint, body, mutate, headers⟩ := r
  cases mutate with
  | none => rfl
  | some name =>
    cases hname : name.isEmpty with
    | false =>
      simp only [store, Event.change, Event.write?, Option.bind_some, hname]
      rfl
    | true =>
      simp only [store, Event.change, Event.write?, Option.bind_some, hname]
      rfl

theorem concludes_store (r : Request) (label : String) (v : Value) :
    Concludes (.performed label (.http r)) (store r v >>= fun _ ↦ pure v) := by
  intro p
  rw [bind_of_ok (store_eq r label v p)]
  rfl

theorem concludes_deliver (r : Request) (label : String) (o : Outgoing) :
    Concludes (.performed label (.http r)) (deliver s r label o) := by
  have hfail (f : Fault) (t : Standing) :
      Event.apply t (.performed label (.http r) (.error f)) = t :=
    apply_error label _ f t (by rintro code ⟨⟩)
  refine concludes_bind hfail (keeps_trace _ _) fun _ ↦
    concludes_bind hfail (logBlind_standing.traceBody o label) fun _ ↦
      concludes_bind hfail (keeps_send o) fun response ↦ ?_
  cases response with
  | timedOut => exact concludes_fail hfail _
  | refused message => exact concludes_fail hfail _
  | failed report => exact concludes_fail hfail _
  | received status body =>
    exact concludes_bind hfail (logBlind_standing.receive o label status body) fun v ↦
      concludes_bind hfail (keeps_ofExcept _) fun text ↦ concludes_bind hfail (keeps_trace _ _)
        fun _ ↦ concludes_store r label v

theorem makes_runRequest (r : Request) (label : String) :
    Makes (runRequest s r label) fun p ↦
      prepareEvents s r p ++ [.performed label (.http r) (runRequest s r label p).1] := by
  intro p
  have hprepare := makes_prepare (s := s) r p
  rw [List.foldl_append, ← hprepare, runRequest_eq]
  rcases hp : prepare s r p with ⟨f | o, q⟩
  · rw [bind_of_error hp]
    exact (apply_error label _ f _ (by rintro code ⟨⟩)).symm
  · rw [bind_of_ok hp]
    exact concludes_deliver r label o q

/-- A failure is noted, and nothing else is done about it. -/
theorem guarded_spec (type label : String) (m : Act Progress Value) (p : Progress) :
    (guarded type label m p).1 = (m p).1 ∧
      (guarded type label m p).2.standing = (m p).2.standing := by
  unfold guarded
  rcases hp : m p with ⟨f | v, q⟩
  · rw [bind_of_ok (attempt_eq hp)]
    dsimp only
    cases f.expression? <;> exact ⟨rfl, rfl⟩
  · rw [bind_of_ok (attempt_eq hp)]
    exact ⟨rfl, rfl⟩

/-- What has no value does not fail, and a stop that comes meanwhile changes nothing of note. -/
theorem attended_spec {m : Act Progress Unit} {p : Progress} (h : (m p).1 = .ok ()) :
    (attended s m p).1 = .ok .null ∧ (attended s m p).2.standing = (m p).2.standing := by
  obtain ⟨q, hm⟩ : ∃ q, m p = (.ok (), q) := ⟨_, Prod.ext h rfl⟩
  have hheed (stops : Bool) (r : Progress) : ∃ t, heed s stops r = (.ok (), t) := by
    cases stops <;> exact ⟨_, rfl⟩
  have hsignal : ∃ b r, nextSignal q = (.ok b, r) ∧ r.standing = q.standing := by
    unfold nextSignal
    split <;> exact ⟨_, _, rfl, rfl⟩
  obtain ⟨b, r, hsignal, hr⟩ := hsignal
  obtain ⟨t, ht⟩ := hheed b r
  unfold attended
  rw [bind_of_ok hm, bind_of_ok hsignal, bind_of_ok ht, hm]
  exact ⟨rfl, ((keeps_heed b).rel ht).trans hr⟩

/-- An executor that sends no request does just what its event does. -/
theorem perform_spec {x : Executor} (hx : ∀ r, x ≠ .http r) (label : String) (p : Progress) :
    (perform s x label p).1 = .ok .null ∧ (perform s x label p).2.standing =
      Event.apply p.standing (.performed label x (.ok .null)) := by
  cases x with
  | http r => exact absurd rfl (hx r)
  | sleep ms => exact attended_spec (m := runSleep s ms label) rfl
  | none => exact attended_spec (m := trace s ("No-op executor for " ++ label)) rfl
  | stop code => exact attended_spec (m := runStop s code label) rfl

theorem makes_runExecutor (x : Executor) (label : String) :
    Makes (runExecutor s x label) (executorEvents s x label) := by
  intro p
  obtain ⟨hresult, hstanding⟩ := guarded_spec x.typeName label (perform s x label) p
  change (guarded _ _ _ p).2.standing =
    List.foldl _ _ (_ ++ [Event.performed label x (guarded _ _ (perform s x label) p).1])
  rw [hresult, hstanding]
  have hplain (hx : ∀ r, x ≠ .http r) : (perform s x label p).2.standing =
      Event.apply p.standing (.performed label x (perform s x label p).1) := by
    obtain ⟨hvalue, hq⟩ := perform_spec (s := s) hx label p
    rw [hvalue, hq]
  cases x with
  | http r => exact makes_runRequest r label p
  | sleep | none | stop => exact hplain (by simp)

theorem makes_runHook (kind : HookKind) (name : String) (x : Executor) :
    Makes (runHook s kind name x) (hookEvents s kind name x) := by
  refine (keeps_trace _ _).told_bind fun _ ↦ ?_
  refine Told.bind_keeps (m := (runExecutor s x (kind.label name)).attempt)
    (makes_runExecutor x (kind.label name)) fun r ↦ ?_
  cases r with
  | ok v => exact keeps_pure ()
  | error f => exact logBlind_standing.onJournal (keeps_note _ _ _)

theorem makes_runHooks (kind : HookKind) (hooks : List (String × Executor)) :
    Makes (runHooks s kind hooks) (hooksEvents s kind hooks) := by
  have heach (hooks : List (String × Executor)) :
      Makes (runEachHook s kind hooks) (eachHookEvents s kind hooks) := by
    induction hooks with
    | nil => exact (keeps_pure ()).told
    | cons h hooks ih => exact (makes_runHook kind h.1 h.2).bind fun _ ↦ ih
  unfold runHooks hooksEvents
  split
  · exact (keeps_pure ()).told
  · exact (keeps_trace _ _).told_bind fun _ ↦ heach hooks

theorem makes_follow (e : Edge) : Makes (follow s g e) (followEvents s g e) := by
  unfold follow followEvents
  cases e.condition with
  | none => exact (keeps_pure _).told
  | some c =>
    exact (makes_runHooks .all _).bind fun _ ↦
      (makes_onJournal (Condition.evaluates_eval _ _ c)).bind_keeps fun holds ↦
        (keeps_trace _ _).bind fun _ ↦ keeps_pure _

theorem makes_targets (es : List Edge) : Makes (targets s g es) (targetsEvents s g es) := by
  induction es with
  | nil => exact (keeps_pure []).told
  | cons e es ih => exact (makes_follow e).bind fun t ↦ ih.map

theorem standing_entered (name : String) (n : Node) (p : Progress) :
    (entered s name n p).standing = p.standing := by
  unfold entered enter
  split <;> rfl

theorem makes_move (name : String) (n : Node) :
    Makes (move s g name n) (moveEvents s g name n) := by
  refine (makes_runExecutor n.executor name).bind fun _ p ↦ ?_
  rw [bind_of_ok (rfl : Act.get p = (.ok p, p))]
  split
  · exact (makes_targets n.edges).map p
  · rfl

theorem makes_visit (name : String) : Makes (visit s g name) (visitEvents s g name) := by
  intro p
  unfold visit visitEvents
  cases g.node? name with
  | none => rfl
  | some n =>
    dsimp only
    rw [bind_of_ok (enter_eq name n p)]
    have hentered := standing_entered (s := s) name n p
    split
    · exact hentered ▸ rfl
    · -- A failure of the node is noted and passed on, and leaves the standing as it is.
      rw [← hentered]
      refine Told.bind_keeps (m := advance s g name n) (Told.bind_keeps
        (m := (move s g name n).attempt) (makes_move name n) fun r ↦ ?_) (fun ts? ↦ ?_) _
      · cases r with
        | ok ts => exact keeps_pure _
        | error f => exact (logBlind_standing.onJournal (keeps_note _ _ _)).bind fun _ ↦ keeps_fail f
      · split
        · exact keeps_pure _
        · exact (keeps_trace _ _).bind fun _ ↦ keeps_pure _
        · exact (keeps_trace _ _).bind fun _ ↦ keeps_pure _

theorem makes_loop (visits : ℕ) (agenda : List String) :
    Makes (loop s g visits agenda) (loopEvents s g visits agenda) := by
  induction visits generalizing agenda with
  | zero =>
    intro p
    unfold loop loopEvents
    rw [bind_of_ok (rfl : Act.get p = (.ok p, p))]
    split
    · rfl
    · cases agenda <;> rfl
  | succ visits ih =>
    intro p
    unfold loop loopEvents
    rw [bind_of_ok (rfl : Act.get p = (.ok p, p))]
    split
    · rfl
    · cases agenda with
      | nil => rfl
      | cons name rest =>
        refine (makes_visit name).bind (fun ts? ↦ ?_) p
        cases ts? with
        | none => exact (keeps_pure _).told
        | some ts => exact ih (ts ++ rest)

theorem standing_closed (p : Progress) : (closed s p).standing = p.standing := by
  unfold closed
  split <;> rfl

/-- However a run comes out, its events account for the state and the exit code that it leaves. -/
theorem makes_execute (s : Setup) (g : Graph) (visits : ℕ) (start : Option String) :
    Makes (execute s g visits start) (events s g visits start) := by
  intro p
  have hopened : (opened s g (startNode s start) p).standing =
      (hooksEvents s .start g.before.start (begun s (startNode s start) p)).foldl Event.apply
        p.standing := makes_runHooks .start g.before.start _
  rw [events, List.foldl_append, ← hopened, ← makes_loop visits [startNode s start]]
  rcases hloop : loop s g visits [startNode s start] (opened s g (startNode s start) p) with ⟨r, q⟩
  by_cases hr : r = .ok .unfinished
  · subst hr
    rw [execute_of_unfinished hloop]
  · rw [execute_of_loop hloop hr, close_snd, standing_closed]

end

section

variable {s : Setup} {g : Graph} {visits : ℕ} {start : Option String} {p : Progress}

theorem copyState_eq_ok {v : Value} {q : Progress} (h : copyState p = (.ok v, q)) :
    v = p.journal.state.toValue := by
  unfold copyState at h
  rw [bind_of_ok (rfl : Act.get p = (.ok p, p))] at h
  cases hview : p.journal.state.toValue.firstView? with
  | none =>
    simp only [hview] at h
    cases h
    rfl
  | some k =>
    simp only [hview] at h
    cases h

/-- The result of a run has the exit code and the state that the run leaves. -/
theorem standing_of_result {r : Result} (h : (execute s g visits start p).1 = .ok (some r)) :
    r.exitCode = (execute s g visits start p).2.exitCode ∧
      r.state = (execute s g visits start p).2.journal.state.toValue := by
  rcases hloop : loop s g visits [startNode s start] (opened s g (startNode s start) p) with ⟨o, q⟩
  by_cases ho : o = .ok .unfinished
  · subst ho
    rw [execute_of_unfinished hloop] at h
    cases h
  rw [execute_of_loop hloop ho] at h ⊢
  have hhangs : q.hangs s = false := by
    rw [← Bool.not_eq_true, ← close_fst_eq_none_iff, h]
    rintro ⟨⟩
  cases o with
  | error f =>
    rw [close_error hhangs] at h
    cases h
  | ok ending =>
    rw [close_ok hhangs] at h ⊢
    rcases hcopy : copyState (closed s q) with ⟨f | v, q'⟩
    · rw [hcopy] at h
      cases h
    · rw [hcopy] at h
      cases h
      exact ⟨(congrArg Standing.exitCode (standing_closed q)).symm, copyState_eq_ok hcopy⟩

end

/-- What a graph has that an event comes from: a node for its own executor or its own end, and a hook
for that of the hook. -/
def Event.Of (g : Graph) : Event → Prop
  | evaluated _ => True
  | performed label x _ => (∃ n, g.node? label = some n ∧ n.isEnd = false ∧ n.executor = x) ∨
      ∃ kind name, label = HookKind.label kind name ∧ (name, x) ∈ g.hooks kind
  | finished code => ∃ name n, g.node? name = some n ∧ n.isEnd = true ∧ n.code.getD 0 = code

def Arise (g : Graph) (es : Progress → List Event) : Prop := ∀ p, ∀ e ∈ es p, e.Of g

section

variable {s : Setup} {g : Graph} {α : Type} {m : Act Progress α} {es : Progress → List Event}
  {later : α → Progress → List Event}

theorem arise_nil : Arise g fun _ ↦ [] := fun _ _ he ↦ nomatch he

theorem arise_next (h : ∀ a, Arise g (later a)) : Arise g (m.next later) := by
  intro p e he
  unfold next at he
  split at he
  · exact h _ _ e he
  · cases he

theorem Arise.append (h : Arise g es) (hlater : ∀ a, Arise g (later a)) :
    Arise g fun p ↦ es p ++ m.next later p := fun p ↦
  List.forall_mem_append.2 ⟨h p, arise_next hlater p⟩

theorem arise_onRun (xs : Journal → List Evaluation) : Arise g (onRun xs) := by
  intro p e he
  obtain ⟨x, -, rfl⟩ := List.mem_map.1 he
  trivial

theorem arise_prepare (r : Request) : Arise g (prepareEvents s r) := by
  have hheaders (hs : Headers) : Arise g (headersEvents s hs) := by
    induction hs with
    | nil => exact arise_nil
    | cons h hs ih => exact (arise_onRun _).append fun _ ↦ ih
  exact (arise_onRun _).append fun _ ↦ (arise_onRun _).append fun _ ↦ hheaders _

theorem arise_executor {x : Executor} {label : String}
    (h : ∀ outcome, (Event.performed label x outcome).Of g) :
    Arise g (executorEvents s x label) := by
  intro p
  refine List.forall_mem_append.2 ⟨?_, List.forall_mem_singleton.2 (h _)⟩
  cases x with
  | http r => exact arise_prepare r p
  | sleep | none | stop => exact arise_nil p

theorem arise_hooks (kind : HookKind) : Arise g (hooksEvents s kind (g.hooks kind)) := by
  have heach (hooks : List (String × Executor)) (hsub : ∀ h ∈ hooks, h ∈ g.hooks kind) :
      Arise g (eachHookEvents s kind hooks) := by
    induction hooks with
    | nil => exact arise_nil
    | cons h hooks ih =>
      obtain ⟨hh, hhooks⟩ := List.forall_mem_cons.1 hsub
      refine Arise.append (arise_next fun _ ↦ arise_executor fun outcome ↦ ?_) fun _ ↦ ih hhooks
      exact .inr ⟨kind, h.1, rfl, hh⟩
  unfold hooksEvents
  split
  · exact arise_nil
  · exact arise_next fun _ ↦ heach _ fun h hh ↦ hh

theorem arise_targets (edges : List Edge) : Arise g (targetsEvents s g edges) := by
  have hfollow (e : Edge) : Arise g (followEvents s g e) := by
    unfold followEvents
    cases e.condition with
    | none => exact arise_nil
    | some c => exact (arise_hooks .all).append fun _ ↦ arise_onRun _
  induction edges with
  | nil => exact arise_nil
  | cons e edges ih => exact (hfollow e).append fun _ ↦ ih

theorem arise_visit (name : String) : Arise g (visitEvents s g name) := by
  intro p
  unfold visitEvents
  cases hn : g.node? name with
  | none => exact arise_nil p
  | some n =>
    dsimp only
    cases he : n.isEnd with
    | true => exact List.forall_mem_singleton.2 ⟨name, n, hn, he, rfl⟩
    | false =>
      refine Arise.append (arise_executor fun outcome ↦ .inl ⟨n, hn, he, rfl⟩) (fun _ q ↦ ?_) _
      split
      · exact arise_targets n.edges q
      · exact arise_nil q

theorem arise_loop (visits : ℕ) (agenda : List String) :
    Arise g (loopEvents s g visits agenda) := by
  induction visits generalizing agenda with
  | zero =>
    intro p
    unfold loopEvents
    split
    · exact arise_nil p
    · cases agenda <;> exact arise_nil p
  | succ visits ih =>
    intro p
    unfold loopEvents
    split
    · exact arise_nil p
    · cases agenda with
      | nil => exact arise_nil p
      | cons name rest =>
        refine (arise_visit name).append (fun ts? ↦ ?_) p
        cases ts? with
        | none => exact arise_nil
        | some ts => exact ih (ts ++ rest)

theorem arise_events (visits : ℕ) (start : Option String) : Arise g (events s g visits start) :=
  fun _ ↦ List.forall_mem_append.2 ⟨arise_hooks .start _, arise_loop visits _ _⟩

end

end Run

end Flowgraph
