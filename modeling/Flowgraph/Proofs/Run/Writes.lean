import Flowgraph.Proofs.Run.Events
import Flowgraph.Proofs.Value.Unmarked

namespace Flowgraph

namespace Value

mutual

theorem unmarked_raise (step : ℕ) (v : Value) : (v.raise step).unmarked = v.unmarked := by
  match v with
  | .tuple vs => exact congrArg tuple (unmarkedItems_raiseItems step vs)
  | .list m vs => exact congrArg (list 0) (unmarkedItems_raiseItems step vs)
  | .mapping m es => exact congrArg (mapping 0) (unmarkedEntries_raiseEntries step es)
  | .set m ks | .view kind m es => rfl
  | .undefined | .null | .bool _ | .int _ | .float _ | .str _ | .bytes _ | .stamp _ => rfl
termination_by structural v

theorem unmarkedItems_raiseItems (step : ℕ) (vs : List Value) :
    unmarkedItems (raiseItems step vs) = unmarkedItems vs := by
  match vs with
  | [] => rfl
  | v :: vs => exact congrArg₂ _ (unmarked_raise step v) (unmarkedItems_raiseItems step vs)
termination_by structural vs

theorem unmarkedEntries_raiseEntries (step : ℕ) (es : List (Key × Value)) :
    unmarkedEntries (raiseEntries step es) = unmarkedEntries es := by
  match es with
  | [] => rfl
  | (k, v) :: es =>
    exact congrArg₂ (fun w fs ↦ (k, w) :: fs) (unmarked_raise step v)
      (unmarkedEntries_raiseEntries step es)
termination_by structural es

end

end Value

namespace Run

open Act

def evaluations (es : List Event) : List Evaluation := es.filterMap Event.evaluation?

def writes (es : List Event) : List (String × Value) := es.filterMap Event.write?

theorem state_foldl_apply {es : List Event}
    (h : ∀ x ∈ evaluations es, x.calls Expr.anyMethod = false) (t : Standing) :
    (es.foldl Event.apply t).state = (writes es).foldl (fun s w ↦ s.set w.1 w.2) t.state := by
  induction es generalizing t with
  | nil => rfl
  | cons e es ih =>
    have hes : ∀ x ∈ evaluations es, x.calls Expr.anyMethod = false := by
      intro x hx
      obtain ⟨e', he', hx⟩ := List.mem_filterMap.1 hx
      exact h x (List.mem_filterMap.2 ⟨e', List.mem_cons_of_mem _ he', hx⟩)
    rw [List.foldl_cons, ih hes, writes, writes, List.filterMap_cons]
    cases e with
    | evaluated x =>
      have hx := h x (List.mem_filterMap.2 ⟨.evaluated x, List.mem_cons_self, rfl⟩)
      change List.foldl _ (Evaluation.change t.state x) _ = _
      rw [Evaluation.change_of_calls (Expr.countsMutation_anyMethod _) hx]
      rfl
    | performed label x outcome =>
      change List.foldl _ ((Event.write? (.performed label x outcome)).elim _ _) _ = _
      cases Event.write? (.performed label x outcome) with
      | none => rfl
      | some w => rfl
    | finished code => rfl

/-- What is found under a name after some writes: the value that was written last, or what was there
before. -/
def valueAfter (ws : List (String × Value)) (before : Value) (name : String) : Value :=
  ws.foldl (fun v w ↦ if w.1 = name then w.2 else v) before

theorem unmarked_get_foldl_set (ws : List (String × Value)) (t : State) (name : String) {v : Value}
    (hv : (t.get name).unmarked = v.unmarked) :
    ((ws.foldl (fun t w ↦ t.set w.1 w.2) t).get name).unmarked = (valueAfter ws v name).unmarked := by
  induction ws generalizing t v with
  | nil => exact hv
  | cons w ws ih =>
    refine ih (t.set w.1 w.2) ?_
    change _ = (if w.1 = name then w.2 else v).unmarked
    split_ifs with hname
    · rw [← hname, State.unmarked_get_set]
    · rw [State.get_set_of_ne _ (Ne.symm hname), hv]

def given (g : Graph) (name : String) : Value :=
  if name = "var" then .mapping 0 g.vars else Entries.get g.initialState (.str name)

theorem unmarked_get_initialState (g : Graph) (name : String) :
    ((initialState g).get name).unmarked = (given g name).unmarked := by
  rw [initialState, State.unmarked_get_ofEntries, given, Entries.get]
  split_ifs with hname
  · rw [hname, Entries.get?_insert_self]
    exact congrArg (Value.mapping 0) (Value.unmarkedEntries_raiseEntries _ _)
  · rw [Entries.get?_insert_of_ne hname]
    rfl

theorem logBlind_replies : LogBlind Progress.replies := fun _ _ _ ↦ rfl

section

variable {s : Setup} {r : Request} {o : Outgoing} {label body : String} {status : Int} {v : Value}
  {p q : Progress}

/-- What has nothing to do with the journal stays as it is. -/
theorem keeps_interpolateHeaders {τ : Type} {view : Progress → τ}
    (hview : ∀ p j, view { p with journal := j } = view p) (hs : Headers) :
    Keeps view (interpolateHeaders s hs) := by
  have hjournal {α : Type} (m : Act Journal α) : Keeps view (onJournal m) := fun p ↦ hview p _
  induction hs with
  | nil => exact keeps_pure []
  | cons h hs ih => exact (hjournal _).bind fun v ↦ ih.map

theorem keeps_replies_prepare (r : Request) : Keeps Progress.replies (prepare s r) := by
  have hjournal {α : Type} (m : Act Journal α) : Keeps Progress.replies (onJournal m) := fun _ ↦ rfl
  refine (hjournal _).bind fun url ↦ (hjournal _).bind fun body ↦
    (keeps_interpolateHeaders (fun _ _ ↦ rfl) _).bind fun headers ↦ ?_
  dsimp only
  split_ifs
  · cases Json.writeText .request body with
    | ok text => exact keeps_pure _
    | error e => exact keeps_fail _
  · exact keeps_pure _

/-- A response comes from the next reply, which is used up. -/
theorem reply_of_send (h : send s o p = (.ok (.received status body), q)) :
    ∃ stops, p.replies = ⟨.received status body, stops⟩ :: q.replies := by
  obtain ⟨⟨⟩, p₁, hsent, h⟩ := bind_eq_ok.1 h
  obtain ⟨reply, p₂, hreply, h⟩ := bind_eq_ok.1 h
  obtain ⟨⟨⟩, p₃, hheed, h⟩ := bind_eq_ok.1 h
  obtain ⟨hok, rfl⟩ := Prod.mk.inj h
  have hresponse : reply.response = .received status body := Except.ok.inj hok
  have hkept : p₃.replies = p₂.replies := by
    unfold heed at hheed
    split at hheed <;> cases hheed <;> rfl
  cases hsent
  unfold nextReply at hreply
  split at hreply
  · next first rest hreplies =>
    cases hreply
    rw [← hresponse, hkept]
    exact ⟨reply.stops, hreplies⟩
  · cases hreply
    cases hresponse

theorem readBody_of_receive (h : receive s o label status body p = (.ok v, q)) :
    readBody s.room body = .ok v := by
  obtain ⟨⟨⟩, p₁, -, h⟩ := bind_eq_ok.1 h
  cases hbody : readBody s.room body with
  | ok w =>
    rw [hbody] at h
    cases h
    rfl
  | error e =>
    rw [hbody] at h
    cases e with
    | empty => cases h
    | json e =>
      obtain ⟨kind, position⟩ := e
      cases kind <;> cases h

theorem keeps_replies_store (r : Request) (v : Value) : Keeps Progress.replies (store r v) := by
  unfold store
  split
  · split
    · exact keeps_pure ()
    · exact fun _ ↦ rfl
  · exact keeps_pure ()

theorem guarded_eq_ok {type : String} {m : Act Progress Value}
    (h : guarded type label m p = (.ok v, q)) : m p = (.ok v, q) := by
  unfold guarded at h
  rcases hp : m p with ⟨f | w, p'⟩
  · rw [bind_of_ok (attempt_eq hp)] at h
    dsimp only at h
    cases hf : f.expression? <;> rw [hf] at h <;> cases h
  · rw [bind_of_ok (attempt_eq hp)] at h
    exact h

/-- A request succeeds only with the value that the body of the next reply decodes to. -/
theorem reply_of_runExecutor (h : runExecutor s (.http r) label p = (.ok v, q)) :
    ∃ status body stops, p.replies = ⟨.received status body, stops⟩ :: q.replies ∧
      readBody s.room body = .ok v := by
  obtain ⟨o, p₁, hprepare, h⟩ := bind_eq_ok.1 (guarded_eq_ok h)
  obtain ⟨⟨⟩, p₂, htrace, h⟩ := bind_eq_ok.1 h
  obtain ⟨⟨⟩, p₃, hbody, h⟩ := bind_eq_ok.1 h
  obtain ⟨response, p₄, hsend, h⟩ := bind_eq_ok.1 h
  have hbefore : p₃.replies = p.replies := by
    have hp₁ := (keeps_replies_prepare r).rel hprepare
    cases htrace
    exact ((logBlind_replies.traceBody o label).rel hbody).trans hp₁
  cases response with
  | timedOut | refused | failed => cases h
  | received status body =>
    obtain ⟨w, p₅, hreceive, h⟩ := bind_eq_ok.1 h
    obtain ⟨text, p₆, htext, h⟩ := bind_eq_ok.1 h
    obtain ⟨⟨⟩, p₇, htrace, h⟩ := bind_eq_ok.1 h
    obtain ⟨⟨⟩, p₈, hstore, h⟩ := bind_eq_ok.1 h
    cases h
    have hafter : q.replies = p₄.replies := by
      have hp₅ := (logBlind_replies.receive o label status body).rel hreceive
      have hp₆ := Within.rel (R := fun s t ↦ s = t) (fun _ ↦ rfl) htext
      have hq := (keeps_replies_store r v).rel hstore
      cases htrace
      rw [← hp₅, hp₆]
      exact hq
    obtain ⟨stops, hreply⟩ := reply_of_send hsend
    rw [hbefore, ← hafter] at hreply
    exact ⟨status, body, stops, hreply, readBody_of_receive hreceive⟩

end

/-- A run in which no expression calls a native method, however it comes out, leaves the state that it
began with, but for the entries that its requests wrote, in order: under each name there is what was
written last, or else what the graph gives. A result has that state. Each request that succeeds does so
with the value that the next reply decodes to, and all that happens comes from a node or a hook of the
graph. -/
theorem execute_state (s : Setup) (g : Graph) (visits : ℕ) (start : Option String)
    (replies : List Reply) (signals : List Bool)
    (hnative : ∀ x ∈ evaluations (events s g visits start (.ofGraph g replies signals)),
      x.calls Expr.anyMethod = false) :
    (execute s g visits start (.ofGraph g replies signals)).2.journal.state =
      (writes (events s g visits start (.ofGraph g replies signals))).foldl (fun t w ↦ t.set w.1 w.2)
        (initialState g) ∧
    (∀ name, ((execute s g visits start (.ofGraph g replies signals)).2.journal.state.get name).unmarked =
      (valueAfter (writes (events s g visits start (.ofGraph g replies signals))) (given g name)
        name).unmarked) ∧
    (∀ r, (execute s g visits start (.ofGraph g replies signals)).1 = .ok (some r) →
      r.state = (execute s g visits start (.ofGraph g replies signals)).2.journal.state.toValue) ∧
    (∀ e ∈ events s g visits start (.ofGraph g replies signals), e.Of g) ∧
    ∀ r label p v q, runExecutor s (.http r) label p = (.ok v, q) →
      ∃ status body stops, p.replies = ⟨.received status body, stops⟩ :: q.replies ∧
        readBody s.room body = .ok v := by
  have hmakes := makes_execute s g visits start (.ofGraph g replies signals)
  have hstate := congrArg Standing.state hmakes
  rw [state_foldl_apply hnative] at hstate
  refine ⟨hstate, fun name ↦ ?_, fun r h ↦ (standing_of_result h).2, arise_events visits start _,
    fun r label p v q h ↦ reply_of_runExecutor h⟩
  exact (congrArg (fun t ↦ (State.get t name).unmarked) hstate).trans
    (unmarked_get_foldl_set _ _ name (unmarked_get_initialState g name))

/-- A graph whose request fills in an item of the state, with a hook whose request is refused. -/
def errand : Graph where
  initialState := [(.str "pets", .list 1 [.str "cat"])]
  before := { start := [("late", .http ⟨"GET", "/late", .null, some "late", []⟩)] }
  nodes := [("start",
    { executor := .http ⟨"GET", "/\x7b\x7bpets.first\x7d\x7d", .null, some "pet", []⟩ })]

def answered : Progress := .ofGraph errand [⟨.timedOut, false⟩, ⟨.received 200 "7", false⟩] []

theorem execute_errand_state :
    (evaluations (events bare errand 9 (some "start") answered)).map (·.source) = ["pets.first"] ∧
    (∀ x ∈ evaluations (events bare errand 9 (some "start") answered),
      x.calls Expr.anyMethod = false) ∧
    ((execute bare errand 9 (some "start") answered).2.journal.state.get "pet").strictEqual
      (.int 7) = true ∧
    ((execute bare errand 9 (some "start") answered).2.journal.state.get "late").strictEqual
      .undefined = true := by
  have hnative : ∀ x ∈ evaluations (events bare errand 9 (some "start") answered),
      x.calls Expr.anyMethod = false := by decide +kernel
  obtain ⟨-, hfound, -⟩ := execute_state bare errand 9 (some "start")
    [⟨.timedOut, false⟩, ⟨.received 200 "7", false⟩] [] hnative
  have hseen (name : String) (v : Value)
      (h : (valueAfter (writes (events bare errand 9 (some "start") answered)) (given errand name)
        name).strictEqual v = true) :
      ((execute bare errand 9 (some "start") answered).2.journal.state.get name).strictEqual v =
        true := by
    rw [← Value.strictEqual_unmarked] at h ⊢
    rwa [answered, hfound name]
  exact ⟨by decide +kernel, hnative, hseen "pet" (.int 7) (by decide +kernel),
    hseen "late" .undefined (by decide +kernel)⟩

end Run

end Flowgraph
