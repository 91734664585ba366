import Flowgraph.Proofs.Json.Carrying
import Flowgraph.Proofs.Run.Headers
import Flowgraph.Proofs.Run.Writes

namespace Flowgraph

open Act

namespace Template

variable {source : Source}

mutual

/-- Interpolation makes new lists and mappings, and JSON carries them as they are. -/
theorem yields_interpolateValue (v : Value) (hv : v.isTupleFree = true) :
    (interpolateValue source v).Yields (fun w ↦ w.carried = w) fun _ ↦ True := by
  match v with
  | .str s => exact failsOnly_true.bind fun text ↦ yields_pure rfl
  | .list m vs =>
    exact (yields_interpolateItems vs hv).bind fun ws hws ↦ yields_pure (Value.carried_ofList hws)
  | .mapping m es =>
    refine (yields_interpolateEntries [] es hv ⟨⟨List.forall_mem_nil _, .nil⟩,
      List.forall_mem_nil _⟩).bind fun fs hfs ↦ yields_pure ?_
    exact Value.carried_ofEntries hfs.1 hfs.2
  | .tuple vs => cases hv
  | .undefined | .null | .bool b | .int i | .float x | .bytes o | .stamp d | .set _ ks
  | .view k m es => exact yields_pure rfl
termination_by structural v

theorem yields_interpolateItems (vs : List Value) (hvs : Value.areTupleFree vs = true) :
    (interpolateItems source vs).Yields (fun ws ↦ Value.carriedItems ws = ws) fun _ ↦ True := by
  match vs with
  | [] => exact yields_pure rfl
  | v :: vs =>
    obtain ⟨hv, hvs⟩ := Bool.and_eq_true_iff.1 hvs
    exact (yields_interpolateValue v hv).bind fun w hw ↦
      (yields_interpolateItems vs hvs).bind fun ws hws ↦ yields_pure (congrArg₂ List.cons hw hws)
termination_by structural vs

theorem yields_interpolateEntries (done : Entries) (es : List (Key × Value))
    (hes : Value.areMembersTupleFree es = true)
    (hdone : done.ByText ∧ ∀ e ∈ done, e.2.carried = e.2) :
    (interpolateEntries source done es).Yields
      (fun fs ↦ fs.ByText ∧ ∀ e ∈ fs, e.2.carried = e.2) fun _ ↦ True := by
  match es with
  | [] => exact yields_pure hdone
  | (k, v) :: es =>
    obtain ⟨hv, hes⟩ := Bool.and_eq_true_iff.1 hes
    refine failsOnly_true.bind fun key ↦ failsOnly_true.bind fun name ↦
      (yields_interpolateValue v hv).bind fun w hw ↦ yields_interpolateEntries _ es hes ?_
    have hvalues := Entries.forall_insert (P := fun _ ↦ True) (Q := fun v ↦ v.carried = v)
      (k := .str name) (fun e he ↦ ⟨trivial, hdone.2 e he⟩) trivial hw
    -- A name that is there already keeps its place, so the names stay different.
    exact ⟨hdone.1.insert name w, fun e he ↦ (hvalues e he).2⟩
termination_by structural es

end

end Template

namespace Run

structure Filled where
  url : String
  body : Value
  headers : Headers

def fill (s : Setup) (r : Request) : Act Progress Filled := do
  let url ← onJournal (Template.interpolate s.source (s.options.baseUrl ++ r.endpoint))
  let body ← onJournal (Template.interpolateValue s.source r.body)
  let headers ← interpolateHeaders s
    (joinHeaders s.options.headers r.headers !(r.body matches .null))
  return ⟨url, body, headers⟩

def pack (s : Setup) (r : Request) (f : Filled) : Act Progress Outgoing :=
  let request (body : Option String) : Outgoing :=
    ⟨r.method, f.url, f.headers, body, s.settings.timeout⟩
  if r.body matches .null then pure (request none)
  else match Json.writeText .request f.body with
    | .ok text => pure (request (some text))
    | .error e => Act.fail (.http r.method f.url
        ("Request body is not JSON serializable: " ++ e.message) none)

variable {s : Setup} {r : Request} {f : Filled} {o : Outgoing} {label : String} {p q : Progress}
  {v : Value}

theorem prepare_of_fill (h : fill s r p = (.ok f, q)) : prepare s r p = pack s r f q := by
  obtain ⟨url, p₁, hurl, h⟩ := bind_eq_ok.1 h
  obtain ⟨body, p₂, hbody, h⟩ := bind_eq_ok.1 h
  obtain ⟨headers, p₃, hheaders, h⟩ := bind_eq_ok.1 h
  cases h
  refine (bind_of_ok hurl).trans ((bind_of_ok hbody).trans ((bind_of_ok hheaders).trans ?_))
  unfold pack
  cases r.body <;> rfl

theorem yields_interpolateHeaders (hs : Headers) :
    (interpolateHeaders s hs).Yields (fun ws ↦ ws.map (·.1) = hs.map (·.1)) fun _ ↦ True := by
  induction hs with
  | nil => exact yields_pure rfl
  | cons h hs ih =>
    exact failsOnly_true.bind fun text ↦ ih.bind fun ws hws ↦
      yields_pure (congrArg (h.1 :: ·) hws)

/-- Filling in changes no name of a header, and brings in no body. -/
theorem fill_spec (h : fill s r p = (.ok f, q)) :
    f.headers.map (·.1) =
      (joinHeaders s.options.headers r.headers !(r.body matches .null)).map (·.1) ∧
    ∃ j k, Template.interpolateValue s.source r.body j = (.ok f.body, k) := by
  obtain ⟨url, p₁, hurl, h⟩ := bind_eq_ok.1 h
  obtain ⟨body, p₂, hbody, h⟩ := bind_eq_ok.1 h
  obtain ⟨headers, p₃, hheaders, h⟩ := bind_eq_ok.1 h
  cases h
  have hvalue : (Template.interpolateValue s.source r.body p₁.journal).1 = .ok body :=
    congrArg Prod.fst hbody
  exact ⟨(yields_interpolateHeaders _).ok hheaders, p₁.journal, _, Prod.ext hvalue rfl⟩

theorem exists_contentType_of_fill (h : fill s r p = (.ok f, q)) :
    (∃ h ∈ f.headers, isContentType h.1 = true) ↔ r.body ≠ .null := by
  have hnames (hs : Headers) : (∃ h ∈ hs, isContentType h.1 = true) ↔
      ∃ name ∈ hs.map (·.1), isContentType name = true := by simp
  rw [hnames, (fill_spec h).1, ← hnames, exists_contentType_iff]
  cases r.body <;> simp

def Decodes (text : String) (v : Value) : Prop :=
  ∃ enough, ∀ room, enough ≤ room → Json.read room text.toList = .ok v

/-- A request goes out as it has been filled in. If it has a body, its headers tell the type and its
text decodes to the body as JSON carries it; if it has none, they tell no type and there is no text. -/
structure GoesOut (s : Setup) (r : Request) (f : Filled) (o : Outgoing) : Prop where
  method : o.method = r.method
  url : o.url = f.url
  headers : o.headers = f.headers
  timeout : o.timeout = s.settings.timeout
  bare : r.body = .null → o.body = none ∧ ∀ h ∈ o.headers, isContentType h.1 = false
  laden : r.body ≠ .null → (∃ h ∈ o.headers, isContentType h.1 = true) ∧
    ∃ text, o.body = some text ∧ (f.body.isFloatFree = true → Decodes text f.body.carried)

theorem matches_null_iff : (r.body matches .null) = true ↔ r.body = .null := by
  cases r.body <;> simp

theorem exists_pack_of_isSendable (h : fill s r p = (.ok f, q)) (hf : f.body.isSendable = true) :
    ∃ o, pack s r f q = (.ok o, q) ∧ GoesOut s r f o := by
  have htype := exists_contentType_of_fill h
  unfold pack
  by_cases hnull : r.body = .null
  · rw [if_pos (matches_null_iff.2 hnull)]
    refine ⟨_, rfl, rfl, rfl, rfl, rfl, fun _ ↦ ⟨rfl, fun h hh ↦ ?_⟩, fun hne ↦ absurd hnull hne⟩
    exact Bool.eq_false_iff.2 fun hh' ↦ htype.1 ⟨h, hh, hh'⟩ hnull
  · rw [if_neg (mt matches_null_iff.1 hnull)]
    obtain ⟨text, htext⟩ := Json.exists_writeText_eq_ok hf
    rw [htext]
    refine ⟨_, rfl, rfl, rfl, rfl, rfl, fun h ↦ absurd h hnull, fun _ ↦ ⟨htype.2 hnull, text, rfl,
      fun hfree ↦ ?_⟩⟩
    obtain ⟨text', enough, htext', hread⟩ := Json.exists_read_writeText hf hfree
    obtain rfl : text = text' := Except.ok.inj (htext.symm.trans htext')
    exact ⟨enough, hread⟩

theorem exists_pack_of_not_isSendable (h : fill s r p = (.ok f, q))
    (hf : f.body.isSendable = false) : ∃ e, Json.writeText .request f.body = .error e ∧
      pack s r f q = (.error (.http r.method f.url
        ("Request body is not JSON serializable: " ++ e.message) none), q) := by
  have hnull : r.body ≠ .null := by
    intro hnull
    obtain ⟨-, j, k, hbody⟩ := fill_spec h
    rw [hnull] at hbody
    obtain ⟨hbody, -⟩ := Prod.mk.inj hbody
    rw [← Except.ok.inj hbody] at hf
    cases hf
  obtain ⟨e, htext⟩ := Json.exists_writeText_eq_error hf
  unfold pack
  rw [if_neg (mt matches_null_iff.1 hnull), htext]
  exact ⟨e, rfl, rfl⟩

def nextResponse (p : Progress) : Response :=
  match p.replies with
  | reply :: _ => reply.response
  | [] => .refused "no response left"

theorem nextReply_spec (p : Progress) : ∃ reply,
    nextReply p = (.ok reply, { p with replies := p.replies.tail }) ∧
      reply.response = nextResponse p := by
  obtain ⟨journal, exitCode, running, executed, replies, requests, pauses⟩ := p
  cases replies <;> exact ⟨_, rfl, rfl⟩

theorem send_spec (o : Outgoing) (p : Progress) :
    ∃ q, send s o p = (.ok (nextResponse p), q) ∧ q.requests = p.requests ++ [o] := by
  obtain ⟨reply, hnext, hresponse⟩ := nextReply_spec { p with requests := p.requests ++ [o] }
  have hheed (p : Progress) : ∃ q, heed s reply.stops p = (.ok (), q) ∧ q.requests = p.requests := by
    unfold heed
    split <;> exact ⟨_, rfl, rfl⟩
  obtain ⟨q, hheed, hrequests⟩ := hheed { p with requests := p.requests ++ [o], replies := p.replies.tail }
  refine ⟨q, (bind_of_ok rfl).trans ((bind_of_ok hnext).trans ((bind_of_ok hheed).trans ?_)),
    hrequests⟩
  rw [hresponse]
  rfl

def answer (s : Setup) (r : Request) (label : String) (o : Outgoing) : Response → Act Progress Value
  | .timedOut => Act.fail (.http o.method o.url
      ("Request timed out after " ++ Number.generalText s.settings.timeout ++ "s") none)
  | .refused message => Act.fail (.http o.method o.url ("Client error: " ++ message) none)
  | .failed report => Act.fail (.reported report)
  | .received status body => do
    let payload ← receive s o label status body
    trace s ("Response: " ++ (← payloadText payload)) [("node", .str label)]
    store r payload
    return payload

theorem deliver_eq (r : Request) (label : String) (o : Outgoing) : deliver s r label o = (do
    trace s ("HTTP " ++ o.method ++ " " ++ o.url) [("node", .str label)]
    traceBody s o label
    let response ← send s o
    answer s r label o response) := by
  unfold deliver
  refine congrArg (_ >>= ·) (funext fun _ ↦ congrArg (_ >>= ·) (funext fun _ ↦
    congrArg (_ >>= ·) (funext fun response ↦ ?_)))
  cases response <;> rfl

theorem receive_of_readBody {body : String} (h : readBody s.room body = .ok v) (o : Outgoing)
    (label : String) (status : Int) (p : Progress) :
    ∃ q, receive s o label status body p = (.ok v, q) := by
  have hnote : ∃ q, noteStatus o label status p = (.ok (), q) := by
    unfold noteStatus
    split <;> exact ⟨_, rfl⟩
  obtain ⟨q, hnote⟩ := hnote
  refine ⟨q, (bind_of_ok hnote).trans ?_⟩
  rw [h]
  rfl

theorem payloadText_of_readBody {room : ℕ} {body : String} (h : readBody room body = .ok v)
    (p : Progress) : ∃ text, payloadText v p = (.ok text, p) := by
  have hv : v.isSendable = true := by
    unfold readBody at h
    split at h
    · cases h
    · cases hread : Json.read room body.toList with
      | error e =>
        rw [hread] at h
        cases h
      | ok w =>
        rw [hread] at h
        cases h
        exact Json.isSendable_of_read hread
  obtain ⟨text, htext⟩ := Json.exists_writeText_eq_ok hv
  unfold payloadText
  rw [htext]
  exact ⟨text, rfl⟩

theorem answer_eq_ok_iff {response : Response} :
    (answer s r label o response p).1 = .ok v ↔
      ∃ status body, response = .received status body ∧ readBody s.room body = .ok v := by
  constructor
  · intro h
    rcases ho : answer s r label o response p with ⟨result, q⟩
    rw [ho] at h
    subst h
    cases response with
    | timedOut | refused | failed => cases ho
    | received status body =>
      obtain ⟨w, p₁, hreceive, h⟩ := bind_eq_ok.1 ho
      obtain ⟨text, p₂, -, h⟩ := bind_eq_ok.1 h
      obtain ⟨⟨⟩, p₃, -, h⟩ := bind_eq_ok.1 h
      obtain ⟨⟨⟩, p₄, -, h⟩ := bind_eq_ok.1 h
      cases h
      exact ⟨status, body, rfl, readBody_of_receive hreceive⟩
  · rintro ⟨status, body, rfl, hbody⟩
    -- What has been decoded has a text, so that nothing fails after the response has been taken in.
    obtain ⟨p₁, hreceive⟩ := receive_of_readBody hbody o label status p
    obtain ⟨text, htext⟩ := payloadText_of_readBody hbody p₁
    rw [answer, bind_of_ok hreceive, bind_of_ok htext]
    exact congrArg Prod.fst (bind_of_ok (store_eq r label v _))

theorem keeps_answer (response : Response) :
    Keeps Progress.requests (answer s r label o response) := by
  have hview : LogBlind Progress.requests := fun _ _ _ ↦ rfl
  cases response with
  | timedOut | refused | failed => exact keeps_fail _
  | received status body =>
    refine (hview.receive o label status body).bind fun v ↦ (keeps_ofExcept _).bind fun text ↦
      (hview.trace _ _).bind fun _ ↦ Keeps.bind (fun p ↦ ?_) fun _ ↦ keeps_pure v
    rw [store_eq r label v p]

/-- A request that is sent is sent once, and succeeds just where the response decodes. -/
theorem deliver_spec (r : Request) (label : String) (o : Outgoing) (p : Progress) :
    (deliver s r label o p).2.requests = p.requests ++ [o] ∧
      ∀ v, (deliver s r label o p).1 = .ok v ↔
        ∃ status body, nextResponse p = .received status body ∧ readBody s.room body = .ok v := by
  have hbody (p : Progress) : ∃ q, traceBody s o label p = (.ok (), q) ∧
      q.requests = p.requests ∧ q.replies = p.replies := by
    unfold traceBody
    cases o.body <;> exact ⟨_, rfl, rfl, rfl⟩
  obtain ⟨p₁, hbody, hrequests, hreplies⟩ := hbody
    (trace s ("HTTP " ++ o.method ++ " " ++ o.url) [("node", .str label)] p).2
  obtain ⟨p₂, hsend, hsent⟩ := send_spec (s := s) o p₁
  have hanswer : deliver s r label o p = answer s r label o (nextResponse p) p₂ := by
    have hnext : nextResponse p = nextResponse p₁ := by
      unfold nextResponse
      rw [hreplies]
      rfl
    rw [deliver_eq, hnext]
    exact (bind_of_ok rfl).trans ((bind_of_ok hbody).trans (bind_of_ok hsend))
  rw [hanswer]
  refine ⟨?_, fun v ↦ answer_eq_ok_iff⟩
  rw [keeps_answer _ p₂, hsent, hrequests]
  rfl

theorem keeps_fill {τ : Type} {view : Progress → τ}
    (hview : ∀ p j, view { p with journal := j } = view p) : Keeps view (fill s r) := by
  have hjournal {α : Type} (m : Act Journal α) : Keeps view (onJournal m) := fun p ↦ hview p _
  exact (hjournal _).bind fun url ↦ (hjournal _).bind fun body ↦
    (keeps_interpolateHeaders hview _).map

theorem evaluated_of_mem_prepareEvents {e : Event} (he : e ∈ prepareEvents s r p) :
    ∃ x, e = .evaluated x := by
  have hrun {xs : Journal → List Evaluation} {p : Progress} (he : e ∈ onRun xs p) :
      ∃ x, e = .evaluated x := by
    obtain ⟨x, -, rfl⟩ := List.mem_map.1 he
    exact ⟨x, rfl⟩
  have hheaders {hs : Headers} {p : Progress} (he : e ∈ headersEvents s hs p) :
      ∃ x, e = .evaluated x := by
    induction hs generalizing p with
    | nil => cases he
    | cons h hs ih =>
      obtain he | he := List.mem_append.1 he
      · exact hrun he
      · obtain ⟨text, q, -, he⟩ := exists_of_mem_next he
        exact ih he
  obtain he | he := List.mem_append.1 he
  · exact hrun he
  · obtain ⟨url, q, -, he⟩ := exists_of_mem_next he
    obtain he | he := List.mem_append.1 he
    · exact hrun he
    · obtain ⟨body, q', -, he⟩ := exists_of_mem_next he
      exact hheaders he

theorem standing_prepare
    (h : ∀ x ∈ evaluations (prepareEvents s r p), x.calls Expr.anyMethod = false) :
    (prepare s r p).2.standing = p.standing := by
  have hstays (es : List Event) (hes : ∀ e ∈ es, ∃ x, e = .evaluated x)
      (h : ∀ x ∈ evaluations es, x.calls Expr.anyMethod = false) (t : Standing) :
      es.foldl Event.apply t = t := by
    induction es with
    | nil => rfl
    | cons e es ih =>
      obtain ⟨⟨x, rfl⟩, hrest⟩ := List.forall_mem_cons.1 hes
      obtain ⟨hx, h⟩ := List.forall_mem_cons.1 h
      have happly : Event.apply t (.evaluated x) = t :=
        congrArg (Standing.mk · t.exitCode t.pauses)
          (Evaluation.change_of_calls (Expr.countsMutation_anyMethod _) hx t.state)
      rw [List.foldl_cons, happly]
      exact ih hrest h
  rw [makes_prepare r p]
  exact hstays _ (fun _ ↦ evaluated_of_mem_prepareEvents) h _

/-- The payload of a response is put into the run state under the name that the request gives, if that
is not empty; it is found there, and everything else as before. -/
structure Stored (r : Request) (payload : Value) (before after : State) : Prop where
  under : ∀ name, r.mutate = some name → name ≠ "" → after = before.set name payload
  found : ∀ name, r.mutate = some name → name ≠ "" →
    (after.get name).unmarked = payload.unmarked ∧ ∀ n ≠ name, after.get n = before.get n
  nowhere : (∀ name, r.mutate = some name → name = "") → after = before

theorem stored_change (r : Request) (label : String) (v : Value) (t : State) :
    Stored r v t (Event.change t (.performed label (.http r) (.ok v))) := by
  obtain ⟨method, endpoint, body, mutate, headers⟩ := r
  cases mutate with
  | none => exact ⟨nofun, nofun, fun _ ↦ rfl⟩
  | some name =>
    have hset (hname : name ≠ "") : Event.change t
        (.performed label (.http ⟨method, endpoint, body, some name, headers⟩) (.ok v)) =
          t.set name v := by simp [Event.change, Event.write?, hname]
    constructor
    · rintro _ ⟨⟩ hname
      exact hset hname
    · rintro _ ⟨⟩ hname
      rw [hset hname]
      exact ⟨State.unmarked_get_set v, fun n hn ↦ State.get_set_of_ne v hn⟩
    · intro hname
      obtain rfl := hname name rfl
      rfl

theorem nextResponse_eq_received_iff {status : Int} {body : String} :
    nextResponse p = .received status body ↔
      ∃ stops rest, p.replies = ⟨.received status body, stops⟩ :: rest := by
  unfold nextResponse
  rcases p.replies with _ | ⟨⟨response, stops⟩, rest⟩ <;> simp

/-- A request whose placeholders have been filled in, by expressions that call no native method, is sent
just where its body is a value that JSON carries, and then once; otherwise it fails for that reason. A body
without tuples is carried as it is. A failure, at whatever point, leaves the run state and the exit code
as they were. The request succeeds just where it is sent and the next reply is a response whose body
decodes, of whatever status: then the payload is put into the state, and nothing else. -/
theorem runRequest_atomic (hfill : fill s r p = (.ok f, q))
    (hnative : ∀ x ∈ evaluations (prepareEvents s r p), x.calls Expr.anyMethod = false)
    (label : String) :
    (f.body.isSendable = false → ∃ e, Json.writeText .request f.body = .error e ∧
      (runRequest s r label p).1 = .error (.http r.method f.url
        ("Request body is not JSON serializable: " ++ e.message) none) ∧
      (runRequest s r label p).2.requests = p.requests) ∧
    (f.body.isSendable = true → ∃ o, GoesOut s r f o ∧
      (runRequest s r label p).2.requests = p.requests ++ [o]) ∧
    (r.body.isTupleFree = true → f.body.carried = f.body) ∧
    (∀ e, (runRequest s r label p).1 = .error e →
      (runRequest s r label p).2.standing = p.standing) ∧
    ∀ v, ((runRequest s r label p).1 = .ok v ↔ f.body.isSendable = true ∧
        ∃ status body stops rest, p.replies = ⟨.received status body, stops⟩ :: rest ∧
          readBody s.room body = .ok v) ∧
      ((runRequest s r label p).1 = .ok v →
        (runRequest s r label p).2.exitCode = p.exitCode ∧
        Stored r v p.journal.state (runRequest s r label p).2.journal.state) := by
  have hprepare := prepare_of_fill hfill
  have hrequests : q.requests = p.requests := (keeps_fill fun _ _ ↦ rfl).rel hfill
  have hreplies : q.replies = p.replies := (keeps_fill fun _ _ ↦ rfl).rel hfill
  -- Making the request ready has evaluated expressions and nothing else, and these change nothing.
  have hstanding := standing_prepare hnative
  have hcarried (hr : r.body.isTupleFree = true) : f.body.carried = f.body := by
    obtain ⟨-, j, k, hbody⟩ := fill_spec hfill
    exact (Template.yields_interpolateValue r.body hr).ok hbody
  cases hf : f.body.isSendable with
  | false =>
    obtain ⟨e, htext, hpack⟩ := exists_pack_of_not_isSendable hfill hf
    rw [hpack] at hprepare
    rw [hprepare] at hstanding
    rw [runRequest_eq, bind_of_error hprepare]
    exact ⟨fun _ ↦ ⟨e, htext, rfl, hrequests⟩, nofun, hcarried, fun _ _ ↦ hstanding,
      fun v ↦ ⟨⟨nofun, nofun⟩, nofun⟩⟩
  | true =>
    obtain ⟨o, hpack, ho⟩ := exists_pack_of_isSendable hfill hf
    rw [hpack] at hprepare
    rw [hprepare] at hstanding
    rw [runRequest_eq, bind_of_ok hprepare]
    obtain ⟨hsent, hok⟩ := deliver_spec (s := s) r label o q
    have hconcludes := concludes_deliver (s := s) r label o q
    refine ⟨nofun, fun _ ↦ ⟨o, ho, by rw [hsent, hrequests]⟩, hcarried, fun e he ↦ ?_, fun v ↦ ⟨?_,
      fun hv ↦ ?_⟩⟩
    · rw [he, apply_error label _ e _ (by rintro code ⟨⟩)] at hconcludes
      exact hconcludes.trans hstanding
    · rw [hok]
      simp only [nextResponse_eq_received_iff, hreplies, true_and, ← exists_and_right]
    · rw [hv, hstanding] at hconcludes
      refine ⟨congrArg Standing.exitCode hconcludes, ?_⟩
      have hstate : (deliver s r label o q).2.journal.state =
          Event.change p.journal.state (.performed label (.http r) (.ok v)) :=
        congrArg Standing.state hconcludes
      rw [hstate]
      exact stored_change r label v p.journal.state

def pairing : Request := ⟨"POST", "/x", .list 1 [.tuple [.str "a", .int 1]], some "out", []⟩

def awaiting : Progress where
  journal := { state := ⟨[], 1⟩ }
  replies := [⟨.received 500 "7", false⟩]

theorem exists_fill_pairing : ∃ f q, fill bare pairing awaiting = (.ok f, q) ∧
    f.body = .list 0 [.tuple [.str "a", .int 1]] := by
  have hok : (fill bare pairing awaiting).1.isOk = true := by decide +kernel
  rcases hfill : fill bare pairing awaiting with ⟨e | f, q⟩
  · rw [hfill] at hok
    cases hok
  · obtain ⟨-, j, k, hbody⟩ := fill_spec hfill
    exact ⟨f, q, rfl, (Except.ok.inj (Prod.mk.inj hbody).1).symm⟩

theorem runRequest_atomic_pairing : ∃ f q, fill bare pairing awaiting = (.ok f, q) ∧
    (∀ x ∈ evaluations (prepareEvents bare pairing awaiting), x.calls Expr.anyMethod = false) ∧
    (∃ o, GoesOut bare pairing f o ∧ (runRequest bare pairing "call" awaiting).2.requests = [o]) ∧
    (runRequest bare pairing "call" awaiting).1 = .ok (.int 7) ∧
    (runRequest bare pairing "call" awaiting).2.journal.state = State.set ⟨[], 1⟩ "out" (.int 7) := by
  obtain ⟨f, q, hfill, hbody⟩ := exists_fill_pairing
  have hnative : ∀ x ∈ evaluations (prepareEvents bare pairing awaiting),
      x.calls Expr.anyMethod = false := by decide +kernel
  obtain ⟨-, hsent, -, -, hok⟩ := runRequest_atomic hfill hnative "call"
  have hf : f.body.isSendable = true := by
    rw [hbody]
    rfl
  have hseven := (hok (.int 7)).1.2 ⟨hf, 500, "7", false, [], rfl, rfl⟩
  exact ⟨f, q, hfill, hnative, hsent hf, hseven, ((hok (.int 7)).2 hseven).2.under "out" rfl (by decide)⟩

theorem runRequest_pair : ∃ f q o text, fill bare pairing awaiting = (.ok f, q) ∧
    (∀ x ∈ evaluations (prepareEvents bare pairing awaiting), x.calls Expr.anyMethod = false) ∧
    f.body.isFloatFree = true ∧ (runRequest bare pairing "call" awaiting).2.requests = [o] ∧
    o.body = some text ∧ ¬ Decodes text f.body := by
  obtain ⟨f, q, hfill, hbody⟩ := exists_fill_pairing
  have hnative : ∀ x ∈ evaluations (prepareEvents bare pairing awaiting),
      x.calls Expr.anyMethod = false := by decide +kernel
  have hrequests : (runRequest bare pairing "call" awaiting).2.requests.map (·.body) =
      [some "[[\"a\", 1]]"] := by decide +kernel
  obtain ⟨o, hsent, hdata⟩ := List.map_eq_singleton_iff.1 hrequests
  refine ⟨f, q, o, _, hfill, hnative, by rw [hbody]; rfl, hsent, hdata, ?_⟩
  rintro ⟨enough, hread⟩
  obtain ⟨text, enough', htext, hread'⟩ := Json.exists_read_writeText
    (v := .list 0 [.tuple [.str "a", .int 1]]) rfl rfl
  obtain rfl : "[[\"a\", 1]]" = text := Except.ok.inj htext
  have heq := (hread _ (le_max_left enough enough')).symm.trans (hread' _ (le_max_right enough enough'))
  rw [hbody] at heq
  cases heq

end Run

end Flowgraph
