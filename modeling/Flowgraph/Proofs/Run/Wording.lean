import Flowgraph.Proofs.Faults
import Flowgraph.Run.Loop

namespace Flowgraph

open Act

namespace Log

/-- The beginnings of what executors and the hooks that they belong to note in the log. -/
def wordings : List String :=
  ["Executing ", "Variable '", "Secret '", "Error interpolating '", "Stopped interpolating after ",
    "HTTP ", "Body: ", "Response: ", "Sleeping for ", "No-op executor for ", "End executor for ",
    "Graph execution stopped", "http executor failed: ", "sleep executor failed: ",
    "none executor failed: ", "end executor failed: "]

def Worded (event : String) : Prop := ∃ w ∈ wordings, w.toList <+: event.toList

theorem worded_of_mem {event : String} (h : event ∈ wordings) : Worded event :=
  ⟨event, h, List.prefix_rfl⟩

theorem Worded.append {event : String} (h : Worded event) (rest : String) :
    Worded (event ++ rest) := by
  obtain ⟨w, hw, hprefix⟩ := h
  rw [Worded]
  exact ⟨w, hw, by rw [String.toList_append]; exact hprefix.trans (List.prefix_append _ _)⟩

def isHookWarning (entry : Entry) : Bool := "Error in ".toList.isPrefixOf entry.event.toList

theorem isHookWarning_of_worded {entry : Entry} (h : Worded entry.event) :
    isHookWarning entry = false := by
  obtain ⟨w, hw, hprefix⟩ := h
  have happart : ∀ w ∈ wordings,
      ¬ w.toList <+: "Error in ".toList ∧ ¬ "Error in ".toList <+: w.toList := by decide
  rw [← Bool.not_eq_true, isHookWarning, List.isPrefixOf_iff_prefix]
  intro h
  obtain h | h := List.prefix_or_prefix_of_prefix hprefix h
  · exact (happart w hw).1 h
  · exact (happart w hw).2 h

end Log

/-- From one journal to another entries are added, all of them in the wording of executors. -/
def Words (j k : Journal) : Prop :=
  ∃ entries, k.log = j.log ++ entries ∧ ∀ e ∈ entries, Log.Worded e.event

theorem words_of_log {j k : Journal} (h : k.log = j.log) : Words j k :=
  ⟨[], h.trans (List.append_nil _).symm, List.forall_mem_nil _⟩

theorem words_refl (j : Journal) : Words j j := words_of_log rfl

theorem Words.trans {j k l : Journal} (h : Words j k) (h' : Words k l) : Words j l := by
  obtain ⟨es, hk, hes⟩ := h
  obtain ⟨fs, hl, hfs⟩ := h'
  exact ⟨es ++ fs, by rw [hl, hk, List.append_assoc], List.forall_mem_append.2 ⟨hes, hfs⟩⟩

theorem words_note {event : String} (h : Log.Worded event) (level : Log.Level)
    (fields : List (String × Value)) : Within Words (note level event fields) := fun _ ↦
  ⟨_, rfl, List.forall_mem_singleton.2 h⟩

theorem Words.bind {α β : Type} {m : Act Journal α} {f : α → Act Journal β} (hm : Within Words m)
    (hf : ∀ a, Within Words (f a)) : Within Words (m >>= f) := hm.bind Words.trans hf

theorem Words.map {α β : Type} {m : Act Journal α} {f : α → β} (hm : Within Words m) :
    Within Words (f <$> m) := Words.bind hm fun _ ↦ within_pure words_refl _

theorem words_evaluate (runtime : Expr.Runtime) (source : String) :
    Within Words (evaluate runtime source) := by
  intro j
  unfold evaluate
  dsimp only
  split <;> exact words_of_log rfl

namespace Template

theorem words_fillPieces {opening : List Char} {value? : String → Act Journal (Option String)}
    (h : ∀ name, Within Words (value? name)) (ps : List Piece) :
    Within Words (fillPieces opening value? ps) := by
  induction ps with
  | nil => exact within_pure words_refl []
  | cons piece ps ih =>
    cases piece with
    | char c => exact Words.bind ih fun _ ↦ within_pure words_refl _
    | hole name => exact Words.bind (h _) fun _ ↦ Words.bind ih fun _ ↦ within_pure words_refl _

theorem words_variableText (name : String) : Within Words (variableText name) := by
  refine Words.bind (within_get words_refl) fun j ↦ ?_
  split
  · exact Words.bind (words_note ((Log.worded_of_mem (by decide)).append _ |>.append _) _ _)
      fun _ ↦ within_pure words_refl _
  · exact Words.map (within_ofExcept words_refl _)

theorem words_fillSecrets (secret : String → Option String) (text : List Char) :
    Within Words (fillSecrets secret text) := by
  have hsecret (name : String) : Within Words (secretText secret name) := by
    unfold secretText
    split
    · exact within_pure words_refl _
    · exact Words.bind (words_note ((Log.worded_of_mem (by decide)).append _ |>.append _) _ _)
        fun _ ↦ within_pure words_refl _
  unfold fillSecrets
  generalize secretOpenings = openings
  induction openings generalizing text with
  | nil => exact within_pure words_refl text
  | cons opening openings ih =>
    rw [List.foldlM_cons]
    exact Words.bind (words_fillPieces hsecret _) fun text ↦ ih text

theorem words_nextHit (runtime : Expr.Runtime) (before text : List Char) :
    Within Words (nextHit runtime before text) := by
  fun_induction nextHit runtime before text with
  | case1 before s hs ih => exact ih
  | case2 before s inner after hs source =>
    rename_i ih
    refine Words.bind (words_evaluate runtime source) fun r ↦ ?_
    split
    · exact within_pure words_refl _
    · exact Words.bind (words_note ((Log.worded_of_mem (by decide)).append _ |>.append _
        |>.append _) _ _) fun _ ↦ ih
  | case3 before c s hs ih => exact ih
  | case4 before => exact within_pure words_refl none

theorem words_fillExpressions (source : Source) (template : List Char) (passes : ℕ)
    (text : List Char) : Within Words (fillExpressions source template passes text) := by
  induction passes generalizing text with
  | zero =>
    unfold fillExpressions
    refine Words.bind (words_nextHit _ _ _) fun hit? ↦ ?_
    cases hit? with
    | none => exact within_pure words_refl text
    | some hit =>
      exact Words.bind (words_note ((Log.worded_of_mem (by decide)).append _ |>.append _) _ _)
        fun _ ↦ within_pure words_refl text
  | succ passes ih =>
    unfold fillExpressions
    refine Words.bind (words_nextHit _ _ _) fun hit? ↦ ?_
    cases hit? with
    | none => exact within_pure words_refl text
    | some hit => exact Words.bind (within_ofExcept words_refl _) fun shown ↦ ih _

theorem words_interpolate (source : Source) (template : String) :
    Within Words (interpolate source template) :=
  Words.bind (words_fillPieces words_variableText _) fun _ ↦
    Words.bind (words_fillSecrets _ _) fun text ↦
      Words.map (words_fillExpressions source text source.maxPasses text)

theorem words_keyText (k : Key) : Within Words (keyText k) := by
  unfold keyText
  split
  · exact within_pure words_refl _
  · exact within_fail words_refl _

mutual

theorem words_interpolateValue (source : Source) (v : Value) :
    Within Words (interpolateValue source v) := by
  cases v with
  | str s => exact Words.map (words_interpolate source s)
  | list m vs => exact Words.map (words_interpolateItems source vs)
  | mapping m es => exact Words.map (words_interpolateEntries source [] es)
  | _ => exact within_pure words_refl _
termination_by structural v

theorem words_interpolateItems (source : Source) (vs : List Value) :
    Within Words (interpolateItems source vs) := by
  cases vs with
  | nil => exact within_pure words_refl []
  | cons v vs =>
    exact Words.bind (words_interpolateValue source v) fun w ↦
      Words.bind (words_interpolateItems source vs) fun ws ↦ within_pure words_refl _
termination_by structural vs

theorem words_interpolateEntries (source : Source) (done : Entries) (es : List (Key × Value)) :
    Within Words (interpolateEntries source done es) := by
  cases es with
  | nil => exact within_pure words_refl done
  | cons e es =>
    obtain ⟨k, v⟩ := e
    exact Words.bind (words_keyText k) fun text ↦ Words.bind (words_interpolate source text)
      fun name ↦ Words.bind (words_interpolateValue source v) fun w ↦
        words_interpolateEntries source _ es
termination_by structural es

end

end Template

namespace Run

def Speaks (p q : Progress) : Prop := Words p.journal q.journal

theorem speaks_refl (p : Progress) : Speaks p p := words_refl _

theorem Speaks.trans {p q r : Progress} (h : Speaks p q) (h' : Speaks q r) : Speaks p r :=
  Words.trans h h'

section

variable {s : Setup} {α β : Type} {m : Act Progress α} {f : α → Act Progress β}

theorem Speaks.bind (hm : Within Speaks m) (hf : ∀ a, Within Speaks (f a)) :
    Within Speaks (m >>= f) := hm.bind Speaks.trans hf

theorem speaks_onJournal {m : Act Journal α} (hm : Within Words m) :
    Within Speaks (onJournal m) := fun p ↦ hm p.journal

theorem speaks_trace {event : String} (h : Log.Worded event) (fields : List (String × Value)) :
    Within Speaks (trace s event fields) := speaks_onJournal (words_note h _ _)

theorem speaks_modify {f : Progress → Progress} (h : ∀ p, (f p).journal = p.journal) :
    Within Speaks (modify f) := fun p ↦ words_of_log (congrArg Journal.log (h p))

theorem speaks_interpolateHeaders (hs : Headers) : Within Speaks (interpolateHeaders s hs) := by
  induction hs with
  | nil => exact within_pure speaks_refl []
  | cons h hs ih =>
    exact Speaks.bind (speaks_onJournal (Template.words_interpolate _ _)) fun v ↦
      Speaks.bind ih fun hs ↦ within_pure speaks_refl _

theorem speaks_prepare (r : Request) : Within Speaks (prepare s r) := by
  refine Speaks.bind (speaks_onJournal (Template.words_interpolate _ _)) fun url ↦
    Speaks.bind (speaks_onJournal (Template.words_interpolateValue _ _)) fun body ↦
      Speaks.bind (speaks_interpolateHeaders _) fun headers ↦ ?_
  dsimp only
  split_ifs
  · cases Json.writeText .request body with
    | ok text => exact within_pure speaks_refl _
    | error e => exact within_fail speaks_refl _
  · exact within_pure speaks_refl _

theorem speaks_nextReply : Within Speaks nextReply := by
  intro p
  unfold nextReply
  split <;> exact words_of_log rfl

theorem speaks_heed (stops : Bool) : Within Speaks (heed s stops) := by
  unfold heed
  split
  · exact Speaks.bind (speaks_modify fun _ ↦ rfl) fun _ ↦
      speaks_trace (Log.worded_of_mem (by decide)) _
  · exact within_pure speaks_refl _

theorem speaks_send (o : Outgoing) : Within Speaks (send s o) :=
  Speaks.bind (speaks_modify fun _ ↦ rfl) fun _ ↦ Speaks.bind speaks_nextReply fun r ↦
    Speaks.bind (speaks_heed r.stops) fun _ ↦ within_pure speaks_refl _

theorem speaks_receive (o : Outgoing) (label : String) (status : Int) (body : String) :
    Within Speaks (receive s o label status body) := by
  have hnote : Within Speaks (noteStatus o label status) := by
    unfold noteStatus
    split
    · exact speaks_onJournal (words_note ((Log.worded_of_mem (by decide)).append _ |>.append _
        |>.append _ |>.append _ |>.append _) _ _)
    · exact within_pure speaks_refl _
  refine Speaks.bind hnote fun _ ↦ ?_
  split
  · exact within_pure speaks_refl _
  · exact within_fail speaks_refl _
  · exact within_fail speaks_refl _

theorem speaks_store (r : Request) (payload : Value) : Within Speaks (store r payload) := by
  unfold store
  split
  · split
    · exact within_pure speaks_refl _
    · exact fun p ↦ words_of_log rfl
  · exact within_pure speaks_refl _

theorem speaks_runRequest (r : Request) (label : String) :
    Within Speaks (runRequest s r label) := by
  have htext (o : Outgoing) : Within Speaks (traceBody s o label) := by
    unfold traceBody
    split
    · exact speaks_trace ((Log.worded_of_mem (by decide)).append _) _
    · exact within_pure speaks_refl _
  refine Speaks.bind (speaks_prepare r) fun o ↦ Speaks.bind
    (speaks_trace ((Log.worded_of_mem (by decide)).append _ |>.append _ |>.append _) _) fun _ ↦
      Speaks.bind (htext o) fun _ ↦ Speaks.bind (speaks_send o) fun response ↦ ?_
  cases response with
  | timedOut => exact within_fail speaks_refl _
  | refused message => exact within_fail speaks_refl _
  | failed report => exact within_fail speaks_refl _
  | received status body =>
    exact Speaks.bind (speaks_receive o label status body) fun v ↦
      Speaks.bind (within_ofExcept speaks_refl _) fun text ↦
        Speaks.bind (speaks_trace ((Log.worded_of_mem (by decide)).append _) _) fun _ ↦
          Speaks.bind (speaks_store r v) fun _ ↦ within_pure speaks_refl _

theorem speaks_attended {m : Act Progress Unit} (hm : Within Speaks m) :
    Within Speaks (attended s m) := by
  have hsignal : Within Speaks nextSignal := by
    intro p
    unfold nextSignal
    split <;> exact words_of_log rfl
  exact Speaks.bind hm fun _ ↦ Speaks.bind hsignal fun b ↦ Speaks.bind (speaks_heed b) fun _ ↦
    within_pure speaks_refl _

theorem speaks_perform (x : Executor) (label : String) : Within Speaks (perform s x label) := by
  cases x with
  | http r => exact speaks_runRequest r label
  | sleep ms =>
    exact speaks_attended (Speaks.bind
      (speaks_trace ((Log.worded_of_mem (by decide)).append _ |>.append _) _)
      fun _ ↦ speaks_modify fun _ ↦ rfl)
  | none => exact speaks_attended (speaks_trace ((Log.worded_of_mem (by decide)).append _) _)
  | stop code =>
    exact speaks_attended (Speaks.bind (speaks_modify fun _ ↦ rfl) fun _ ↦
      speaks_trace ((Log.worded_of_mem (by decide)).append _ |>.append _ |>.append _) _)

/-- An executor says what it does, and why it fails. -/
theorem speaks_runExecutor (x : Executor) (label : String) :
    Within Speaks (runExecutor s x label) := by
  have htypes : ∀ type ∈ Executor.types, type ++ " executor failed: " ∈ Log.wordings := by decide
  have htype : x.typeName ∈ Executor.types := by
    cases x <;> simp [Executor.types, Executor.typeName]
  have hfailed (rest : String) : Log.Worded (x.typeName ++ " executor failed: " ++ rest) :=
    (Log.worded_of_mem (htypes _ htype)).append rest
  refine Speaks.bind (speaks_perform x label).attempt fun r ↦ ?_
  cases r with
  | ok v => exact within_pure speaks_refl v
  | error f =>
    dsimp only
    split
    · refine Speaks.bind (speaks_onJournal (words_note ?_ _ _)) fun _ ↦ within_fail speaks_refl f
      have h := hfailed "invalid expression"
      rwa [String.append_assoc] at h
    · exact Speaks.bind (speaks_onJournal (words_note (hfailed _) _ _)) fun _ ↦
        within_fail speaks_refl f

end

end Run

end Flowgraph
