import Flowgraph.Proofs.Run.Requests
import Flowgraph.Proofs.Run.Wording

namespace Flowgraph.Run

open Act

/-- The executors that have come to their end among some events, and what each was called. -/
def attempts (es : List Event) : List (String × Executor) :=
  es.filterMap fun
    | .performed label x _ => some (label, x)
    | _ => none

def hookOutcome (s : Setup) (kind : HookKind) (h : String × Executor) (p : Progress) :
    Except Fault Value × Progress :=
  runExecutor s h.2 (kind.label h.1)
    (trace s ("Executing " ++ kind.name ++ " before hook: " ++ h.1) [] p).2

def warnOfHook (kind : HookKind) (name : String) (f : Fault) (j : Journal) : Journal :=
  j.note .warning ("Error in " ++ kind.name ++ " before hook " ++ name ++ ": " ++ f.message)
    [("hook", .str name)]

def afterHook (s : Setup) (kind : HookKind) (h : String × Executor) (p : Progress) : Progress :=
  match hookOutcome s kind h p with
  | (.ok _, q) => q
  | (.error f, q) => { q with journal := warnOfHook kind h.1 f q.journal }

/-- How a run stands when its hooks are announced; if there are none, nothing is. -/
def hooksAnnounced (s : Setup) (kind : HookKind) (hooks : List (String × Executor)) (p : Progress) :
    Progress :=
  if hooks.isEmpty then p
  else (trace s ("Executing before hooks (" ++ kind.name ++ ")") [] p).2

def hookFailure? (s : Setup) (kind : HookKind) (h : String × Executor) (p : Progress) :
    Option (String × Fault) :=
  match (hookOutcome s kind h p).1 with
  | .ok _ => none
  | .error f => some (h.1, f)

def hookFailures (s : Setup) (kind : HookKind) :
    List (String × Executor) → Progress → List (String × Fault)
  | [] => fun _ ↦ []
  | h :: hooks => fun p ↦
    (hookFailure? s kind h p).toList ++ hookFailures s kind hooks (afterHook s kind h p)

structure WarnsOf (kind : HookKind) (failure : String × Fault) (entry : Log.Entry) : Prop where
  level : entry.level = .warning
  event : entry.event =
    "Error in " ++ kind.name ++ " before hook " ++ failure.1 ++ ": " ++ failure.2.message
  hook : ("hook", .str failure.1) ∈ entry.fields

section

variable {s : Setup} {kind : HookKind} {h : String × Executor} {hooks : List (String × Executor)}
  {p q : Progress} {x : Executor} {label : String} {f : Fault} {es : List Event}

theorem runHook_eq (s : Setup) (kind : HookKind) (h : String × Executor) (p : Progress) :
    runHook s kind h.1 h.2 p = (.ok (), afterHook s kind h p) := by
  have htrace : trace s ("Executing " ++ kind.name ++ " before hook: " ++ h.1) [] p =
    (.ok (), (trace s ("Executing " ++ kind.name ++ " before hook: " ++ h.1) [] p).2) := rfl
  unfold runHook afterHook hookOutcome
  rw [bind_of_ok htrace]
  rcases hrun : runExecutor s h.2 (kind.label h.1) _ with ⟨f | v, q⟩
  · exact (bind_of_ok (attempt_eq hrun)).trans rfl
  · exact (bind_of_ok (attempt_eq hrun)).trans rfl

theorem runEachHook_eq (s : Setup) (kind : HookKind) (hooks : List (String × Executor))
    (p : Progress) : runEachHook s kind hooks p =
      (.ok (), hooks.foldl (fun q h ↦ afterHook s kind h q) p) := by
  induction hooks generalizing p with
  | nil => rfl
  | cons h hooks ih =>
    rw [runEachHook, bind_of_ok (runHook_eq s kind h p)]
    exact ih _

theorem runHooks_eq (s : Setup) (kind : HookKind) (hooks : List (String × Executor))
    (p : Progress) : runHooks s kind hooks p =
      (.ok (), hooks.foldl (fun q h ↦ afterHook s kind h q) (hooksAnnounced s kind hooks p)) := by
  cases hooks with
  | nil => rfl
  | cons h hooks => exact runEachHook_eq s kind (h :: hooks) _

theorem attempts_append (es fs : List Event) : attempts (es ++ fs) = attempts es ++ attempts fs :=
  List.filterMap_append

theorem attempts_of_evaluated (hes : ∀ e ∈ es, ∃ x, e = .evaluated x) : attempts es = [] := by
  refine List.filterMap_eq_nil_iff.2 fun e he ↦ ?_
  obtain ⟨x, rfl⟩ := hes e he
  rfl

theorem attempts_onRun (xs : Journal → List Evaluation) (p : Progress) :
    attempts (onRun xs p) = [] := by
  refine attempts_of_evaluated fun e he ↦ ?_
  obtain ⟨x, -, rfl⟩ := List.mem_map.1 he
  exact ⟨x, rfl⟩

/-- An executor makes evaluations, and then comes to its end. -/
theorem executorEvents_eq (x : Executor) (label : String) (p : Progress) :
    ∃ es, executorEvents s x label p = es ++ [.performed label x (runExecutor s x label p).1] ∧
      ∀ e ∈ es, ∃ x, e = .evaluated x := by
  refine ⟨_, rfl, ?_⟩
  cases x with
  | http r => exact fun e he ↦ evaluated_of_mem_prepareEvents he
  | _ => exact List.forall_mem_nil _

theorem attempts_executorEvents (x : Executor) (label : String) (p : Progress) :
    attempts (executorEvents s x label p) = [(label, x)] := by
  obtain ⟨es, heq, hes⟩ := executorEvents_eq (s := s) x label p
  rw [heq, attempts_append, attempts_of_evaluated hes]
  rfl

theorem hookEvents_eq (s : Setup) (kind : HookKind) (h : String × Executor) (p : Progress) :
    ∃ es, hookEvents s kind h.1 h.2 p =
      es ++ [.performed (kind.label h.1) h.2 (hookOutcome s kind h p).1] ∧
      ∀ e ∈ es, ∃ x, e = .evaluated x :=
  executorEvents_eq h.2 (kind.label h.1) _

theorem attempts_eachHookEvents (hooks : List (String × Executor)) (p : Progress) :
    attempts (eachHookEvents s kind hooks p) = hooks.map fun h ↦ (kind.label h.1, h.2) := by
  induction hooks generalizing p with
  | nil => rfl
  | cons h hooks ih =>
    have hhook : attempts (hookEvents s kind h.1 h.2 p) = [(kind.label h.1, h.2)] :=
      attempts_executorEvents h.2 (kind.label h.1) _
    rw [eachHookEvents, attempts_append, hhook, next_of_ok (runHook_eq s kind h p), ih]
    rfl

theorem attempts_hooksEvents (hooks : List (String × Executor)) (p : Progress) :
    attempts (hooksEvents s kind hooks p) = hooks.map fun h ↦ (kind.label h.1, h.2) := by
  cases hooks with
  | nil => rfl
  | cons h hooks => exact attempts_eachHookEvents (h :: hooks) _

theorem exists_http_of_runExecutor (hx : (runExecutor s x label p).1 = .error f) :
    ∃ r, x = .http r := by
  rw [runExecutor, (guarded_spec _ _ _ _).1] at hx
  by_contra hplain
  rw [(perform_spec (fun r hr ↦ hplain ⟨r, hr⟩) label p).1] at hx
  cases hx

theorem eq_map_evaluations (hes : ∀ e ∈ es, ∃ x, e = .evaluated x) :
    es = (evaluations es).map .evaluated := by
  induction es with
  | nil => rfl
  | cons e es ih =>
    obtain ⟨⟨x, rfl⟩, hrest⟩ := List.forall_mem_cons.1 hes
    exact congrArg _ (ih hrest)

theorem standing_afterHook (s : Setup) (kind : HookKind) (h : String × Executor) (p : Progress) :
    (afterHook s kind h p).standing =
      (hookEvents s kind h.1 h.2 p).foldl Event.apply p.standing := by
  rw [← makes_runHook kind h.1 h.2 p, runHook_eq]

/-- A hook that fails writes nothing; it has evaluated what it has. -/
theorem of_hookOutcome_error (hq : hookOutcome s kind h p = (.error f, q)) :
    writes (hookEvents s kind h.1 h.2 p) = [] ∧ (afterHook s kind h p).standing =
      ⟨(evaluations (hookEvents s kind h.1 h.2 p)).foldl Evaluation.change p.journal.state,
        p.exitCode, p.pauses⟩ := by
  obtain ⟨es, heq, hes⟩ := hookEvents_eq s kind h p
  obtain ⟨r, hr⟩ := exists_http_of_runExecutor (congrArg Prod.fst hq)
  have hwrites : writes es = [] := by
    refine List.filterMap_eq_nil_iff.2 fun e he ↦ ?_
    obtain ⟨x, rfl⟩ := hes e he
    rfl
  rw [standing_afterHook, heq, hq, hr]
  constructor
  · rw [writes, List.filterMap_append, ← writes, hwrites]
    rfl
  · have hevaluations : evaluations (es ++ [.performed (kind.label h.1) (.http r) (.error f)]) =
        evaluations es := by
      rw [evaluations, List.filterMap_append]
      exact List.append_nil _
    rw [hevaluations, List.foldl_append, List.foldl_cons, List.foldl_nil,
      apply_error _ _ _ _ (by rintro code ⟨⟩), eq_map_evaluations hes, foldl_apply_evaluated,
      ← eq_map_evaluations hes]
    rfl

theorem filter_isHookWarning {entries : List Log.Entry} (h : ∀ e ∈ entries, Log.Worded e.event) :
    entries.filter Log.isHookWarning = [] :=
  List.filter_eq_nil_iff.2 fun e he ↦ by rw [Log.isHookWarning_of_worded (h e he)]; exact nofun

theorem speaks_hookOutcome (s : Setup) (kind : HookKind) (h : String × Executor) (p : Progress) :
    Speaks p (hookOutcome s kind h p).2 :=
  Speaks.trans
    (speaks_trace ((Log.worded_of_mem (by decide)).append _ |>.append _ |>.append _) [] p)
    (speaks_runExecutor h.2 (kind.label h.1) _)

theorem exists_warnOfHook (kind : HookKind) (name : String) (f : Fault) (j : Journal) :
    ∃ entry, (warnOfHook kind name f j).log = j.log ++ [entry] ∧ WarnsOf kind (name, f) entry := by
  refine ⟨_, rfl, rfl, rfl, ?_⟩
  cases j.node with
  | none => exact List.mem_singleton_self _
  | some n => exact List.mem_cons_of_mem _ (List.mem_singleton_self _)

theorem WarnsOf.isHookWarning {failure : String × Fault} {entry : Log.Entry}
    (h : WarnsOf kind failure entry) : Log.isHookWarning entry = true := by
  rw [Log.isHookWarning, h.event]
  simp [List.isPrefixOf]

/-- Of the entries of a hook one warns of its failure, if it fails. -/
theorem exists_entries_afterHook (s : Setup) (kind : HookKind) (h : String × Executor)
    (p : Progress) : ∃ entries, (afterHook s kind h p).journal.log = p.journal.log ++ entries ∧
      List.Forall₂ (WarnsOf kind) (hookFailure? s kind h p).toList
        (entries.filter Log.isHookWarning) := by
  obtain ⟨entries, hlog, hworded⟩ := speaks_hookOutcome s kind h p
  have hquiet := filter_isHookWarning hworded
  unfold afterHook hookFailure?
  rcases hq : hookOutcome s kind h p with ⟨f | v, q⟩ <;> rw [hq] at hlog
  · obtain ⟨entry, hentry, hwarns⟩ := exists_warnOfHook kind h.1 f q.journal
    refine ⟨entries ++ [entry], ?_, ?_⟩
    · rw [hentry, hlog, List.append_assoc]
    · rw [List.filter_append, hquiet, List.filter_cons_of_pos hwarns.isHookWarning]
      exact .cons hwarns .nil
  · exact ⟨entries, hlog, by rw [hquiet]; exact .nil⟩

theorem exists_entries_foldl (s : Setup) (kind : HookKind) (hooks : List (String × Executor))
    (p : Progress) :
    ∃ entries, (hooks.foldl (fun q h ↦ afterHook s kind h q) p).journal.log =
        p.journal.log ++ entries ∧
      List.Forall₂ (WarnsOf kind) (hookFailures s kind hooks p)
        (entries.filter Log.isHookWarning) := by
  induction hooks generalizing p with
  | nil => exact ⟨[], (List.append_nil _).symm, .nil⟩
  | cons h hooks ih =>
    obtain ⟨es, hes, hwarns⟩ := exists_entries_afterHook s kind h p
    obtain ⟨fs, hfs, hrest⟩ := ih (afterHook s kind h p)
    refine ⟨es ++ fs, ?_, ?_⟩
    · rw [List.foldl_cons, hfs, hes, List.append_assoc]
    · rw [List.filter_append]
      exact List.rel_append hwarns hrest

theorem exists_entries_hooksAnnounced (s : Setup) (kind : HookKind)
    (hooks : List (String × Executor)) (p : Progress) :
    ∃ entries, (hooksAnnounced s kind hooks p).journal.log = p.journal.log ++ entries ∧
      entries.filter Log.isHookWarning = [] := by
  unfold hooksAnnounced
  split_ifs
  · exact ⟨[], (List.append_nil _).symm, rfl⟩
  · obtain ⟨entries, hlog, hworded⟩ := speaks_trace (s := s)
      ((Log.worded_of_mem (by decide : "Executing " ∈ Log.wordings)).append "before hooks ("
        |>.append _ |>.append _) [] p
    exact ⟨entries, hlog, filter_isHookWarning hworded⟩

end

/-- Hooks never fail as a whole. Whatever becomes of the run meanwhile, each is attempted once, in
order, and the run stands as the hooks leave it one after the other. A hook that succeeds leaves
what its executor leaves. One that fails adds a warning to that, writes nothing into the run state,
and changes it by no more than the edits of the expressions in its templates. The warnings of hooks
are those of the hooks that fail, one for each. -/
theorem runHooks_isolated (s : Setup) (kind : HookKind) (hooks : List (String × Executor))
    (p : Progress) :
    runHooks s kind hooks p =
      (.ok (), hooks.foldl (fun q h ↦ afterHook s kind h q) (hooksAnnounced s kind hooks p)) ∧
    attempts (hooksEvents s kind hooks p) = hooks.map (fun h ↦ (kind.label h.1, h.2)) ∧
    (∃ entries, (runHooks s kind hooks p).2.journal.log = p.journal.log ++ entries ∧
      List.Forall₂ (WarnsOf kind) (hookFailures s kind hooks (hooksAnnounced s kind hooks p))
        (entries.filter Log.isHookWarning)) ∧
    ∀ h q,
      (∀ v r, hookOutcome s kind h q = (.ok v, r) → afterHook s kind h q = r ∧
        ∃ entries, r.journal.log = q.journal.log ++ entries ∧
          entries.filter Log.isHookWarning = []) ∧
      ∀ f r, hookOutcome s kind h q = (.error f, r) →
        afterHook s kind h q = { r with journal := warnOfHook kind h.1 f r.journal } ∧
        writes (hookEvents s kind h.1 h.2 q) = [] ∧
        (afterHook s kind h q).standing =
          ⟨(evaluations (hookEvents s kind h.1 h.2 q)).foldl Evaluation.change q.journal.state,
            q.exitCode, q.pauses⟩ ∧
        ∃ entries entry, (afterHook s kind h q).journal.log = q.journal.log ++ entries ∧
          entries.filter Log.isHookWarning = [entry] ∧ WarnsOf kind (h.1, f) entry := by
  refine ⟨runHooks_eq s kind hooks p, attempts_hooksEvents hooks p, ?_, fun h q ↦ ⟨?_, ?_⟩⟩
  · obtain ⟨es, hes, hquiet⟩ := exists_entries_hooksAnnounced s kind hooks p
    obtain ⟨fs, hfs, hwarns⟩ := exists_entries_foldl s kind hooks (hooksAnnounced s kind hooks p)
    refine ⟨es ++ fs, ?_, ?_⟩
    · rw [runHooks_eq, hfs, hes, List.append_assoc]
    · rwa [List.filter_append, hquiet]
  · intro v r hr
    obtain ⟨entries, hlog, hworded⟩ := speaks_hookOutcome s kind h q
    rw [hr] at hlog
    exact ⟨by rw [afterHook, hr], entries, hlog, filter_isHookWarning hworded⟩
  · intro f r hr
    obtain ⟨hwrites, hstanding⟩ := of_hookOutcome_error hr
    obtain ⟨entries, hlog, hwarns⟩ := exists_entries_afterHook s kind h q
    rw [hookFailure?, hr] at hwarns
    obtain ⟨entry, _, hentry, hnil, hfilter⟩ := List.forall₂_cons_left_iff.1 hwarns
    obtain rfl := List.forall₂_nil_left_iff.1 hnil
    exact ⟨by rw [afterHook, hr], hwrites, hstanding, entries, entry, hlog, hfilter, hentry⟩

def preamble : List (String × Executor) :=
  [("login", .http ⟨"POST", "/login", .null, some "token", []⟩), ("halt", .stop 3),
    ("idle", .none)]

def fresh : Progress where
  journal := { state := ⟨[], 1⟩ }
  running := true

/-- The first hook fails, the second stops the run, and the third is attempted nonetheless. -/
theorem runHooks_isolated_preamble :
    (runHooks bare .start preamble fresh).1 = .ok () ∧
    (runHooks bare .start preamble fresh).2.running = false ∧
    (attempts (hooksEvents bare .start preamble fresh)).map Prod.fst =
      ["before:start:login", "before:start:halt", "before:start:idle"] ∧
    ∃ entry,
      (runHooks bare .start preamble fresh).2.journal.log.filter Log.isHookWarning = [entry] ∧
      entry.level = .warning ∧ entry.event = "Error in start before hook login: " ++
        "HTTP POST /login failed: Client error: no response left" := by
  obtain ⟨hrun, hattempts, ⟨entries, hlog, hwarns⟩, -⟩ :=
    runHooks_isolated bare .start preamble fresh
  have hfailures : (hookFailures bare .start preamble
      (hooksAnnounced bare .start preamble fresh)).map (fun x ↦ (x.1, x.2.message)) =
        [("login", "HTTP POST /login failed: Client error: no response left")] := by decide +kernel
  obtain ⟨⟨name, f⟩, hfailures, hf⟩ := List.map_eq_singleton_iff.1 hfailures
  obtain ⟨rfl, hmessage⟩ := Prod.mk.inj hf
  rw [hfailures] at hwarns
  obtain ⟨entry, _, hentry, hnil, hfilter⟩ := List.forall₂_cons_left_iff.1 hwarns
  obtain rfl := List.forall₂_nil_left_iff.1 hnil
  refine ⟨congrArg Prod.fst hrun, by decide +kernel, ?_, entry, ?_, hentry.level, ?_⟩
  · rw [hattempts]
    rfl
  · rw [hlog]
    exact hfilter
  · rw [hentry.event, hmessage]
    rfl

end Flowgraph.Run
