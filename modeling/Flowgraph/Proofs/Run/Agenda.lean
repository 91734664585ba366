import Flowgraph.Proofs.Run.Course
import Flowgraph.Proofs.Run.References
import Mathlib.Algebra.Order.Group.Multiset

namespace Flowgraph

open Act

theorem Graph.node?_eq_none_iff {g : Graph} {name : String} :
    g.node? name = none ↔ name ∉ g.nodes.map (·.1) := by
  rw [node?, List.lookup_eq_none_iff, List.mem_map]
  constructor
  · rintro h ⟨node, hnode, rfl⟩
    simpa using h node hnode
  · intro h node hnode
    simpa using fun hname ↦ h ⟨node, hnode, Eq.symm hname⟩

def Fault.IsMissingNode : Fault → Prop
  | nodeNotFound .. => True
  | _ => False

theorem Fault.OfExecutor.not_isMissingNode {f : Fault} (h : f.OfExecutor) : ¬ f.IsMissingNode := by
  cases f with
  | nodeNotFound => exact h.elim
  | _ => exact not_false

theorem Fault.OfComparison.not_isMissingNode {f : Fault} (h : f.OfComparison) :
    ¬ f.IsMissingNode := by
  cases f with
  | nodeNotFound => exact h.elim
  | _ => exact not_false

theorem Condition.not_isMissingNode_eval (st : Setting) (depth : ℕ) (c : Condition) :
    (eval st depth c).FailsOnly fun f ↦ ¬ f.IsMissingNode := by
  induction depth generalizing c with
  | zero => exact yields_fail not_false
  | succ depth ih =>
    cases c with
    | simple path r operand =>
      exact (failsOnly_evalSimple st path r operand).mono fun _ ↦
        Fault.OfComparison.not_isMissingNode
    | all cs => exact failsOnly_evalUntil (fun c _ ↦ ih c) 0
    | any cs => exact failsOnly_evalUntil (fun c _ ↦ ih c) 0
    | named name =>
      rw [eval]
      cases st.table.lookup name with
      | none => exact yields_fail not_false
      | some c => exact ih c

namespace Run

variable {s : Setup} {g : Graph}

theorem not_isMissingNode_targets (es : List Edge) :
    (targets s g es).FailsOnly fun f ↦ ¬ f.IsMissingNode := by
  have hfollow (e : Edge) : (follow s g e).FailsOnly fun f ↦ ¬ f.IsMissingNode := by
    unfold follow
    cases e.condition with
    | none => exact failsOnly_pure _
    | some c =>
      exact ((failsOnly_runHooks .all _).mono fun _ ↦ False.elim).bind fun _ ↦
        (failsOnly_onJournal (Condition.not_isMissingNode_eval _ _ c)).bind fun holds ↦
          (failsOnly_trace _ _).bind fun _ ↦ failsOnly_pure _
  induction es with
  | nil => exact failsOnly_pure []
  | cons e es ih => exact (hfollow e).bind fun t ↦ ih.bind fun ts ↦ failsOnly_pure _

/-- A visit that misses a node misses its own, and has done nothing yet. -/
theorem missing_of_visit {name missing : String} {available : List String} {p q : Progress}
    (h : visit s g name p = (.error (.nodeNotFound missing available), q)) :
    g.node? name = none ∧ missing = name ∧ available = g.nodes.map (·.1) ∧ q = p := by
  cases visits_of_visit h with
  | missing hn => exact ⟨hn, rfl, rfl, rfl⟩
  | fail hn he hx => exact absurd trivial ((failsOnly_runExecutor _ _).error hx).not_isMissingNode
  | refuse hn he hx hq ht => exact absurd trivial ((not_isMissingNode_targets _).error ht)

section

variable {m m' : Moment} {p q : Progress} {d ds : List Deed}

theorem Step.conserves (h : Step s g m p d m' q) :
    (entries d : Multiset String) + m'.pending = selections d + m.pending := by
  cases h with
  | empty | halt | missing | fail | stop | go | refuse | push => rfl
  | finish | enter => rfl
  | @choose name e es chosen rest t p q ht =>
    have hselected : selections [.choice name e t] = t.toList := by
      cases t <;> rfl
    have hperm : (chosen ++ t.toList ++ rest).Perm (t.toList ++ (chosen ++ rest)) := by
      rw [← List.append_assoc]
      exact List.perm_append_comm.append_right rest
    rw [hselected]
    exact Multiset.coe_eq_coe.2 hperm

theorem Course.conserves (h : Course s g m p ds m' q) :
    (entries ds : Multiset String) + m'.pending = selections ds + m.pending := by
  induction h with
  | here => rfl
  | @snoc ds d m' m'' q r h hstep ih =>
    have hlast := hstep.conserves
    rw [entries_append, selections_append, ← Multiset.coe_add, ← Multiset.coe_add]
    calc (entries ds + entries d + m''.pending : Multiset String)
        = entries ds + (selections d + m'.pending) := by rw [add_assoc, hlast]
      _ = selections d + (entries ds + m'.pending) := add_left_comm _ _ _
      _ = selections ds + selections d + m.pending := by rw [ih, add_left_comm, add_assoc]

/-- A name comes first in a run, or an edge of one of the names before leads to it. -/
def Grounded (g : Graph) (first : String) (before : List String) (name : String) : Prop :=
  name = first ∨ ∃ b ∈ before, g.LeadsTo b name

theorem Grounded.mono {first name : String} {before before' : List String}
    (h : Grounded g first before name) (hsub : before ⊆ before') :
    Grounded g first before' name := by
  obtain rfl | ⟨b, hb, hlead⟩ := h
  · exact .inl rfl
  · exact .inr ⟨b, hsub hb, hlead⟩

theorem Step.grounded {first : String} (h : Step s g m p d m' q) (hplaced : m.Placed g p.executed)
    (hm : ∀ name ∈ m.pending, Grounded g first p.executed name) :
    ∀ name ∈ m'.pending, Grounded g first q.executed name := by
  have hkept (name : String) (hname : name ∈ m.pending) : Grounded g first q.executed name := by
    rw [h.executed_eq]
    exact (hm name hname).mono (List.subset_append_left _ _)
  cases h with
  | empty | halt | missing | fail | stop | go | refuse | push => exact hkept
  | finish | enter => exact fun name hname ↦ hkept name (List.mem_cons_of_mem _ hname)
  | @choose name e es chosen rest t p q ht =>
    obtain ⟨hlast, n, hn, he, hes⟩ := hplaced
    have hlead (b : String) (hb : b ∈ t) : Grounded g first q.executed b := by
      have hedge := mem_targets_of_follow ht b hb
      rw [(executed_allows.follow e).rel ht]
      exact .inr ⟨name, List.mem_of_getLast? hlast, n, hn, he, e, hes e List.mem_cons_self, hedge⟩
    intro b hb
    obtain hb | hb := List.mem_append.1 hb
    · obtain hb | hb := List.mem_append.1 hb
      · exact hkept b (List.mem_append_left _ hb)
      · exact hlead b (Option.mem_toList.1 hb)
    · exact hkept b (List.mem_append_right _ hb)

theorem Course.grounded {first : String} (h : Course s g (.check [first]) p ds m q) :
    ∀ name ∈ m.pending, Grounded g first q.executed name := by
  induction h with
  | here => exact fun name hname ↦ .inl (List.mem_singleton.1 hname)
  | snoc h hstep ih => exact hstep.grounded h.placed ih

/-- A step enters at most the name that is next. -/
theorem Step.entries_eq (h : Step s g m p d m' q) :
    entries d = [] ∨ ∃ name rest, m = .check (name :: rest) ∧ entries d = [name] := by
  cases h with
  | finish | enter => exact .inr ⟨_, _, rfl, rfl⟩
  | _ => exact .inl rfl

theorem Course.grounded_of_executed {first : String} (h : Course s g (.check [first]) p ds m q)
    (hp : p.executed = []) {l r : List String} {name : String}
    (hsplit : q.executed = l ++ name :: r) : Grounded g first l name := by
  induction h generalizing r with
  | here =>
    rw [hp] at hsplit
    cases l <;> cases hsplit
  | @snoc ds d m' m'' q q' h hstep ih =>
    rw [hstep.executed_eq] at hsplit
    obtain hd | ⟨next, rest, rfl, hd⟩ := hstep.entries_eq
    · rw [hd, List.append_nil] at hsplit
      exact ih hsplit
    rw [hd] at hsplit
    obtain rfl | ⟨r, last, rfl⟩ := List.eq_nil_or_concat r
    · -- The name is the one just entered.
      obtain ⟨rfl, hnext⟩ := List.append_inj' hsplit rfl
      cases hnext
      exact h.grounded name List.mem_cons_self
    · rw [List.concat_eq_append, ← List.cons_append, ← List.append_assoc] at hsplit
      exact ih (List.append_inj' hsplit rfl).1

end

section

variable {start : Option String} {visits : ℕ} {p q : Progress} {f : Fault}

/-- A run fails over a missing node where its loop does. -/
theorem loop_of_execute_missing (hf : f.IsMissingNode)
    (h : execute s g visits start p = (.error f, q)) :
    ∃ t, loop s g visits [startNode s start] (opened s g (startNode s start) p) = (.error f, t) ∧
      t.hangs s = false ∧ q = closed s t := by
  rcases hloop : loop s g visits [startNode s start] (opened s g (startNode s start) p) with ⟨r, t⟩
  by_cases hr : r = .ok .unfinished
  · subst hr
    rw [execute_of_unfinished hloop] at h
    cases h
  rw [execute_of_loop hloop hr] at h
  have hhangs : t.hangs s = false := by
    rw [← Bool.not_eq_true, ← close_fst_eq_none_iff, h]
    rintro ⟨⟩
  cases r with
  | error e =>
    rw [close_error hhangs] at h
    cases h
    exact ⟨t, rfl, hhangs, rfl⟩
  | ok ending =>
    rw [close_ok hhangs] at h
    rcases hcopy : copyState (closed s t) with ⟨e | v, t'⟩
    · rw [hcopy] at h
      cases h
      have hnot := failsOnly_copyState.error hcopy
      cases f with
      | nodeNotFound => exact absurd trivial hnot
      | _ => exact hf.elim
    · rw [hcopy] at h
      cases h

theorem execute_missing_iff {name : String} {available : List String} :
    execute s g visits start p = (.error (.nodeNotFound name available), q) ↔
      available = g.nodes.map (·.1) ∧ name ∉ available ∧
        ∃ ds rest t, Reaches s g start p ds (.check (name :: rest)) t ∧ t.running = true ∧
          (entries ds).length < visits ∧ t.hangs s = false ∧ q = closed s t := by
  constructor
  · intro h
    obtain ⟨t, hloop, hhangs, rfl⟩ := loop_of_execute_missing (f := .nodeNotFound name available) trivial h
    obtain ⟨names, rest, t', k, rfl, hw, he⟩ :=
      exists_walk (s := s) (g := g) visits [startNode s start] (opened s g (startNode s start) p)
    rw [hloop] at he
    obtain ⟨ds, rfl, hcourse⟩ := hw.course
    cases he with
    | failed hp hv =>
      obtain ⟨hn, rfl, rfl, rfl⟩ := missing_of_visit hv
      exact ⟨rfl, Graph.node?_eq_none_iff.1 hn, ds, _, t, hcourse, hp, by omega, hhangs, rfl⟩
  · rintro ⟨rfl, hname, ds, rest, t, hreach, hp, hds, hhangs, rfl⟩
    have hended := Course.snoc hreach (Step.missing hp (Graph.node?_eq_none_iff.2 hname))
    have hlength : (entries (ds ++ [])).length < visits := by rwa [List.append_nil]
    exact (Reaches.execute_eq hended hlength).trans (close_error hhangs _)

/-- Whenever a run checks whether to go on, and at all other moments, what it has entered and what
waits are its first name and what edges have selected since; each name entered is the first or comes
by an edge from one entered before it. So a run that ends when no name waits has entered just its
first name and every name selected, as often as it was selected. It fails over a missing node if and
only if the name that is next has no node. -/
theorem execute_conserves (s : Setup) (g : Graph) (start : Option String) (p : Progress) :
    (∀ ds m q, Reaches s g start p ds m q →
      q.executed = entries ds ∧
      (q.executed + m.pending : Multiset String) = {startNode s start} + selections ds ∧
      ∀ l name r, q.executed = l ++ name :: r →
        name = startNode s start ∨ ∃ b ∈ l, g.LeadsTo b name) ∧
    (∀ ds outcome left q, Reaches s g start p ds (.ended outcome left) q →
      (outcome = .ok .emptied → left = []) ∧
      (left = [] → (q.executed : Multiset String) = {startNode s start} + selections ds)) ∧
    (∀ visits, ∃ ds m q, Leaves s g visits start p ds m q) ∧
    ∀ visits name available q,
      execute s g visits start p = (.error (.nodeNotFound name available), q) ↔
        available = g.nodes.map (·.1) ∧ name ∉ available ∧
          ∃ ds rest t, Reaches s g start p ds (.check (name :: rest)) t ∧ t.running = true ∧
            (entries ds).length < visits ∧ t.hangs s = false ∧ q = closed s t := by
  have hexecuted {ds : List Deed} {m : Moment} {q : Progress} (h : Reaches s g start p ds m q) :
      q.executed = entries ds := by
    rw [Course.executed_eq h, executed_opened, List.nil_append]
  have hconserves {ds : List Deed} {m : Moment} {q : Progress} (h : Reaches s g start p ds m q) :
      (q.executed + m.pending : Multiset String) = {startNode s start} + selections ds := by
    rw [hexecuted h, Course.conserves h]
    exact add_comm _ _
  refine ⟨fun ds m q h ↦ ⟨hexecuted h, hconserves h, fun l name r hsplit ↦ ?_⟩,
    fun ds outcome left q h ↦ ⟨?_, ?_⟩, fun visits ↦ exists_leaves s g visits start p,
    fun visits name available q ↦ execute_missing_iff⟩
  · exact Course.grounded_of_executed h (executed_opened _ _) hsplit
  · rintro rfl
    cases h with
    | snoc _ hstep =>
      cases hstep with
      | empty hp => rfl
  · rintro rfl
    exact (add_zero _).symm.trans (hconserves h)

end

def fork : Graph where
  nodes := [
    ("start", { edges := [⟨"twin", none, none⟩, ⟨"twin", none, none⟩, ⟨"gone", none, none⟩] }),
    ("twin", {})]

theorem reaches_fork : ∃ ds q,
    Reaches bare fork (some "start") (Progress.ofGraph fork [] []) ds (.check ["gone"]) q ∧
      entries ds = ["start", "twin", "twin"] ∧ selections ds = ["twin", "twin", "gone"] ∧
      q.running = true ∧ q.hangs bare = false := by
  have hhere : Reaches bare fork (some "start") (Progress.ofGraph fork [] []) []
      (.check ["start"]) _ := .here
  have hentered := (hhere.snoc (.enter rfl rfl rfl)).snoc (.go rfl rfl)
  have hchosen := ((hentered.snoc (.choose rfl)).snoc (.choose rfl)).snoc (.choose rfl)
  have htwin := ((hchosen.snoc .push).snoc (.enter rfl rfl rfl)).snoc (.go rfl rfl)
  have hagain := ((htwin.snoc .push).snoc (.enter rfl rfl rfl)).snoc (.go rfl rfl)
  exact ⟨_, _, hagain.snoc .push, rfl, rfl, rfl, rfl⟩

theorem reaches_fork_emptied : ∃ ds q,
    Reaches bare fork (some "twin") (Progress.ofGraph fork [] []) ds (.ended (.ok .emptied) []) q ∧
      selections ds = [] := by
  have hhere : Reaches bare fork (some "twin") (Progress.ofGraph fork [] []) []
      (.check ["twin"]) _ := .here
  have htwin := (hhere.snoc (.enter rfl rfl rfl)).snoc (.go rfl rfl)
  exact ⟨_, _, (htwin.snoc .push).snoc (.empty rfl), rfl⟩

theorem execute_fork_conserves :
    (∃ ds q,
      Reaches bare fork (some "start") (Progress.ofGraph fork [] []) ds (.check ["gone"]) q ∧
      entries ds = ["start", "twin", "twin"] ∧
      (q.executed + ["gone"] : Multiset String) = {"start"} + ["twin", "twin", "gone"] ∧
      execute bare fork 4 (some "start") (Progress.ofGraph fork [] []) =
        (.error (.nodeNotFound "gone" ["start", "twin"]), closed bare q)) ∧
    ∃ ds q,
      Reaches bare fork (some "twin") (Progress.ofGraph fork [] []) ds (.ended (.ok .emptied) []) q ∧
      (q.executed : Multiset String) = {"twin"} := by
  constructor
  · obtain ⟨ds, q, h, hentries, hselections, hq, hhangs⟩ := reaches_fork
    have hall := execute_conserves bare fork (some "start") (Progress.ofGraph fork [] [])
    have hsum := (hall.1 ds _ q h).2.1
    rw [hselections] at hsum
    refine ⟨ds, q, h, hentries, hsum, (hall.2.2.2 4 "gone" _ _).2 ?_⟩
    exact ⟨rfl, by decide, ds, [], q, h, hq, by rw [hentries]; decide, hhangs, rfl⟩
  · obtain ⟨ds, q, h, hselections⟩ := reaches_fork_emptied
    have hall := execute_conserves bare fork (some "twin") (Progress.ofGraph fork [] [])
    have hsum := (hall.2.1 ds _ [] q h).2 rfl
    rw [hselections] at hsum
    exact ⟨ds, q, h, hsum.trans (add_zero _)⟩

end Run

end Flowgraph
