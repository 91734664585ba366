import Flowgraph.Proofs.Condition.Depth
import Flowgraph.Proofs.Run.DepthFirst

namespace Flowgraph

open Act

def Fault.IsDangling : Fault → Prop
  | nodeNotFound .. | unknownCondition .. => True
  | _ => False

theorem Fault.OfExecutor.not_isDangling {f : Fault} (h : f.OfExecutor) : ¬ f.IsDangling := by
  cases f with
  | nodeNotFound | unknownCondition => exact h.elim
  | _ => exact not_false

theorem Fault.OfComparison.not_isDangling {f : Fault} (h : f.OfComparison) : ¬ f.IsDangling := by
  cases f with
  | nodeNotFound | unknownCondition => exact h.elim
  | _ => exact not_false

theorem exists_lookup_of_any {α : Type} {l : List (String × α)} {k : String}
    (h : l.any (·.1 == k) = true) : ∃ a, l.lookup k = some a := by
  obtain ⟨e, he, hk⟩ := List.any_eq_true.1 h
  refine Option.isSome_iff_exists.1 (List.lookup_isSome_iff.2 ⟨e, he, ?_⟩)
  rwa [beq_iff_eq, eq_comm, ← beq_iff_eq]

/-- A graph has all the nodes and all the conditions that its edges and its conditions refer to. -/
structure Graph.Closed (g : Graph) : Prop where
  condition : ∀ {name c}, (name, c) ∈ g.conditions → ∀ n ∈ c.references, g.hasCondition n = true
  target : ∀ {name node e}, (name, node) ∈ g.nodes → e ∈ node.edges →
    ∀ n ∈ e.targets, g.hasNode n = true
  edgeCondition : ∀ {name node e}, (name, node) ∈ g.nodes → e ∈ node.edges →
    ∀ n ∈ e.references, g.hasCondition n = true

namespace Graph

variable {g : Graph}

theorem hasCondition_of_missingConditions {names : List String}
    (h : g.missingConditions names = []) : ∀ n ∈ names, g.hasCondition n = true := by
  intro n hn
  have hf := List.filter_eq_nil_iff.1 h n hn
  simpa using hf

theorem mem_edges_danglingOfEdge {node : Node} {e : Edge} (he : e ∈ node.edges) {name : String}
    (h : (node.edges.mapIdx fun i e ↦ g.danglingOfEdge name e i).flatten = []) :
    ∃ i, g.danglingOfEdge name e i = [] := by
  obtain ⟨i, hi, rfl⟩ := List.getElem_of_mem he
  exact ⟨i, List.flatten_eq_nil_iff.1 h _ (List.mem_mapIdx.2 ⟨i, hi, rfl⟩)⟩

theorem closed_of_dangling {start : String} (h : g.dangling start = []) :
    g.hasNode start = true ∧ g.Closed := by
  obtain ⟨h, hnodes⟩ := List.append_eq_nil_iff.1 h
  obtain ⟨hstart, hconditions⟩ := List.append_eq_nil_iff.1 h
  have hedge {name : String} {node : Node} {e : Edge} (hn : (name, node) ∈ g.nodes)
      (he : e ∈ node.edges) : ∃ i, g.danglingOfEdge name e i = [] :=
    mem_edges_danglingOfEdge he (List.flatMap_eq_nil_iff.1 hnodes _ hn)
  refine ⟨by simpa using hstart, fun {name c} hc ↦ ?_, fun {name node e} hn he n ht ↦ ?_,
    fun {name node e} hn he ↦ ?_⟩
  · have hm := List.flatMap_eq_nil_iff.1 hconditions _ hc
    exact hasCondition_of_missingConditions (List.map_eq_nil_iff.1 hm)
  · obtain ⟨i, hi⟩ := hedge hn he
    have hm := List.map_eq_nil_iff.1 (List.append_eq_nil_iff.1 hi).1
    simpa using List.filter_eq_nil_iff.1 hm n ht
  · obtain ⟨i, hi⟩ := hedge hn he
    exact hasCondition_of_missingConditions (List.map_eq_nil_iff.1 (List.append_eq_nil_iff.1 hi).2)

end Graph

namespace Condition

/-- If a condition and all conditions of the table refer to conditions of the table only, then no
unknown condition is met. -/
theorem failsOnly_eval (st : Setting) (htable : ∀ {name c}, (name, c) ∈ st.table →
      ∀ n ∈ c.references, st.table.any (·.1 == n) = true) (depth : ℕ) (c : Condition)
    (hc : ∀ n ∈ c.references, st.table.any (·.1 == n) = true) :
    (eval st depth c).FailsOnly fun f ↦ ¬ f.IsDangling := by
  induction depth generalizing c with
  | zero => exact yields_fail not_false
  | succ depth ih =>
    cases c with
    | simple path r operand =>
      exact (failsOnly_evalSimple st path r operand).mono fun _ ↦ Fault.OfComparison.not_isDangling
    | all cs =>
      exact failsOnly_evalUntil (fun d hd ↦ ih d fun n hn ↦ hc n (mem_referencesAll hd hn)) 0
    | any cs =>
      exact failsOnly_evalUntil (fun d hd ↦ ih d fun n hn ↦ hc n (mem_referencesAll hd hn)) 0
    | named name =>
      obtain ⟨d, hd⟩ := exists_lookup_of_any (hc name List.mem_cons_self)
      rw [eval, hd]
      exact ih d (htable (mem_of_lookup hd))

end Condition

namespace Run

variable {s : Setup} {g : Graph}

theorem yields_follow (hg : g.Closed) {name : String} {node : Node} {e : Edge}
    (hn : (name, node) ∈ g.nodes) (he : e ∈ node.edges) :
    (follow s g e).Yields (fun t ↦ ∀ n, t = some n → g.hasNode n = true)
      fun f ↦ ¬ f.IsDangling := by
  have htarget {t : Option String} (ht : t = some e.target ∨ t = e.fallback) (n : String)
      (h : t = some n) : g.hasNode n = true := by
    refine hg.target hn he n ?_
    obtain rfl | rfl := ht
    · cases h
      exact List.mem_cons_self
    · exact List.mem_cons_of_mem _ (by rw [h]; exact List.mem_singleton_self n)
  have hreferences := hg.edgeCondition hn he
  unfold Edge.references at hreferences
  unfold follow
  cases hc : e.condition with
  | none => exact yields_pure (htarget (.inl rfl))
  | some c =>
    rw [hc] at hreferences
    refine ((failsOnly_runHooks .all _).mono fun _ ↦ False.elim).bind fun _ ↦
      (failsOnly_onJournal (Condition.failsOnly_eval (conditionSetting s g) hg.condition s.depth c
        hreferences)).bind fun holds ↦ (failsOnly_trace _ _).bind fun _ ↦ yields_pure (htarget ?_)
    cases holds
    · exact .inr rfl
    · exact .inl rfl

theorem yields_targets (hg : g.Closed) {name : String} {node : Node}
    (hn : (name, node) ∈ g.nodes) {es : List Edge} (hes : ∀ e ∈ es, e ∈ node.edges) :
    (targets s g es).Yields (fun ts ↦ ∀ n ∈ ts, g.hasNode n = true) fun f ↦ ¬ f.IsDangling := by
  induction es with
  | nil => exact yields_pure fun n hn ↦ by cases hn
  | cons e es ih =>
    refine (yields_follow hg hn (hes e List.mem_cons_self)).bind fun t ht ↦
      (ih fun e he ↦ hes e (List.mem_cons_of_mem _ he)).bind fun ts hts ↦ yields_pure fun n h ↦ ?_
    obtain h | h := List.mem_append.1 h
    · exact ht n (Option.mem_toList.1 h)
    · exact hts n h

/-- What a visit of a node answers: no names of other things than nodes. -/
theorem yields_visit (hg : g.Closed) {name : String} (hname : g.hasNode name = true) :
    (visit s g name).Yields (fun r ↦ ∀ ts, r = some ts → ∀ n ∈ ts, g.hasNode n = true)
      fun f ↦ ¬ f.IsDangling := by
  have htargets {n : Node} (hn : g.node? name = some n) :=
    yields_targets (s := s) hg (mem_of_lookup hn) fun e he ↦ he
  refine ⟨fun {p r q} h ↦ ?_, fun {p f q} h ↦ ?_⟩
  · intro ts hts
    cases visits_of_visit h with
    | finish | stop => cases hts
    | push hn he hx hq ht =>
      cases hts
      exact (htargets hn).ok ht
  · cases visits_of_visit h with
    | missing hn =>
      obtain ⟨node, hnode⟩ := exists_lookup_of_any hname
      rw [Graph.node?, hnode] at hn
      cases hn
    | fail hn he hx => exact ((failsOnly_runExecutor _ _).error hx).not_isDangling
    | refuse hn he hx hq ht => exact (htargets hn).error ht

theorem Walk.hasNode (hg : g.Closed) {a names b : List String} {p q : Progress}
    (h : Walk s g a p names b q) (ha : ∀ n ∈ a, g.hasNode n = true) :
    ∀ n ∈ b, g.hasNode n = true := by
  induction h with
  | stay agenda p => exact ha
  | @step name rest ts names agenda p q r hp hv h ih =>
    apply ih
    intro n hn
    obtain hn | hn := List.mem_append.1 hn
    · exact (yields_visit hg (ha name List.mem_cons_self)).ok hv ts rfl n hn
    · exact ha n (List.mem_cons_of_mem _ hn)

theorem failsOnly_loop (hg : g.Closed) (n : ℕ) {a : List String}
    (ha : ∀ n ∈ a, g.hasNode n = true) : (loop s g n a).FailsOnly fun f ↦ ¬ f.IsDangling where
  ok _ := trivial
  error {p f q} h := by
    obtain ⟨names, rest, r, m, -, hw, he⟩ := exists_walk (s := s) (g := g) n a p
    rw [h] at he
    cases he with
    | failed hp hv => exact (yields_visit hg (hw.hasNode hg ha _ List.mem_cons_self)).error hv

theorem failsOnly_copyState : copyState.FailsOnly fun f ↦ ¬ f.IsDangling := by
  refine failsOnly_get.bind fun p ↦ ?_
  dsimp only
  split
  · exact failsOnly_pure _
  · exact yields_fail not_false

/-- A run of a graph without dangling references, from whatever progress and with whatever settings,
secrets and replies, never fails over a missing node or condition: not as a whole, nor in a visit at
any stage of its walk, nor in an executor of a node or a hook. -/
theorem execute_not_isDangling (g : Graph) (start : String) (hstart : start ≠ "")
    (h : g.dangling start = []) (s : Setup) (visits : ℕ) (p : Progress) :
    (∀ f q, execute s g visits (some start) p = (.error f, q) → ¬ f.IsDangling) ∧
    (∀ names name rest q r f, Walk s g [start] p names (name :: rest) q →
      visit s g name q = (.error f, r) → ¬ f.IsDangling) ∧
    ∀ x label q f r, runExecutor s x label q = (.error f, r) → ¬ f.IsDangling := by
  obtain ⟨hnode, hg⟩ := Graph.closed_of_dangling h
  have hfirst : ∀ n ∈ [start], g.hasNode n = true := fun n hn ↦ by
    rwa [List.mem_singleton.1 hn]
  have hname : startNode s (some start) = start := if_neg (by simpa using hstart)
  have hbody : (do
      runHooks s .start g.before.start
      loop s g visits [start] : Act Progress Ending).FailsOnly fun f ↦ ¬ f.IsDangling :=
    ((failsOnly_runHooks .start _).mono fun _ ↦ False.elim).bind fun _ ↦
      failsOnly_loop hg visits hfirst
  have hexecute : (execute s g visits (some start)).FailsOnly fun f ↦ ¬ f.IsDangling := by
    unfold execute
    rw [hname]
    refine (failsOnly_modify _).bind fun _ ↦ (failsOnly_trace _ _).bind fun _ ↦
      hbody.attempt.bind fun outcome ho ↦ ?_
    split_ifs
    · exact failsOnly_pure none
    refine failsOnly_get.bind fun p ↦ ?_
    split_ifs
    · exact failsOnly_pure none
    · refine (failsOnly_modify _).bind fun _ ↦ failsOnly_get.bind fun _ ↦
        (failsOnly_trace _ _).bind fun _ ↦ (failsOnly_modify _).bind fun _ ↦ FailsOnly.bind ?_
          fun _ ↦ failsOnly_get.bind fun q ↦ failsOnly_copyState.bind fun v ↦ failsOnly_pure _
      cases outcome with
      | ok a => exact failsOnly_pure a
      | error f => exact yields_fail (ho.2 f rfl)
  refine ⟨fun f q ↦ hexecute.error, fun names name rest q r f hw hv ↦ ?_, fun x label q f r hx ↦ ?_⟩
  · exact (yields_visit hg (hw.hasNode hg hfirst name List.mem_cons_self)).error hv
  · exact ((failsOnly_runExecutor x label).error hx).not_isDangling

/-- A graph with a fallback, an alias of a condition and names within a disjunction. -/
def detour : Graph where
  conditions := [("ready", .named "known"), ("known", .simple "user.id" .unequal .null)]
  nodes := [
    ("start", { edges := [⟨"left", some (.named "ready"), some "right"⟩] }),
    ("right", { edges := [⟨"left", some (.any [.all [.named "known"], .named "ready"]), none⟩] }),
    ("left", { edges := [⟨"end", none, none⟩] }),
    ("end", { isEnd := true })]

theorem execute_detour_not_isDangling :
    "start" ≠ "" ∧ detour.dangling "start" = [] ∧
    ∀ f q, execute { options := {}, settings := {}, secret := fun _ ↦ none } detour 5 (some "start")
      (Progress.ofGraph detour [] []) = (.error f, q) → ¬ f.IsDangling := by
  have hstart : "start" ≠ "" := by decide
  have h : detour.dangling "start" = [] := by decide
  exact ⟨hstart, h, (execute_not_isDangling detour "start" hstart h _ 5 _).1⟩

end Run

end Flowgraph
