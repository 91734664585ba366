import Flowgraph.Document.Reference
import Flowgraph.Proofs.Faults
import Flowgraph.Proofs.Run.Effects

namespace Flowgraph

/-- An edge of the first node may lead to the second name. Edges of end nodes lead nowhere. -/
def Graph.LeadsTo (g : Graph) (a b : String) : Prop :=
  ∃ n, g.node? a = some n ∧ n.isEnd = false ∧ ∃ e ∈ n.edges, b ∈ e.targets

namespace Run

open Act

variable {s : Setup} {g : Graph}

def entered (s : Setup) (name : String) (n : Node) (p : Progress) : Progress := (enter s name n p).2

def finished (s : Setup) (n : Node) (p : Progress) : Progress :=
  let code := n.code.getD 0
  (trace s ("Reached end node, stopping with exit code " ++ toString code) []
    { p with exitCode := code }).2

def blamed (name : String) (p : Progress) : Progress :=
  (onJournal (note .error ("Error executing node " ++ name)) p).2

def announced (s : Setup) (ts : List String) (p : Progress) : Progress :=
  (trace s (match ts with
    | [] => "No next nodes found, continuing with remaining queue"
    | ts => "Next nodes: " ++ String.intercalate ", " ts) [] p).2

section

variable (name : String) (n : Node) (ts : List String) (p : Progress)

theorem enter_eq : enter s name n p = (.ok (), entered s name n p) := by
  unfold entered enter
  split <;> rfl

@[simp] theorem executed_entered : (entered s name n p).executed = p.executed ++ [name] := by
  unfold entered enter
  split <;> rfl

@[simp] theorem running_entered : (entered s name n p).running = p.running := by
  unfold entered enter
  split <;> rfl

@[simp] theorem executed_finished : (finished s n p).executed = p.executed := rfl

@[simp] theorem executed_blamed : (blamed name p).executed = p.executed := rfl

@[simp] theorem running_blamed : (blamed name p).running = p.running := rfl

@[simp] theorem executed_announced : (announced s ts p).executed = p.executed := rfl

end

inductive Visits (s : Setup) (g : Graph) (name : String) (p : Progress) :
    Except Fault (Option (List String)) → Progress → Prop
  | missing : g.node? name = none →
      Visits s g name p (.error (.nodeNotFound name (g.nodes.map (·.1)))) p
  | finish {n : Node} : g.node? name = some n → n.isEnd = true →
      Visits s g name p (.ok none) (finished s n (entered s name n p))
  | fail {n : Node} {f : Fault} {q : Progress} : g.node? name = some n → n.isEnd = false →
      runExecutor s n.executor name (entered s name n p) = (.error f, q) →
      Visits s g name p (.error f) (blamed name q)
  | stop {n : Node} {v : Value} {q : Progress} : g.node? name = some n → n.isEnd = false →
      runExecutor s n.executor name (entered s name n p) = (.ok v, q) → q.running = false →
      Visits s g name p (.ok none) q
  | refuse {n : Node} {v : Value} {f : Fault} {q r : Progress} :
      g.node? name = some n → n.isEnd = false →
      runExecutor s n.executor name (entered s name n p) = (.ok v, q) → q.running = true →
      targets s g n.edges q = (.error f, r) → Visits s g name p (.error f) (blamed name r)
  | push {n : Node} {v : Value} {ts : List String} {q r : Progress} :
      g.node? name = some n → n.isEnd = false →
      runExecutor s n.executor name (entered s name n p) = (.ok v, q) → q.running = true →
      targets s g n.edges q = (.ok ts, r) →
      Visits s g name p (.ok (some ts)) (announced s ts r)

section

variable {name : String} {n : Node} {p q r : Progress} {v : Value} {f : Fault} {ts : List String}

def move (s : Setup) (g : Graph) (name : String) (n : Node) :
    Act Progress (Option (List String)) := do
  let _ ← runExecutor s n.executor name
  let p ← Act.get
  if p.running then some <$> targets s g n.edges else return none

theorem advance_of_move_ok {ts : Option (List String)} (h : move s g name n p = (.ok ts, q)) :
    advance s g name n p = (.ok ts, q) := by
  unfold advance
  exact bind_of_ok (attempt_eq h)

theorem advance_of_move_error (h : move s g name n p = (.error f, q)) :
    advance s g name n p = (.error f, blamed name q) := by
  unfold advance
  exact bind_of_ok (attempt_eq h)

theorem move_of_not_running (h : runExecutor s n.executor name p = (.ok v, q))
    (hq : q.running = false) : move s g name n p = (.ok none, q) := by
  unfold move
  rw [bind_of_ok h, bind_of_ok (rfl : Act.get q = (.ok q, q)), hq]
  rfl

theorem move_of_running (h : runExecutor s n.executor name p = (.ok v, q))
    (hq : q.running = true) : move s g name n p = (some <$> targets s g n.edges) q := by
  unfold move
  rw [bind_of_ok h, bind_of_ok (rfl : Act.get q = (.ok q, q)), hq]
  rfl

end

theorem visits_visit (s : Setup) (g : Graph) (name : String) (p : Progress) :
    Visits s g name p (visit s g name p).1 (visit s g name p).2 := by
  unfold visit
  cases hn : g.node? name with
  | none => exact .missing hn
  | some n =>
    dsimp only
    rw [bind_of_ok (enter_eq name n p)]
    cases he : n.isEnd with
    | true => exact .finish hn he
    | false =>
      rw [if_neg Bool.false_ne_true]
      rcases hx : runExecutor s n.executor name (entered s name n p) with ⟨f | v, q⟩
      · have hmove : move s g name n (entered s name n p) = (.error f, q) := bind_of_error hx
        rw [bind_of_error (advance_of_move_error hmove)]
        exact .fail hn he hx
      cases hq : q.running with
      | false =>
        rw [bind_of_ok (advance_of_move_ok (move_of_not_running hx hq))]
        exact .stop hn he hx hq
      | true =>
        have hmove := move_of_running (g := g) hx hq
        rcases ht : targets s g n.edges q with ⟨f | ts, r⟩
        · have hmap : (some <$> targets s g n.edges) q = (.error f, r) := bind_of_error ht
          rw [bind_of_error (advance_of_move_error (hmove.trans hmap))]
          exact .refuse hn he hx hq ht
        · have hmap : (some <$> targets s g n.edges) q = (.ok (some ts), r) := map_of_ok ht
          rw [bind_of_ok (advance_of_move_ok (hmove.trans hmap))]
          cases ts with
          | nil => exact .push hn he hx hq ht
          | cons t ts => exact .push hn he hx hq ht

theorem visits_of_visit {name : String} {p q : Progress} {r : Except Fault (Option (List String))}
    (h : visit s g name p = (r, q)) : Visits s g name p r q := by
  have hv := visits_visit s g name p
  rwa [h] at hv

theorem node_of_visit {name : String} {p q : Progress} {r : Option (List String)}
    (h : visit s g name p = (.ok r, q)) : ∃ n, g.node? name = some n := by
  cases visits_of_visit h with
  | finish hn | stop hn | push hn => exact ⟨_, hn⟩

/-- A visit of a node enters its name, however the visit ends. -/
theorem executed_visit {name : String} {n : Node} (hn : g.node? name = some n) (p : Progress) :
    (visit s g name p).2.executed = p.executed ++ [name] := by
  have hkeep := executed_allows
  rcases h : visit s g name p with ⟨r, q⟩
  cases visits_of_visit h with
  | missing hnone =>
    rw [hn] at hnone
    cases hnone
  | finish => rw [executed_finished, executed_entered]
  | fail _ _ hx => rw [executed_blamed, (hkeep.runExecutor _ _).rel hx, executed_entered]
  | stop _ _ hx => rw [(hkeep.runExecutor _ _).rel hx, executed_entered]
  | refuse _ _ hx _ ht =>
    rw [executed_blamed, (hkeep.targets _).rel ht, (hkeep.runExecutor _ _).rel hx, executed_entered]
  | push _ _ hx _ ht =>
    rw [executed_announced, (hkeep.targets _).rel ht, (hkeep.runExecutor _ _).rel hx,
      executed_entered]

/-- An edge leads to its target or to its fallback. -/
theorem mem_targets_of_follow {e : Edge} {t : Option String} {p q : Progress}
    (h : follow s g e p = (.ok t, q)) : ∀ name ∈ t, name ∈ e.targets := by
  have htarget : e.target ∈ e.targets := List.mem_cons_self
  have hfallback (name : String) (hname : name ∈ e.fallback) : name ∈ e.targets :=
    List.mem_cons_of_mem _ (Option.mem_toList.2 hname)
  unfold follow at h
  cases hc : e.condition with
  | none =>
    rw [hc] at h
    cases h
    intro name hname
    cases hname
    exact htarget
  | some c =>
    rw [hc] at h
    obtain ⟨_, p₁, -, h⟩ := bind_eq_ok.1 h
    obtain ⟨holds, p₂, -, h⟩ := bind_eq_ok.1 h
    obtain ⟨_, p₃, -, h⟩ := bind_eq_ok.1 h
    cases h
    cases holds with
    | true =>
      intro name hname
      cases hname
      exact htarget
    | false => exact hfallback

def bare : Setup where
  options := {}
  settings := {}
  secret _ := none

def opened (s : Setup) (g : Graph) (first : String) (p : Progress) : Progress :=
  (runHooks s .start g.before.start
    (trace s ("Starting graph execution at '" ++ first ++ "'") []
      { p with running := true, executed := [] }).2).2

def close (s : Setup) (outcome : Except Fault Ending) : Act Progress (Option Result) := do
  if (← Act.get).hangs s then return none
  Act.modify fun p ↦ { p with running := false }
  trace s ("Graph execution finished in " ++ toString s.elapsed ++ "ms with exit code " ++
    toString (← Act.get).exitCode)
  Act.modify fun p ↦ { p with journal := { p.journal with node := none } }
  let _ ← Act.ofExcept outcome
  let p ← Act.get
  return some ⟨p.exitCode, ← copyState, p.executed, s.elapsed⟩

section

variable {first : String} {start : Option String} {visits : ℕ} {p q : Progress}
  {outcome : Except Fault Ending}

theorem executed_opened (first : String) (p : Progress) : (opened s g first p).executed = [] :=
  executed_allows.runHooks .start g.before.start _

theorem body_eq (s : Setup) (g : Graph) (visits : ℕ) (first : String) (p : Progress) :
    (do
      runHooks s .start g.before.start
      loop s g visits [first] : Act Progress Ending)
        (trace s ("Starting graph execution at '" ++ first ++ "'") []
          { p with running := true, executed := [] }).2 =
      loop s g visits [first] (opened s g first p) := by
  set p₀ := (trace s ("Starting graph execution at '" ++ first ++ "'") []
    { p with running := true, executed := [] }).2
  rcases hr : runHooks s .start g.before.start p₀ with ⟨f | u, q⟩
  · exact ((failsOnly_runHooks .start _).error hr).elim
  · have hq : opened s g first p = q := by
      unfold opened
      rw [hr]
    rw [bind_of_ok hr, hq]

theorem execute_of_unfinished
    (h : loop s g visits [startNode s start] (opened s g (startNode s start) p) =
      (.ok .unfinished, q)) : execute s g visits start p = (.ok none, q) := by
  have hbody := (body_eq s g visits (startNode s start) p).trans h
  unfold execute
  refine (bind_of_ok rfl).trans ((bind_of_ok rfl).trans ((bind_of_ok (attempt_eq hbody)).trans ?_))
  rfl

theorem execute_of_loop
    (h : loop s g visits [startNode s start] (opened s g (startNode s start) p) = (outcome, q))
    (houtcome : outcome ≠ .ok .unfinished) :
    execute s g visits start p = close s outcome q := by
  have hbody := (body_eq s g visits (startNode s start) p).trans h
  unfold execute
  refine (bind_of_ok rfl).trans ((bind_of_ok rfl).trans ((bind_of_ok (attempt_eq hbody)).trans ?_))
  split
  · exact absurd rfl houtcome
  · rfl

def closed (s : Setup) (q : Progress) : Progress :=
  if q.hangs s then q
  else
    let p := (trace s ("Graph execution finished in " ++ toString s.elapsed ++
      "ms with exit code " ++ toString q.exitCode) [] { q with running := false }).2
    { p with journal := { p.journal with node := none } }

@[simp] theorem executed_closed (q : Progress) : (closed s q).executed = q.executed := by
  unfold closed
  split <;> rfl

theorem running_closed (h : q.hangs s = false) : (closed s q).running = false := by
  unfold closed
  rw [h]
  rfl

theorem copyState_snd (p : Progress) : (copyState p).2 = p := by
  have h : Within Eq copyState := by
    refine (within_get Eq.refl).bind Eq.trans fun p ↦ ?_
    dsimp only
    split
    · exact within_pure Eq.refl _
    · exact within_fail Eq.refl _
  exact (h p).symm

theorem close_of_endless (h : q.hangs s = true) :
    close s outcome q = (.ok none, closed s q) := by
  unfold close closed
  rw [bind_of_ok (rfl : Act.get q = (.ok q, q)), if_pos h, if_pos h]
  rfl

theorem close_error (h : q.hangs s = false) (f : Fault) :
    close s (.error f) q = (.error f, closed s q) := by
  unfold close closed
  rw [bind_of_ok (rfl : Act.get q = (.ok q, q)), if_neg (by simp [h]), if_neg (by simp [h])]
  rfl

theorem close_ok (h : q.hangs s = false) (ending : Ending) :
    close s (.ok ending) q = ((copyState (closed s q)).1.map fun state ↦
      some ⟨q.exitCode, state, q.executed, s.elapsed⟩, closed s q) := by
  have hcopy := copyState_snd (closed s q)
  have hclose : close s (.ok ending) q = (copyState >>= fun state ↦
      return some ⟨q.exitCode, state, q.executed, s.elapsed⟩) (closed s q) := by
    unfold close closed
    rw [bind_of_ok (rfl : Act.get q = (.ok q, q)), if_neg (by simp [h]), if_neg (by simp [h])]
    rfl
  rw [hclose]
  rcases h : copyState (closed s q) with ⟨f | v, q'⟩
  · rw [bind_of_error h, ← hcopy, h]
    rfl
  · rw [bind_of_ok h, ← hcopy, h]
    rfl

/-- A run that is left comes to a result or a fault, unless it is held by a pause without end. -/
theorem close_fst_eq_none_iff : (close s outcome q).1 = .ok none ↔ q.hangs s = true := by
  cases h : q.hangs s with
  | true => simp [close_of_endless h]
  | false =>
    cases outcome with
    | error f => simp [close_error h]
    | ok ending =>
      rw [close_ok h]
      cases (copyState (closed s q)).1 <;> simp [Except.map]

theorem close_snd : (close s outcome q).2 = closed s q := by
  cases h : q.hangs s with
  | true => rw [close_of_endless h]
  | false =>
    cases outcome with
    | error f => rw [close_error h]
    | ok ending => rw [close_ok h]

end

end Run

end Flowgraph
