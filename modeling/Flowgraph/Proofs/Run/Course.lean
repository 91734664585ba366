import Flowgraph.Proofs.Run.DepthFirst

namespace Flowgraph.Run

open Act

variable {s : Setup} {g : Graph}

/-- Where a run is between two of its steps, and which names wait. -/
inductive Moment where
  | check (agenda : List String)
  | entered (name : String) (n : Node) (rest : List String)
  /-- Edges of a node remain to be followed; others have selected some names. -/
  | choosing (name : String) (es : List Edge) (chosen rest : List String)
  | ended (outcome : Except Fault Ending) (left : List String)

def Moment.pending : Moment → List String
  | check agenda => agenda
  | entered _ _ rest => rest
  | choosing _ _ chosen rest => chosen ++ rest
  | ended _ left => left

inductive Deed where
  | entry (name : String)
  | executor (name : String)
  /-- An edge of a node has been followed and may have selected a name. -/
  | choice (name : String) (e : Edge) (selected : Option String)
  | refusal (name : String) (e : Edge)

namespace Deed

def entry? : Deed → Option String
  | entry name => some name
  | _ => none

def selected? : Deed → Option String
  | choice _ _ selected => selected
  | _ => none

def node : Deed → String
  | entry name | executor name | choice name _ _ | refusal name _ => name

end Deed

def entries (ds : List Deed) : List String := ds.filterMap Deed.entry?

def selections (ds : List Deed) : List String := ds.filterMap Deed.selected?

@[simp] theorem entries_append (ds ds' : List Deed) :
    entries (ds ++ ds') = entries ds ++ entries ds' := List.filterMap_append

@[simp] theorem selections_append (ds ds' : List Deed) :
    selections (ds ++ ds') = selections ds ++ selections ds' := List.filterMap_append

inductive Step (s : Setup) (g : Graph) :
    Moment → Progress → List Deed → Moment → Progress → Prop
  | empty {p : Progress} : p.running = true →
      Step s g (.check []) p [] (.ended (.ok .emptied) []) p
  | halt {agenda : List String} {p : Progress} : p.running = false →
      Step s g (.check agenda) p [] (.ended (.ok .stopped) agenda) p
  | missing {name : String} {rest : List String} {p : Progress} : p.running = true →
      g.node? name = none →
      Step s g (.check (name :: rest)) p []
        (.ended (.error (.nodeNotFound name (g.nodes.map (·.1)))) (name :: rest)) p
  | finish {name : String} {n : Node} {rest : List String} {p : Progress} : p.running = true →
      g.node? name = some n → n.isEnd = true →
      Step s g (.check (name :: rest)) p [.entry name] (.ended (.ok .stopped) rest)
        (finished s n (entered s name n p))
  | enter {name : String} {n : Node} {rest : List String} {p : Progress} : p.running = true →
      g.node? name = some n → n.isEnd = false →
      Step s g (.check (name :: rest)) p [.entry name] (.entered name n rest) (entered s name n p)
  | fail {name : String} {n : Node} {rest : List String} {p q : Progress} {f : Fault} :
      runExecutor s n.executor name p = (.error f, q) →
      Step s g (.entered name n rest) p [.executor name] (.ended (.error f) rest) (blamed name q)
  | stop {name : String} {n : Node} {rest : List String} {p q : Progress} {v : Value} :
      runExecutor s n.executor name p = (.ok v, q) → q.running = false →
      Step s g (.entered name n rest) p [.executor name] (.ended (.ok .stopped) rest) q
  | go {name : String} {n : Node} {rest : List String} {p q : Progress} {v : Value} :
      runExecutor s n.executor name p = (.ok v, q) → q.running = true →
      Step s g (.entered name n rest) p [.executor name] (.choosing name n.edges [] rest) q
  | choose {name : String} {e : Edge} {es : List Edge} {chosen rest : List String}
      {t : Option String} {p q : Progress} : follow s g e p = (.ok t, q) →
      Step s g (.choosing name (e :: es) chosen rest) p [.choice name e t]
        (.choosing name es (chosen ++ t.toList) rest) q
  | refuse {name : String} {e : Edge} {es : List Edge} {chosen rest : List String}
      {f : Fault} {p q : Progress} : follow s g e p = (.error f, q) →
      Step s g (.choosing name (e :: es) chosen rest) p [.refusal name e]
        (.ended (.error f) (chosen ++ rest)) (blamed name q)
  | push {name : String} {chosen rest : List String} {p : Progress} :
      Step s g (.choosing name [] chosen rest) p [] (.check (chosen ++ rest))
        (announced s chosen p)

/-- The steps from one moment of a run to another, with all that is done on the way. -/
inductive Course (s : Setup) (g : Graph) (m : Moment) (p : Progress) :
    List Deed → Moment → Progress → Prop
  | here : Course s g m p [] m p
  | snoc {ds d : List Deed} {m' m'' : Moment} {q r : Progress} :
      Course s g m p ds m' q → Step s g m' q d m'' r → Course s g m p (ds ++ d) m'' r

section

variable {m m' m'' m₁ m₂ : Moment} {p q r p₁ p₂ : Progress} {d d' ds ds' : List Deed}

theorem Step.unique (h : Step s g m p d m₁ p₁) (h' : Step s g m p d' m₂ p₂) :
    d = d' ∧ m₁ = m₂ ∧ p₁ = p₂ := by
  cases h <;> cases h' <;> simp_all

theorem Step.course (h : Step s g m p d m' q) : Course s g m p d m' q := Course.here.snoc h

namespace Course

theorem trans (h : Course s g m p ds m' q) (h' : Course s g m' q ds' m'' r) :
    Course s g m p (ds ++ ds') m'' r := by
  induction h' with
  | here => rwa [List.append_nil]
  | snoc _ hstep ih =>
    rw [← List.append_assoc]
    exact ih.snoc hstep

theorem eq_or_step (h : Course s g m p ds m' q) : (ds = [] ∧ m = m' ∧ p = q) ∨
    ∃ d m₁ p₁ ds', Step s g m p d m₁ p₁ ∧ Course s g m₁ p₁ ds' m' q ∧ ds = d ++ ds' := by
  induction h with
  | here => exact .inl ⟨rfl, rfl, rfl⟩
  | @snoc ds d m' m'' q r h hstep ih =>
    refine .inr ?_
    obtain ⟨rfl, rfl, rfl⟩ | ⟨d₁, m₁, p₁, ds₁, hfirst, hrest, rfl⟩ := ih
    · exact ⟨d, m'', r, [], hstep, .here, (List.append_nil d).symm⟩
    · exact ⟨d₁, m₁, p₁, ds₁ ++ d, hfirst, hrest.snoc hstep, List.append_assoc _ _ _⟩

theorem eq_of_ended {outcome : Except Fault Ending} {left : List String}
    (h : Course s g (.ended outcome left) p ds m q) : ds = [] ∧ m = .ended outcome left ∧ q = p := by
  obtain ⟨hds, hm, hp⟩ | ⟨_, _, _, _, hstep, -⟩ := h.eq_or_step
  · exact ⟨hds, hm.symm, hp.symm⟩
  · cases hstep

/-- Of two courses from one moment one goes on where the other stops. -/
theorem compare (h : Course s g m p ds m₁ p₁) (h' : Course s g m p ds' m₂ p₂) :
    (∃ es, ds' = ds ++ es ∧ Course s g m₁ p₁ es m₂ p₂) ∨
      ∃ es, ds = ds' ++ es ∧ Course s g m₂ p₂ es m₁ p₁ := by
  induction h with
  | here => exact .inl ⟨ds', rfl, h'⟩
  | @snoc ds d m' m'' q r h hstep ih =>
    obtain ⟨es, rfl, hes⟩ | ⟨es, rfl, hes⟩ := ih
    · obtain ⟨rfl, rfl, rfl⟩ | ⟨d₁, m₁, p₁, es, hfirst, hrest, rfl⟩ := hes.eq_or_step
      · exact .inr ⟨d, by rw [List.append_nil], hstep.course⟩
      · obtain ⟨rfl, rfl, rfl⟩ := hstep.unique hfirst
        exact .inl ⟨es, (List.append_assoc _ _ _).symm, hrest⟩
    · -- The first course was ahead before its last step already.
      exact .inr ⟨es ++ d, List.append_assoc _ _ _, hes.snoc hstep⟩

/-- A course that ends the run takes in all courses from the same moment. -/
theorem rest_of_ended {outcome : Except Fault Ending} {left : List String}
    (h : Course s g m p ds m₁ p₁) (h' : Course s g m p ds' (.ended outcome left) q) :
    ∃ es, ds' = ds ++ es ∧ Course s g m₁ p₁ es (.ended outcome left) q := by
  obtain hes | ⟨es, rfl, hes⟩ := h.compare h'
  · exact hes
  · obtain ⟨rfl, rfl, rfl⟩ := hes.eq_of_ended
    exact ⟨[], by simp, .here⟩

end Course

end

/-- A moment within a visit is at the node entered last, which is no end node, and the edges that
remain are edges of that node. -/
def Moment.Placed (g : Graph) (executed : List String) : Moment → Prop
  | entered name n _ =>
    executed.getLast? = some name ∧ g.node? name = some n ∧ n.isEnd = false
  | choosing name es _ _ => executed.getLast? = some name ∧
    ∃ n, g.node? name = some n ∧ n.isEnd = false ∧ ∀ e ∈ es, e ∈ n.edges
  | check _ | ended _ _ => True

section

variable {m m' : Moment} {p q : Progress} {d ds : List Deed} {a : List String}

theorem Step.executed_eq (h : Step s g m p d m' q) : q.executed = p.executed ++ entries d := by
  have hkeep := executed_allows
  cases h with
  | empty | halt | missing | push => exact (List.append_nil _).symm
  | finish | enter => exact executed_entered _ _ _
  | fail hx | stop hx | go hx =>
    exact ((hkeep.runExecutor _ _).rel hx).trans (List.append_nil _).symm
  | choose ht | refuse ht => exact ((hkeep.follow _).rel ht).trans (List.append_nil _).symm

theorem Step.running_eq_false (h : Step s g m p d m' q) (hp : p.running = false) :
    q.running = false := by
  have hkeep := running_allows
  cases h with
  | empty | halt | missing | push => exact hp
  | finish | enter =>
    rw [← hp]
    exact running_entered _ _ _
  | stop hx | go hx => exact (hkeep.runExecutor _ _).rel hx hp
  | fail hx =>
    rw [running_blamed]
    exact (hkeep.runExecutor _ _).rel hx hp
  | choose ht => exact (hkeep.follow _).rel ht hp
  | refuse ht =>
    rw [running_blamed]
    exact (hkeep.follow _).rel ht hp

theorem Step.placed (h : Step s g m p d m' q) (hm : m.Placed g p.executed) :
    m'.Placed g q.executed := by
  have hexecuted := h.executed_eq
  cases h with
  | empty | halt | missing | finish | fail | stop | refuse | push => trivial
  | enter hp hn he =>
    rw [hexecuted]
    exact ⟨List.getLast?_concat, hn, he⟩
  | go hx hq =>
    rw [hexecuted, show entries _ = [] from rfl, List.append_nil]
    exact ⟨hm.1, _, hm.2.1, hm.2.2, fun e he ↦ he⟩
  | choose ht =>
    obtain ⟨hlast, n, hn, he, hes⟩ := hm
    rw [hexecuted, show entries _ = [] from rfl, List.append_nil]
    exact ⟨hlast, n, hn, he, fun e h ↦ hes e (List.mem_cons_of_mem _ h)⟩

theorem Course.executed_eq (h : Course s g m p ds m' q) : q.executed = p.executed ++ entries ds := by
  induction h with
  | here => exact (List.append_nil _).symm
  | snoc _ hstep ih => rw [hstep.executed_eq, ih, entries_append, List.append_assoc]

theorem Course.placed (h : Course s g (.check a) p ds m q) : m.Placed g q.executed := by
  induction h with
  | here => trivial
  | snoc _ hstep ih => exact hstep.placed ih

/-- A name is entered only while the run goes on. -/
theorem Course.running_of_entered {name : String} {n : Node} {rest : List String}
    (h : Course s g (.check a) p ds (.entered name n rest) q) : q.running = true := by
  cases h with
  | snoc _ hstep =>
    cases hstep with
    | enter hp hn he => rwa [running_entered]

end

section

variable {name : String} {p q : Progress} {f : Fault}

theorem course_of_targets (name : String) (rest : List String) {es : List Edge} {ts : List String}
    (h : targets s g es p = (.ok ts, q)) (chosen : List String) :
    ∃ ds, entries ds = [] ∧ Course s g (.choosing name es chosen rest) p ds
      (.choosing name [] (chosen ++ ts) rest) q := by
  induction es generalizing p ts chosen with
  | nil =>
    cases h
    refine ⟨[], rfl, ?_⟩
    rw [List.append_nil]
    exact .here
  | cons e es ih =>
    obtain ⟨t, p₁, ht, h⟩ := bind_eq_ok.1 h
    obtain ⟨us, p₂, hus, h⟩ := bind_eq_ok.1 h
    cases h
    obtain ⟨ds, hds, hcourse⟩ := ih hus (chosen ++ t.toList)
    rw [List.append_assoc] at hcourse
    exact ⟨[.choice name e t] ++ ds, hds, (Step.choose ht).course.trans hcourse⟩

theorem course_of_targets_error (name : String) (rest : List String) {es : List Edge}
    (h : targets s g es p = (.error f, q)) (chosen : List String) :
    ∃ ds left, entries ds = [] ∧ Course s g (.choosing name es chosen rest) p ds
      (.ended (.error f) left) (blamed name q) := by
  induction es generalizing p chosen with
  | nil => cases h
  | cons e es ih =>
    obtain ht | ⟨t, p₁, ht, h⟩ := bind_eq_error.1 h
    · exact ⟨_, _, rfl, (Step.refuse ht).course⟩
    · obtain hts | ⟨us, p₂, -, h⟩ := bind_eq_error.1 h
      · obtain ⟨ds, left, hds, hcourse⟩ := ih hts (chosen ++ t.toList)
        exact ⟨[.choice name e t] ++ ds, left, hds, (Step.choose ht).course.trans hcourse⟩
      · cases h

theorem course_of_visit_some (hp : p.running = true) {ts : List String}
    (h : visit s g name p = (.ok (some ts), q)) (rest : List String) :
    ∃ ds, entries ds = [name] ∧
      Course s g (.check (name :: rest)) p ds (.check (ts ++ rest)) q := by
  cases visits_of_visit h with
  | @push n v ts q r hn he hx hq ht =>
    obtain ⟨ds, hds, hcourse⟩ := course_of_targets name rest ht []
    refine ⟨[.entry name] ++ ([.executor name] ++ (ds ++ [])), ?_, ?_⟩
    · simp only [entries_append, hds]
      rfl
    · exact (Step.enter hp hn he).course.trans
        ((Step.go hx hq).course.trans (hcourse.trans Step.push.course))

theorem course_of_visit_none (hp : p.running = true) (h : visit s g name p = (.ok none, q))
    (rest : List String) :
    ∃ ds, entries ds = [name] ∧
      Course s g (.check (name :: rest)) p ds (.ended (.ok .stopped) rest) q := by
  cases visits_of_visit h with
  | finish hn he => exact ⟨_, rfl, (Step.finish hp hn he).course⟩
  | stop hn he hx hq =>
    exact ⟨_, rfl, (Step.enter hp hn he).course.trans (Step.stop hx hq).course⟩

theorem course_of_visit_error (hp : p.running = true) (h : visit s g name p = (.error f, q))
    (rest : List String) :
    ∃ ds left, Course s g (.check (name :: rest)) p ds (.ended (.error f) left) q := by
  cases visits_of_visit h with
  | missing hn => exact ⟨_, _, (Step.missing hp hn).course⟩
  | fail hn he hx => exact ⟨_, _, (Step.enter hp hn he).course.trans (Step.fail hx).course⟩
  | @refuse n v f q r hn he hx hq ht =>
    obtain ⟨ds, left, -, hcourse⟩ := course_of_targets_error name rest ht []
    exact ⟨_, _, (Step.enter hp hn he).course.trans ((Step.go hx hq).course.trans hcourse)⟩

theorem Walk.course {a names b : List String} (h : Walk s g a p names b q) :
    ∃ ds, entries ds = names ∧ Course s g (.check a) p ds (.check b) q := by
  induction h with
  | stay agenda p => exact ⟨[], rfl, .here⟩
  | @step name rest ts names agenda p q r hp hv h ih =>
    obtain ⟨ds, hds, hvisit⟩ := course_of_visit_some hp hv rest
    obtain ⟨ds', rfl, hrest⟩ := ih
    exact ⟨ds ++ ds', by rw [entries_append, hds, List.singleton_append], hvisit.trans hrest⟩

end

section

variable {n : ℕ} {a : List String} {p q : Progress} {r : Except Fault Ending}

theorem course_of_loop_unfinished (h : loop s g n a p = (.ok .unfinished, q)) :
    ∃ ds agenda, (entries ds).length = n ∧ Course s g (.check a) p ds (.check agenda) q := by
  obtain ⟨names, rest, t, m, rfl, hw, he⟩ := exists_walk (s := s) (g := g) n a p
  rw [h] at he
  obtain ⟨ds, rfl, hcourse⟩ := hw.course
  cases he with
  | unfinished hp => exact ⟨ds, _, rfl, hcourse⟩

theorem course_of_loop (h : loop s g n a p = (r, q)) (hr : r ≠ .ok .unfinished) :
    ∃ ds left, Course s g (.check a) p ds (.ended r left) q := by
  obtain ⟨names, rest, t, m, rfl, hw, he⟩ := exists_walk (s := s) (g := g) n a p
  rw [h] at he
  obtain ⟨ds, -, hcourse⟩ := hw.course
  cases he with
  | halted hp => exact ⟨_, _, hcourse.snoc (.halt hp)⟩
  | emptied hp => exact ⟨_, _, hcourse.snoc (.empty hp)⟩
  | unfinished hp => exact absurd rfl hr
  | stopped hp hv =>
    obtain ⟨ds', -, hlast⟩ := course_of_visit_none hp hv _
    exact ⟨_, _, hcourse.trans hlast⟩
  | failed hp hv =>
    obtain ⟨ds', left, hlast⟩ := course_of_visit_error hp hv _
    exact ⟨_, left, hcourse.trans hlast⟩

theorem not_ended_unfinished {ds : List Deed} {left : List String}
    (h : Course s g (.check a) p ds (.ended (.ok .unfinished) left) q) : False := by
  cases h with
  | snoc _ hstep => cases hstep

/-- A course to the end of a run tells what the loop comes to, if it may visit enough names. -/
theorem loop_of_course {ds : List Deed} {left : List String}
    (h : Course s g (.check a) p ds (.ended r left) q) (hn : (entries ds).length < n) :
    loop s g n a p = (r, q) := by
  rcases hloop : loop s g n a p with ⟨r', q'⟩
  by_cases hr : r' = .ok .unfinished
  · subst hr
    -- An unfinished loop has entered `n` names, more than there are on the whole course.
    obtain ⟨ds', agenda, hds', hcourse⟩ := course_of_loop_unfinished hloop
    obtain ⟨es, rfl, -⟩ := hcourse.rest_of_ended h
    rw [entries_append, List.length_append] at hn
    omega
  · obtain ⟨ds', left', hcourse⟩ := course_of_loop hloop hr
    obtain ⟨es, -, hes⟩ := hcourse.rest_of_ended h
    obtain ⟨-, hended, rfl⟩ := hes.eq_of_ended
    cases hended
    rfl

end

def Reaches (s : Setup) (g : Graph) (start : Option String) (p : Progress) (ds : List Deed)
    (m : Moment) (q : Progress) : Prop :=
  Course s g (.check [startNode s start]) (opened s g (startNode s start) p) ds m q

/-- Where a run that may visit so many names leaves off, and with what. -/
inductive Leaves (s : Setup) (g : Graph) (visits : ℕ) (start : Option String) (p : Progress) :
    List Deed → Moment → Progress → Prop
  | unfinished {ds : List Deed} {agenda : List String} {q : Progress} :
      Reaches s g start p ds (.check agenda) q → (entries ds).length = visits →
      execute s g visits start p = (.ok none, q) → Leaves s g visits start p ds (.check agenda) q
  | ended {ds : List Deed} {outcome : Except Fault Ending} {left : List String} {q : Progress} :
      Reaches s g start p ds (.ended outcome left) q →
      execute s g visits start p = close s outcome q →
      Leaves s g visits start p ds (.ended outcome left) q

theorem exists_leaves (s : Setup) (g : Graph) (visits : ℕ) (start : Option String)
    (p : Progress) : ∃ ds m q, Leaves s g visits start p ds m q := by
  rcases hloop : loop s g visits [startNode s start] (opened s g (startNode s start) p) with ⟨r, q⟩
  by_cases hr : r = .ok .unfinished
  · subst hr
    obtain ⟨ds, agenda, hds, hcourse⟩ := course_of_loop_unfinished hloop
    exact ⟨ds, _, q, .unfinished hcourse hds (execute_of_unfinished hloop)⟩
  · obtain ⟨ds, left, hcourse⟩ := course_of_loop hloop hr
    exact ⟨ds, _, q, .ended hcourse (execute_of_loop hloop hr)⟩

/-- A run that gets to its end comes to just that, if it may visit enough names. -/
theorem Reaches.execute_eq {start : Option String} {visits : ℕ} {p q : Progress} {ds : List Deed}
    {outcome : Except Fault Ending} {left : List String}
    (h : Reaches s g start p ds (.ended outcome left) q) (hvisits : (entries ds).length < visits) :
    execute s g visits start p = close s outcome q := by
  have houtcome : outcome ≠ .ok .unfinished := by
    rintro rfl
    exact not_ended_unfinished h
  exact execute_of_loop (loop_of_course h hvisits) houtcome

end Flowgraph.Run
