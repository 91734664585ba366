import Flowgraph.Proofs.Run.Course
import Mathlib.Data.List.Infix

namespace Flowgraph

/-- No run goes on past the node of this name: it is an end node, or its executor stops the run. -/
def Graph.EndsAt (g : Graph) (name : String) : Prop :=
  ∃ n, g.node? name = some n ∧ (n.isEnd = true ∨ ∃ code, n.executor = .stop code)

namespace Run

variable {s : Setup} {g : Graph}

theorem running_runExecutor_stop (code : Int) (label : String) (p : Progress) :
    (runExecutor s (.stop code) label p).2.running = false := by
  obtain ⟨journal, exitCode, running, executed, replies, _ | ⟨b, signals⟩, requests, pauses⟩ := p
  · rfl
  · cases b <;> rfl

def Moment.Quiet (running : Bool) : Moment → Prop
  | check _ | choosing .. => running = false
  | entered .. => False
  | ended .. => True

/-- The names that a run has passed do not end it. The last one may, from when it is entered. -/
def Moment.Passed (g : Graph) (executed : List String) : Moment → Prop
  | check _ | choosing .. => ∀ name ∈ executed, ¬ g.EndsAt name
  | entered .. | ended .. => ∀ name ∈ executed.dropLast, ¬ g.EndsAt name

section

variable {m m' : Moment} {p q : Progress} {d ds : List Deed} {a : List String}

theorem Step.quiet (h : Step s g m p d m' q) (hm : m.Quiet p.running) :
    m'.Quiet q.running ∧ entries d = [] ∧ ∀ name, .executor name ∉ d := by
  have hstays := h.running_eq_false
  cases h with
  | empty hp | missing hp | finish hp | enter hp =>
    rw [Moment.Quiet, hp] at hm
    cases hm
  | halt hp => exact ⟨trivial, rfl, fun name ↦ List.not_mem_nil⟩
  | fail | stop | go => exact hm.elim
  | choose ht => exact ⟨hstays hm, rfl, fun name hname ↦ by cases List.mem_singleton.1 hname⟩
  | refuse ht => exact ⟨trivial, rfl, fun name hname ↦ by cases List.mem_singleton.1 hname⟩
  | push => exact ⟨hstays hm, rfl, fun name ↦ List.not_mem_nil⟩

theorem Course.quiet (h : Course s g m p ds m' q) (hm : m.Quiet p.running) :
    m'.Quiet q.running ∧ entries ds = [] ∧ ∀ name, .executor name ∉ ds := by
  induction h with
  | here => exact ⟨hm, rfl, fun name ↦ List.not_mem_nil⟩
  | snoc _ hstep ih =>
    obtain ⟨hq, hentries, hexecutors⟩ := ih
    obtain ⟨hr, hentries', hexecutors'⟩ := hstep.quiet hq
    refine ⟨hr, by rw [entries_append, hentries, hentries', List.append_nil], fun name hname ↦ ?_⟩
    obtain hname | hname := List.mem_append.1 hname
    · exact hexecutors name hname
    · exact hexecutors' name hname

theorem Course.running_eq_false (h : Course s g m p ds m' q) (hp : p.running = false) :
    q.running = false := by
  induction h with
  | here => exact hp
  | snoc _ hstep ih => exact hstep.running_eq_false ih

/-- A run that has been told to stop, or is over, rests. -/
theorem Course.quiet_of_stopped (h : Course s g (.check a) p ds m q)
    (hm : q.running = false ∨ ∃ outcome left, m = .ended outcome left) : m.Quiet q.running := by
  cases m with
  | ended outcome left => trivial
  | check agenda | choosing name es chosen rest =>
    obtain hq | ⟨outcome, left, hended⟩ := hm
    · exact hq
    · cases hended
  | entered name n rest =>
    obtain hq | ⟨outcome, left, hended⟩ := hm
    · rw [h.running_of_entered] at hq
      cases hq
    · cases hended

/-- All that is done with an end node is to enter it. -/
theorem Step.eq_entry_of_isEnd (h : Step s g m p d m' q) (hplaced : m.Placed g p.executed) :
    ∀ deed ∈ d, ∀ n, g.node? deed.node = some n → n.isEnd = true → deed = .entry deed.node := by
  intro deed hdeed n hn hend
  cases h with
  | empty | halt | missing | push => cases hdeed
  | finish | enter =>
    cases List.mem_singleton.1 hdeed
    rfl
  | fail | stop | go =>
    cases List.mem_singleton.1 hdeed
    obtain ⟨-, hn', he⟩ := hplaced
    cases hn.symm.trans hn'
    rw [hend] at he
    cases he
  | choose | refuse =>
    cases List.mem_singleton.1 hdeed
    obtain ⟨-, n', hn', he, -⟩ := hplaced
    cases hn.symm.trans hn'
    rw [hend] at he
    cases he

theorem Course.eq_entry_of_isEnd (h : Course s g (.check a) p ds m q) :
    ∀ deed ∈ ds, ∀ n, g.node? deed.node = some n → n.isEnd = true → deed = .entry deed.node := by
  induction h with
  | here =>
    intro deed hdeed
    cases hdeed
  | snoc h hstep ih =>
    intro deed hdeed
    obtain hdeed | hdeed := List.mem_append.1 hdeed
    · exact ih deed hdeed
    · exact hstep.eq_entry_of_isEnd h.placed deed hdeed

theorem Step.passed (h : Step s g m p d m' q) (hplaced : m.Placed g p.executed)
    (hm : m.Passed g p.executed) : m'.Passed g q.executed := by
  have hexecuted := h.executed_eq
  have hless (hp : ∀ name ∈ p.executed, ¬ g.EndsAt name) :
      ∀ name ∈ p.executed.dropLast, ¬ g.EndsAt name :=
    fun name hname ↦ hp name (List.mem_of_mem_dropLast hname)
  have hsame (hd : entries d = []) : q.executed = p.executed := by
    rw [hexecuted, hd, List.append_nil]
  cases h with
  | empty | halt | missing => exact hless hm
  | finish | enter =>
    change ∀ name ∈ List.dropLast _, _
    rw [hexecuted]
    intro name hname
    rw [show entries [_] = [_] from rfl, List.dropLast_concat] at hname
    exact hm name hname
  | fail | stop =>
    change ∀ name ∈ List.dropLast _, _
    rw [hsame rfl]
    exact hm
  | @go name n rest p q v hx hq =>
    obtain ⟨hlast, hn, he⟩ := hplaced
    change ∀ name ∈ q.executed, _
    rw [hsame rfl]
    rw [← List.dropLast_append_getLast? name hlast]
    -- The run goes on, so the name entered last does not end it either.
    intro b hb
    obtain hb | hb := List.mem_append.1 hb
    · exact hm b hb
    · cases List.mem_singleton.1 hb
      rintro ⟨n', hn', hend | ⟨code, hstop⟩⟩
      · cases hn.symm.trans hn'
        rw [he] at hend
        cases hend
      · cases hn.symm.trans hn'
        have hfalse := running_runExecutor_stop (s := s) code name p
        rw [← hstop, hx] at hfalse
        rw [hfalse] at hq
        cases hq
  | choose =>
    change ∀ name ∈ q.executed, _
    rw [hsame rfl]
    exact hm
  | refuse =>
    change ∀ name ∈ List.dropLast _, _
    rw [hsame rfl]
    exact hless hm
  | push => exact hm

theorem Course.passed (h : Course s g (.check a) p ds m q) (hp : p.executed = []) :
    m.Passed g q.executed := by
  induction h with
  | here =>
    intro name hname
    rw [hp] at hname
    cases hname
  | snoc h hstep ih => exact hstep.passed h.placed ih

end

section

variable {start : Option String} {visits : ℕ} {p : Progress}

/-- What the hooks at the start have stopped enters no name. -/
theorem executed_of_opened_not_running
    (h : (opened s g (startNode s start) p).running = false) :
    (execute s g visits start p).2.executed = [] := by
  have hloop := loop_of_not_running (s := s) (g := g) h visits [startNode s start]
  rw [execute_of_loop hloop (by rintro ⟨⟩), close_snd, executed_closed]
  exact executed_opened (startNode s start) p

theorem running_execute (h : (execute s g visits start p).1 ≠ .ok none) :
    (execute s g visits start p).2.running = false := by
  obtain ⟨ds, m, q, hleaves⟩ := exists_leaves s g visits start p
  cases hleaves with
  | unfinished _ _ hexecute =>
    rw [hexecute] at h
    exact absurd rfl h
  | ended _ hexecute =>
    rw [hexecute] at h ⊢
    rw [Ne, close_fst_eq_none_iff, Bool.not_eq_true] at h
    rw [close_snd]
    exact running_closed h

theorem Moment.Passed.dropLast {m : Moment} {executed : List String} (h : m.Passed g executed) :
    ∀ name ∈ executed.dropLast, ¬ g.EndsAt name := by
  cases m with
  | check | choosing => exact fun name hname ↦ h name (List.mem_of_mem_dropLast hname)
  | entered | ended => exact h

/-- From the moment at which a run has been told to stop, or is over, it enters no name, runs no
executor of a node, and is not set going again. With an end node it does nothing but enter it, set
the exit code and be over. So nodes that end a run come last in it, a run that its hooks stop at the
start enters none, and a run that has come out in whatever way runs no longer. -/
theorem execute_stops (s : Setup) (g : Graph) (start : Option String) (p : Progress) :
    (∀ ds m q, Reaches s g start p ds m q →
      (q.running = false ∨ ∃ outcome left, m = .ended outcome left) →
      ∀ ds' m' r, Course s g m q ds' m' r →
        entries ds' = [] ∧ (∀ name, .executor name ∉ ds') ∧ r.executed = q.executed ∧
          (q.running = false → r.running = false)) ∧
    (∀ ds name rest q n, Reaches s g start p ds (.check (name :: rest)) q → q.running = true →
      g.node? name = some n → n.isEnd = true →
      ∀ d m r, Step s g (.check (name :: rest)) q d m r →
        d = [.entry name] ∧ m = .ended (.ok .stopped) rest ∧
          r = finished s n (entered s name n q)) ∧
    (∀ ds m q, Reaches s g start p ds m q →
      (∀ name ∈ q.executed.dropLast, ¬ g.EndsAt name) ∧
      ∀ deed ∈ ds, ∀ n, g.node? deed.node = some n → n.isEnd = true → deed = .entry deed.node) ∧
    (∀ visits, ∃ ds m q, Leaves s g visits start p ds m q) ∧
    (∀ visits, ∀ name ∈ (execute s g visits start p).2.executed.dropLast, ¬ g.EndsAt name) ∧
    (∀ visits, (opened s g (startNode s start) p).running = false →
      (execute s g visits start p).2.executed = []) ∧
    ∀ visits, (execute s g visits start p).1 ≠ .ok none →
      (execute s g visits start p).2.running = false := by
  have hpassed {ds : List Deed} {m : Moment} {q : Progress} (h : Reaches s g start p ds m q) :
      ∀ name ∈ q.executed.dropLast, ¬ g.EndsAt name :=
    (Course.passed h (executed_opened (startNode s start) p)).dropLast
  refine ⟨fun ds m q h hstopped ds' m' r hcourse ↦ ?_,
    fun ds name rest q n _ hq hn he d m r hstep ↦ ?_,
    fun ds m q h ↦ ⟨hpassed h, Course.eq_entry_of_isEnd h⟩,
    fun visits ↦ exists_leaves s g visits start p, fun visits ↦ ?_,
    fun visits ↦ executed_of_opened_not_running, fun visits ↦ running_execute⟩
  · obtain ⟨-, hentries, hexecutors⟩ := hcourse.quiet (h.quiet_of_stopped hstopped)
    refine ⟨hentries, hexecutors, ?_, hcourse.running_eq_false⟩
    rw [hcourse.executed_eq, hentries, List.append_nil]
  · exact hstep.unique (.finish hq hn he)
  · obtain ⟨ds, m, q, hleaves⟩ := exists_leaves s g visits start p
    cases hleaves with
    | unfinished h _ hexecute =>
      rw [hexecute]
      exact hpassed h
    | ended h hexecute =>
      have hlast := hpassed h
      rw [hexecute, close_snd, executed_closed]
      exact hlast

end

/-- A graph whose runs are stopped by a hook between two edges, when the first has selected a name,
or begin at an end node. -/
def tripwire : Graph where
  before := { all := [("trip", .stop 3)] }
  nodes := [
    ("start", { edges := [⟨"next", some (.all []), none⟩, ⟨"next", none, none⟩] }),
    ("next", {}),
    ("end", { isEnd := true, edges := [⟨"next", none, none⟩] })]

def barred : Graph := { tripwire with before := { start := [("bar", .stop 1)] } }

def relay : Graph where
  nodes := [
    ("start", { edges := [⟨"rest", none, none⟩, ⟨"next", none, none⟩] }),
    ("rest", { executor := .sleep 5.0, edges := [⟨"next", none, none⟩] }),
    ("next", {})]

theorem reaches_tripwire : ∃ ds q,
    Reaches bare tripwire (some "start") (Progress.ofGraph tripwire [] []) ds
      (.choosing "start" [⟨"next", none, none⟩] ["next"] []) q ∧
    q.running = false ∧ q.executed = ["start"] := by
  have hhere : Reaches bare tripwire (some "start") (Progress.ofGraph tripwire [] []) []
      (.check ["start"]) _ := .here
  have hentered := hhere.snoc (.enter rfl rfl rfl)
  have hchoosing := hentered.snoc (.go rfl rfl)
  have hchosen := hchoosing.snoc (.choose rfl)
  exact ⟨_, _, hchosen, rfl, rfl⟩

/-- The second of two signals comes while the run sleeps. -/
theorem reaches_relay : ∃ ds q,
    Reaches bare relay (some "start") (Progress.ofGraph relay [] [false, true]) ds
      (.ended (.ok .stopped) ["next"]) q ∧
    q.running = false ∧ q.executed = ["start", "rest"] := by
  have hhere : Reaches bare relay (some "start") (Progress.ofGraph relay [] [false, true]) []
      (.check ["start"]) _ := .here
  have hchoosing := (hhere.snoc (.enter rfl rfl rfl)).snoc (.go rfl rfl)
  have hchosen := ((hchoosing.snoc (.choose rfl)).snoc (.choose rfl)).snoc .push
  have hstopped := (hchosen.snoc (.enter rfl rfl rfl)).snoc (.stop rfl rfl)
  exact ⟨_, _, hstopped, rfl, rfl⟩

/-- A run stopped by a hook, one stopped in its sleep, one that ends and one that does not begin. -/
theorem execute_tripwire_stops :
    (∃ ds q, Reaches bare tripwire (some "start") (Progress.ofGraph tripwire [] []) ds
        (.choosing "start" [⟨"next", none, none⟩] ["next"] []) q ∧
      q.running = false ∧
      ∀ ds' m' r, Course bare tripwire (.choosing "start" [⟨"next", none, none⟩] ["next"] []) q
        ds' m' r → r.executed = ["start"] ∧ r.running = false) ∧
    (∃ ds q, Reaches bare relay (some "start") (Progress.ofGraph relay [] [false, true]) ds
        (.ended (.ok .stopped) ["next"]) q ∧
      q.running = false ∧
      ∀ ds' m' r, Course bare relay (.ended (.ok .stopped) ["next"]) q ds' m' r →
        r.executed = ["start", "rest"] ∧ r.running = false) ∧
    (∀ d m r, Step bare tripwire (.check ["end"])
        (opened bare tripwire "end" (Progress.ofGraph tripwire [] [])) d m r →
      d = [.entry "end"] ∧ m = .ended (.ok .stopped) []) ∧
    (opened bare barred "start" (Progress.ofGraph barred [] [])).running = false ∧
    (execute bare barred 9 (some "start") (Progress.ofGraph barred [] [])).2.executed = [] ∧
    (execute bare barred 9 (some "start") (Progress.ofGraph barred [] [])).2.running = false := by
  obtain ⟨ds, q, h, hq, hexecuted⟩ := reaches_tripwire
  obtain ⟨es, t, ht, hrunning, hslept⟩ := reaches_relay
  have hrelay := (execute_stops bare relay (some "start")
    (Progress.ofGraph relay [] [false, true])).1
  have hstops := (execute_stops bare tripwire (some "start") (Progress.ofGraph tripwire [] [])).1
  have hend := (execute_stops bare tripwire (some "end") (Progress.ofGraph tripwire [] [])).2.1
  have hbarred := (execute_stops bare barred (some "start") (Progress.ofGraph barred [] [])).2.2.2.2.2
  have hopened : (opened bare barred "start" (Progress.ofGraph barred [] [])).running = false := rfl
  refine ⟨⟨ds, q, h, hq, fun ds' m' r hcourse ↦ ?_⟩,
    ⟨es, t, ht, hrunning, fun ds' m' r hcourse ↦ ?_⟩, fun d m r hstep ↦ ?_, hopened,
    hbarred.1 9 hopened, hbarred.2 9 ?_⟩
  · obtain ⟨-, -, hsame, hstays⟩ := hstops ds _ q h (.inl hq) ds' m' r hcourse
    exact ⟨hsame.trans hexecuted, hstays hq⟩
  · obtain ⟨-, -, hsame, hstays⟩ := hrelay es _ t ht (.inl hrunning) ds' m' r hcourse
    exact ⟨hsame.trans hslept, hstays hrunning⟩
  · obtain ⟨hd, hm, -⟩ := hend [] "end" [] _ _ .here rfl rfl rfl d m r hstep
    exact ⟨hd, hm⟩
  · rintro ⟨⟩

end Run

end Flowgraph
