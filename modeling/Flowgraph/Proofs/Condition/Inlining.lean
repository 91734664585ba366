import Flowgraph.Proofs.Condition.Depth
import Flowgraph.Proofs.Condition.Frame
import Flowgraph.Proofs.Parallel

namespace Flowgraph

open Act

namespace Condition

mutual

def substitute (f : String → Condition) : Condition → Condition
  | named n => f n
  | all cs => all (substituteAll f cs)
  | any cs => any (substituteAll f cs)
  | simple path r operand => simple path r operand
termination_by structural c => c

def substituteAll (f : String → Condition) : List Condition → List Condition
  | [] => []
  | c :: cs => c.substitute f :: substituteAll f cs
termination_by structural cs => cs

end

/-- Replaces names by their definitions, the names in those too, and so on for so many rounds. A name
without a definition stays. -/
def inline (table : ConditionTable) : Nat → Condition → Condition
  | 0, c => c
  | rounds + 1, c => c.substitute fun n ↦
    match table.lookup n with
    | some d => inline table rounds d
    | none => named n

/-- As many rounds as there are definitions, and a last one for what those mention. -/
def inlined (c : Condition) (table : ConditionTable) : Condition := inline table (table.length + 1) c

theorem substituteAll_eq_map (f : String → Condition) (cs : List Condition) :
    substituteAll f cs = cs.map (substitute f) := by
  induction cs with
  | nil => rfl
  | cons c cs ih => rw [substituteAll, ih, List.map_cons]

section

variable {table : ConditionTable} {rounds : ℕ} {n : String} {c : Condition}

theorem inline_simple (path : String) (r : Relation) (operand : Value) :
    inline table rounds (simple path r operand) = simple path r operand := by
  cases rounds <;> rfl

theorem inline_all (cs : List Condition) :
    inline table rounds (all cs) = all (cs.map (inline table rounds)) := by
  cases rounds with
  | zero => exact congrArg all (List.map_id' cs).symm
  | succ rounds => exact congrArg all (substituteAll_eq_map _ cs)

theorem inline_any (cs : List Condition) :
    inline table rounds (any cs) = any (cs.map (inline table rounds)) := by
  cases rounds with
  | zero => exact congrArg any (List.map_id' cs).symm
  | succ rounds => exact congrArg any (substituteAll_eq_map _ cs)

theorem inline_named_of_some (h : table.lookup n = some c) :
    inline table (rounds + 1) (named n) = inline table rounds c := by
  rw [inline, substitute, h]

theorem inline_named_of_none (h : table.lookup n = none) :
    inline table rounds (named n) = named n := by
  cases rounds with
  | zero => rfl
  | succ rounds => rw [inline, substitute, h]

end

mutual

theorem mem_references_substitute {f : String → Condition} {m : String} (c : Condition)
    (h : m ∈ (c.substitute f).references) : ∃ n ∈ c.references, m ∈ (f n).references := by
  cases c with
  | simple path r operand => cases h
  | named n => exact ⟨n, List.mem_cons_self, h⟩
  | all cs => exact mem_referencesAll_substitute cs h
  | any cs => exact mem_referencesAll_substitute cs h
termination_by structural c

theorem mem_referencesAll_substitute {f : String → Condition} {m : String} (cs : List Condition)
    (h : m ∈ referencesAll (substituteAll f cs)) :
    ∃ n ∈ referencesAll cs, m ∈ (f n).references := by
  cases cs with
  | nil => cases h
  | cons c cs =>
    obtain h | h := List.mem_append.1 h
    · obtain ⟨n, hn, hm⟩ := mem_references_substitute c h
      exact ⟨n, List.mem_append_left _ hn, hm⟩
    · obtain ⟨n, hn, hm⟩ := mem_referencesAll_substitute cs h
      exact ⟨n, List.mem_append_right _ hn, hm⟩
termination_by structural cs

end

/-- Once the rounds have followed every path of names, what remains are names without a condition, to
which the names of the condition lead. -/
theorem unresolved_of_mem_references {table : ConditionTable} {rounds : ℕ} {c : Condition}
    (hshallow : ∀ n ∈ c.references, Shallow table.RefersTo rounds n) :
    ∀ m ∈ (inline table (rounds + 1) c).references, table.lookup m = none ∧
      ∃ n ∈ c.references, Relation.ReflTransGen table.RefersTo n m := by
  induction rounds generalizing c with
  | zero =>
    intro m hm
    obtain ⟨n, hn, hm⟩ := mem_references_substitute c hm
    cases hd : table.lookup n with
    | none =>
      rw [hd] at hm
      obtain rfl := List.mem_singleton.1 hm
      exact ⟨hd, m, hn, .refl⟩
    | some d =>
      -- With no round left for the names of `d`, there are none.
      rw [hd] at hm
      exact absurd ⟨d, hd, hm⟩ (hshallow n hn m)
  | succ rounds ih =>
    intro m hm
    obtain ⟨n, hn, hm⟩ := mem_references_substitute c hm
    cases hd : table.lookup n with
    | none =>
      rw [hd] at hm
      obtain rfl := List.mem_singleton.1 hm
      exact ⟨hd, m, hn, .refl⟩
    | some d =>
      rw [hd] at hm
      obtain ⟨hnone, n', hn', hlead⟩ := ih (fun n' hn' ↦ hshallow n hn n' ⟨d, hd, hn'⟩) m hm
      exact ⟨hnone, n, hn, .head ⟨d, hd, hn'⟩ hlead⟩

/-- Where the first evaluation is not cut short, the second is the same, with the same turns. -/
def Follows (st : Setting) (depth : ℕ) (c : Condition) (depth' : ℕ) (c' : Condition) : Prop :=
  ∀ j, (eval st depth c j).1 ≠ .error .tooDeep →
    eval st depth' c' j = eval st depth c j ∧ reached st depth' c' j = reached st depth c j

section

variable {st : Setting} {word : String} {stop : Bool} {f f' : Condition → Act Journal Bool}
  {reach reach' : Condition → Journal → List Turn} {i : ℕ} {cs : List Condition} {j : Journal}
  {r : Except Fault Bool × Journal} {ts : List Turn}

theorem Row.follow (h : Row st word stop f reach i cs j r ts) {g : Condition → Condition}
    (hf : ∀ c j, (f c j).1 ≠ .error .tooDeep → f' (g c) j = f c j ∧ reach' (g c) j = reach c j)
    (hr : r.1 ≠ .error .tooDeep) : Row st word stop f' reach' i (cs.map g) j r ts := by
  induction h with
  | nil => exact .nil
  | @fail i c cs j k e hc =>
    obtain ⟨hc', hreach⟩ := hf c j (by rwa [hc])
    rw [← hreach]
    exact .fail (hc'.trans hc)
  | @decide i c cs j k hc =>
    obtain ⟨hc', hreach⟩ := hf c j (by rw [hc]; rintro ⟨⟩)
    rw [← hreach]
    exact .decide (hc'.trans hc)
  | @go i c cs j k r ts hc _ ih =>
    obtain ⟨hc', hreach⟩ := hf c j (by rw [hc]; rintro ⟨⟩)
    rw [← hreach]
    exact .go (hc'.trans hc) (ih hr)

/-- What comes behind the part that decides a row makes no difference to it. -/
theorem Row.append (h : Row st word stop f reach i cs j r ts) (hr : r.1 ≠ .ok !stop)
    (ds : List Condition) : Row st word stop f reach i (cs ++ ds) j r ts := by
  induction h with
  | nil => exact absurd rfl hr
  | fail hc => exact .fail hc
  | decide hc => exact .decide hc
  | go hc _ ih => exact .go hc (ih hr)

end

section

variable {st : Setting}

theorem follows_all {depth depth' : ℕ} {cs : List Condition} {g : Condition → Condition}
    (h : ∀ c, Follows st depth c depth' (g c)) :
    Follows st (depth + 1) (all cs) (depth' + 1) (all (cs.map g)) := fun j hj ↦
  ((row_evalUntil st "AND" false _ _ 0 cs j).follow h hj).eq

theorem follows_any {depth depth' : ℕ} {cs : List Condition} {g : Condition → Condition}
    (h : ∀ c, Follows st depth c depth' (g c)) :
    Follows st (depth + 1) (any cs) (depth' + 1) (any (cs.map g)) := fun j hj ↦
  ((row_evalUntil st "OR" true _ _ 0 cs j).follow h hj).eq

theorem follows_succ (depth : ℕ) (c : Condition) : Follows st depth c (depth + 1) c := by
  induction depth generalizing c with
  | zero => exact fun j hj ↦ absurd rfl hj
  | succ depth ih =>
    cases c with
    | simple path r operand => exact fun j _ ↦ ⟨rfl, rfl⟩
    | all cs => simpa using follows_all (g := id) ih
    | any cs => simpa using follows_any (g := id) ih
    | named n =>
      intro j hj
      cases hn : st.table.lookup n with
      | some c =>
        rw [eval_named_of_some hn] at hj
        rw [eval_named_of_some hn, eval_named_of_some hn, reached_named_of_some hn,
          reached_named_of_some hn]
        exact ih c j hj
      | none =>
        rw [eval_named_of_none hn, eval_named_of_none hn, reached_named_of_none hn,
          reached_named_of_none hn]
        exact ⟨rfl, rfl⟩

/-- A definition takes no more depth than the name that stands for it. -/
theorem follows_inline (depth rounds : ℕ) (c : Condition) :
    Follows st depth c depth (inline st.table rounds c) := by
  induction depth generalizing rounds c with
  | zero => exact fun j hj ↦ absurd rfl hj
  | succ depth ih =>
    cases c with
    | simple path r operand =>
      rw [inline_simple]
      exact fun j _ ↦ ⟨rfl, rfl⟩
    | all cs =>
      rw [inline_all]
      exact follows_all (ih rounds)
    | any cs =>
      rw [inline_any]
      exact follows_any (ih rounds)
    | named n =>
      cases hn : st.table.lookup n with
      | none =>
        rw [inline_named_of_none hn]
        exact fun j _ ↦ ⟨rfl, rfl⟩
      | some c =>
        cases rounds with
        | zero => exact fun j _ ↦ ⟨rfl, rfl⟩
        | succ rounds =>
          intro j hj
          rw [inline_named_of_some hn]
          rw [eval_named_of_some hn] at hj ⊢
          rw [reached_named_of_some hn]
          -- The name has used up one step of depth, and its definition can do without it.
          obtain ⟨heval, hreached⟩ := ih rounds c j hj
          rw [← heval] at hj
          obtain ⟨heval', hreached'⟩ := follows_succ depth _ j hj
          exact ⟨heval'.trans heval, hreached'.trans hreached⟩

end

mutual

def truth (holds : Condition → Bool) : Condition → Bool
  | all cs => truthAll holds cs
  | any cs => truthAny holds cs
  | simple path r operand => holds (simple path r operand)
  | named n => holds (named n)
termination_by structural c => c

def truthAll (holds : Condition → Bool) : List Condition → Bool
  | [] => true
  | c :: cs => c.truth holds && truthAll holds cs
termination_by structural cs => cs

def truthAny (holds : Condition → Bool) : List Condition → Bool
  | [] => false
  | c :: cs => c.truth holds || truthAny holds cs
termination_by structural cs => cs

end

theorem truth_all (holds : Condition → Bool) (cs : List Condition) :
    truth holds (all cs) = cs.all (truth holds) := by
  rw [truth]
  induction cs with
  | nil => rfl
  | cons c cs ih => rw [truthAll, ih, List.all_cons]

theorem truth_any (holds : Condition → Bool) (cs : List Condition) :
    truth holds (any cs) = cs.any (truth holds) := by
  rw [truth]
  induction cs with
  | nil => rfl
  | cons c cs ih => rw [truthAny, ih, List.any_cons]

def holdsAt (st : Setting) (s : State) (leaf : Condition) : Bool :=
  (Turn.result st ⟨leaf, { state := s }⟩).1 matches .ok true

section

variable {st : Setting} {s : State}

theorem Row.eq_stop_iff {word : String} {stop : Bool} {f : Condition → Act Journal Bool}
    {reach : Condition → Journal → List Turn} {i : ℕ} {cs : List Condition} {j : Journal}
    {r : Except Fault Bool × Journal} {ts : List Turn} (h : Row st word stop f reach i cs j r ts)
    {value : Condition → Bool} (hf : ∀ c ∈ cs, ∀ j, (∀ t ∈ reach c j, t.journal.state = s) →
      ∀ b, (f c j).1 = .ok b → b = value c)
    (hts : ∀ t ∈ ts, t.journal.state = s) {b : Bool} (hb : r.1 = .ok b) :
    b = stop ↔ ∃ c ∈ cs, value c = stop := by
  induction h with
  | nil =>
    cases hb
    simp
  | fail hc => cases hb
  | @decide i c cs j k hc =>
    cases hb
    have hvalue := hf c List.mem_cons_self j hts stop (by rw [hc])
    exact iff_of_true rfl ⟨c, List.mem_cons_self, hvalue.symm⟩
  | @go i c cs j k r ts hc _ ih =>
    obtain ⟨hpart, hrest⟩ := List.forall_mem_append.1 hts
    have hvalue := hf c List.mem_cons_self j hpart (!stop) (by rw [hc])
    rw [ih (fun c hc ↦ hf c (List.mem_cons_of_mem _ hc)) hrest hb]
    simp [← hvalue]

/-- In a state that the turns leave as it is, the answer of a condition is its truth. -/
theorem eq_truth_of_eval {depth : ℕ} {c : Condition} {j : Journal} {b : Bool}
    (hnames : ∀ n ∈ c.references, st.table.lookup n = none)
    (hts : ∀ t ∈ reached st depth c j, t.journal.state = s)
    (hb : (eval st depth c j).1 = .ok b) : b = c.truth (holdsAt st s) := by
  induction depth generalizing c j b with
  | zero => cases hb
  | succ depth ih =>
    cases c with
    | simple path r operand =>
      have hs : j.state = s := hts ⟨simple path r operand, j⟩ List.mem_cons_self
      have hresult : (Turn.result st ⟨simple path r operand, { state := s }⟩).1 = .ok b :=
        ((parallel_state st.traceLevel).evalSimple path r operand j _ hs).1.symm.trans hb
      rw [truth, holdsAt, hresult]
      cases b <;> rfl
    | named n =>
      rw [eval_named_of_none (hnames n List.mem_cons_self)] at hb
      cases hb
    | all cs =>
      have hstop := (row_evalUntil st "AND" false _ _ 0 cs j).eq_stop_iff
        (fun c hc j hts b hb ↦ ih (fun n hn ↦ hnames n (mem_referencesAll hc hn)) hts hb) hts hb
      rw [truth_all, Bool.eq_iff_iff, List.all_eq_true, ← Bool.not_eq_false, hstop]
      simp
    | any cs =>
      have hstop := (row_evalUntil st "OR" true _ _ 0 cs j).eq_stop_iff
        (fun c hc j hts b hb ↦ ih (fun n hn ↦ hnames n (mem_referencesAll hc hn)) hts hb) hts hb
      rw [truth_any, Bool.eq_iff_iff, hstop, List.any_eq_true]

end

section

variable {st : Setting} {depth : ℕ} {pre : List Condition} {j : Journal}

theorem eval_all_append (h : (eval st depth (all pre) j).1 ≠ .ok true) (post : List Condition) :
    eval st depth (all (pre ++ post)) j = eval st depth (all pre) j ∧
      reached st depth (all (pre ++ post)) j = reached st depth (all pre) j := by
  cases depth with
  | zero => exact ⟨rfl, rfl⟩
  | succ depth => exact ((row_evalUntil st "AND" false _ _ 0 pre j).append h post).eq

theorem eval_any_append (h : (eval st depth (any pre) j).1 ≠ .ok false) (post : List Condition) :
    eval st depth (any (pre ++ post)) j = eval st depth (any pre) j ∧
      reached st depth (any (pre ++ post)) j = reached st depth (any pre) j := by
  cases depth with
  | zero => exact ⟨rfl, rfl⟩
  | succ depth => exact ((row_evalUntil st "OR" true _ _ 0 pre j).append h post).eq

end

/-- A condition whose names lead to no cycle, and the same with every name replaced by its definition.
The latter mentions only names without a definition, and none if there are definitions for all. Depth
enough, the evaluation is not cut short; where it is not, both conditions have the same outcome, with
the same notes, and the same leaves have their turn. The outcome is a failure just where one of those
fails, over an unknown name where that name has its turn; in a state that they leave as it is, an
answer is the truth of conjunctions as `all` and disjunctions as `any`. What comes behind the part
that decides has no turn. -/
theorem eval_inlined (st : Setting) (c : Condition)
    (hacyclic : ∀ n ∈ c.references, AcyclicFrom st.table.RefersTo n) :
    (∀ n ∈ (c.inlined st.table).references, st.table.lookup n = none) ∧
    ((∀ n ∈ c.references, ∀ m, Relation.ReflTransGen st.table.RefersTo n m →
      st.table.lookup m ≠ none) → (c.inlined st.table).references = []) ∧
    (∃ enough, ∀ depth, enough ≤ depth → ∀ j, (eval st depth c j).1 ≠ .error .tooDeep) ∧
    (∀ depth j, (eval st depth c j).1 ≠ .error .tooDeep →
      eval st depth (c.inlined st.table) j = eval st depth c j ∧
      reached st depth (c.inlined st.table) j = reached st depth c j ∧
      (∀ e, (eval st depth c j).1 = .error e ↔
        ∃ t ∈ reached st depth c j, (t.result st).1 = .error e) ∧
      (∀ n, (∃ names, (eval st depth c j).1 = .error (.unknownCondition n names)) ↔
        ∃ k, ⟨named n, k⟩ ∈ reached st depth c j) ∧
      ((∀ t ∈ reached st depth c j, (t.result st).2.state = t.journal.state) →
        (eval st depth c j).2.state = j.state ∧
        ∀ b, (eval st depth c j).1 = .ok b →
          b = (c.inlined st.table).truth (holdsAt st j.state))) ∧
    (∀ depth pre post j, (eval st depth (all pre) j).1 ≠ .ok true →
      eval st depth (all (pre ++ post)) j = eval st depth (all pre) j ∧
      reached st depth (all (pre ++ post)) j = reached st depth (all pre) j) ∧
    ∀ depth pre post j, (eval st depth (any pre) j).1 ≠ .ok false →
      eval st depth (any (pre ++ post)) j = eval st depth (any pre) j ∧
      reached st depth (any (pre ++ post)) j = reached st depth (any pre) j := by
  have hshallow (n : String) (hn : n ∈ c.references) :
      Shallow st.table.RefersTo st.table.length n := by
    have h := shallow_of_acyclicFrom ConditionTable.RefersTo.mem (hacyclic n hn)
    rwa [List.length_map] at h
  have hunresolved := unresolved_of_mem_references hshallow
  have hnames (n : String) (hn : n ∈ (c.inlined st.table).references) :
      st.table.lookup n = none := (hunresolved n hn).1
  obtain ⟨enough, hsettled⟩ := exists_settled c fun n hn ↦ exists_settled_named (hshallow n hn).acc
  refine ⟨hnames, fun hall ↦ ?_, ⟨enough, fun depth hdepth j hdeep ↦ ?_⟩, fun depth j hj ↦ ?_,
    fun depth pre post j h ↦ eval_all_append h post, fun depth pre post j h ↦ eval_any_append h post⟩
  · refine List.eq_nil_iff_forall_not_mem.2 fun m hm ↦ ?_
    obtain ⟨hnone, n, hn, hlead⟩ := hunresolved m hm
    exact hall n hn m hlead hnone
  · exact (hsettled st rfl depth hdepth).2.error (Prod.ext hdeep rfl) rfl
  · obtain ⟨heval, hreached⟩ := follows_inline depth (st.table.length + 1) c j hj
    refine ⟨heval, hreached, fun e ↦ ?_, eval_unknown_iff st depth c j, fun hkept ↦ ?_⟩
    · rw [← Falls, ← eval_error_iff]
      refine (and_iff_left_of_imp fun he ↦ ?_).symm
      rintro rfl
      exact hj he
    · obtain ⟨hstate, hall⟩ := (leads_eval st depth c j).unchanged hkept
      rw [← hreached] at hall
      refine ⟨hstate, fun b hb ↦ ?_⟩
      rw [← heval] at hb
      exact eq_truth_of_eval hnames hall hb

/-- A condition by way of two names, behind which stands a name without a condition. -/
def calm : Setting where
  table := [("calm", .any [.named "idle", .named "gone"]),
    ("idle", .all [.simple "load" .equal (.int 0)])]

def rested : Journal := { state := ⟨[(.str "load", .int 0)], 1⟩ }

theorem acyclicFrom_calm (n : String) : AcyclicFrom calm.table.RefersTo n := by
  let rank (name : String) : ℕ := if name = "calm" then 1 else 0
  have htable : ∀ entry ∈ calm.table, ∀ m ∈ entry.2.references, rank m < rank entry.1 := by decide
  refine fun a _ ↦ not_transGen_of_lt rank (fun {a b} hab ↦ ?_) a
  obtain ⟨c, hc, hb⟩ := hab
  exact htable (a, c) (mem_of_lookup hc) b hb

theorem eval_inlined_calm :
    (∀ n ∈ (all [named "calm"]).references, AcyclicFrom calm.table.RefersTo n) ∧
    inlined (all [named "calm"]) calm.table =
      all [any [all [simple "load" .equal (.int 0)], named "gone"]] ∧
    eval calm standardDepth (all [any [all [simple "load" .equal (.int 0)], named "gone"]]) rested =
      eval calm standardDepth (all [named "calm"]) rested ∧
    (eval calm standardDepth (all [named "calm"]) rested).1 = .ok true ∧
    (eval calm standardDepth (all [named "calm"]) rested).2.state = rested.state ∧
    ¬ ∃ k, ⟨named "gone", k⟩ ∈ reached calm standardDepth (all [named "calm"]) rested := by
  have hok : (eval calm standardDepth (all [named "calm"]) rested).1 = .ok true := rfl
  have hnot : (eval calm standardDepth (all [named "calm"]) rested).1 ≠ .error .tooDeep := by
    rw [hok]
    rintro ⟨⟩
  have hturns : reached calm standardDepth (all [named "calm"]) rested =
      [⟨simple "load" .equal (.int 0), rested⟩] := rfl
  obtain ⟨-, -, -, hsame, -, -⟩ :=
    eval_inlined calm (all [named "calm"]) fun n _ ↦ acyclicFrom_calm n
  obtain ⟨heval, -, -, hunknown, hkept⟩ := hsame standardDepth rested hnot
  refine ⟨fun n _ ↦ acyclicFrom_calm n, rfl, heval, hok, (hkept ?_).1, fun hgone ↦ ?_⟩
  · rw [hturns]
    exact List.forall_mem_singleton.2 rfl
  · obtain ⟨names, herror⟩ := (hunknown "gone").2 hgone
    rw [hok] at herror
    cases herror

end Condition

end Flowgraph
