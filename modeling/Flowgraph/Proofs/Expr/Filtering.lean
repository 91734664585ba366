import Flowgraph.Expr.Query
import Flowgraph.Proofs.Value.Path

namespace Flowgraph.Expr

/-- A scan over a list comes to an element that fails, all before it having passed. -/
def Reaches {α ε : Type} (pass : α → Prop) (fail : α → ε → Prop) (xs : List α) (e : ε) : Prop :=
  ∃ before x after, xs = before ++ x :: after ∧ (∀ y ∈ before, pass y) ∧ fail x e

section Reaches

variable {α ε : Type} {pass : α → Prop} {fail : α → ε → Prop} {x : α} {xs : List α} {e : ε}

@[simp]
theorem not_reaches_nil : ¬ Reaches pass fail [] e := by
  rintro ⟨before, x, after, h, -⟩
  cases before <;> cases h

@[simp]
theorem reaches_cons :
    Reaches pass fail (x :: xs) e ↔ fail x e ∨ pass x ∧ Reaches pass fail xs e := by
  constructor
  · rintro ⟨_ | ⟨y, before⟩, z, after, h, hpass, hfail⟩
    · obtain ⟨rfl, rfl⟩ := List.cons.inj h
      exact .inl hfail
    · obtain ⟨rfl, rfl⟩ := List.cons.inj h
      obtain ⟨hx, hbefore⟩ := List.forall_mem_cons.1 hpass
      exact .inr ⟨hx, before, z, after, rfl, hbefore, hfail⟩
  · rintro (hfail | ⟨hx, before, z, after, rfl, hbefore, hfail⟩)
    · exact ⟨[], x, xs, rfl, List.forall_mem_nil _, hfail⟩
    · exact ⟨x :: before, z, after, rfl, List.forall_mem_cons.2 ⟨hx, hbefore⟩, hfail⟩

end Reaches

namespace FilterOperator

def symbol : FilterOperator → String
  | order op => op.symbol
  | equal => "=="
  | unequal => "!="

def word : FilterOperator → String
  | order .lt => "$lt"
  | order .le => "$lte"
  | order .gt => "$gt"
  | order .ge => "$gte"
  | equal => "$eq"
  | unequal => "$ne"

def Names (o : FilterOperator) (k : Key) : Prop := k = .str o.symbol ∨ k = .str o.word

theorem ofName?_eq_some {s : String} {o : FilterOperator} :
    ofName? s = some o ↔ s = o.symbol ∨ s = o.word := by
  constructor
  · intro h
    unfold ofName? at h
    split at h
    all_goals first
      | exact .inl (by cases h; rfl)
      | exact .inr (by cases h; rfl)
      | cases h
  · rintro (rfl | rfl) <;> rcases o with (_ | _ | _ | _) | _ | _ <;> rfl

theorem ofKey?_eq_some {k : Key} {o : FilterOperator} : ofKey? k = some o ↔ o.Names k := by
  cases k with
  | str s =>
    simp only [Names, Key.str.injEq]
    exact ofName?_eq_some
  | _ => simp [ofKey?, Names]

theorem ofKey?_eq_none {k : Key} : ofKey? k = none ↔ ∀ o : FilterOperator, ¬ o.Names k := by
  simp only [Option.eq_none_iff_forall_ne_some, ne_eq, ofKey?_eq_some]

theorem order_holds_undefined (op : Comparison) (v : Value) :
    (order op).holds .undefined v = false := rfl

end FilterOperator

def IsMapping (v : Value) : Prop := ∃ mark es, v = .mapping mark es

def PassesTest (field : Value) (test : Key × Value) : Prop :=
  ∃ o : FilterOperator, o.Names test.1 ∧ o.holds field test.2 = true

/-- A field meets a condition: all tests of a mapping; any other value it is strictly equal to. -/
def MeetsCondition (field : Value) : Value → Prop
  | .mapping _ tests => ∀ test ∈ tests, PassesTest field test
  | condition => field.strictEqual condition = true

/-- An item is a mapping, and its field at the path of an entry meets the condition. -/
def Meets (item : Value) (entry : Key × Value) : Prop :=
  IsMapping item ∧ ∃ field, lookUp item entry.1.toValue = .ok field ∧ MeetsCondition field entry.2

def Satisfies (query : List (Key × Value)) (item : Value) : Prop := ∀ entry ∈ query, Meets item entry

def IsUnknown (test : Key × Value) (e : QueryFault) : Prop :=
  (∀ o : FilterOperator, ¬ o.Names test.1) ∧ e = .unknownOperator test.1.text

/-- An entry cannot be decided for an item: its field cannot be looked up, or its tests come to one
that has no meaning. -/
inductive EntryFails (item : Value) : Key × Value → QueryFault → Prop where
  | lookUp {path : Key} {condition : Value} {c : CallFault} (hitem : IsMapping item)
      (h : lookUp item path.toValue = .error c) : EntryFails item (path, condition) (.call c)
  | test {path : Key} {mark : ℕ} {tests : List (Key × Value)} {field : Value} {e : QueryFault}
      (hitem : IsMapping item) (hfield : Expr.lookUp item path.toValue = .ok field)
      (h : Reaches (PassesTest field) IsUnknown tests e) :
      EntryFails item (path, .mapping mark tests) e

def Halts (query : List (Key × Value)) (item : Value) (e : QueryFault) : Prop :=
  Reaches (Meets item) (EntryFails item) query e

theorem passesTest_iff {field v : Value} {k : Key} {o : FilterOperator}
    (h : FilterOperator.ofKey? k = some o) :
    PassesTest field (k, v) ↔ o.holds field v = true := by
  simp only [PassesTest, ← FilterOperator.ofKey?_eq_some, h, Option.some.injEq, exists_eq_left']

theorem not_passesTest {field v : Value} {k : Key} (h : FilterOperator.ofKey? k = none) :
    ¬ PassesTest field (k, v) := by
  rintro ⟨o, hnames, -⟩
  exact FilterOperator.ofKey?_eq_none.1 h o hnames

theorem isUnknown_iff {k : Key} {v : Value} {e : QueryFault} :
    IsUnknown (k, v) e ↔ FilterOperator.ofKey? k = none ∧ e = .unknownOperator k.text := by
  rw [FilterOperator.ofKey?_eq_none, IsUnknown]

theorem passesTests_eq_ok_true {field : Value} {tests : List (Key × Value)} :
    passesTests field tests = .ok true ↔ ∀ test ∈ tests, PassesTest field test := by
  induction tests with
  | nil => simp [passesTests]
  | cons test tests ih =>
    obtain ⟨k, v⟩ := test
    rw [List.forall_mem_cons, passesTests]
    cases ho : FilterOperator.ofKey? k with
    | none => simp [not_passesTest ho]
    | some o =>
      rw [passesTest_iff ho]
      dsimp only
      cases o.holds field v <;> simp [ih]

theorem passesTests_eq_error {field : Value} {tests : List (Key × Value)} {e : QueryFault} :
    passesTests field tests = .error e ↔ Reaches (PassesTest field) IsUnknown tests e := by
  induction tests with
  | nil => simp [passesTests]
  | cons test tests ih =>
    obtain ⟨k, v⟩ := test
    rw [reaches_cons, isUnknown_iff, passesTests]
    cases ho : FilterOperator.ofKey? k with
    | none => simp [not_passesTest ho, eq_comm]
    | some o =>
      rw [passesTest_iff ho]
      dsimp only
      cases o.holds field v <;> simp [ih]

def passesEntry (item : Value) (entry : Key × Value) : Except QueryFault Bool := do
  let field ← (lookUp item entry.1.toValue).mapError .call
  match entry.2 with
  | .mapping _ tests => passesTests field tests
  | v => .ok (field.strictEqual v)

theorem passes_cons {item : Value} (hitem : IsMapping item) (entry : Key × Value)
    (query : List (Key × Value)) :
    passes item (entry :: query) =
      passesEntry item entry >>= fun holds ↦ if holds then passes item query else .ok false := by
  obtain ⟨mark, es, rfl⟩ := hitem
  obtain ⟨path, condition⟩ := entry
  rw [passes, passesEntry]
  cases lookUp (.mapping mark es) path.toValue with
  | error c => rfl
  | ok field => cases condition <;> rfl

theorem passes_cons_of_not_isMapping {item : Value} (hitem : ¬ IsMapping item)
    (entry : Key × Value) (query : List (Key × Value)) :
    passes item (entry :: query) = .ok false := by
  cases item with
  | mapping mark es => exact absurd ⟨mark, es, rfl⟩ hitem
  | _ => rfl

theorem passesEntry_eq_ok_true {item : Value} (hitem : IsMapping item) {entry : Key × Value} :
    passesEntry item entry = .ok true ↔ Meets item entry := by
  obtain ⟨path, condition⟩ := entry
  simp only [passesEntry, Meets, hitem, true_and]
  cases lookUp item path.toValue with
  | error c => simp [Except.mapError, bind, Except.bind]
  | ok field =>
    simp only [Except.ok.injEq, exists_eq_left']
    cases condition with
    | mapping mark tests => exact passesTests_eq_ok_true
    | _ => simp [MeetsCondition, Except.mapError, bind, Except.bind]

theorem passesEntry_eq_error {item : Value} (hitem : IsMapping item) {entry : Key × Value}
    {e : QueryFault} : passesEntry item entry = .error e ↔ EntryFails item entry e := by
  obtain ⟨path, condition⟩ := entry
  unfold passesEntry
  constructor
  · intro h
    cases hfield : lookUp item path.toValue with
    | error c =>
      rw [hfield] at h
      cases h
      exact .lookUp hitem hfield
    | ok field =>
      rw [hfield] at h
      cases condition with
      | mapping mark tests => exact .test hitem hfield (passesTests_eq_error.1 h)
      | _ => cases h
  · rintro (⟨-, hfield⟩ | ⟨-, hfield, h⟩)
    · simp only [hfield]
      rfl
    · simp only [hfield]
      exact passesTests_eq_error.2 h

theorem not_meets_of_not_isMapping {item : Value} (hitem : ¬ IsMapping item) (entry : Key × Value) :
    ¬ Meets item entry := fun h ↦ hitem h.1

theorem not_halts_of_not_isMapping {item : Value} (hitem : ¬ IsMapping item)
    (query : List (Key × Value)) (e : QueryFault) : ¬ Halts query item e := by
  rintro ⟨_, entry, _, -, -, h⟩
  cases h <;> contradiction

theorem passes_eq_ok_true {item : Value} {query : List (Key × Value)} :
    passes item query = .ok true ↔ Satisfies query item := by
  induction query with
  | nil => simp [passes, Satisfies]
  | cons entry query ih =>
    unfold Satisfies
    rw [List.forall_mem_cons]
    by_cases hitem : IsMapping item
    · rw [passes_cons hitem, ← passesEntry_eq_ok_true hitem]
      cases passesEntry item entry with
      | error e => simp [bind, Except.bind]
      | ok holds => cases holds <;> simp [bind, Except.bind, ih, Satisfies]
    · simp [passes_cons_of_not_isMapping hitem, not_meets_of_not_isMapping hitem]

theorem passes_eq_error {item : Value} {query : List (Key × Value)} {e : QueryFault} :
    passes item query = .error e ↔ Halts query item e := by
  by_cases hitem : IsMapping item
  · induction query with
    | nil => simp [passes, Halts]
    | cons entry query ih =>
      unfold Halts
      rw [reaches_cons, passes_cons hitem, ← passesEntry_eq_ok_true hitem,
        ← passesEntry_eq_error hitem]
      cases passesEntry item entry with
      | error e => simp [bind, Except.bind]
      | ok holds => cases holds <;> simp [bind, Except.bind, ih, Halts]
  · have hpasses : ∃ holds, passes item query = .ok holds := by
      cases query with
      | nil => exact ⟨_, rfl⟩
      | cons entry query => exact ⟨_, passes_cons_of_not_isMapping hitem entry query⟩
    obtain ⟨holds, hholds⟩ := hpasses
    simp [hholds, not_halts_of_not_isMapping hitem]

instance (query : List (Key × Value)) : DecidablePred (Satisfies query) := fun item ↦
  match h : passes item query with
  | .ok true => .isTrue (passes_eq_ok_true.1 h)
  | .ok false | .error _ => .isFalse fun hs ↦ by simp [passes_eq_ok_true.2 hs] at h

theorem passing_eq_error {query : List (Key × Value)} {vs : List Value} {e : QueryFault} :
    passing query vs = .error e ↔
      Reaches (fun v ↦ ∀ f, ¬ Halts query v f) (Halts query) vs e := by
  induction vs with
  | nil => simp [passing]
  | cons v vs ih =>
    rw [reaches_cons, ← ih]
    simp only [← passes_eq_error, passing]
    cases passes v query with
    | error f => simp [bind, Except.bind]
    | ok holds => cases passing query vs <;> simp [bind, Except.bind, pure, Except.pure]

theorem passing_eq_ok {query : List (Key × Value)} {vs ws : List Value} :
    passing query vs = .ok ws ↔
      (∀ v ∈ vs, ∀ e, ¬ Halts query v e) ∧ ws = vs.filter fun v ↦ Satisfies query v := by
  induction vs generalizing ws with
  | nil => simp [passing, eq_comm]
  | cons v vs ih =>
    have hsatisfies : passes v query = .ok true ↔ Satisfies query v := passes_eq_ok_true
    rw [List.forall_mem_cons, and_assoc, List.filter_cons, passing]
    simp only [← passes_eq_error] at ih ⊢
    cases hv : passes v query with
    | error e => simp [bind, Except.bind]
    | ok holds =>
      rw [hv, Except.ok.injEq] at hsatisfies
      cases hrest : passing query vs with
      | error e =>
        have hhalts : ¬ ∀ v ∈ vs, ∀ e, ¬ passes v query = .error e := fun h ↦ by
          simpa [hrest] using ih.2 ⟨h, rfl⟩
        simp only [hhalts, false_and, and_false, iff_false]
        simp [bind, Except.bind]
      | ok rest =>
        obtain ⟨hpasses, rfl⟩ := ih.1 hrest
        have hnone : ∀ e, ¬ (Except.ok holds : Except QueryFault Bool) = .error e := nofun
        simp only [bind, Except.bind, pure, Except.pure, Except.ok.injEq, decide_eq_true_eq,
          ← hsatisfies, eq_true hpasses, eq_true hnone, true_and]
        exact eq_comm

theorem filter_list {mark mark' : ℕ} (vs : List Value) (query : List (Key × Value)) :
    filter (.list mark vs) (.mapping mark' query) = .ofList <$> passing query vs := rfl

theorem filter_eq_error {mark mark' : ℕ} {vs : List Value} {query : List (Key × Value)}
    {e : QueryFault} :
    filter (.list mark vs) (.mapping mark' query) = .error e ↔
      Reaches (fun v ↦ ∀ f, ¬ Halts query v f) (Halts query) vs e := by
  rw [filter_list, ← passing_eq_error]
  cases passing query vs <;> simp [Functor.map, Except.map]

theorem filter_eq_ok {mark mark' : ℕ} {vs : List Value} {query : List (Key × Value)} {w : Value} :
    filter (.list mark vs) (.mapping mark' query) = .ok w ↔
      (∀ v ∈ vs, ∀ e, ¬ Halts query v e) ∧ w = .ofList (vs.filter fun v ↦ Satisfies query v) := by
  rw [filter_list]
  constructor
  · intro h
    cases hpassing : passing query vs with
    | error e => simp [hpassing, Functor.map, Except.map] at h
    | ok ws =>
      obtain ⟨hhalts, rfl⟩ := passing_eq_ok.1 hpassing
      refine ⟨hhalts, ?_⟩
      simpa [hpassing, Functor.map, Except.map, eq_comm] using h
  · rintro ⟨hhalts, rfl⟩
    rw [passing_eq_ok.2 ⟨hhalts, rfl⟩]
    rfl

def SameOperator (k l : Key) : Prop := k = l ∨ ∃ o : FilterOperator, o.Names k ∧ o.Names l

def SameTest (s t : Key × Value) : Prop := SameOperator s.1 t.1 ∧ s.2 = t.2

/-- Two conditions that agree but for how the operators of their tests are written. -/
inductive SameCondition : Value → Value → Prop where
  | refl (v : Value) : SameCondition v v
  | tests (mark mark' : ℕ) {tests tests' : List (Key × Value)}
      (h : List.Forall₂ SameTest tests tests') :
      SameCondition (.mapping mark tests) (.mapping mark' tests')

/-- Two entries with one path and one condition, but for how its operators are written. -/
def SameEntry (s t : Key × Value) : Prop := s.1 = t.1 ∧ SameCondition s.2 t.2

theorem passesTests_congr {tests tests' : List (Key × Value)}
    (h : List.Forall₂ SameTest tests tests') (field : Value) :
    passesTests field tests = passesTests field tests' := by
  induction h with
  | nil => rfl
  | @cons s t tests tests' hst _ ih =>
    obtain ⟨k, v⟩ := s
    obtain ⟨l, w⟩ := t
    obtain ⟨rfl | ⟨o, hk, hl⟩, rfl : v = w⟩ := hst
    · rw [passesTests, passesTests, ih]
    · rw [passesTests, passesTests, FilterOperator.ofKey?_eq_some.2 hk,
        FilterOperator.ofKey?_eq_some.2 hl, ih]

theorem passesEntry_congr {s t : Key × Value} (h : SameEntry s t) (item : Value) :
    passesEntry item s = passesEntry item t := by
  obtain ⟨path, condition⟩ := s
  obtain ⟨path', condition'⟩ := t
  obtain ⟨rfl : path = path', hcondition : SameCondition condition condition'⟩ := h
  unfold passesEntry
  cases hcondition with
  | refl => rfl
  | tests mark mark' htests => simp only [passesTests_congr htests]

theorem passes_congr {query query' : List (Key × Value)} (h : List.Forall₂ SameEntry query query')
    (item : Value) : passes item query = passes item query' := by
  induction h with
  | nil => rfl
  | @cons s t query query' hst _ ih =>
    by_cases hitem : IsMapping item
    · rw [passes_cons hitem, passes_cons hitem, ih, passesEntry_congr hst]
    · rw [passes_cons_of_not_isMapping hitem, passes_cons_of_not_isMapping hitem]

theorem passing_congr {query query' : List (Key × Value)}
    (h : List.Forall₂ SameEntry query query') (vs : List Value) :
    passing query vs = passing query' vs := by
  induction vs with
  | nil => rfl
  | cons v vs ih => rw [passing, passing, ih, passes_congr h]

theorem satisfies_iff_of_not_isMapping {item : Value} (hitem : ¬ IsMapping item)
    {query : List (Key × Value)} : Satisfies query item ↔ query = [] := by
  constructor
  · intro h
    cases query with
    | nil => rfl
    | cons entry query => exact absurd (h entry (List.mem_cons_self ..)).1 hitem
  · rintro rfl
    exact List.forall_mem_nil _

theorem not_meets_of_undefined {item : Value} {path key : Key} {mark : ℕ} {v : Value}
    {tests : List (Key × Value)} {op : Comparison}
    (hfield : lookUp item path.toValue = .ok .undefined) (htest : (key, v) ∈ tests)
    (hop : (FilterOperator.order op).Names key) : ¬ Meets item (path, .mapping mark tests) := by
  rintro ⟨-, field, hfield', hmeets⟩
  obtain rfl := Except.ok.inj (hfield.symm.trans hfield')
  have hpasses := hmeets _ htest
  rw [passesTest_iff (FilterOperator.ofKey?_eq_some.2 hop)] at hpasses
  simp [FilterOperator.order_holds_undefined] at hpasses

/-- Filtering a list fails just where the scan comes to an item that halts it. Where it does not,
it answers the items that satisfy the query, in their order: an item that is no mapping satisfies
only the empty query, and a field that is missing passes no test of order. How the operators are
written makes no difference. -/
theorem filter_outcome (mark mark' : ℕ) (vs : List Value) (query : List (Key × Value)) :
    (∀ e, filter (.list mark vs) (.mapping mark' query) = .error e ↔
      Reaches (fun v ↦ ∀ f, ¬ Halts query v f) (Halts query) vs e) ∧
    (∀ w, filter (.list mark vs) (.mapping mark' query) = .ok w ↔
      (∀ v ∈ vs, ∀ e, ¬ Halts query v e) ∧ w = .ofList (vs.filter fun v ↦ Satisfies query v)) ∧
    (∀ v, ¬ IsMapping v → (Satisfies query v ↔ query = [])) ∧
    (∀ v path key w n tests op, lookUp v path.toValue = .ok .undefined → (key, w) ∈ tests →
      (FilterOperator.order op).Names key → ¬ Meets v (path, .mapping n tests)) ∧
    ∀ n query', List.Forall₂ SameEntry query query' →
      filter (.list mark vs) (.mapping n query') = filter (.list mark vs) (.mapping mark' query) := by
  refine ⟨fun _ ↦ filter_eq_error, fun _ ↦ filter_eq_ok,
    fun _ hv ↦ satisfies_iff_of_not_isMapping hv,
    fun _ _ _ _ _ _ _ hfield htest hop ↦ not_meets_of_undefined hfield htest hop,
    fun n query' h ↦ ?_⟩
  rw [filter_list, filter_list, passing_congr h]

def parcel (weight : Int) : Value := .ofEntries [(.str "weight", .int weight)]

def parcels : List Value := [parcel 3, .int 7, parcel 9, .ofEntries []]

def weighed (op : String) : Key × Value := (.str "weight", .mapping 0 [(.str op, .int 5)])

theorem filter_outcome_parcels :
    filter (.list 1 parcels) (.mapping 0 [weighed "<"]) = .ok (.ofList [parcel 3]) ∧
      ¬ Satisfies [weighed "<"] (.int 7) ∧ ¬ Meets (.ofEntries []) (weighed "<") ∧
      filter (.list 1 parcels) (.mapping 0 [weighed "$lt"]) = .ok (.ofList [parcel 3]) ∧
      Reaches (fun v ↦ ∀ f, ¬ Halts [weighed "~"] v f) (Halts [weighed "~"]) parcels
        (.unknownOperator "~") := by
  obtain ⟨-, -, hmapping, hmissing, hwritten⟩ := filter_outcome 1 0 parcels [weighed "<"]
  obtain ⟨herror, -⟩ := filter_outcome 1 0 parcels [weighed "~"]
  have hlt : filter (.list 1 parcels) (.mapping 0 [weighed "<"]) = .ok (.ofList [parcel 3]) := rfl
  have hsame : List.Forall₂ SameEntry [weighed "<"] [weighed "$lt"] :=
    .cons ⟨rfl, .tests 0 0 (.cons ⟨.inr ⟨.order .lt, .inl rfl, .inr rfl⟩, rfl⟩ .nil)⟩ .nil
  refine ⟨hlt, ?_, ?_, (hwritten 0 _ hsame).trans hlt, (herror _).1 rfl⟩
  · exact fun h ↦ List.cons_ne_nil _ _ ((hmapping (.int 7) nofun).1 h)
  · have hfield : lookUp (.ofEntries []) (Key.str "weight").toValue = .ok .undefined := rfl
    exact hmissing _ (.str "weight") (.str "<") (.int 5) 0 [(.str "<", .int 5)] .lt hfield
      (List.mem_singleton_self _) (.inl rfl)

section Find

variable {pattern : List (Key × Value)} {name : String}

theorem lookUp_of_not_mem (mark : ℕ) (es : Entries) (h : '.' ∉ name.toList) :
    lookUp (.mapping mark es) (.str name) = .ok (Entries.get es (.str name)) := by
  simp [lookUp, Value.getPath_eq_walk, Text.splitAt_of_not_mem h, Value.walk, Value.step,
    Except.mapError]

def IsPlain (pattern : List (Key × Value)) : Prop :=
  ∀ entry ∈ pattern, (∃ name : String, entry.1 = .str name ∧ '.' ∉ name.toList) ∧
    ¬ IsMapping entry.2

theorem passesEntry_of_isPlain {entry : Key × Value} (mark : ℕ) (es : Entries)
    (h : IsPlain (entry :: pattern)) : passesEntry (.mapping mark es) entry =
      .ok ((Entries.get es entry.1).strictEqual entry.2) := by
  obtain ⟨path, condition⟩ := entry
  obtain ⟨⟨name, rfl : path = .str name, hname⟩, hcondition⟩ := h _ (List.mem_cons_self ..)
  simp only [passesEntry, Key.toValue, lookUp_of_not_mem mark es hname, Except.mapError]
  cases condition with
  | mapping mark es => exact absurd ⟨mark, es, rfl⟩ hcondition
  | _ => rfl

theorem passes_of_isPlain (mark : ℕ) (es : Entries) (h : IsPlain pattern) :
    passes (.mapping mark es) pattern = .ok (matchesFields pattern (.mapping mark es)) := by
  induction pattern with
  | nil => rfl
  | cons entry pattern ih =>
    have hrest : IsPlain pattern := fun e he ↦ h e (List.mem_cons_of_mem _ he)
    rw [passes_cons ⟨mark, es, rfl⟩, passesEntry_of_isPlain mark es h, ih hrest]
    simp only [matchesFields, List.all_cons]
    cases (Entries.get es entry.1).strictEqual entry.2 <;> rfl

theorem passes_eq_matchesFields (hne : pattern ≠ []) (h : IsPlain pattern) (item : Value) :
    passes item pattern = .ok (matchesFields pattern item) := by
  by_cases hitem : IsMapping item
  · obtain ⟨mark, es, rfl⟩ := hitem
    exact passes_of_isPlain mark es h
  · obtain ⟨entry, rest, rfl⟩ := List.exists_cons_of_ne_nil hne
    rw [passes_cons_of_not_isMapping hitem]
    cases item with
    | mapping mark es => exact absurd ⟨mark, es, rfl⟩ hitem
    | _ => rfl

theorem passing_of_isPlain (hne : pattern ≠ []) (h : IsPlain pattern) (vs : List Value) :
    passing pattern vs = .ok (vs.filter (matchesFields pattern)) := by
  induction vs with
  | nil => rfl
  | cons v vs ih =>
    rw [passing, passes_eq_matchesFields hne h, ih, List.filter_cons]
    rfl

theorem first_ofList (vs : List Value) : first (.ofList vs) = vs.head?.getD .undefined := by
  cases vs <;> rfl

/-- Finding by a pattern that names fields of the items themselves, and no tests, is filtering by
it and taking the first. -/
theorem find_eq_first_filter (value property : Value) (mark : ℕ) (hne : pattern ≠ [])
    (h : IsPlain pattern) :
    first <$> filter value (.mapping mark pattern) =
      .ok (find value (.mapping mark pattern) property) := by
  cases value with
  | list mark' vs =>
    have hmatches : findMatches (.mapping mark pattern) property = matchesFields pattern := rfl
    rw [filter_list, passing_of_isPlain hne h, find, hmatches, ← List.head?_filter, ← first_ofList]
    rfl
  | _ => rfl

theorem find_eq_first_filter_parcels :
    first <$> filter (.list 1 parcels) (.ofEntries [(.str "weight", .int 9)]) =
      .ok (parcel 9) := by
  have hplain : IsPlain [(.str "weight", .int 9)] := by
    simp [IsPlain, IsMapping]
  exact find_eq_first_filter (.list 1 parcels) .undefined 0 (List.cons_ne_nil _ _) hplain

end Find

end Flowgraph.Expr
