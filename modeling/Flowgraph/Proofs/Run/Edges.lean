import Flowgraph.Proofs.Parallel
import Flowgraph.Proofs.Run.Hooks
import Mathlib.Data.List.ReduceOption

namespace Flowgraph.Run

open Act

/-- The edges that are followed, each with the run as it meets it; none after one that fails. -/
def followed (s : Setup) (g : Graph) : List Edge → Progress → List (Edge × Progress)
  | [] => fun _ ↦ []
  | e :: es => fun p ↦ (e, p) :: (follow s g e).next (fun _ ↦ followed s g es) p

def leadsTo? (s : Setup) (g : Graph) (x : Edge × Progress) : Option String :=
  (follow s g x.1 x.2).1.toOption.join

def hooksBefore (g : Graph) (e : Edge) : List (String × Executor) :=
  if e.condition.isSome then g.before.all.map fun h ↦ (HookKind.all.label h.1, h.2) else []

/-- How a run stands when a condition is evaluated in it: the hooks have just run. -/
def hooked (s : Setup) (g : Graph) (p : Progress) : Progress :=
  (runHooks s .all g.before.all p).2

def branch (e : Edge) (holds : Bool) : Option String := if holds then some e.target else e.fallback

structure Follows (s : Setup) (g : Graph) (e : Edge) (p : Progress) : Prop where
  always : e.condition = none → follow s g e p = (.ok (some e.target), p)
  /-- The condition decides, as soon as the hooks have run, and one entry tells how. -/
  decides : ∀ {c b q}, e.condition = some c →
    onJournal (c.eval (conditionSetting s g) s.depth) (hooked s g p) = (.ok b, q) →
      ∃ entry, follow s g e p = (.ok (branch e b),
        { q with journal := { q.journal with log := q.journal.log ++ [entry] } })
  fails : ∀ {c f q}, e.condition = some c →
    onJournal (c.eval (conditionSetting s g) s.depth) (hooked s g p) = (.error f, q) →
      follow s g e p = (.error f, q)

/-- No hooks come between the edges, and no condition calls a native method. -/
structure Undisturbed (s : Setup) (g : Graph) (es : List Edge) (p : Progress) : Prop where
  hooks : g.before.all = []
  native : ∀ e ∈ es, ∀ c, e.condition = some c →
    ∀ x ∈ c.evaluations (conditionSetting s g) s.depth p.journal, x.calls Expr.anyMethod = false

section

variable {s : Setup} {g : Graph} {e : Edge} {es fs : List Edge} {p q r : Progress} {f : Fault}
  {t : Option String} {ts us : List String}

theorem hooked_eq (p : Progress) :
    runHooks s .all g.before.all p = (.ok (), hooked s g p) := by
  rw [hooked, runHooks_eq]

theorem follows (s : Setup) (g : Graph) (e : Edge) (p : Progress) : Follows s g e p where
  always hc := by
    unfold follow
    rw [hc]
    rfl
  decides hc hb := by
    unfold follow
    rw [hc]
    dsimp only
    rw [bind_of_ok (hooked_eq p), bind_of_ok hb]
    exact ⟨_, rfl⟩
  fails hc hf := by
    unfold follow
    rw [hc]
    dsimp only
    rw [bind_of_ok (hooked_eq p), bind_of_error hf]

theorem attempts_followEvents (e : Edge) (p : Progress) :
    attempts (followEvents s g e p) = hooksBefore g e := by
  unfold followEvents hooksBefore
  cases e.condition with
  | none => rfl
  | some c =>
    dsimp only
    rw [attempts_append, attempts_hooksEvents, next_of_ok (hooked_eq p), attempts_onRun,
      List.append_nil]
    rfl

theorem targets_cons_of_ok (h : follow s g e p = (.ok t, q)) (es : List Edge) :
    targets s g (e :: es) p = ((t.toList ++ ·) <$> targets s g es) q := bind_of_ok h

theorem targets_cons_of_error (h : follow s g e p = (.error f, q)) (es : List Edge) :
    targets s g (e :: es) p = (.error f, q) := bind_of_error h

theorem followed_cons_of_ok (h : follow s g e p = (.ok t, q)) (es : List Edge) :
    followed s g (e :: es) p = (e, p) :: followed s g es q :=
  congrArg (List.cons (e, p)) (next_of_ok h)

theorem followed_cons_of_error (h : follow s g e p = (.error f, q)) (es : List Edge) :
    followed s g (e :: es) p = [(e, p)] :=
  congrArg (List.cons (e, p)) (next_of_error h)

theorem targets_cons_eq_ok : targets s g (e :: es) p = (.ok ts, q) ↔
    ∃ t r us, follow s g e p = (.ok t, r) ∧ targets s g es r = (.ok us, q) ∧
      ts = t.toList ++ us := by
  constructor
  · intro h
    obtain ⟨t, r, ht, hts⟩ := bind_eq_ok.1 h
    obtain ⟨us, q', hus, hq⟩ := bind_eq_ok.1 hts
    cases hq
    exact ⟨t, r, us, ht, hus, rfl⟩
  · rintro ⟨t, r, us, ht, hus, rfl⟩
    rw [targets_cons_of_ok ht, map_of_ok hus]

theorem targets_cons_eq_error : targets s g (e :: es) p = (.error f, q) ↔
    follow s g e p = (.error f, q) ∨
      ∃ t r, follow s g e p = (.ok t, r) ∧ targets s g es r = (.error f, q) := by
  constructor
  · intro h
    obtain h | ⟨t, r, ht, hrest⟩ := bind_eq_error.1 h
    · exact .inl h
    · obtain hrest | ⟨us, q', -, hq⟩ := bind_eq_error.1 hrest
      · exact .inr ⟨t, r, ht, hrest⟩
      · cases hq
  · rintro (h | ⟨t, r, ht, hrest⟩)
    · exact targets_cons_of_error h es
    · rw [targets_cons_of_ok ht, map_of_error hrest]

theorem targets_append_of_ok (h : targets s g es p = (.ok ts, q)) (fs : List Edge) :
    targets s g (es ++ fs) p = ((ts ++ ·) <$> targets s g fs) q := by
  induction es generalizing p ts with
  | nil =>
    cases h
    rcases hfs : targets s g fs q with ⟨f | us, r⟩
    · rwa [map_of_error hfs]
    · rwa [map_of_ok hfs]
  | cons e es ih =>
    obtain ⟨t, r, us, ht, hus, rfl⟩ := targets_cons_eq_ok.1 h
    have hrest := ih hus
    rw [List.cons_append, targets_cons_of_ok ht]
    rcases hfs : targets s g fs q with ⟨f | vs, r'⟩
    · rw [map_of_error hfs] at hrest ⊢
      exact map_of_error hrest
    · rw [map_of_ok hfs] at hrest ⊢
      rw [map_of_ok hrest, List.append_assoc]

theorem targets_append_of_error (h : targets s g es p = (.error f, q)) (fs : List Edge) :
    targets s g (es ++ fs) p = (.error f, q) := by
  induction es generalizing p with
  | nil => cases h
  | cons e es ih =>
    obtain h | ⟨t, r, ht, hrest⟩ := targets_cons_eq_error.1 h
    · exact targets_cons_of_error h _
    · exact targets_cons_eq_error.2 (.inr ⟨t, r, ht, ih hrest⟩)

theorem map_fst_followed_prefix (es : List Edge) (p : Progress) :
    (followed s g es p).map Prod.fst <+: es := by
  induction es generalizing p with
  | nil => exact List.nil_prefix
  | cons e es ih =>
    rcases he : follow s g e p with ⟨f | t, q⟩
    · rw [followed_cons_of_error he]
      exact List.prefix_append [e] es
    · rw [followed_cons_of_ok he]
      exact (List.prefix_cons_inj e).2 (ih q)

/-- Of the edges followed each leads to one node at most. -/
theorem of_targets_ok (h : targets s g es p = (.ok ts, q)) :
    (followed s g es p).map Prod.fst = es ∧ ts = (followed s g es p).filterMap (leadsTo? s g) := by
  induction es generalizing p ts with
  | nil =>
    cases h
    exact ⟨rfl, rfl⟩
  | cons e es ih =>
    obtain ⟨t, r, us, ht, hus, rfl⟩ := targets_cons_eq_ok.1 h
    obtain ⟨hedges, hus⟩ := ih hus
    have hleads : leadsTo? s g (e, p) = t := by
      rw [leadsTo?, ht]
      rfl
    rw [followed_cons_of_ok ht]
    refine ⟨congrArg _ hedges, ?_⟩
    cases t with
    | none => rwa [List.filterMap_cons_none hleads]
    | some name =>
      rw [List.filterMap_cons_some hleads]
      exact congrArg _ hus

theorem getLast?_followed_of_error (h : targets s g es p = (.error f, q)) :
    ∃ x, (followed s g es p).getLast? = some x ∧ follow s g x.1 x.2 = (.error f, q) := by
  induction es generalizing p with
  | nil => cases h
  | cons e es ih =>
    obtain he | ⟨t, r, ht, hrest⟩ := targets_cons_eq_error.1 h
    · rw [followed_cons_of_error he]
      exact ⟨(e, p), rfl, he⟩
    · obtain ⟨x, hx, hfails⟩ := ih hrest
      rw [followed_cons_of_ok ht, List.getLast?_cons, hx]
      exact ⟨x, rfl, hfails⟩

theorem targetsEvents_eq (es : List Edge) (p : Progress) :
    targetsEvents s g es p = (followed s g es p).flatMap fun x ↦ followEvents s g x.1 x.2 := by
  induction es generalizing p with
  | nil => rfl
  | cons e es ih =>
    rcases he : follow s g e p with ⟨f | t, q⟩
    · rw [followed_cons_of_error he]
      exact congrArg (followEvents s g e p ++ ·) (next_of_error he)
    · rw [followed_cons_of_ok he, List.flatMap_cons, ← ih q]
      exact congrArg (followEvents s g e p ++ ·) (next_of_ok he)

theorem attempts_targetsEvents (es : List Edge) (p : Progress) :
    attempts (targetsEvents s g es p) =
      (followed s g es p).flatMap fun x ↦ hooksBefore g x.1 := by
  rw [targetsEvents_eq, attempts, List.filterMap_flatMap]
  exact congrArg (List.flatMap · _) (funext fun x ↦ attempts_followEvents x.1 x.2)

theorem agrees_follow (hhooks : g.before.all = []) (e : Edge) :
    Agrees (fun p q ↦ p.journal.state = q.journal.state) (follow s g e) (follow s g e) := by
  have hjournal {α : Type} {m : Act Journal α}
      (hm : Agrees (fun j k : Journal ↦ j.state = k.state) m m) :
      Agrees (fun p q : Progress ↦ p.journal.state = q.journal.state) (onJournal m) (onJournal m) :=
    fun p q h ↦ hm p.journal q.journal h
  have hlevel := parallel_state s.traceLevel
  unfold follow
  cases e.condition with
  | none => exact agrees_pure _
  | some c =>
    dsimp only
    rw [hhooks]
    exact (agrees_pure ()).bind fun _ ↦ (hjournal (hlevel.eval s.depth c)).bind fun holds ↦
      (hjournal (hlevel.note_trace _ _)).bind fun _ ↦ agrees_pure _

theorem Undisturbed.state_follow (h : Undisturbed s g es p) (he : e ∈ es) :
    (follow s g e p).2.journal.state = p.journal.state := by
  refine (congrArg Standing.state (makes_follow (s := s) (g := g) e p)).trans ?_
  unfold followEvents
  cases hc : e.condition with
  | none => rfl
  | some c =>
    dsimp only
    rw [h.hooks, next_of_ok (rfl : runHooks s .all [] p = (.ok (), p))]
    change (List.foldl Event.apply p.standing (onRun _ p)).state = _
    rw [onRun, foldl_apply_evaluated]
    exact Evaluation.foldl_change_of_calls (fun _ _ ↦ Expr.countsMutation_anyMethod _) (h.native e he c hc) _

theorem Undisturbed.follow_eq (h : Undisturbed s g es p) (he : e ∈ es)
    (hq : q.journal.state = p.journal.state) : (follow s g e q).1 = (follow s g e p).1 ∧
      (follow s g e q).2.journal.state = p.journal.state := by
  obtain ⟨houtcome, hstate⟩ := agrees_follow (s := s) h.hooks e q p hq
  exact ⟨houtcome, hstate.trans (h.state_follow he)⟩

/-- Each edge meets the state in which the first did, and goes as it would go alone. -/
theorem Undisturbed.of_mem_followed (h : Undisturbed s g es p) (hfs : ∀ e ∈ fs, e ∈ es)
    (hq : q.journal.state = p.journal.state) {x : Edge × Progress}
    (hx : x ∈ followed s g fs q) :
    x.2.journal.state = p.journal.state ∧ (follow s g x.1 x.2).1 = (follow s g x.1 p).1 := by
  induction fs generalizing q with
  | nil => cases hx
  | cons e fs ih =>
    obtain ⟨he, hfs⟩ := List.forall_mem_cons.1 hfs
    obtain ⟨houtcome, hstate⟩ := h.follow_eq he hq
    rcases hfollow : follow s g e q with ⟨f | t, r⟩
    · rw [followed_cons_of_error hfollow] at hx
      obtain rfl := List.mem_singleton.1 hx
      exact ⟨hq, houtcome⟩
    · rw [followed_cons_of_ok hfollow] at hx
      rw [hfollow] at hstate
      obtain rfl | hx := List.mem_cons.1 hx
      · exact ⟨hq, houtcome⟩
      · exact ih hfs hstate hx

theorem Undisturbed.targets_eq_mapM (h : Undisturbed s g es p) (hfs : ∀ e ∈ fs, e ∈ es)
    (hq : q.journal.state = p.journal.state) :
    (targets s g fs q).1 = List.reduceOption <$> fs.mapM fun e ↦ (follow s g e p).1 := by
  induction fs generalizing q with
  | nil => rfl
  | cons e fs ih =>
    obtain ⟨he, hfs⟩ := List.forall_mem_cons.1 hfs
    obtain ⟨houtcome, hstate⟩ := h.follow_eq he hq
    rw [List.mapM_cons, ← houtcome]
    rcases hfollow : follow s g e q with ⟨f | t, r⟩
    · rw [targets_cons_of_error hfollow]
      rfl
    · rw [hfollow] at hstate
      rw [targets_cons_of_ok hfollow, fst_map, ih hfs hstate]
      cases fs.mapM fun e ↦ (follow s g e p).1 with
      | error f => rfl
      | ok os => cases t <;> rfl

theorem Undisturbed.targets_eq_filterMap (h : Undisturbed s g es p) (hfs : ∀ e ∈ fs, e ∈ es)
    (hts : (targets s g fs p).1 = .ok ts) : ts = fs.filterMap fun e ↦ leadsTo? s g (e, p) := by
  obtain ⟨hedges, hleads⟩ := of_targets_ok (Prod.ext hts rfl)
  calc ts = (followed s g fs p).filterMap (leadsTo? s g) := hleads
    _ = (followed s g fs p).filterMap ((fun e ↦ leadsTo? s g (e, p)) ∘ Prod.fst) :=
      List.filterMap_congr fun x hx ↦ by
        rw [leadsTo?, (h.of_mem_followed hfs rfl hx).2]
        rfl
    _ = fs.filterMap fun e ↦ leadsTo? s g (e, p) := by rw [← List.filterMap_map, hedges]

theorem mapM_eq_ok_iff {α β : Type} {k : α → Except Fault β} {as : List α} {bs : List β} :
    as.mapM k = .ok bs ↔ List.Forall₂ (fun a b ↦ k a = .ok b) as bs := by
  induction as generalizing bs with
  | nil =>
    rw [List.mapM_nil, List.forall₂_nil_left_iff]
    exact ⟨fun h ↦ (Except.ok.inj h).symm, fun h ↦ h ▸ rfl⟩
  | cons a as ih =>
    rw [List.mapM_cons, List.forall₂_cons_left_iff]
    constructor
    · intro h
      cases ha : k a with
      | error f =>
        rw [ha] at h
        cases h
      | ok b =>
        cases has : as.mapM k with
        | error f =>
          rw [ha, has] at h
          cases h
        | ok bs =>
          rw [ha, has] at h
          cases h
          exact ⟨b, bs, rfl, ih.1 has, rfl⟩
    · rintro ⟨b, bs, hb, hbs, rfl⟩
      rw [hb, ih.2 hbs]
      rfl

/-- If the edges are all followed, so are they in any other order. -/
theorem Undisturbed.exists_targets_of_perm (h : Undisturbed s g es p) (hperm : fs.Perm es)
    (hts : (targets s g es p).1 = .ok ts) :
    ∃ us, (targets s g fs p).1 = .ok us ∧ us.Perm ts := by
  rw [h.targets_eq_mapM (fun e he ↦ he) rfl] at hts
  cases hes : es.mapM fun e ↦ (follow s g e p).1 with
  | error f =>
    rw [hes] at hts
    cases hts
  | ok os =>
    rw [hes] at hts
    cases hts
    obtain ⟨os', hfs, hos⟩ := List.perm_comp_forall₂ hperm (mapM_eq_ok_iff.1 hes)
    refine ⟨os'.reduceOption, ?_, hos.filterMap id⟩
    rw [h.targets_eq_mapM (fun e he ↦ hperm.mem_iff.1 he) rfl, mapM_eq_ok_iff.2 hfs]
    rfl

end

/-- Edges are followed in order, each from where the one before it has left the run, up to the first
that fails. So some edges and then others lead to what the ones lead to and then to what the others
do, from where the ones leave the run. Each edge leads to one node at most, as `Follows` tells; the
hooks run once, just before the condition, for each conditional edge that is followed, and for no
other. Where nothing disturbs the edges, each goes as it would go alone, and in another order they
lead to the same nodes in that order. -/
theorem targets_edges (s : Setup) (g : Graph) (es : List Edge) (p : Progress) :
    (∀ ts q, targets s g es p = (.ok ts, q) →
      (∀ fs, targets s g (es ++ fs) p = ((ts ++ ·) <$> targets s g fs) q) ∧
      (followed s g es p).map Prod.fst = es ∧
      ts = (followed s g es p).filterMap (leadsTo? s g)) ∧
    (∀ f q, targets s g es p = (.error f, q) →
      (∀ fs, targets s g (es ++ fs) p = (.error f, q)) ∧
      (followed s g es p).map Prod.fst <+: es ∧
      ∃ x, (followed s g es p).getLast? = some x ∧ follow s g x.1 x.2 = (.error f, q)) ∧
    (∀ x ∈ followed s g es p, Follows s g x.1 x.2) ∧
    attempts (targetsEvents s g es p) =
      ((followed s g es p).flatMap fun x ↦ hooksBefore g x.1) ∧
    (Undisturbed s g es p → ∀ fs, fs.Perm es →
      (∀ x ∈ followed s g fs p, x.2.journal.state = p.journal.state ∧
        (follow s g x.1 x.2).1 = (follow s g x.1 p).1) ∧
      (targets s g fs p).1 = List.reduceOption <$> fs.mapM (fun e ↦ (follow s g e p).1) ∧
      ∀ ts, (targets s g es p).1 = .ok ts →
        ts = es.filterMap (fun e ↦ leadsTo? s g (e, p)) ∧
        ∃ us, (targets s g fs p).1 = .ok us ∧
          us = fs.filterMap (fun e ↦ leadsTo? s g (e, p)) ∧ us.Perm ts) := by
  refine ⟨fun ts q h ↦ ⟨targets_append_of_ok h, of_targets_ok h⟩, fun f q h ↦
    ⟨targets_append_of_error h, map_fst_followed_prefix es p, getLast?_followed_of_error h⟩,
    fun x _ ↦ follows s g x.1 x.2, attempts_targetsEvents es p, fun h fs hperm ↦ ?_⟩
  have hfs : ∀ e ∈ fs, e ∈ es := fun e he ↦ hperm.mem_iff.1 he
  refine ⟨fun x hx ↦ h.of_mem_followed hfs rfl hx, h.targets_eq_mapM hfs rfl, fun ts hts ↦ ?_⟩
  obtain ⟨us, hus, hsame⟩ := h.exists_targets_of_perm hperm hts
  exact ⟨h.targets_eq_filterMap (fun e he ↦ he) hts, us, hus, h.targets_eq_filterMap hfs hus, hsame⟩

/-- An edge to take in any case, one to take at high water, one at low water, and one that goes
nowhere at high water. -/
def ford : List Edge :=
  [{ target := "bank" },
    { target := "bridge", condition := some (.simple "max(depth, 0)" .equal (.int 3)) },
    { target := "stones", condition := some (.simple "max(depth, 0)" .equal (.int 0)),
      fallback := some "ferry" },
    { target := "swim", condition := some (.simple "max(depth, 0)" .unequal (.int 3)) }]

def river : Graph := { nodes := [] }

def highWater : Progress where
  journal := { state := ⟨[(.str "depth", .int 3)], 1⟩ }

/-- The edges lead to three nodes, and backwards to the same three. -/
theorem targets_edges_ford :
    Undisturbed bare river ford highWater ∧
    (targets bare river ford highWater).1 = .ok ["bank", "bridge", "ferry"] ∧
    ∃ us, (targets bare river ford.reverse highWater).1 = .ok us ∧
      us = ford.reverse.filterMap (fun e ↦ leadsTo? bare river (e, highWater)) ∧
      us.Perm ["bank", "bridge", "ferry"] := by
  have hford : Undisturbed bare river ford highWater := ⟨rfl, by decide +kernel⟩
  have hts : (targets bare river ford highWater).1 = .ok ["bank", "bridge", "ferry"] := by
    have hsome : (targets bare river ford highWater).1.toOption =
      some ["bank", "bridge", "ferry"] := by decide +kernel
    cases h : (targets bare river ford highWater).1 with
    | error f =>
      rw [h] at hsome
      cases hsome
    | ok ts =>
      rw [h] at hsome
      exact congrArg Except.ok (Option.some.inj hsome)
  obtain ⟨-, -, -, -, hany⟩ := targets_edges bare river ford highWater
  exact ⟨hford, hts, ((hany hford _ (List.reverse_perm ford)).2.2 _ hts).2⟩

end Flowgraph.Run
