import Flowgraph.Proofs.Expr.Nesting
import Flowgraph.Proofs.Template.Filling
import Flowgraph.Proofs.Template.Outcome

namespace Flowgraph.Template

open Flowgraph.Expr Act

def openRun (s : List Char) : ℕ := (s.reverse.takeWhile (· == '\x7b')).length

theorem openRun_open (s : List Char) : openRun (s ++ ['\x7b']) = openRun s + 1 := by
  simp [openRun]

theorem openRun_other {c : Char} (h : c ≠ '\x7b') (s : List Char) : openRun (s ++ [c]) = 0 := by
  simp [openRun, h]

/-- Two opening braces, between these parts of a text, where the search tries for a span. Along a
row of braces it goes by two. -/
structure IsTry (text before rest : List Char) : Prop where
  eq : text = before ++ '\x7b' :: '\x7b' :: rest
  even : Even (openRun before)

/-- The braces that a row begins with are tried. -/
theorem isTry_of_getLast? {before : List Char} (h : before.getLast? ≠ some '\x7b')
    (rest : List Char) : IsTry (before ++ '\x7b' :: '\x7b' :: rest) before rest := by
  refine ⟨rfl, ?_⟩
  obtain rfl | ⟨before, c, rfl⟩ := List.eq_nil_or_concat' before
  · exact Even.zero
  · rw [openRun_other (by simpa using h)]
    exact Even.zero

/-- The text of an expression is refused with an error of the expression language. -/
def Refused (runtime : Runtime) (s : State) (source : String) : Prop :=
  ∃ e, (evalText runtime s source).1 = .error e ∧ e.source?.isSome = true

/-- No span with a value begins in front of a text: the braces never balance, or the expression
between them is refused or too deep. -/
inductive Dead (runtime : Runtime) (s : State) (rest : List Char) : Prop
  | unclosed : closeSpan 2 rest = none → Dead runtime s rest
  | refused {inner after : List Char} : closeSpan 2 rest = some (inner, after) →
      Refused runtime s (spanSource inner) → Dead runtime s rest
  | tooDeep {inner after : List Char} : closeSpan 2 rest = some (inner, after) →
      (evalText runtime s (spanSource inner)).1 = .error .tooDeep → Dead runtime s rest

def Settled (runtime : Runtime) (s : State) (text : List Char) : Prop :=
  ∀ before rest, IsTry text before rest → Dead runtime s rest

/-- Of all spans that are tried, this one is the first that has a value. -/
structure IsFirst (runtime : Runtime) (s : State) (text inner : List Char) (hit : Hit) : Prop where
  isTry : IsTry text hit.before (inner ++ hit.after)
  span : closeSpan 2 (inner ++ hit.after) = some (inner, hit.after)
  value : (evalText runtime s (spanSource inner)).1 = .ok hit.value
  dead : ∀ before rest, IsTry text before rest → before.length < hit.before.length →
    Dead runtime s rest

/-- A text after some passes, each of which fills the first span that has a value. -/
inductive Passes (runtime : Runtime) (s : State) : ℕ → List Char → List Char → Prop
  | refl (text : List Char) : Passes runtime s 0 text text
  | pass {k : ℕ} {text inner text' : List Char} {hit : Hit} {shown : String}
      (hfirst : IsFirst runtime s text inner hit) (hshown : hit.value.display = .ok shown)
      (hrest : Passes runtime s k (hit.before ++ shown.toList ++ hit.after) text') :
      Passes runtime s (k + 1) text text'

def isStop (entry : Log.Entry) : Bool :=
  "Stopped interpolating".toList.isPrefixOf entry.event.toList

def stops (entries : List Log.Entry) : ℕ := entries.countP isStop

theorem stops_append (es fs : List Log.Entry) : stops (es ++ fs) = stops es + stops fs :=
  List.countP_append

/-- From one journal to another the state is kept, and these entries are added. -/
structure Adds (entries : List Log.Entry) (j k : Journal) : Prop where
  state : k.state = j.state
  log : k.log = j.log ++ entries

theorem Adds.refl (j : Journal) : Adds [] j j := ⟨rfl, (List.append_nil _).symm⟩

theorem Adds.trans {es fs : List Log.Entry} {j k l : Journal} (h : Adds es j k)
    (h' : Adds fs k l) : Adds (es ++ fs) j l where
  state := h'.state.trans h.state
  log := by rw [h'.log, h.log, List.append_assoc]

/-- A warning adds itself, and counts by its text. -/
theorem exists_adds_note (level : Log.Level) (event : String) (fields : List (String × Value))
    (j : Journal) : ∃ entries, Adds entries j (note level event fields j).2 ∧
      stops entries = if "Stopped interpolating".toList.isPrefixOf event.toList then 1 else 0 :=
  ⟨_, ⟨rfl, rfl⟩, List.countP_singleton⟩

theorem exists_adds_noteFailure (source : String) (e : Expr.Error) (j : Journal) :
    ∃ entries, Adds entries j (noteFailure source e j).2 ∧ stops entries = 0 := by
  obtain ⟨entries, hadds, hstops⟩ := exists_adds_note .warning
    ("Error interpolating '" ++ source ++ "': " ++ e.message) [("expression", .str source)] j
  refine ⟨entries, hadds, hstops.trans ?_⟩
  simp [List.isPrefixOf]

theorem evaluate_of_calls {runtime : Runtime} {source : String} {j : Journal}
    (hcalls : Evaluation.calls anyMethod ⟨runtime, j.state, source⟩ = false)
    (hmet : (Demand.value ⟨runtime, j.state, source⟩).IsMet) :
    (∃ v, (evalText runtime j.state source).1 = .ok v ∧
      evaluate runtime source j = (.ok (.ok (v, [])), j)) ∨
    ∃ e, (Refused runtime j.state source ∨ (evalText runtime j.state source).1 = .error .tooDeep) ∧
      evaluate runtime source j = (.ok (.error e), j) := by
  have hedits : (evalText runtime j.state source).2 = [] :=
    Evaluation.edits_of_calls (countsMutation_anyMethod _) hcalls
  cases he : (evalText runtime j.state source).1 with
  | ok v => exact .inl ⟨v, rfl, evaluate_of_ok hedits he⟩
  | error e =>
    have htext (w) : e ≠ .text w := fun h ↦ hmet w (he.trans (congrArg _ h))
    refine .inr ⟨e, ?_, evaluate_of_error hedits he htext⟩
    cases e with
    | invalid | eval => exact .inl ⟨_, he, rfl⟩
    | text w => exact absurd rfl (htext w)
    | tooDeep => exact .inr rfl

section

variable {runtime : Runtime} {before text s : List Char} {j : Journal}

def DeadBefore (runtime : Runtime) (s : State) (before text : List Char) : Prop :=
  ∀ u r, IsTry (before.reverse ++ text) u r → u.length < before.length → Dead runtime s r

theorem DeadBefore.step {state : State} {c : Char} (h : DeadBefore runtime state before (c :: s))
    (hnow : ∀ r, c :: s = '\x7b' :: '\x7b' :: r → Even (openRun before.reverse) →
      Dead runtime state r) : DeadBefore runtime state (c :: before) s := by
  intro u r htry hlt
  rw [List.reverse_cons, List.append_assoc] at htry
  obtain hlt | heq := Nat.lt_or_eq_of_le (Nat.le_of_lt_succ hlt)
  · exact h u r htry hlt
  · obtain ⟨rfl, hrest⟩ := List.append_inj htry.eq (by simp [heq])
    exact hnow r hrest htry.even

/-- The braces that open a span without a value are passed by together. -/
theorem DeadBefore.skip {state : State}
    (h : DeadBefore runtime state before ('\x7b' :: '\x7b' :: s))
    (heven : Even (openRun before.reverse)) (hnow : Dead runtime state s) :
    DeadBefore runtime state ('\x7b' :: '\x7b' :: before) s := by
  refine (h.step fun r hr _ ↦ ?_).step fun r _ hodd ↦ ?_
  · cases hr
    exact hnow
  · rw [List.reverse_cons, openRun_open, Nat.even_add_one] at hodd
    exact absurd heven hodd

theorem even_openRun_skip (h : Even (openRun before.reverse)) :
    Even (openRun ('\x7b' :: '\x7b' :: before).reverse) := by
  rw [List.reverse_cons, openRun_open, List.reverse_cons, openRun_open]
  exact h.add even_two

theorem nextHit_spec
    (heven : text.head? = some '\x7b' → Even (openRun before.reverse))
    (hdead : DeadBefore runtime j.state before text)
    (hcalls : ∀ x ∈ evaluationsToHit runtime text j, x.calls anyMethod = false)
    (hmet : ∀ x ∈ evaluationsToHit runtime text j, (Demand.value x).IsMet) :
    ∃ hit? k entries, nextHit runtime before text j = (.ok hit?, k) ∧ Adds entries j k ∧
      stops entries = 0 ∧
      match hit? with
      | none => Settled runtime j.state (before.reverse ++ text)
      | some hit => ∃ inner, IsFirst runtime j.state (before.reverse ++ text) inner hit := by
  fun_induction nextHit runtime before text generalizing j with
  | case1 before s hs ih =>
    have hrun := heven rfl
    rw [evaluationsToHit, hs] at hcalls hmet
    have h := ih (fun _ ↦ even_openRun_skip hrun) (hdead.skip hrun (.unclosed hs)) hcalls hmet
    simpa using h
  | case2 before s inner after hs source =>
    rename_i ih
    have hrun := heven rfl
    rw [evaluationsToHit, hs] at hcalls hmet
    obtain ⟨hx, hcalls⟩ := List.forall_mem_cons.1 hcalls
    obtain ⟨hd, hmet⟩ := List.forall_mem_cons.1 hmet
    obtain ⟨v, hv, heval⟩ | ⟨e, he, heval⟩ := evaluate_of_calls hx hd
    · refine ⟨some ⟨before.reverse, v, after⟩, j, [], ?_, .refl j, rfl, inner, ?_⟩
      · rw [bind_of_ok heval]
        rfl
      · obtain rfl := eq_of_closeSpan hs
        exact ⟨⟨rfl, hrun⟩, hs, hv, fun u r htry hlt ↦ hdead u r htry (by simpa using hlt)⟩
    · obtain ⟨es, hadds, hes⟩ := exists_adds_noteFailure source e j
      have hnote : noteFailure source e j = (.ok (), (noteFailure source e j).2) := rfl
      rw [next_of_ok heval] at hcalls hmet
      dsimp only at hcalls hmet
      rw [next_of_ok hnote] at hcalls hmet
      have hnow : Dead runtime j.state s := he.elim (.refused hs) (.tooDeep hs)
      have hskip := hdead.skip hrun hnow
      rw [← hadds.state] at hskip
      obtain ⟨hit?, k, fs, hnext, hk, hfs, hhit⟩ :=
        ih (fun _ ↦ even_openRun_skip hrun) hskip hcalls hmet
      refine ⟨hit?, k, es ++ fs, ?_, hadds.trans hk, ?_, ?_⟩
      · rw [bind_of_ok heval]
        dsimp only
        rw [bind_of_ok hnote, hnext]
      · rw [stops_append, hes, hfs]
      · rw [hadds.state] at hhit
        simpa using hhit
  | case3 before c s hs ih =>
    rw [evaluationsToHit.eq_2 runtime c s hs] at hcalls hmet
    have hstep : DeadBefore runtime j.state (c :: before) s :=
      hdead.step fun r hr _ ↦ absurd (List.cons.inj hr).2 (hs r (List.cons.inj hr).1)
    have hrun : s.head? = some '\x7b' → Even (openRun (c :: before).reverse) := by
      intro hhead
      obtain ⟨r, rfl⟩ := List.head?_eq_some_iff.1 hhead
      rw [List.reverse_cons, openRun_other fun hc ↦ hs r hc rfl]
      exact Even.zero
    have h := ih hrun hstep hcalls hmet
    simpa using h
  | case4 before =>
    refine ⟨none, j, [], rfl, .refl j, rfl, fun u r htry ↦ hdead u r htry ?_⟩
    have hlength := congrArg List.length htry.eq
    simp only [List.append_nil, List.length_append, List.length_cons,
      List.length_reverse] at hlength
    omega

end

theorem nextHit_front {runtime : Runtime} {text : List Char} {j : Journal}
    (hcalls : ∀ x ∈ evaluationsToHit runtime text j, x.calls anyMethod = false)
    (hmet : ∀ d ∈ (evaluationsToHit runtime text j).map .value, Demand.IsMet d) :
    ∃ hit? k entries, nextHit runtime [] text j = (.ok hit?, k) ∧ Adds entries j k ∧
      stops entries = 0 ∧
      match hit? with
      | none => Settled runtime j.state text
      | some hit => ∃ inner, IsFirst runtime j.state text inner hit :=
  nextHit_spec (fun _ ↦ Even.zero) (fun _ _ _ hlt ↦ absurd hlt (Nat.not_lt_zero _)) hcalls
    fun _ hx ↦ hmet _ (List.mem_map_of_mem hx)

/-- Passes are made until no span has a value, or there is a warning that no more are made. -/
theorem fillExpressions_spec {source : Source} (template : List Char) {passes : ℕ}
    {text : List Char} {j : Journal}
    (hcalls : ∀ x ∈ evaluationsOfFilling source passes text j, x.calls anyMethod = false)
    (hmet : ∀ d ∈ demandsOfFilling source passes text j, d.IsMet) :
    ∃ text' k entries l, fillExpressions source template passes text j = (.ok text', l) ∧
      Adds entries j l ∧ k ≤ passes ∧ Passes source.runtime j.state k text text' ∧
      (stops entries = 0 ∧ Settled source.runtime j.state text' ∨
        stops entries = 1 ∧ k = passes ∧
          ∃ inner hit, IsFirst source.runtime j.state text' inner hit) := by
  induction passes generalizing text j with
  | zero =>
    obtain ⟨hit?, k, es, hnext, hadds, hes, hhit⟩ := nextHit_front hcalls hmet
    unfold fillExpressions
    rw [bind_of_ok hnext]
    cases hit? with
    | none => exact ⟨text, 0, es, k, rfl, hadds, le_rfl, .refl text, .inl ⟨hes, hhit⟩⟩
    | some hit =>
      obtain ⟨inner, hfirst⟩ := hhit
      obtain ⟨fs, hstop, hfs⟩ := exists_adds_note .warning
        ("Stopped interpolating after " ++ toString source.maxPasses ++ " substitutions")
        [("template", .str (String.ofList template))] k
      refine ⟨text, 0, es ++ fs, _, rfl, hadds.trans hstop, le_rfl, .refl text,
        .inr ⟨?_, rfl, inner, hit, hfirst⟩⟩
      rw [stops_append, hes, hfs]
      simp [List.isPrefixOf]
  | succ passes ih =>
    rw [evaluationsOfFilling] at hcalls
    rw [demandsOfFilling] at hmet
    obtain ⟨hcalls, hrestcalls⟩ := List.forall_mem_append.1 hcalls
    obtain ⟨hmet, hrestmet⟩ := List.forall_mem_append.1 hmet
    obtain ⟨hit?, k, es, hnext, hadds, hes, hhit⟩ := nextHit_front hcalls hmet
    rw [next_of_ok hnext] at hrestcalls hrestmet
    unfold fillExpressions
    rw [bind_of_ok hnext]
    cases hit? with
    | none => exact ⟨text, 0, es, k, rfl, hadds, Nat.zero_le _, .refl text, .inl ⟨hes, hhit⟩⟩
    | some hit =>
      obtain ⟨inner, hfirst⟩ := hhit
      obtain ⟨htext, hrestmet⟩ := List.forall_mem_cons.1 hrestmet
      obtain ⟨shown, hshown⟩ : ∃ shown, hit.value.display = .ok shown := by
        have hfault := (Demand.isMet_iff _).1 htext
        rw [Demand.fault?] at hfault
        cases hv : hit.value.display with
        | ok shown => exact ⟨shown, rfl⟩
        | error e => simp [hv] at hfault
      have hdisplay : display hit.value k = (.ok shown, k) := by
        unfold display
        rw [hshown]
        rfl
      dsimp only at hrestcalls
      rw [next_of_ok hdisplay] at hrestcalls hrestmet
      obtain ⟨text', n, fs, l, hfill, hl, hn, hpasses, hend⟩ := ih hrestcalls hrestmet
      rw [hadds.state] at hpasses hend
      refine ⟨text', n + 1, es ++ fs, l, ?_, hadds.trans hl, Nat.succ_le_succ hn,
        .pass hfirst hshown hpasses, ?_⟩
      · dsimp only
        rw [bind_of_ok hdisplay, hfill]
      · rw [stops_append, hes, Nat.zero_add, Nat.succ_inj]
        exact hend

/-- If no native method is called and all texts that are asked for can be written, some passes are
made, no more than are allowed, each of which fills the first span that has a value. After them
either no span has a value, and there is no warning that no more passes are made, or as many passes
have been made as are allowed, there is one such warning, and there is still a span with a value. -/
theorem fillExpressions_passes (source : Source) (text : List Char) (j : Journal)
    (hcalls : ∀ x ∈ evaluationsOfFilling source source.maxPasses text j,
      x.calls anyMethod = false)
    (hmet : ∀ d ∈ demandsOfFilling source source.maxPasses text j, d.IsMet) :
    ∃ text' k entries l, fillExpressions source text source.maxPasses text j = (.ok text', l) ∧
      Adds entries j l ∧ k ≤ source.maxPasses ∧ Passes source.runtime j.state k text text' ∧
      Xor (stops entries = 0 ∧ Settled source.runtime j.state text')
        (stops entries = 1 ∧ k = source.maxPasses ∧
          ∃ inner hit, IsFirst source.runtime j.state text' inner hit) := by
  obtain ⟨text', k, entries, l, hfill, hadds, hk, hpasses, hend⟩ :=
    fillExpressions_spec text hcalls hmet
  refine ⟨text', k, entries, l, hfill, hadds, hk, hpasses, ?_⟩
  obtain ⟨hnone, hsettled⟩ | ⟨hone, hrest⟩ := hend
  · exact .inl ⟨⟨hnone, hsettled⟩, fun h ↦ absurd (hnone.symm.trans h.1) (by decide)⟩
  · exact .inr ⟨⟨hone, hrest⟩, fun h ↦ absurd (h.1.symm.trans hone) (by decide)⟩

def secretless (passes : ℕ) : Source := ⟨fun _ ↦ none, passes, .standard⟩

/-- A state with a text that brings itself in again, with an expression that fails. -/
def mirror : Journal :=
  { state := ⟨[(.str "a", .str "\x7b\x7b a \x7d\x7d\x7b\x7b f() \x7d\x7d")], 1⟩ }

def reflected : List Char := "\x7b\x7b f() \x7d\x7d\x7b\x7b a \x7d\x7d".toList

theorem fillExpressions_passes_mirror :
    (∀ x ∈ evaluationsOfFilling (secretless 2) 2 reflected mirror, x.calls anyMethod = false) ∧
    (∀ d ∈ demandsOfFilling (secretless 2) 2 reflected mirror, d.IsMet) ∧
    ∃ text', (fillExpressions (secretless 2) reflected 2 reflected mirror).1 = .ok text' ∧
      Passes .standard mirror.state 2 reflected text' ∧
      ∃ inner hit, IsFirst .standard mirror.state text' inner hit := by
  have hcalls : (evaluationsOfFilling (secretless 2) 2 reflected mirror).all
      (fun x ↦ !x.calls anyMethod) = true := by decide +kernel
  have hmet : (demandsOfFilling (secretless 2) 2 reflected mirror).all
      (fun d ↦ d.fault?.isNone) = true := by decide +kernel
  have hstops : stops (fillExpressions (secretless 2) reflected 2 reflected mirror).2.log = 1 := by
    decide +kernel
  have hcalls : ∀ x ∈ evaluationsOfFilling (secretless 2) 2 reflected mirror,
      x.calls anyMethod = false := by simpa using hcalls
  have hmet : ∀ d ∈ demandsOfFilling (secretless 2) 2 reflected mirror, d.IsMet := by
    simpa [Demand.isMet_iff] using hmet
  obtain ⟨text', k, entries, l, hfill, hadds, -, hpasses, hend⟩ :=
    fillExpressions_passes (secretless 2) reflected mirror hcalls hmet
  have hfill : fillExpressions (secretless 2) reflected 2 reflected mirror = (.ok text', l) := hfill
  have hone : stops entries = 1 := by
    rw [hfill, hadds.log] at hstops
    exact hstops
  obtain ⟨⟨hnone, -⟩, -⟩ | ⟨⟨-, rfl, hfirst⟩, -⟩ := hend
  · exact absurd (hnone.symm.trans hone) (by decide)
  · exact ⟨hcalls, hmet, text', congrArg Prod.fst hfill, hpasses, hfirst⟩

theorem plain_parenthesized (n : ℕ) : Plain (parenthesized n) := by
  induction n with
  | zero => decide
  | succ n ih =>
    have hclose : Plain [')'] := by decide
    exact plain_cons.2 ⟨by decide, List.forall_mem_append.2 ⟨ih, hclose⟩⟩

theorem trimmed_parenthesized (n : ℕ) :
    trimmed (parenthesized n) = String.ofList (parenthesized n) := by
  cases n with
  | zero => rfl
  | succ n =>
    have hopen : Text.isBlank '(' = false := by decide
    have hclose : Text.isBlank ')' = false := by decide
    simp [trimmed, parenthesized, Text.trim, Text.trimEnd, Text.trimStart, hopen, hclose]

section

variable {runtime : Runtime} {s : List Char}

theorem evaluationsToHit_of_not_mem (h : '\x7b' ∉ s) :
    evaluationsToHit runtime s = fun _ ↦ [] := by
  induction s with
  | nil => rfl
  | cons c s ih =>
    obtain ⟨hc, hs⟩ := not_or.1 (mt List.mem_cons.2 h)
    rw [evaluationsToHit.eq_2 runtime c s fun _ hopen _ ↦ hc hopen.symm, ih hs]

end

def vault (n : ℕ) : List Char := '\x7b' :: '\x7b' :: (parenthesized n ++ ['\x7d', '\x7d'])

section

variable {runtime : Runtime} {n : ℕ} {j : Journal}

theorem closeSpan_vault (n : ℕ) : closeSpan 2 (parenthesized n ++ ['\x7d', '\x7d']) =
    some (parenthesized n ++ ['\x7d', '\x7d'], []) :=
  closeSpan_of_balanced (plain_parenthesized n).balanced []

theorem not_mem_vault (n : ℕ) : '\x7b' ∉ parenthesized n ++ ['\x7d', '\x7d'] := by
  intro h
  obtain h | h := List.mem_append.1 h
  · exact (plain_parenthesized n _ h).1 rfl
  · exact absurd h (by decide)

theorem spanSource_vault (n : ℕ) : spanSource (parenthesized n ++ ['\x7d', '\x7d']) =
    String.ofList (parenthesized n) :=
  (spanSource_append _).trans (trimmed_parenthesized n)

theorem evaluate_vault (h : runtime.brackets < n) :
    evaluate runtime (spanSource (parenthesized n ++ ['\x7d', '\x7d'])) j =
      (.ok (.error .tooDeep), j) := by
  have heval := evalText_parenthesized h j.state
  rw [spanSource_vault]
  exact evaluate_of_error (congrArg Prod.snd heval) (congrArg Prod.fst heval) (by simp)

/-- The search leaves a warning and goes past the span. -/
theorem nextHit_vault (h : runtime.brackets < n) :
    ∃ entries k, nextHit runtime [] (vault n) j = (.ok none, k) ∧ Adds entries j k ∧
      stops entries = 0 := by
  obtain ⟨entries, hadds, hstops⟩ := exists_adds_noteFailure
    (spanSource (parenthesized n ++ ['\x7d', '\x7d'])) .tooDeep j
  refine ⟨entries, _, ?_, hadds, hstops⟩
  rw [vault, nextHit, closeSpan_vault]
  dsimp only
  rw [bind_of_ok (evaluate_vault h)]
  dsimp only
  rw [nextHit_of_no_opening fun hspan ↦ not_mem_vault n (hspan.subset List.mem_cons_self)]
  rfl

theorem evaluationsToHit_vault (h : runtime.brackets < n) : evaluationsToHit runtime (vault n) j =
    [⟨runtime, j.state, spanSource (parenthesized n ++ ['\x7d', '\x7d'])⟩] := by
  rw [vault, evaluationsToHit, closeSpan_vault]
  dsimp only
  rw [next_of_ok (evaluate_vault h), evaluationsToHit_of_not_mem (not_mem_vault n)]
  rfl

theorem evaluationsOfFilling_vault {source : Source} (h : source.runtime.brackets < n)
    (passes : ℕ) : evaluationsOfFilling source passes (vault n) j =
      [⟨source.runtime, j.state, spanSource (parenthesized n ++ ['\x7d', '\x7d'])⟩] := by
  cases passes with
  | zero => exact evaluationsToHit_vault h
  | succ passes =>
    obtain ⟨_, k, hnext, -⟩ := nextHit_vault (j := j) h
    rw [evaluationsOfFilling]
    dsimp only
    rw [evaluationsToHit_vault h, next_of_ok hnext]
    rfl

theorem demandsOfFilling_vault {source : Source} (h : source.runtime.brackets < n)
    (passes : ℕ) : demandsOfFilling source passes (vault n) j =
      [.value ⟨source.runtime, j.state, spanSource (parenthesized n ++ ['\x7d', '\x7d'])⟩] := by
  cases passes with
  | zero => exact congrArg _ (evaluationsToHit_vault h)
  | succ passes =>
    obtain ⟨_, k, hnext, -⟩ := nextHit_vault (j := j) h
    rw [demandsOfFilling]
    dsimp only
    rw [evaluationsToHit_vault h, next_of_ok hnext]
    rfl

theorem calls_vault (h : runtime.brackets < n) (counts : Value → String → Bool) (s : State) :
    Evaluation.calls counts
      ⟨runtime, s, spanSource (parenthesized n ++ ['\x7d', '\x7d'])⟩ = false := by
  unfold Evaluation.calls
  rw [spanSource_vault, parseWithin_parenthesized h]

theorem evalText_vault (h : runtime.brackets < n) (s : State) :
    (evalText runtime s (spanSource (parenthesized n ++ ['\x7d', '\x7d']))).1 = .error .tooDeep := by
  rw [spanSource_vault, evalText_parenthesized h]

end

def bare : Journal := { state := ⟨[], 1⟩ }

/-- No pass fills a span that is too deep, though its expression is not refused. -/
theorem fillExpressions_vault :
    (∀ x ∈ evaluationsOfFilling (secretless 1000) 1000 (vault 3000) bare,
      x.calls anyMethod = false) ∧
    (∀ d ∈ demandsOfFilling (secretless 1000) 1000 (vault 3000) bare, d.IsMet) ∧
    (∃ entries l, fillExpressions (secretless 1000) (vault 3000) 1000 (vault 3000) bare =
      (.ok (vault 3000), l) ∧ Adds entries bare l ∧ stops entries = 0) ∧
    ∃ inner, IsTry (vault 3000) [] inner ∧ closeSpan 2 inner = some (inner, []) ∧
      ¬ Refused (secretless 1000).runtime bare.state (spanSource inner) := by
  have hdeep : (secretless 1000).runtime.brackets < 3000 := by decide
  have heval := evalText_vault hdeep bare.state
  refine ⟨?_, ?_, ?_, _, @isTry_of_getLast? [] (by decide) _, closeSpan_vault 3000, ?_⟩
  · rw [evaluationsOfFilling_vault hdeep, List.forall_mem_singleton]
    exact calls_vault hdeep _ _
  · rw [demandsOfFilling_vault hdeep, List.forall_mem_singleton]
    intro w hw
    cases heval.symm.trans hw
  · obtain ⟨entries, k, hnext, hadds, hstops⟩ := nextHit_vault (j := bare) hdeep
    refine ⟨entries, k, ?_, hadds, hstops⟩
    unfold fillExpressions
    rw [bind_of_ok hnext]
    rfl
  · rintro ⟨e, he, hsource⟩
    cases heval.symm.trans he
    cases hsource

end Flowgraph.Template
