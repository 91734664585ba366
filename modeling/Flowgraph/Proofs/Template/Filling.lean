import Flowgraph.Proofs.Act
import Flowgraph.Proofs.Expr.Edits
import Flowgraph.Proofs.Expr.Writing
import Flowgraph.Proofs.Template.Balanced
import Flowgraph.Template.Interpolation
import Mathlib

namespace Flowgraph.Template

open Flowgraph.Expr Act

def trimmed (inner : List Char) : String := String.ofList (Text.trim inner)

/-- A literal text, or what stands between two opening and two closing braces. -/
inductive Segment where
  | literal (s : List Char)
  | span (inner : List Char)

namespace Segment

def text : Segment → List Char
  | literal s => s
  | span inner => '\x7b' :: '\x7b' :: (inner ++ ['\x7d', '\x7d'])

def filling? (runtime : Runtime) (s : State) : Segment → Option (List Char)
  | literal _ => none
  | span inner =>
    match (evalText runtime s (trimmed inner)).1 with
    | .ok v => v.display.toOption.map String.toList
    | .error _ => none

def filled (runtime : Runtime) (s : State) (g : Segment) : List Char :=
  (g.filling? runtime s).getD g.text

end Segment

def fillings (runtime : Runtime) (s : State) (gs : List Segment) : ℕ :=
  gs.countP fun g ↦ (g.filling? runtime s).isSome

def Braceless (source : String) : Prop :=
  ∃ e ts, Token.scan source = .ok ts ∧ Expr.parse source = .ok e ∧
    ∀ t, .string t ∈ ts.map (·.lexeme) → Plain t.toList

def Readable (source : String) : Prop :=
  ∃ e ts, Token.scan source = .ok ts ∧ Expr.parse source = .ok e ∧
    (∀ t, .string t ∈ ts.map (·.lexeme) → Plain t.toList) ∧ e.callsNative = false

/-- The text of an expression has a value, shown without braces, or fails as expressions do. -/
def Settles (runtime : Runtime) (s : State) (source : String) : Prop :=
  match (evalText runtime s source).1 with
  | .ok v => ∃ shown, v.display = .ok shown ∧ Plain shown.toList
  | .error e => ∀ w, e ≠ .text w

def Segment.Sound (runtime : Runtime) (s : State) : Segment → Prop
  | literal t => Plain t
  | span inner => Readable (trimmed inner) ∧ Settles runtime s (trimmed inner)

section

variable {runtime : Runtime} {s : State} {source : String}

theorem settles_of_ok {v : Value} {shown : String} (h : (evalText runtime s source).1 = .ok v)
    (hv : v.display = .ok shown) (hp : Plain shown.toList) : Settles runtime s source := by
  unfold Settles
  rw [h]
  exact ⟨shown, hv, hp⟩

theorem settles_of_error {e : Expr.Error} (h : (evalText runtime s source).1 = .error e)
    (hw : ∀ w, e ≠ .text w) : Settles runtime s source := by
  unfold Settles
  rw [h]
  exact hw

theorem Segment.sound_span {inner : List Char} (h : trimmed inner = source)
    (hr : Readable source) (hs : Settles runtime s source) : (span inner).Sound runtime s := by
  subst h
  exact ⟨hr, hs⟩

end

theorem exists_trim (s : List Char) :
    ∃ u v, s = u ++ (Text.trim s ++ v) ∧ Plain u ∧ Plain v := by
  have hblank {t : List Char} : Plain (t.takeWhile Text.isBlank) := fun c hc ↦
    not_brace_of_isBlank (List.all_eq_true.1 List.all_takeWhile c hc)
  refine ⟨s.takeWhile Text.isBlank,
    ((Text.trimStart s).reverse.takeWhile Text.isBlank).reverse, ?_, hblank, ?_⟩
  · unfold Text.trim Text.trimEnd
    rw [← List.reverse_append, List.takeWhile_append_dropWhile, List.reverse_reverse]
    exact List.takeWhile_append_dropWhile.symm
  · exact fun c hc ↦ hblank c (List.mem_reverse.1 hc)

theorem Braceless.balanced {inner : List Char} (h : Braceless (trimmed inner)) :
    BalancedText inner := by
  obtain ⟨e, ts, hts, he, hstring⟩ := h
  have hspells := spells_of_scan hts
  rw [trimmed, String.toList_ofList] at hspells
  have htrim := balanced_of_spells (balanced_of_derives (derives_of_parse hts he)) hspells hstring
  obtain ⟨u, v, hs, hu, hv⟩ := exists_trim inner
  rw [hs]
  exact hu.balanced.append (htrim.append hv.balanced)

theorem Readable.balanced {inner : List Char} (h : Readable (trimmed inner)) :
    BalancedText inner := by
  obtain ⟨e, ts, hts, he, hstring, -⟩ := h
  exact Braceless.balanced ⟨e, ts, hts, he, hstring⟩

theorem spanSource_append (inner : List Char) :
    spanSource (inner ++ ['\x7d', '\x7d']) = trimmed inner := by
  simp [spanSource, trimmed]

theorem Readable.edits {source : String} (h : Readable source) (runtime : Runtime) (s : State) :
    (evalText runtime s source).2 = [] := by
  obtain ⟨e, ts, hts, he, -, hnative⟩ := h
  refine edits_evalText fun e' he' _ ↦ ?_
  rw [parseWithin_of_parse hts he] at he'
  split_ifs at he'
  cases he'
  exact edits_eval _ s e hnative

theorem evaluate_of_ok {source : String} {runtime : Runtime} {j : Journal} {v : Value}
    (hedits : (evalText runtime j.state source).2 = [])
    (hv : (evalText runtime j.state source).1 = .ok v) :
    evaluate runtime source j = (.ok (.ok (v, [])), j) := by
  have hr : evalText runtime j.state source = (.ok v, []) := Prod.ext hv hedits
  unfold evaluate
  rw [hr]
  rfl

theorem evaluate_of_error {source : String} {runtime : Runtime} {j : Journal} {e : Expr.Error}
    (hedits : (evalText runtime j.state source).2 = [])
    (he : (evalText runtime j.state source).1 = .error e) (hw : ∀ w, e ≠ .text w) :
    evaluate runtime source j = (.ok (.error e), j) := by
  have hr : evalText runtime j.state source = (.error e, []) := Prod.ext he hedits
  unfold evaluate
  rw [hr]
  cases e with
  | text w => exact absurd rfl (hw w)
  | invalid | eval | tooDeep => rfl

theorem nextHit_step {runtime : Runtime} {before s : List Char} {c : Char}
    (h : c ≠ '\x7b' ∨ s.head? ≠ some '\x7b') :
    nextHit runtime before (c :: s) = nextHit runtime (c :: before) s := by
  refine nextHit.eq_2 runtime before c s fun t hc hs ↦ ?_
  subst hc hs
  simp at h

theorem nextHit_balanced {runtime : Runtime} {s : List Char} (h : BalancedText s)
    (before t : List Char) :
    nextHit runtime before (s ++ t) = nextHit runtime (s.reverse ++ before) t := by
  induction h generalizing before t with
  | nil => rfl
  | plain ho _ _ ih =>
    rw [List.cons_append, nextHit_step (.inl ho), ih]
    simp
  | @group s u _ hh _ ihs ihu =>
    -- No other brace opens behind this one, so no span begins here.
    have hhead : (s ++ '\x7d' :: (u ++ t)).head? ≠ some '\x7b' := by
      cases s with
      | nil => simp
      | cons c s => exact hh
    rw [List.cons_append, List.append_assoc, List.cons_append, nextHit_step (.inr hhead), ihs,
      nextHit_step (.inl (by decide)), ihu]
    simp

section

variable {runtime : Runtime} {j : Journal} {g : Segment}

theorem nextHit_span {inner : List Char} (h : Readable (trimmed inner)) (before t : List Char) :
    nextHit runtime before ((Segment.span inner).text ++ t) =
      (do
        match ← evaluate runtime (trimmed inner) with
        | .ok (v, _) => return some ⟨before.reverse, v, t⟩
        | .error e => do
          noteFailure (trimmed inner) e
          nextHit runtime ('\x7b' :: '\x7b' :: before) (inner ++ ['\x7d', '\x7d'] ++ t)) := by
  have htext : (Segment.span inner).text ++ t =
      '\x7b' :: '\x7b' :: (inner ++ '\x7d' :: '\x7d' :: t) := by simp [Segment.text]
  rw [htext, nextHit, closeSpan_of_balanced h.balanced]
  dsimp only
  rw [spanSource_append, List.append_assoc]
  rfl

theorem nextHit_of_filling {shown : List Char} (hg : g.Sound runtime j.state)
    (hf : g.filling? runtime j.state = some shown) :
    Plain shown ∧ ∃ v, v.display = .ok (String.ofList shown) ∧ ∀ before t,
      nextHit runtime before (g.text ++ t) j = (.ok (some ⟨before.reverse, v, t⟩), j) := by
  cases g with
  | literal s => cases hf
  | span inner =>
    obtain ⟨hread, hsettles⟩ := hg
    unfold Settles at hsettles
    unfold Segment.filling? at hf
    dsimp only at hf
    split at hf
    · next v hv =>
      rw [hv] at hsettles
      obtain ⟨text, htext, hplain⟩ := hsettles
      rw [htext] at hf
      cases hf
      refine ⟨hplain, v, by rw [htext, String.ofList_toList], fun before t ↦ ?_⟩
      rw [nextHit_span hread, bind_of_ok (evaluate_of_ok (hread.edits runtime j.state) hv)]
      rfl
    · cases hf

/-- The search goes past a literal text and past a span without a value, of which it only takes
note. -/
theorem nextHit_of_filling_none (hg : g.Sound runtime j.state)
    (hf : g.filling? runtime j.state = none) :
    ∃ k : Journal, k.state = j.state ∧ ∀ before t,
      nextHit runtime before (g.text ++ t) j = nextHit runtime (g.text.reverse ++ before) t k := by
  cases g with
  | literal s => exact ⟨j, rfl, fun before t ↦ congrFun (nextHit_balanced hg.balanced before t) j⟩
  | span inner =>
    obtain ⟨hread, hsettles⟩ := hg
    unfold Settles at hsettles
    unfold Segment.filling? at hf
    dsimp only at hf
    split at hf
    · next v hv =>
      rw [hv] at hsettles
      obtain ⟨text, htext, -⟩ := hsettles
      rw [htext] at hf
      cases hf
    · next e he =>
      rw [he] at hsettles
      let k := noteFailure (trimmed inner) e j
      have hk : noteFailure (trimmed inner) e j = (.ok (), k.2) := rfl
      refine ⟨k.2, rfl, fun before t ↦ ?_⟩
      rw [nextHit_span hread, bind_of_ok
        (evaluate_of_error (hread.edits runtime j.state) he hsettles)]
      dsimp only
      rw [bind_of_ok hk, List.append_assoc, nextHit_balanced hread.balanced]
      rw [List.cons_append, nextHit_step (.inl (by decide)), List.cons_append,
        nextHit_step (.inl (by decide)), List.nil_append]
      simp [Segment.text]

theorem nextHit_of_forall_none {gs : List Segment} (hg : ∀ g ∈ gs, g.Sound runtime j.state)
    (hf : ∀ g ∈ gs, g.filling? runtime j.state = none) :
    ∃ k : Journal, k.state = j.state ∧ ∀ before t,
      nextHit runtime before (gs.flatMap Segment.text ++ t) j =
        nextHit runtime ((gs.flatMap Segment.text).reverse ++ before) t k := by
  induction gs generalizing j with
  | nil => exact ⟨j, rfl, fun before t ↦ rfl⟩
  | cons g gs ih =>
    obtain ⟨hg, hgs⟩ := List.forall_mem_cons.1 hg
    obtain ⟨hf, hfs⟩ := List.forall_mem_cons.1 hf
    obtain ⟨k, hk, hskip⟩ := nextHit_of_filling_none hg hf
    rw [← hk] at hgs hfs
    obtain ⟨l, hl, hrest⟩ := ih hgs hfs
    refine ⟨l, hl.trans hk, fun before t ↦ ?_⟩
    rw [List.flatMap_cons, List.append_assoc, hskip, hrest]
    simp

end

theorem flatMap_filled_of_none {runtime : Runtime} {s : State} {gs : List Segment}
    (h : ∀ g ∈ gs, g.filling? runtime s = none) :
    gs.flatMap (·.filled runtime s) = gs.flatMap Segment.text := by
  induction gs with
  | nil => rfl
  | cons g gs ih =>
    obtain ⟨hg, hgs⟩ := List.forall_mem_cons.1 h
    rw [List.flatMap_cons, List.flatMap_cons, ih hgs]
    simp [Segment.filled, hg]

section

variable {runtime : Runtime} {s : State} {g : Segment} {gs hs : List Segment} {shown : List Char}

theorem sound_replace (hg : ∀ h ∈ gs ++ g :: hs, h.Sound runtime s) (hp : Plain shown) :
    ∀ h ∈ gs ++ .literal shown :: hs, h.Sound runtime s := by
  obtain ⟨hgs, hrest⟩ := List.forall_mem_append.1 hg
  obtain ⟨-, hhs⟩ := List.forall_mem_cons.1 hrest
  exact List.forall_mem_append.2 ⟨hgs, List.forall_mem_cons.2 ⟨hp, hhs⟩⟩

theorem fillings_replace (hf : g.filling? runtime s = some shown) :
    fillings runtime s (gs ++ g :: hs) = fillings runtime s (gs ++ .literal shown :: hs) + 1 := by
  have hnone : (Segment.literal shown).filling? runtime s = none := rfl
  unfold fillings
  rw [List.countP_append, List.countP_append, List.countP_cons_of_pos (by simp [hf]),
    List.countP_cons_of_neg (by simp [hnone])]
  rfl

theorem flatMap_filled_replace (hf : g.filling? runtime s = some shown) :
    (gs ++ .literal shown :: hs).flatMap (·.filled runtime s) =
      (gs ++ g :: hs).flatMap (·.filled runtime s) := by
  have hfilled : (Segment.literal shown).filled runtime s = g.filled runtime s := by
    unfold Segment.filled
    rw [hf]
    rfl
  rw [List.flatMap_append, List.flatMap_append, List.flatMap_cons, List.flatMap_cons, hfilled]

end

section

variable {source : Source} {template : List Char} {passes : ℕ} {j : Journal} {gs : List Segment}

theorem fillExpressions_of_none (hg : ∀ g ∈ gs, g.Sound source.runtime j.state)
    (hf : ∀ g ∈ gs, g.filling? source.runtime j.state = none) :
    ∃ k : Journal, k.state = j.state ∧
      fillExpressions source template passes (gs.flatMap Segment.text) j =
        (.ok (gs.flatMap (·.filled source.runtime j.state)), k) := by
  obtain ⟨k, hk, hskip⟩ := nextHit_of_forall_none hg hf
  have hnone : nextHit source.runtime [] (gs.flatMap Segment.text) j = (.ok none, k) := by
    have h := hskip [] []
    rw [List.append_nil] at h
    rw [h, nextHit]
    rfl
  refine ⟨k, hk, ?_⟩
  rw [flatMap_filled_of_none hf]
  unfold fillExpressions
  rw [bind_of_ok hnone]
  rfl

/-- A pass turns the first span that has a value into a literal text. -/
theorem fillExpressions_of_some {g : Segment} {hs : List Segment} {shown : List Char}
    (hg : ∀ g ∈ gs, g.Sound source.runtime j.state)
    (hf : ∀ g ∈ gs, g.filling? source.runtime j.state = none)
    (hsound : g.Sound source.runtime j.state)
    (hshown : g.filling? source.runtime j.state = some shown) :
    ∃ k : Journal, k.state = j.state ∧
      fillExpressions source template (passes + 1) ((gs ++ g :: hs).flatMap Segment.text) j =
        fillExpressions source template passes
          ((gs ++ .literal shown :: hs).flatMap Segment.text) k := by
  obtain ⟨k, hk, hskip⟩ := nextHit_of_forall_none hg hf
  rw [← hk] at hsound hshown
  obtain ⟨-, v, hv, hhit⟩ := nextHit_of_filling hsound hshown
  refine ⟨k, hk, ?_⟩
  have hnext : nextHit source.runtime [] ((gs ++ g :: hs).flatMap Segment.text) j =
      (.ok (some ⟨gs.flatMap Segment.text, v, hs.flatMap Segment.text⟩), k) := by
    rw [List.flatMap_append, List.flatMap_cons, hskip, hhit, List.append_nil, List.reverse_reverse]
  have hdisplay : display v k = (.ok (String.ofList shown), k) := by
    unfold display
    rw [hv]
    rfl
  conv_lhs => unfold fillExpressions
  rw [bind_of_ok hnext]
  dsimp only
  rw [bind_of_ok hdisplay, String.toList_ofList]
  simp [Segment.text]

/-- With passes enough the loop fills every span that has a value. -/
theorem fillExpressions_eq (hg : ∀ g ∈ gs, g.Sound source.runtime j.state)
    (hpasses : fillings source.runtime j.state gs ≤ passes) :
    ∃ k : Journal, k.state = j.state ∧
      fillExpressions source template passes (gs.flatMap Segment.text) j =
        (.ok (gs.flatMap (·.filled source.runtime j.state)), k) := by
  induction passes generalizing gs j with
  | zero =>
    refine fillExpressions_of_none hg fun g hgs ↦ ?_
    have h := List.countP_eq_zero.1 (Nat.le_zero.1 hpasses) g hgs
    simpa using h
  | succ passes ih =>
    cases hfind : gs.find? fun g ↦ (g.filling? source.runtime j.state).isSome with
    | none =>
      refine fillExpressions_of_none hg fun g hgs ↦ ?_
      have h := List.find?_eq_none.1 hfind g hgs
      simpa using h
    | some g =>
      obtain ⟨hsome, pre, hs, rfl, hpre⟩ := List.find?_eq_some_iff_append.1 hfind
      obtain ⟨shown, hshown⟩ := Option.isSome_iff_exists.1 hsome
      have hf : ∀ g ∈ pre, g.filling? source.runtime j.state = none := fun g hgs ↦ by
        simpa using hpre g hgs
      have hsound : g.Sound source.runtime j.state := hg g (by simp)
      have hplain : Plain shown := (nextHit_of_filling hsound hshown).1
      obtain ⟨k, hk, hpass⟩ :=
        fillExpressions_of_some (List.forall_mem_append.1 hg).1 hf hsound hshown
      -- The pass leaves one filling fewer, and the filled text as it was.
      rw [fillings_replace hshown, ← hk] at hpasses
      have hnext := sound_replace hg hplain
      rw [← hk] at hnext
      obtain ⟨l, hl, hrest⟩ := ih hnext (Nat.le_of_succ_le_succ hpasses)
      refine ⟨l, hl.trans hk, ?_⟩
      rw [hpass, hrest, hk, flatMap_filled_replace hshown]

end

theorem pieces_of_no_opening {opening text : List Char} (h : ¬ opening <:+: text) :
    pieces opening text = text.map .char := by
  fun_induction pieces opening text with
  | case1 => rfl
  | case2 c s name rest hp =>
    refine absurd (List.IsPrefix.isInfix ?_) h
    unfold placeholder? at hp
    split at hp
    · next hfront => exact List.isPrefixOf_iff_prefix.1 hfront
    · cases hp
  | case3 c s hp ih =>
    rw [ih fun hs ↦ h (hs.trans (List.suffix_cons c s).isInfix), List.map_cons]

theorem fillPieces_of_chars {opening text : List Char}
    {value? : String → Act Journal (Option String)} (j : Journal) :
    fillPieces opening value? (text.map .char) j = (.ok text, j) := by
  induction text with
  | nil => rfl
  | cons c text ih =>
    rw [List.map_cons, fillPieces, bind_of_ok ih]
    rfl

theorem fillVariables_of_no_opening {text : List Char} (h : ¬ ['$', '\x7b'] <:+: text)
    (j : Journal) : fillVariables text j = (.ok text, j) := by
  have hopening : ¬ variableOpening <:+: text := fun hi ↦
    h (List.IsInfix.trans (List.IsPrefix.isInfix (by decide)) hi)
  unfold fillVariables
  rw [pieces_of_no_opening hopening, fillPieces_of_chars]

theorem fillSecrets_of_no_opening {text : List Char} (h : ¬ ['$', '\x7b'] <:+: text)
    (secret : String → Option String) (j : Journal) :
    fillSecrets secret text j = (.ok text, j) := by
  have hfront : ∀ opening ∈ secretOpenings, ['$', '\x7b'] <+: opening := by decide
  have hopening : ∀ opening ∈ secretOpenings, ¬ opening <:+: text :=
    fun opening ho hi ↦ h ((hfront opening ho).isInfix.trans hi)
  unfold fillSecrets
  generalize secretOpenings = openings at hopening ⊢
  induction openings with
  | nil => rfl
  | cons opening openings ih =>
    obtain ⟨ho, hos⟩ := List.forall_mem_cons.1 hopening
    rw [List.foldlM_cons, pieces_of_no_opening ho, bind_of_ok (fillPieces_of_chars j)]
    exact ih hos

theorem nextHit_of_no_opening {runtime : Expr.Runtime} {text : List Char}
    (h : ¬ ['\x7b', '\x7b'] <:+: text) (before : List Char) :
    nextHit runtime before text = pure none := by
  induction text generalizing before with
  | nil => rfl
  | cons c s ih =>
    have hstep : c ≠ '\x7b' ∨ s.head? ≠ some '\x7b' := by
      by_contra hfront
      rw [not_or, not_ne_iff, not_ne_iff, List.head?_eq_some_iff] at hfront
      obtain ⟨rfl, r, rfl⟩ := hfront
      exact h (List.prefix_append ['\x7b', '\x7b'] r).isInfix
    rw [nextHit_step hstep, ih fun hs ↦ h (hs.trans (List.suffix_cons c s).isInfix)]

/-- A text in which nothing opens is its own interpolation. -/
theorem interpolate_of_no_opening {text : String} (hname : ¬ ['$', '\x7b'] <:+: text.toList)
    (hspan : ¬ ['\x7b', '\x7b'] <:+: text.toList) (source : Source) (j : Journal) :
    interpolate source text j = (.ok text, j) := by
  have hnone : nextHit source.runtime [] text.toList j = (.ok none, j) := by
    rw [nextHit_of_no_opening hspan]
    rfl
  have hfill : fillExpressions source text.toList source.maxPasses text.toList j =
      (.ok text.toList, j) := by
    unfold fillExpressions
    rw [bind_of_ok hnone]
    rfl
  unfold interpolate
  rw [bind_of_ok (fillVariables_of_no_opening hname j),
    bind_of_ok (fillSecrets_of_no_opening hname source.secret j), map_of_ok hfill,
    String.ofList_toList]

/-- A template is cut into literal texts without braces and spans of readable expressions, and has
no opening of a variable or a secret. If no more spans have values than may be filled, and those are
shown without braces, then interpolation answers the template with each span of a value filled and
the others as they are. -/
theorem interpolate_segments (source : Source) (gs : List Segment) (j : Journal)
    (hg : ∀ g ∈ gs, g.Sound source.runtime j.state)
    (hopening : ¬ ['$', '\x7b'] <:+: gs.flatMap Segment.text)
    (hpasses : fillings source.runtime j.state gs ≤ source.maxPasses) :
    (interpolate source (String.ofList (gs.flatMap Segment.text)) j).1 =
      .ok (String.ofList (gs.flatMap (·.filled source.runtime j.state))) := by
  obtain ⟨k, -, hfill⟩ :=
    @fillExpressions_eq source (gs.flatMap Segment.text) source.maxPasses j gs hg hpasses
  unfold interpolate
  rw [String.toList_ofList, bind_of_ok (fillVariables_of_no_opening hopening j),
    bind_of_ok (fillSecrets_of_no_opening hopening source.secret j), map_of_ok hfill]

/-- A template with a span that has a value, a span next to the braces of an object, and a span that
fails. -/
def greeting : List Segment :=
  [.literal "Dear ".toList, .span " user.name ".toList, .literal ": ".toList,
    .span "\x7ba: 7\x7d.a".toList, .span " nope(1) ".toList, .literal "!".toList]

def lobby : Journal := { state := ⟨[(.str "user", .mapping 1 [(.str "name", .str "Ada")])], 2⟩ }

theorem sound_greeting : ∀ g ∈ greeting, g.Sound .standard lobby.state := by
  have hname : Readable "user.name" :=
    ⟨.member (.name "user") "name",
      [⟨.identifier "user", 0⟩, ⟨.mark .dot, 4⟩, ⟨.identifier "name", 5⟩],
      by cbv, by cbv, by simp, rfl⟩
  have hobject : Readable "\x7ba: 7\x7d.a" :=
    ⟨.member (.object [("a", .literal (.int 7))]) "a",
      [⟨.mark .openBrace, 0⟩, ⟨.identifier "a", 1⟩, ⟨.mark .colon, 2⟩, ⟨.number "7", 4⟩,
        ⟨.mark .closeBrace, 5⟩, ⟨.mark .dot, 6⟩, ⟨.identifier "a", 7⟩],
      by cbv, by cbv, by simp, rfl⟩
  have hcall : Readable "nope(1)" :=
    ⟨.call "nope" [.literal (.int 1)],
      [⟨.identifier "nope", 0⟩, ⟨.mark .openParen, 4⟩, ⟨.number "1", 5⟩, ⟨.mark .closeParen, 6⟩],
      by cbv, by cbv, by simp, rfl⟩
  intro g hg
  simp only [greeting, List.mem_cons, List.not_mem_nil, or_false] at hg
  rcases hg with rfl | rfl | rfl | rfl | rfl | rfl
  · exact show Plain _ by decide
  · refine Segment.sound_span (by cbv) hname (settles_of_ok (v := .str "Ada") (by cbv) rfl ?_)
    decide
  · exact show Plain _ by decide
  · refine Segment.sound_span (by cbv) hobject (settles_of_ok (v := .int 7) (by cbv) (by cbv) ?_)
    decide
  · refine Segment.sound_span (by cbv) hcall
      (settles_of_error (e := .eval (.unknownFunction "nope") "nope(1)") (by cbv) ?_)
    simp
  · exact show Plain _ by decide

theorem interpolate_greeting :
    (∀ g ∈ greeting, g.Sound .standard lobby.state) ∧
    ¬ ['$', '\x7b'] <:+: greeting.flatMap Segment.text ∧
    fillings .standard lobby.state greeting ≤ 2 ∧
    (interpolate ⟨fun _ ↦ none, 2, .standard⟩ (String.ofList (greeting.flatMap Segment.text))
      lobby).1 = .ok "Dear Ada: 7\x7b\x7b nope(1) \x7d\x7d!" := by
  have hdollar : '$' ∉ greeting.flatMap Segment.text := by decide
  have hopening : ¬ ['$', '\x7b'] <:+: greeting.flatMap Segment.text :=
    fun h ↦ hdollar (h.subset List.mem_cons_self)
  have hpasses : fillings .standard lobby.state greeting ≤ 2 := by cbv
  have hfilled : String.ofList (greeting.flatMap (·.filled .standard lobby.state)) =
      "Dear Ada: 7\x7b\x7b nope(1) \x7d\x7d!" := by cbv
  refine ⟨sound_greeting, hopening, hpasses, ?_⟩
  rw [← hfilled]
  exact interpolate_segments ⟨fun _ ↦ none, 2, .standard⟩ greeting lobby sound_greeting hopening
    hpasses

end Flowgraph.Template
