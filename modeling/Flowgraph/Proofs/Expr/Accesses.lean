import Flowgraph.Proofs.Expr.Nesting
import Flowgraph.Proofs.Json.RoundTrip
import Flowgraph.Proofs.Value.Path

namespace Flowgraph

namespace Text

variable {c : Char}

theorem contains_of_isAsciiDigit (h : isAsciiDigit c = true) :
    CharRange.contains ⟨48, 57, 1⟩ c.toNat = true := by
  obtain ⟨hlow, hhigh⟩ := Expr.isAsciiDigit_iff.1 h
  simp [CharRange.contains, hlow, hhigh, Nat.mod_one]

theorem isDigit_of_isAsciiDigit (h : isAsciiDigit c = true) : isDigit c = true := by
  have hdecimal : isDecimal c = true :=
    List.any_eq_true.2 ⟨_, List.mem_cons_self, contains_of_isAsciiDigit h⟩
  rw [isDigit, hdecimal, Bool.true_or]

theorem decimalValue?_of_isAsciiDigit (h : isAsciiDigit c = true) :
    decimalValue? c = some (c.toNat - '0'.toNat) := by
  obtain ⟨hlow, hhigh⟩ := Expr.isAsciiDigit_iff.1 h
  have hlt : c.toNat - '0'.toNat < 10 := Nat.lt_of_le_of_lt (Nat.sub_le_sub_right hhigh _) (by decide)
  have hfind : decimalRanges.find? (·.contains c.toNat) = some ⟨48, 57, 1⟩ :=
    List.find?_cons_of_pos (contains_of_isAsciiDigit h)
  rw [decimalValue?, hfind, Option.map_some]
  exact congrArg some (Nat.mod_eq_of_lt hlt)

/-- The digits that are not ASCII come after the letters that are. -/
theorem isDigit_of_isNameStart (h : Expr.isNameStart c = true) : isDigit c = false := by
  have houtside : ∀ r ∈ decimalRanges ++ digitRanges, r.last < 65 ∨ 122 < r.first := by decide
  have hc := Expr.toNat_of_isNameStart h
  rw [Bool.eq_false_iff]
  intro hdigit
  rw [isDigit, isDecimal, inRanges, inRanges, ← List.any_append, List.any_eq_true] at hdigit
  obtain ⟨r, hr, hcontains⟩ := hdigit
  simp only [CharRange.contains, Bool.and_eq_true, decide_eq_true_eq] at hcontains
  have hrange := houtside r hr
  omega

end Text

namespace Value

theorem isPosition_toDigits (i : ℕ) : IsPosition (Nat.toDigits 10 i) :=
  ⟨Nat.toDigits_ne_nil, List.all_eq_true.2 fun _ hc ↦
    Text.isDigit_of_isAsciiDigit (Expr.isAsciiDigit_of_mem_toDigits hc)⟩

theorem mapM_decimalValue? {ds : List Char} (h : ∀ c ∈ ds, Text.isAsciiDigit c = true) :
    ds.mapM Text.decimalValue? = some (ds.map fun c ↦ c.toNat - '0'.toNat) := by
  induction ds with
  | nil => rfl
  | cons c ds ih =>
    obtain ⟨hc, hds⟩ := List.forall_mem_cons.1 h
    rw [List.mapM_cons, Text.decimalValue?_of_isAsciiDigit hc, ih hds]
    rfl

theorem segmentIndex_toDigits {i : ℕ} (h : i < 10 ^ Number.longestInteger) :
    segmentIndex (Nat.toDigits 10 i) = .ok i := by
  have hvalues := mapM_decimalValue? fun c hc ↦ Expr.isAsciiDigit_of_mem_toDigits (n := i) hc
  have hlen : ¬ Number.longestInteger < (Nat.toDigits 10 i).length :=
    Nat.not_lt.2 ((Nat.length_toDigits_le_iff (by decide) (by decide)).2 h)
  have hfold : ((Nat.toDigits 10 i).map fun c ↦ c.toNat - '0'.toNat).foldl (10 * · + ·) 0 = i := by
    rw [List.foldl_map]
    exact Nat.ofDigitChars_toDigits (by decide) (by decide)
  rw [segmentIndex, hvalues]
  simp only [List.length_map, if_neg hlen, hfold]

end Value

namespace Expr

/-- An access to a part of a value: to a member by its name, to an item by its number. -/
inductive Access where
  | member (name : String)
  | item (i : ℕ)

namespace Access

def segment : Access → List Char
  | member n => n.toList
  | item i => Nat.toDigits 10 i

def written : Access → List Char
  | member n => '.' :: n.toList
  | item i => '[' :: (Nat.toDigits 10 i ++ [']'])

def lexemes : Access → List Lexeme
  | member n => [.mark .dot, .identifier n]
  | item i => [.mark .openBracket, .number (String.ofList (Nat.toDigits 10 i)), .mark .closeBracket]

def on (e : Expr) : Access → Expr
  | member n => .member e n
  | item i => .index e (.literal (.int i))

def IsProper : Access → Prop
  | member n => IsName n
  | item i => i < 10 ^ Number.longestInteger

/-- What lists and texts have of their own, without having it as a part. -/
inductive IsOwn : Value → Access → Prop where
  | first (mark : ℕ) (vs : List Value) : IsOwn (.list mark vs) (.member "first")
  | last (mark : ℕ) (vs : List Value) : IsOwn (.list mark vs) (.member "last")
  | length (mark : ℕ) (vs : List Value) : IsOwn (.list mark vs) (.member "length")
  | textLength (s : String) : IsOwn (.str s) (.member "length")

def part (v : Value) : Access → Value
  | member n => if v.isNullish then .undefined else memberOf v n
  | item i =>
    match v with
    | .list _ vs => vs.getD i .undefined
    | .mapping _ es => Entries.get es (.str (String.ofList (Nat.toDigits 10 i)))
    | _ => .undefined

end Access

def dotted (root : String) (as : List Access) : String :=
  String.ofList (['.'].intercalate (root.toList :: as.map Access.segment))

def accessText (root : String) (as : List Access) : String :=
  String.ofList (root.toList ++ as.flatMap Access.written)

variable {v : Value} {a : Access} {as : List Access} {root : String}

theorem IsName.toList_eq (h : IsName root) : ∃ c w, root.toList = c :: w ∧ isNameStart c = true ∧
    ∀ d ∈ w, isNameChar d = true := by
  obtain ⟨⟨c, w, rfl, hc, hw⟩, -⟩ := h
  exact ⟨c, w, String.toList_ofList, hc, hw⟩

theorem IsName.isNameChar_of_mem (h : IsName root) : ∀ c ∈ root.toList, isNameChar c = true := by
  obtain ⟨c, w, hroot, hc, hw⟩ := h.toList_eq
  rw [hroot]
  exact List.forall_mem_cons.2 ⟨isNameChar_of_isNameStart hc, hw⟩

theorem Access.IsProper.isNameChar_of_mem (h : a.IsProper) :
    ∀ c ∈ a.segment, isNameChar c = true := by
  cases a with
  | member n => exact IsName.isNameChar_of_mem h
  | item i => exact fun c hc ↦ isNameChar_of_isAsciiDigit (isAsciiDigit_of_mem_toDigits hc)

theorem splitAt_dotted (hroot : IsName root) (has : ∀ a ∈ as, a.IsProper) :
    Text.splitAt '.' (dotted root as).toList = root.toList :: as.map Access.segment := by
  have hpoint : ∀ cs : List Char, (∀ c ∈ cs, isNameChar c = true) → '.' ∉ cs := fun cs hcs hmem ↦
    absurd (hcs '.' hmem) (by decide)
  rw [dotted, String.toList_ofList]
  refine Text.splitAt_intercalate (List.cons_ne_nil _ _) (List.forall_mem_cons.2 ⟨?_, ?_⟩)
  · exact hpoint _ hroot.isNameChar_of_mem
  · exact List.forall_mem_map.2 fun a ha ↦ hpoint _ (has a ha).isNameChar_of_mem

theorem getPath_dotted (s : State) (hroot : IsName root) (has : ∀ a ∈ as, a.IsProper) :
    s.toValue.getPath (dotted root as) = (s.get root).walk (as.map Access.segment) := by
  have hstep : s.toValue.step root.toList = .ok (s.get root) := by
    rw [State.toValue, Value.step, String.ofList_toList]
    rfl
  rw [Value.getPath_eq_walk, splitAt_dotted hroot has, Value.walk_cons_of_step hstep]

theorem not_isPosition_of_isName (h : IsName root) : ¬ Value.IsPosition root.toList := by
  obtain ⟨c, w, hroot, hc, -⟩ := h.toList_eq
  rintro ⟨-, hdigits⟩
  rw [hroot, List.all_cons, Text.isDigit_of_isNameStart hc] at hdigits
  cases hdigits

/-- A step of a path comes to the same as the access, save that lists and texts have nothing of
their own. -/
theorem step_segment (h : a.IsProper) :
    (a.IsOwn v → v.step a.segment = .ok .undefined) ∧
      (¬ a.IsOwn v → v.step a.segment = .ok (a.part v)) := by
  cases a with
  | member n =>
    have hposition : ¬ Value.IsPosition n.toList := not_isPosition_of_isName h
    have hlist : ∀ mark vs, (Value.list mark vs).step n.toList = .ok .undefined := by
      intro mark vs
      rcases hstep : (Value.list mark vs).step n.toList with f | w
      · obtain ⟨_, _, -, h, -⟩ := Value.step_eq_error.1 hstep
        exact absurd h hposition
      · rcases Value.goes_of_step hstep with hgoes | rfl
        · cases hgoes
          contradiction
        · rfl
    constructor
    · rintro (_ | _ | _ | _) <;> first | exact hlist _ _ | rfl
    · intro hown
      cases v with
      | list mark vs =>
        have hmember : memberOf (.list mark vs) n = .undefined := by
          simp only [memberOf]
          split
          · exact absurd (.first mark vs) hown
          · exact absurd (.last mark vs) hown
          · exact absurd (.length mark vs) hown
          · rfl
        rw [Access.segment, hlist, Access.part, hmember, ite_self]
      | str s =>
        have hmember : memberOf (.str s) n = .undefined := by
          have hlength : n ≠ "length" := by
            rintro rfl
            exact hown (.textLength s)
          simp [memberOf, hlength]
        rw [Access.part, hmember, ite_self]
        rfl
      | mapping mark es => simp [Value.step, Access.segment, Access.part, Value.isNullish, memberOf]
      | _ => rfl
  | item i =>
    constructor
    · intro hown
      cases hown
    · intro _
      cases v with
      | list mark vs =>
        obtain ⟨hne, hdigits⟩ := Value.isPosition_toDigits i
        simp [Value.step, Access.segment, Access.part, hne, hdigits, Value.segmentIndex_toDigits h,
          Functor.map, Except.map]
      | _ => rfl

/-- On the way an access asks for something that a list or a text has of its own. -/
def MeetsOwn (v : Value) (as : List Access) : Prop :=
  ∃ before a after w, as = before ++ a :: after ∧
    v.walk (before.map Access.segment) = .ok w ∧ a.IsOwn w

theorem meetsOwn_cons (ha : a.IsProper) (hown : ¬ a.IsOwn v) :
    MeetsOwn v (a :: as) ↔ MeetsOwn (a.part v) as := by
  have hstep := (step_segment ha).2 hown
  constructor
  · rintro ⟨_ | ⟨b, before⟩, a', after, w, has, hw, hown'⟩
    · obtain ⟨rfl, rfl⟩ := List.cons.inj has
      cases hw
      contradiction
    · obtain ⟨rfl, rfl⟩ := List.cons.inj has
      rw [List.map_cons, Value.walk_cons_of_step hstep] at hw
      exact ⟨before, a', after, w, rfl, hw, hown'⟩
  · rintro ⟨before, a', after, w, rfl, hw, hown'⟩
    refine ⟨a :: before, a', after, w, rfl, ?_, hown'⟩
    rw [List.map_cons, Value.walk_cons_of_step hstep, hw]

theorem walk_segments (has : ∀ a ∈ as, a.IsProper) :
    (MeetsOwn v as → v.walk (as.map Access.segment) = .ok .undefined) ∧
      (¬ MeetsOwn v as → v.walk (as.map Access.segment) = .ok (as.foldl Access.part v)) := by
  induction as generalizing v with
  | nil =>
    refine ⟨?_, fun _ ↦ rfl⟩
    rintro ⟨_ | ⟨b, before⟩, _, _, _, h, -⟩ <;> cases h
  | cons a as ih =>
    obtain ⟨ha, has⟩ := List.forall_mem_cons.1 has
    rw [List.map_cons]
    by_cases hown : a.IsOwn v
    · rw [Value.walk_cons_of_step ((step_segment ha).1 hown), Value.walk_undefined]
      exact ⟨fun _ ↦ rfl, fun h ↦ absurd ⟨[], a, as, v, rfl, rfl, hown⟩ h⟩
    · rw [Value.walk_cons_of_step ((step_segment ha).2 hown), meetsOwn_cons ha hown]
      exact ih has

/-- The expression that makes one access after the other on what a name stands for. -/
def chain (root : String) (as : List Access) : Expr := as.foldl Access.on (.name root)

theorem height_on (e : Expr) (a : Access) (he : 0 < e.height) :
    (a.on e).height = e.height + 1 := by
  cases a with
  | member n => rfl
  | item i =>
    have hmax : max e.height 1 = e.height := Nat.max_eq_left he
    simp only [Access.on, height, hmax]

theorem height_foldl_on (e : Expr) (he : 0 < e.height) :
    (as.foldl Access.on e).height = e.height + as.length := by
  induction as generalizing e with
  | nil => rfl
  | cons a as ih =>
    have hheight := height_on e a he
    rw [List.foldl_cons, ih _ (by omega), hheight, List.length_cons]
    omega

theorem display_numeral {i : ℕ} (h : i < 10 ^ Number.longestInteger) :
    (Value.int i).display = .ok (String.ofList (Nat.toDigits 10 i)) := by
  have hwrite := Json.writeInt_eq (i := i) h
  have hnumeral : Json.numeral i = Nat.toDigits 10 i := if_neg (Int.not_lt.2 (Int.natCast_nonneg i))
  rw [Value.display, hwrite, hnumeral]
  rfl

theorem indexOf_numeral {i : ℕ} (h : i < 10 ^ Number.longestInteger) (v : Value) :
    indexOf v (.int i) = .ok (Access.part v (.item i)) := by
  cases v with
  | list mark vs => simp [indexOf, position?, Access.part]
  | mapping mark es => simp [indexOf, display_numeral h, Access.part, Except.map, Except.mapError]
  | _ => rfl

theorem eval_on {methods : Methods} {s : State} {e : Expr} (ha : a.IsProper)
    (he : eval methods s e = .pure v) : eval methods s (a.on e) = .pure (a.part v) := by
  cases a with
  | member n =>
    rw [Access.on, eval, he]
    rfl
  | item i =>
    rw [Access.on, eval, he]
    simp only [Outcome.andThen, Outcome.pure, eval, Literal.value, Value.edits_nil,
      indexOf_numeral ha]
    cases v <;> rfl

theorem eval_foldl_on {methods : Methods} {s : State} {e : Expr} (has : ∀ a ∈ as, a.IsProper)
    (he : eval methods s e = .pure v) :
    eval methods s (as.foldl Access.on e) = .pure (as.foldl Access.part v) := by
  induction as generalizing e v with
  | nil => exact he
  | cons a as ih =>
    obtain ⟨ha, has⟩ := List.forall_mem_cons.1 has
    exact ih has (eval_on ha he)

theorem derives_foldl_on {ls : List Lexeme} {e : Expr} (has : ∀ a ∈ as, a.IsProper)
    (h : Derives ls e) : Derives (ls ++ as.flatMap Access.lexemes) (as.foldl Access.on e) := by
  induction as generalizing ls e with
  | nil => rwa [List.flatMap_nil, List.append_nil]
  | cons a as ih =>
    obtain ⟨ha, has⟩ := List.forall_mem_cons.1 has
    rw [List.flatMap_cons, ← List.append_assoc]
    refine ih has ?_
    cases a with
    | member n => exact h.member
    | item i => exact h.index (.primary (.number (numberValue?_numeral ha)))

theorem isNameChar_of_head?_written {c : Char} (hc : c ∈ (as.flatMap Access.written).head?) :
    isNameChar c = false := by
  cases as with
  | nil => cases hc
  | cons a as => cases a <;> cases hc <;> decide

theorem splits_written (has : ∀ a ∈ as, a.IsProper) :
    Splits (as.flatMap Access.written) (as.flatMap Access.lexemes) := by
  induction as with
  | nil => exact .nil
  | cons a as ih =>
    obtain ⟨ha, hrest⟩ := List.forall_mem_cons.1 has
    have hends : ∀ n, (Lexeme.identifier n).EndsBefore (as.flatMap Access.written) :=
      fun _ _ hc ↦ isNameChar_of_head?_written hc
    cases a with
    | member n =>
      exact .cons (w := ['.']) (.mark .dot) trivial (.cons (IsName.spelling ha) (hends n) (ih hrest))
    | item i =>
      have hclose : Splits (']' :: as.flatMap Access.written)
          (.mark .closeBracket :: as.flatMap Access.lexemes) :=
        .cons (w := [']']) (.mark .closeBracket) trivial (ih hrest)
      have hnumber : ∀ ds, (Lexeme.number ds).EndsBefore (']' :: as.flatMap Access.written) := by
        intro ds c hc
        cases hc
        decide
      rw [List.flatMap_cons, List.flatMap_cons, Access.written, List.cons_append,
        List.append_assoc]
      exact .cons (w := ['[']) (.mark .openBracket) trivial
        (.cons (spelling_numeral i) (hnumber _) hclose)

theorem splits_accessText (hroot : IsName root) (has : ∀ a ∈ as, a.IsProper) :
    Splits (root.toList ++ as.flatMap Access.written)
      (.identifier root :: as.flatMap Access.lexemes) :=
  .cons hroot.spelling (fun _ hc ↦ isNameChar_of_head?_written hc) (splits_written has)

theorem derives_chain (has : ∀ a ∈ as, a.IsProper) :
    Derives (.identifier root :: as.flatMap Access.lexemes) (chain root as) :=
  derives_foldl_on has (.primary (.identifier root))

def bracketDepth : List Access → ℕ
  | [] => 0
  | .member _ :: as => bracketDepth as
  | .item _ :: _ => 1

theorem bracketDepth_le_one (as : List Access) : bracketDepth as ≤ 1 := by
  induction as with
  | nil => exact Nat.zero_le 1
  | cons a as ih =>
    cases a with
    | member n => exact ih
    | item i => exact le_rfl

theorem depths_lexemes {ts : List Token} {greatest : ℕ}
    (h : ts.map (·.lexeme) = as.flatMap Access.lexemes) :
    depths 0 greatest ts = max greatest (bracketDepth as) := by
  induction as generalizing ts greatest with
  | nil =>
    obtain rfl := List.map_eq_nil_iff.1 h
    exact (Nat.max_zero greatest).symm
  | cons a as ih =>
    cases a with
    | member n =>
      obtain ⟨t, ts, rfl, ht, hts⟩ := List.map_eq_cons_iff.1 h
      obtain ⟨u, us, rfl, hu, hus⟩ := List.map_eq_cons_iff.1 hts
      simp only [depths, ht, hu]
      exact ih hus
    | item i =>
      obtain ⟨t, ts, rfl, ht, hts⟩ := List.map_eq_cons_iff.1 h
      obtain ⟨u, us, rfl, hu, hus⟩ := List.map_eq_cons_iff.1 hts
      obtain ⟨w, ws, rfl, hw, hws⟩ := List.map_eq_cons_iff.1 hus
      have hle := bracketDepth_le_one as
      simp only [depths, ht, hu, hw, ih hws, bracketDepth]
      omega

theorem nesting_accessText {ts : List Token}
    (h : ts.map (·.lexeme) = .identifier root :: as.flatMap Access.lexemes) :
    nesting ts = bracketDepth as := by
  obtain ⟨t, ts, rfl, ht, hts⟩ := List.map_eq_cons_iff.1 h
  simp only [nesting, depths, ht, depths_lexemes hts, Nat.zero_max]

def Exceeds (runtime : Runtime) (as : List Access) : Prop :=
  runtime.height < as.length + 1 ∨ runtime.brackets < bracketDepth as

theorem evalText_accessText (runtime : Runtime) (s : State) (hroot : IsName root)
    (has : ∀ a ∈ as, a.IsProper) :
    (Exceeds runtime as → evalText runtime s (accessText root as) = (.error .tooDeep, [])) ∧
      (¬ Exceeds runtime as →
        evalText runtime s (accessText root as) = (.ok (as.foldl Access.part (s.get root)), [])) := by
  obtain ⟨ts, hts, hlexemes⟩ := (splits_accessText hroot has).scanFrom 0
  have hscan : Token.scan (accessText root as) = .ok ts := by
    rw [Token.scan, accessText, String.toList_ofList, hts]
  have hderives : Derives (ts.map (·.lexeme)) (chain root as) := by
    rw [hlexemes]
    exact derives_chain has
  have hparse := (parse_of_scan hscan).trans (parseTokens_of_derives hderives rfl)
  have hheight : (chain root as).height = as.length + 1 := by
    rw [chain, height_foldl_on (.name root) Nat.one_pos, height, Nat.add_comm]
  have heval : eval runtime.methods s (chain root as) =
      .pure (as.foldl Access.part (s.get root)) :=
    eval_foldl_on has rfl
  rw [evalText, parseWithin_of_parse hscan hparse, nesting_accessText hlexemes]
  by_cases hbrackets : runtime.brackets < bracketDepth as
  · simp [hbrackets, Exceeds]
  · by_cases htall : runtime.height < as.length + 1
    · simp [hbrackets, htall, hheight, Exceeds]
    · simp [hbrackets, htall, hheight, heval, Exceeds, Outcome.pure]

/-- A path of names and numbers that can be written always has a value, and the expression for the
same accesses has the same one, unless it is nested beyond the limits. Where an access asks for what
a list or a text has of its own, the path has the value `undefined` and the expression has some
value. -/
theorem getPath_dotted_eq_evalText (s : State) (runtime : Runtime) (hroot : IsName root)
    (has : ∀ a ∈ as, a.IsProper) :
    ∃ v, s.toValue.getPath (dotted root as) = .ok v ∧
      (MeetsOwn (s.get root) as → v = .undefined) ∧
      (Exceeds runtime as → evalText runtime s (accessText root as) = (.error .tooDeep, [])) ∧
      (¬ Exceeds runtime as → ∃ w, evalText runtime s (accessText root as) = (.ok w, []) ∧
        (¬ MeetsOwn (s.get root) as → w = v)) := by
  obtain ⟨hdeep, hvalue⟩ := evalText_accessText runtime s hroot has
  obtain ⟨hown, hpart⟩ := walk_segments (v := s.get root) has
  rw [getPath_dotted s hroot has]
  by_cases hmeets : MeetsOwn (s.get root) as
  · exact ⟨_, hown hmeets, fun _ ↦ rfl, hdeep, fun h ↦ ⟨_, hvalue h, (absurd hmeets ·)⟩⟩
  · exact ⟨_, hpart hmeets, (absurd · hmeets), hdeep, fun h ↦ ⟨_, hvalue h, fun _ ↦ rfl⟩⟩

def tagged : State :=
  ⟨[(.str "user", .mapping 1 [(.str "tags", .list 2 [.str "a", .str "b"])])], 3⟩

def secondTag : List Access := [.member "tags", .item 1]

theorem getPath_dotted_eq_evalText_tagged :
    (IsName "user" ∧ ∀ a ∈ secondTag, a.IsProper) ∧
      dotted "user" secondTag = "user.tags.1" ∧ accessText "user" secondTag = "user.tags[1]" ∧
      tagged.toValue.getPath "user.tags.1" = .ok (.str "b") ∧
      evalText .standard tagged "user.tags[1]" = (.ok (.str "b"), []) := by
  have hone : 1 < 10 ^ Number.longestInteger := Nat.one_lt_pow (by decide) (by decide)
  have htags : IsName "tags" := isName_of_all (c := 't') (w := ['a', 'g', 's']) rfl rfl rfl
  have hroot : IsName "user" := isName_of_all (c := 'u') (w := ['s', 'e', 'r']) rfl rfl rfl
  have hproper : ∀ a ∈ secondTag, a.IsProper :=
    List.forall_mem_cons.2 ⟨htags, List.forall_mem_singleton.2 hone⟩
  have hdotted : dotted "user" secondTag = "user.tags.1" := by decide
  have htext : accessText "user" secondTag = "user.tags[1]" := by decide
  have hb : tagged.toValue.getPath "user.tags.1" = .ok (.str "b") := by cbv
  obtain ⟨v, hpath, hown, -, heval⟩ := getPath_dotted_eq_evalText tagged .standard hroot hproper
  rw [hdotted, hb] at hpath
  cases hpath
  have hshallow : ¬ Exceeds .standard secondTag := by
    simp [Exceeds, Runtime.standard, secondTag, bracketDepth]
  obtain ⟨w, hw, hsame⟩ := heval hshallow
  have hpart : ¬ MeetsOwn (tagged.get "user") secondTag := by
    intro hmeets
    cases hown hmeets
  obtain rfl := hsame hpart
  rw [htext] at hw
  exact ⟨⟨hroot, hproper⟩, hdotted, htext, hb, hw⟩

theorem not_meetsOwn_undefined (as : List Access) : ¬ MeetsOwn .undefined as := by
  rintro ⟨before, a, after, w, -, hw, hown⟩
  rw [Value.walk_undefined] at hw
  cases hw
  cases hown

def descent : List Access := List.replicate 3000 (.member "a")

theorem tooDeep_evalText_descent :
    IsName "a" ∧ (∀ a ∈ descent, a.IsProper) ∧ ¬ MeetsOwn ((State.mk [] 1).get "a") descent ∧
      (State.mk [] 1).toValue.getPath (dotted "a" descent) = .ok .undefined ∧
      evalText .standard (State.mk [] 1) (accessText "a" descent) = (.error .tooDeep, []) := by
  have hroot : IsName "a" := isName_of_all (c := 'a') (w := []) rfl rfl rfl
  have hproper : ∀ a ∈ descent, a.IsProper := fun a ha ↦ by
    rw [List.eq_of_mem_replicate ha]
    exact hroot
  have hmissing : (State.mk [] 1).get "a" = .undefined := rfl
  have hexceeds : Exceeds .standard descent := by
    rw [Exceeds, descent, List.length_replicate]
    exact .inl (by decide)
  refine ⟨hroot, hproper, ?_, ?_, (evalText_accessText _ _ hroot hproper).1 hexceeds⟩
  · rw [hmissing]
    exact not_meetsOwn_undefined descent
  · rw [getPath_dotted _ hroot hproper, hmissing, Value.walk_undefined]

end Expr

end Flowgraph
