import Flowgraph.Proofs.Template.Outcome

namespace Flowgraph.Template

open Act

structure IsName (name : List Char) : Prop where
  start : name.head?.any Expr.isNameStart = true
  chars : ∀ c ∈ name, Expr.isNameChar c = true

/-- A text that is cut at placeholders: of each the text in front of it and its name, and then the
text after the last. -/
structure Cut where
  parts : List (List Char × List Char)
  last : List Char
deriving DecidableEq

namespace Cut

def names (c : Cut) : List String := c.parts.map fun p ↦ String.ofList p.2

def textWith (hole : List Char → List Char) (c : Cut) : List Char :=
  c.parts.flatMap (fun p ↦ p.1 ++ hole p.2) ++ c.last

def text (opening : List Char) (c : Cut) : List Char := c.textWith (holeText opening)

def filled (opening : List Char) (text? : String → Option String) (c : Cut) : List Char :=
  c.textWith fun name ↦
    ((text? (String.ofList name)).map String.toList).getD (holeText opening name)

end Cut

/-- A cut of a text. Whatever placeholder occurs in the text, in whatever place, is one of those
that are cut out. -/
structure IsCut (opening text : List Char) (c : Cut) : Prop where
  text_eq : c.text opening = text
  isName : ∀ p ∈ c.parts, IsName p.2
  complete : ∀ u name v, IsName name → text = u ++ (holeText opening name ++ v) →
    ∃ ps literal qs, c.parts = ps ++ (literal, name) :: qs ∧
      Cut.text opening ⟨ps, literal⟩ = u ∧ Cut.text opening ⟨qs, c.last⟩ = v

section

variable {opening text literal name u v : List Char} {hole : List Char → List Char}
  {ps qs : List (List Char × List Char)} {c d : Cut}

@[simp] theorem Cut.textWith_nil (last : List Char) : Cut.textWith hole ⟨[], last⟩ = last := rfl

@[simp] theorem Cut.textWith_cons (last : List Char) :
    Cut.textWith hole ⟨(literal, name) :: ps, last⟩ =
      literal ++ (hole name ++ Cut.textWith hole ⟨ps, last⟩) := by
  simp [Cut.textWith]

theorem holeText_ne_nil (opening name : List Char) : holeText opening name ≠ [] := by
  simp [holeText]

theorem IsCut.tail {last : List Char} (h : IsCut opening text ⟨(literal, name) :: ps, last⟩) :
    IsCut opening (Cut.text opening ⟨ps, last⟩) ⟨ps, last⟩ where
  text_eq := rfl
  isName p hp := h.isName p (List.mem_cons_of_mem _ hp)
  complete u name' v hname htext := by
    have heq : text = (literal ++ holeText opening name ++ u) ++ (holeText opening name' ++ v) := by
      rw [← h.text_eq, Cut.text, Cut.textWith_cons, ← Cut.text, htext]
      simp only [List.append_assoc]
    obtain ⟨ps', literal', qs, hparts, hu, hv⟩ := h.complete _ _ _ hname heq
    cases ps' with
    | nil =>
      obtain ⟨hp, rfl⟩ := List.cons.inj hparts
      obtain ⟨rfl, rfl⟩ := Prod.mk.inj hp
      rw [Cut.text, Cut.textWith_nil, List.append_assoc, List.self_eq_append_right] at hu
      exact absurd (List.append_eq_nil_iff.1 hu).1 (holeText_ne_nil _ _)
    | cons p ps' =>
      obtain ⟨rfl, rfl⟩ := List.cons.inj hparts
      rw [Cut.text, Cut.textWith_cons, List.append_assoc] at hu
      exact ⟨ps', literal', qs, rfl, List.append_cancel_left (List.append_cancel_left hu), hv⟩

/-- No placeholder begins before the first one that is cut out. -/
theorem IsCut.length_le {last : List Char} (h : IsCut opening text ⟨(literal, name) :: ps, last⟩)
    {name' : List Char} (hname : IsName name') (htext : text = u ++ (holeText opening name' ++ v)) :
    literal.length ≤ u.length := by
  obtain ⟨ps', literal', qs, hparts, rfl, -⟩ := h.complete _ _ _ hname htext
  cases ps' with
  | nil =>
    obtain ⟨hp, -⟩ := List.cons.inj hparts
    exact Nat.le_of_eq (congrArg (fun p ↦ p.1.length) hp)
  | cons p ps' =>
    obtain ⟨rfl, -⟩ := List.cons.inj hparts
    simp [Cut.text]

theorem IsCut.head {last : List Char} (h : IsCut opening text ⟨(literal, name) :: ps, last⟩)
    (hd : IsCut opening text d) : ∃ qs, d.parts = (literal, name) :: qs := by
  have htext : text = literal ++ (holeText opening name ++ Cut.text opening ⟨ps, last⟩) := by
    rw [← h.text_eq, Cut.text, Cut.textWith_cons]
    rfl
  obtain ⟨ps', literal', qs, hparts, hu, -⟩ :=
    hd.complete _ _ _ (h.isName _ List.mem_cons_self) htext
  cases ps' with
  | nil =>
    rw [Cut.text, Cut.textWith_nil] at hu
    exact ⟨qs, hu ▸ hparts⟩
  | cons p ps' =>
    -- What `d` cuts out first would begin before the first that the other cuts out.
    obtain ⟨literal₂, name₂⟩ := p
    rw [Cut.text, Cut.textWith_cons] at hu
    have hname : IsName name₂ := hd.isName (literal₂, name₂) (hparts ▸ List.mem_cons_self)
    rw [← hu, List.append_assoc, List.append_assoc] at htext
    have hle := h.length_le hname htext
    have hpos := List.length_pos_iff.2 (holeText_ne_nil opening name₂)
    rw [← hu] at hle
    simp only [List.length_append] at hle
    omega

theorem IsCut.eq (hc : IsCut opening text c) (hd : IsCut opening text d) : c = d := by
  obtain ⟨ps, last⟩ := c
  induction ps generalizing text d with
  | nil =>
    obtain ⟨_ | ⟨⟨literal, name⟩, qs⟩, last'⟩ := d
    · exact congrArg _ (hc.text_eq.trans hd.text_eq.symm)
    · obtain ⟨_, h⟩ := hd.head hc
      cases h
  | cons p ps ih =>
    obtain ⟨literal, name⟩ := p
    obtain ⟨qs, hqs⟩ := hc.head hd
    obtain ⟨ps', last'⟩ := d
    cases hqs
    have htail : Cut.text opening ⟨ps, last⟩ = Cut.text opening ⟨qs, last'⟩ := by
      have htext := hc.text_eq.trans hd.text_eq.symm
      rw [Cut.text, Cut.text, Cut.textWith_cons, Cut.textWith_cons] at htext
      exact List.append_cancel_left (List.append_cancel_left htext)
    have hrest := hd.tail
    rw [← htail] at hrest
    cases ih hrest hc.tail
    rfl

/-- An opening can be told from anything inside a placeholder by its first character. -/
def IsOpening (opening : List Char) : Prop := ∃ rest, opening = '$' :: rest ∧ '$' ∉ rest

theorem isOpening_of_mem (h : opening ∈ variableOpening :: secretOpenings) : IsOpening opening := by
  simp only [secretOpenings, List.mem_cons, List.not_mem_nil, or_false] at h
  obtain rfl | rfl | rfl := h
  · exact ⟨"\x7bvar.".toList, rfl, by decide⟩
  · exact ⟨"\x7bsecret.".toList, rfl, by decide⟩
  · exact ⟨"\x7bSECRET.".toList, rfl, by decide⟩

theorem placeholder?_eq_some {rest : List Char} : placeholder? opening text = some (name, rest) ↔
    IsName name ∧ text = holeText opening name ++ rest := by
  constructor
  · intro h
    refine ⟨?_, eq_of_placeholder? h⟩
    unfold placeholder? at h
    split_ifs at h
    dsimp only at h
    split at h
    · split_ifs at h with hstart
      cases h
      exact ⟨hstart, fun c hc ↦ List.all_eq_true.1 List.all_takeWhile c hc⟩
    · contradiction
  · rintro ⟨hname, rfl⟩
    have hprefix : opening.isPrefixOf (holeText opening name ++ rest) = true := by
      rw [List.isPrefixOf_iff_prefix, holeText, List.append_assoc, List.append_assoc]
      exact List.prefix_append _ _
    have hdrop : (holeText opening name ++ rest).drop opening.length = name ++ '\x7d' :: rest := by
      rw [holeText, List.append_assoc, List.append_assoc, List.drop_left]
      rfl
    have htake : (name ++ '\x7d' :: rest).takeWhile Expr.isNameChar = name := by
      rw [List.takeWhile_append_of_pos hname.chars,
        List.takeWhile_cons_of_neg (by decide), List.append_nil]
    unfold placeholder?
    rw [if_pos hprefix, hdrop]
    dsimp only
    rw [htake, List.drop_left]
    exact if_pos hname.start

theorem not_mem_tail_holeText (hname : IsName name) (ho : IsOpening opening) :
    ∃ body, holeText opening name = '$' :: body ∧ '$' ∉ body := by
  obtain ⟨rest, rfl, hrest⟩ := ho
  refine ⟨rest ++ name ++ ['\x7d'], rfl, ?_⟩
  have h : '$' ∉ name := fun hmem ↦ absurd (hname.chars _ hmem) (by decide)
  simp [hrest, h]

theorem eq_append_of_holeText {name' rest : List Char} (ho : IsOpening opening)
    (hname : IsName name) (hname' : IsName name') (hu : u ≠ [])
    (h : holeText opening name ++ rest = u ++ (holeText opening name' ++ v)) :
    ∃ w, u = holeText opening name ++ w ∧ rest = w ++ (holeText opening name' ++ v) := by
  obtain h | ⟨w, hw, hrest⟩ := List.append_eq_append_iff.1 h
  · exact h
  cases w with
  | nil => exact ⟨[], by simpa using hw.symm, by simpa using hrest.symm⟩
  | cons c w =>
    obtain ⟨body, hbody, hnot⟩ := not_mem_tail_holeText hname ho
    obtain ⟨body', hbody', -⟩ := not_mem_tail_holeText hname' ho
    obtain ⟨a, u, rfl⟩ := List.exists_cons_of_ne_nil hu
    rw [hbody'] at hrest
    obtain ⟨rfl, -⟩ := List.cons.inj hrest
    rw [hbody] at hw
    obtain ⟨-, rfl⟩ := List.cons.inj hw
    exact absurd (List.mem_append_right u List.mem_cons_self) hnot

namespace Cut

def push (a : Char) : Cut → Cut
  | ⟨[], last⟩ => ⟨[], a :: last⟩
  | ⟨(literal, name) :: ps, last⟩ => ⟨(a :: literal, name) :: ps, last⟩

def ofPieces : List Piece → Cut
  | [] => ⟨[], []⟩
  | .char a :: ps => (ofPieces ps).push a
  | .hole name :: ps => ⟨([], name) :: (ofPieces ps).parts, (ofPieces ps).last⟩

@[simp] theorem textWith_push (a : Char) (c : Cut) :
    (c.push a).textWith hole = a :: c.textWith hole := by
  obtain ⟨_ | ⟨⟨literal, name⟩, ps⟩, last⟩ := c <;> simp [push]

@[simp] theorem names_push (a : Char) (c : Cut) : (c.push a).names = c.names := by
  obtain ⟨_ | ⟨p, ps⟩, last⟩ := c <;> rfl

theorem filled_ofPieces (opening : List Char) (text? : String → Option String) (ps : List Piece) :
    (ofPieces ps).filled opening text? = filledPieces opening text? ps := by
  unfold filled
  induction ps with
  | nil => rfl
  | cons piece ps ih => cases piece <;> simp [ofPieces, filledPieces, ih]

end Cut

theorem isCut_nil : IsCut opening [] ⟨[], []⟩ where
  text_eq := rfl
  isName := List.forall_mem_nil _
  complete u name v _ h := by
    obtain ⟨-, h⟩ := List.append_eq_nil_iff.1 h.symm
    exact absurd (List.append_eq_nil_iff.1 h).1 (holeText_ne_nil _ _)

/-- In front of a character at which no placeholder begins. -/
theorem IsCut.push {a : Char} (hnone : placeholder? opening (a :: text) = none)
    (h : IsCut opening text c) : IsCut opening (a :: text) (c.push a) where
  text_eq := by rw [Cut.text, Cut.textWith_push, ← Cut.text, h.text_eq]
  isName p hp := by
    obtain ⟨_ | ⟨q, ps⟩, last⟩ := c
    · cases hp
    · obtain rfl | hp := List.mem_cons.1 hp
      · exact h.isName q List.mem_cons_self
      · exact h.isName p (List.mem_cons_of_mem _ hp)
  complete u name v hname htext := by
    cases u with
    | nil =>
      rw [placeholder?_eq_some.2 ⟨hname, htext⟩] at hnone
      cases hnone
    | cons b u =>
      obtain ⟨rfl, hrest⟩ := List.cons.inj htext
      obtain ⟨ps, literal, qs, hparts, hu, hv⟩ := h.complete u name v hname hrest
      obtain ⟨parts, last⟩ := c
      cases hparts
      cases ps with
      | nil => exact ⟨[], a :: literal, qs, rfl, congrArg (a :: ·) hu, hv⟩
      | cons p ps => exact ⟨(a :: p.1, p.2) :: ps, literal, qs, rfl, congrArg (a :: ·) hu, hv⟩

theorem IsCut.placeholder (ho : IsOpening opening) (hname : IsName name)
    (h : IsCut opening text c) :
    IsCut opening (holeText opening name ++ text) ⟨([], name) :: c.parts, c.last⟩ where
  text_eq := by
    rw [Cut.text, Cut.textWith_cons, List.nil_append]
    exact congrArg _ h.text_eq
  isName := List.forall_mem_cons.2 ⟨hname, h.isName⟩
  complete u name' v hname' htext := by
    obtain rfl | hu := eq_or_ne u []
    · have hleft : placeholder? opening (holeText opening name ++ text) = some (name, text) :=
        placeholder?_eq_some.2 ⟨hname, rfl⟩
      rw [htext, List.nil_append, placeholder?_eq_some.2 ⟨hname', rfl⟩] at hleft
      cases hleft
      exact ⟨[], [], c.parts, rfl, rfl, h.text_eq⟩
    · obtain ⟨w, rfl, hw⟩ := eq_append_of_holeText ho hname hname' hu htext
      obtain ⟨ps, literal, qs, hparts, rfl, hv⟩ := h.complete _ _ _ hname' hw
      exact ⟨([], name) :: ps, literal, qs, congrArg _ hparts, by simp [Cut.text], hv⟩

theorem isCut_pieces (ho : IsOpening opening) (text : List Char) :
    IsCut opening text (Cut.ofPieces (pieces opening text)) := by
  fun_induction pieces opening text with
  | case1 => exact isCut_nil
  | case2 a s name rest h _ ih =>
    obtain ⟨hname, htext⟩ := placeholder?_eq_some.1 h
    rw [htext]
    exact ih.placeholder ho hname
  | case3 a s h ih => exact ih.push h

theorem existsUnique_isCut (ho : IsOpening opening) (text : List Char) :
    ∃! c, IsCut opening text c :=
  ⟨_, isCut_pieces ho text, fun _ h ↦ h.eq (isCut_pieces ho text)⟩

end

/-- The value of a variable that is known. The marker of what is missing is no value. -/
def varValue? (s : State) (name : String) : Option Value :=
  match s.get "var" with
  | .mapping _ es =>
    match Entries.get? es (.str name) with
    | some .undefined => none
    | v? => v?
  | _ => none

def varText? (s : State) (name : String) : Option String :=
  (varValue? s name).bind fun v ↦ v.display.toOption

def Writable (s : State) (names : List String) : Prop :=
  ∀ name ∈ names, ∀ v, varValue? s name = some v → ∃ t, v.display = .ok t

def lacksVariable (j : Journal) (name : String) : Journal :=
  j.note .warning ("Variable '" ++ name ++ "' not found in variables") [("variable", .str name)]

def lacksSecret (j : Journal) (name : String) : Journal :=
  j.note .warning ("Secret '" ++ name ++ "' not found in environment") [("secret", .str name)]

def warned {α : Type} (known? : String → Option α) (lacks : Journal → String → Journal)
    (names : List String) (j : Journal) : Journal :=
  (names.filter fun name ↦ (known? name).isNone).foldl lacks j

section

variable {α : Type} {s : State} {known? : String → Option α} {lacks : Journal → String → Journal}
  {value? : String → Act Journal (Option String)} {text? : String → Option String}

theorem warned_cons (name : String) (names : List String) (j : Journal) :
    warned known? lacks (name :: names) j =
      warned known? lacks names (if (known? name).isNone then lacks j name else j) := by
  unfold warned
  cases h : known? name <;> simp [h]

/-- In the run state `s` the text of a name is found, or is missing with a warning. -/
def Finds (s : State) (known? : String → Option α) (lacks : Journal → String → Journal)
    (value? : String → Act Journal (Option String)) (text? : String → Option String)
    (name : String) : Prop :=
  ∀ j : Journal, j.state = s →
    value? name j = (.ok (text? name), if (known? name).isNone then lacks j name else j)

theorem state_ite_lacks {j : Journal} {name : String}
    (hlacks : ∀ j name, (lacks j name).state = j.state) (hj : j.state = s) :
    (if (known? name).isNone then lacks j name else j).state = s := by
  split_ifs
  · exact (hlacks j name).trans hj
  · exact hj

theorem fillPieces_of_finds {opening : List Char} {ps : List Piece} {j : Journal}
    (hlacks : ∀ j name, (lacks j name).state = j.state) (hj : j.state = s)
    (h : ∀ name ∈ (Cut.ofPieces ps).names, Finds s known? lacks value? text? name) :
    fillPieces opening value? ps j = (.ok (filledPieces opening text? ps),
      warned known? lacks (Cut.ofPieces ps).names j) := by
  induction ps generalizing j with
  | nil => rfl
  | cons piece ps ih =>
    cases piece with
    | char a =>
      rw [Cut.ofPieces, Cut.names_push] at h ⊢
      rw [fillPieces, bind_of_ok (ih hj h)]
      rfl
    | hole name =>
      obtain ⟨hname, hrest⟩ := List.forall_mem_cons.1 h
      rw [fillPieces, bind_of_ok (hname j hj)]
      dsimp only
      rw [bind_of_ok (ih (state_ite_lacks hlacks hj) hrest)]
      rw [filledPieces]
      refine Prod.ext ?_ (warned_cons _ _ _).symm
      cases text? (String.ofList name) <;> rfl

theorem fillPieces_of_error {opening : List Char} {ps : List Piece} {j : Journal} {f : Fault}
    {names rest : List String} {name : String}
    (hlacks : ∀ j name, (lacks j name).state = j.state) (hj : j.state = s)
    (hnames : (Cut.ofPieces ps).names = names ++ name :: rest)
    (h : ∀ name ∈ names, Finds s known? lacks value? text? name)
    (hfail : ∀ j : Journal, j.state = s → value? name j = (.error f, j)) :
    fillPieces opening value? ps j = (.error f, warned known? lacks names j) := by
  induction ps generalizing names j with
  | nil =>
    exact absurd hnames (by simp [Cut.ofPieces, Cut.names])
  | cons piece ps ih =>
    cases piece with
    | char a =>
      rw [Cut.ofPieces, Cut.names_push] at hnames
      rw [fillPieces, bind_of_error (ih hj hnames h)]
    | hole found =>
      rw [fillPieces]
      cases names with
      | nil =>
        obtain ⟨rfl, -⟩ := List.cons.inj hnames
        exact bind_of_error (hfail j hj)
      | cons found' names =>
        obtain ⟨rfl, htail⟩ := List.cons.inj hnames
        obtain ⟨hname, hrest⟩ := List.forall_mem_cons.1 h
        rw [bind_of_ok (hname j hj)]
        dsimp only
        rw [bind_of_error (ih (state_ite_lacks hlacks hj) htail hrest), warned_cons]

end

section

variable {s : State} {name : String} {text : List Char} {c : Cut} {j : Journal}

theorem varValue?_eq : varValue? s name =
    match variableValue s name with
    | .undefined => none
    | v => some v := by
  unfold varValue? variableValue
  cases s.get "var" with
  | mapping m es =>
    dsimp only [Entries.get]
    cases Entries.get? es (.str name) with
    | none => rfl
    | some v => cases v <;> rfl
  | _ => rfl

theorem variableText_of_none (h : varValue? s name = none) (hj : j.state = s) :
    variableText name j = (.ok none, lacksVariable j name) := by
  subst hj
  rw [varValue?_eq] at h
  change (match variableValue j.state name with | .undefined => _ | v => some <$> display v) j = _
  cases hv : variableValue j.state name <;> rw [hv] at h <;> first | rfl | cases h

theorem variableText_of_some {v : Value} (h : varValue? s name = some v) (hj : j.state = s) :
    variableText name j = (some <$> display v) j := by
  subst hj
  rw [varValue?_eq] at h
  change (match variableValue j.state name with | .undefined => _ | v => some <$> display v) j = _
  cases hv : variableValue j.state name <;> rw [hv] at h <;> cases h <;> rfl

theorem finds_variable (h : ∀ v, varValue? s name = some v → ∃ t, v.display = .ok t) :
    Finds s (varValue? s) lacksVariable variableText (varText? s) name := by
  intro j hj
  unfold varText?
  cases hv : varValue? s name with
  | none => exact variableText_of_none hv hj
  | some v =>
    obtain ⟨t, ht⟩ := h v hv
    have hdisplay : display v j = (.ok t, j) := by
      unfold display
      rw [ht]
      rfl
    rw [variableText_of_some hv hj, map_of_ok hdisplay, Option.bind_some, ht]
    rfl

theorem finds_secret (secret : String → Option String) :
    Finds s secret lacksSecret (secretText secret) secret name := by
  intro j _
  unfold secretText
  cases secret name <;> rfl

theorem fillVariables_of_isCut (hc : IsCut variableOpening text c)
    (h : Writable j.state c.names) : fillVariables text j =
      (.ok (c.filled variableOpening (varText? j.state)),
        warned (varValue? j.state) lacksVariable c.names j) := by
  obtain rfl := hc.eq (isCut_pieces (isOpening_of_mem List.mem_cons_self) text)
  rw [Cut.filled_ofPieces]
  exact fillPieces_of_finds (fun _ _ ↦ rfl) rfl fun name hname ↦ finds_variable (h name hname)

theorem fillVariables_of_error {names rest : List String} {v : Value} {e : Json.WriteError}
    (hc : IsCut variableOpening text c) (hnames : c.names = names ++ name :: rest)
    (h : Writable j.state names) (hv : varValue? j.state name = some v)
    (he : v.display = .error e) : fillVariables text j =
      (.error (.text e), warned (varValue? j.state) lacksVariable names j) := by
  obtain rfl := hc.eq (isCut_pieces (isOpening_of_mem List.mem_cons_self) text)
  refine fillPieces_of_error (fun _ _ ↦ rfl) rfl hnames
    (fun name hname ↦ finds_variable (h name hname)) fun k hk ↦ ?_
  have hdisplay : display v k = (.error (.text e), k) := by
    unfold display
    rw [he]
    rfl
  rw [variableText_of_some hv hk]
  exact bind_of_error hdisplay

theorem fillPieces_of_isCut {opening : List Char} (ho : IsOpening opening)
    (secret : String → Option String) (hc : IsCut opening text c) :
    fillPieces opening (secretText secret) (pieces opening text) j =
      (.ok (c.filled opening secret), warned secret lacksSecret c.names j) := by
  obtain rfl := hc.eq (isCut_pieces ho text)
  rw [Cut.filled_ofPieces]
  exact fillPieces_of_finds (fun _ _ ↦ rfl) rfl fun _ _ ↦ finds_secret secret

theorem fillSecrets_of_isCut {d : Cut} (secret : String → Option String)
    (hc : IsCut "$\x7bsecret.".toList text c)
    (hd : IsCut "$\x7bSECRET.".toList (c.filled "$\x7bsecret.".toList secret) d) :
    fillSecrets secret text j = (.ok (d.filled "$\x7bSECRET.".toList secret),
      warned secret lacksSecret d.names (warned secret lacksSecret c.names j)) := by
  have hsmall := fillPieces_of_isCut (j := j) (isOpening_of_mem (by simp [secretOpenings]))
    secret hc
  have hbig := fillPieces_of_isCut (j := warned secret lacksSecret c.names j)
    (isOpening_of_mem (by simp [secretOpenings])) secret hd
  rw [fillSecrets, secretOpenings, List.foldlM_cons, bind_of_ok hsmall, List.foldlM_cons,
    bind_of_ok hbig]
  rfl

end

/-- Every text has one cut for each opening. The pass for variables turns the cut of a text into the
same literal texts with the texts of known variables between them, with a warning for each name that
nothing is known of; it fails with the first known value that cannot be written. The two passes for
secrets do so with what secrets are known, and never fail. Interpolation is these passes, one after
the other, and then the passes for expressions. -/
theorem interpolate_cuts (source : Source) :
    (∀ opening ∈ variableOpening :: secretOpenings, ∀ text, ∃! c, IsCut opening text c) ∧
    (∀ text j c, IsCut variableOpening text c →
      (Writable j.state c.names → fillVariables text j =
        (.ok (c.filled variableOpening (varText? j.state)),
          warned (varValue? j.state) lacksVariable c.names j)) ∧
      ∀ names name rest v e, c.names = names ++ name :: rest → Writable j.state names →
        varValue? j.state name = some v → v.display = .error e → fillVariables text j =
          (.error (.text e), warned (varValue? j.state) lacksVariable names j)) ∧
    (∀ text j c d, IsCut "$\x7bsecret.".toList text c →
      IsCut "$\x7bSECRET.".toList (c.filled "$\x7bsecret.".toList source.secret) d →
      fillSecrets source.secret text j = (.ok (d.filled "$\x7bSECRET.".toList source.secret),
        warned source.secret lacksSecret d.names (warned source.secret lacksSecret c.names j))) ∧
    ∀ template j,
      (∀ f k, fillVariables template.toList j = (.error f, k) →
        interpolate source template j = (.error f, k)) ∧
      ∀ text k text' l, fillVariables template.toList j = (.ok text, k) →
        fillSecrets source.secret text k = (.ok text', l) →
        interpolate source template j =
          (String.ofList <$> fillExpressions source text' source.maxPasses text') l := by
  refine ⟨fun opening ho text ↦ existsUnique_isCut (isOpening_of_mem ho) text,
    fun text j c hc ↦ ⟨fillVariables_of_isCut hc, fun names name rest v e hnames h hv he ↦
      fillVariables_of_error hc hnames h hv he⟩,
    fun text j c d hc hd ↦ fillSecrets_of_isCut source.secret hc hd, fun template j ↦ ⟨?_, ?_⟩⟩
  · intro f k hvars
    exact bind_of_error hvars
  · intro text k text' l hvars hsecrets
    rw [interpolate, bind_of_ok hvars, bind_of_ok hsecrets]

def echo : Journal :=
  { state := ⟨[(.str "var", .mapping 0
      [(.str "A", .str "$\x7bvar.A\x7d"), (.str "N", .null)])], 1⟩ }

def echoed : List Char := "$\x7bvar.$\x7bvar.A\x7d$\x7bvar.N\x7d$\x7bvar.B\x7d".toList

theorem interpolate_cuts_echo :
    ∃ c, IsCut variableOpening echoed c ∧
      c.parts = [("$\x7bvar.".toList, ['A']), ([], ['N']), ([], ['B'])] ∧ c.last = [] ∧
      Writable echo.state c.names ∧
      fillVariables echoed echo =
        (.ok "$\x7bvar.$\x7bvar.A\x7dnull$\x7bvar.B\x7d".toList, lacksVariable echo "B") := by
  obtain ⟨hcuts, hpass, -⟩ := interpolate_cuts ⟨fun _ ↦ none, 1, .standard⟩
  obtain ⟨c, hc, -⟩ := hcuts variableOpening List.mem_cons_self echoed
  have hpieces : Cut.ofPieces (pieces variableOpening echoed) =
      ⟨[("$\x7bvar.".toList, ['A']), ([], ['N']), ([], ['B'])], []⟩ := by decide +kernel
  obtain rfl := hc.eq (hpieces ▸ isCut_pieces (isOpening_of_mem List.mem_cons_self) echoed)
  have hwritable : Writable echo.state ["A", "N", "B"] := by
    simp only [Writable, List.forall_mem_cons]
    refine ⟨?_, ?_, ?_, List.forall_mem_nil _⟩
    · rintro v ⟨⟩
      exact ⟨_, rfl⟩
    · rintro v ⟨⟩
      exact ⟨_, rfl⟩
    · rintro v ⟨⟩
  exact ⟨_, hc, rfl, rfl, hwritable, ((hpass echoed echo _ hc).1 hwritable).trans rfl⟩

def yearbook : Graph where
  vars := [(.str "A", .mapping 0 [(.stamp ⟨"2024-01-01", false⟩, .int 1)])]
  nodes := []

theorem fillVariables_yearbook :
    IsCut variableOpening "$\x7bvar.A\x7d".toList ⟨[([], ['A'])], []⟩ ∧
    (varValue? (Run.initialState yearbook) "A").isSome = true ∧
    (fillVariables "$\x7bvar.A\x7d".toList
      { state := Run.initialState yearbook }).1.mapError Fault.message =
      .error "keys must be str, int, float, bool or None, not date" := by
  refine ⟨?_, by decide +kernel, by decide +kernel⟩
  have hpieces : Cut.ofPieces (pieces variableOpening "$\x7bvar.A\x7d".toList) =
      ⟨[([], ['A'])], []⟩ := by decide +kernel
  exact hpieces ▸ isCut_pieces (isOpening_of_mem List.mem_cons_self) _

end Flowgraph.Template
