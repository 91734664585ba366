import Flowgraph.Journal
import Mathlib.Tactic.Common

namespace Flowgraph.Act

variable {σ α β : Type} {m : Act σ α} {f : α → Act σ β} {s t u : σ} {a : α} {b : β} {e : Fault}

theorem bind_of_ok (h : m s = (.ok a, t)) : (m >>= f) s = f a t := by
  change m.bind f s = f a t
  unfold Act.bind
  rw [h]

theorem bind_of_error (h : m s = (.error e, t)) : (m >>= f) s = (.error e, t) := by
  change m.bind f s = (.error e, t)
  unfold Act.bind
  rw [h]

theorem map_of_ok {g : α → β} (h : m s = (.ok a, t)) : (g <$> m) s = (.ok (g a), t) := bind_of_ok h

theorem map_of_error {g : α → β} (h : m s = (.error e, t)) : (g <$> m) s = (.error e, t) :=
  bind_of_error h

theorem bind_bind {γ : Type} (m : Act σ α) (f : α → Act σ β) (g : β → Act σ γ) :
    m >>= f >>= g = m >>= fun a ↦ f a >>= g := by
  funext s
  rcases h : m s with ⟨e | a, t⟩
  · rw [bind_of_error h, bind_of_error (bind_of_error h)]
  · rw [bind_of_ok h]
    rcases h' : f a t with ⟨e | b, u⟩
    · rw [bind_of_error h', bind_of_error ((bind_of_ok h).trans h')]
    · rw [bind_of_ok h', bind_of_ok ((bind_of_ok h).trans h')]

theorem map_eq_bind (g : α → β) (m : Act σ α) : g <$> m = m >>= fun a ↦ pure (g a) := rfl

theorem fst_map (g : α → β) (m : Act σ α) (s : σ) : ((g <$> m) s).1 = g <$> (m s).1 := by
  rcases h : m s with ⟨e | a, t⟩
  · rw [map_of_error h]
    rfl
  · rw [map_of_ok h]
    rfl

theorem attempt_eq {r : Except Fault α} (h : m s = (r, t)) : m.attempt s = (.ok r, t) := by
  unfold attempt
  rw [h]

theorem bind_eq_ok :
    (m >>= f) s = (.ok b, u) ↔ ∃ a t, m s = (.ok a, t) ∧ f a t = (.ok b, u) := by
  rcases hm : m s with ⟨e | a, t⟩
  · simp [bind_of_error hm]
  · rw [bind_of_ok hm]
    simp

theorem bind_eq_error :
    (m >>= f) s = (.error e, u) ↔
      m s = (.error e, u) ∨ ∃ a t, m s = (.ok a, t) ∧ f a t = (.error e, u) := by
  rcases hm : m s with ⟨e' | a, t⟩
  · simp [bind_of_error hm]
  · rw [bind_of_ok hm]
    simp

def Within (R : σ → σ → Prop) (m : Act σ α) : Prop := ∀ s, R s (m s).2

section Within

variable {R : σ → σ → Prop}

theorem Within.rel {r : Except Fault α} (h : Within R m) (hm : m s = (r, t)) : R s t := by
  simpa only [hm] using h s

theorem within_pure (hR : ∀ s, R s s) (a : α) : Within R (pure a : Act σ α) := hR

theorem within_fail (hR : ∀ s, R s s) (e : Fault) : Within R (fail e : Act σ α) := hR

theorem within_ofExcept (hR : ∀ s, R s s) (r : Except Fault α) :
    Within R (ofExcept r : Act σ α) := hR

theorem within_get (hR : ∀ s, R s s) : Within R (get : Act σ σ) := hR

theorem Within.bind (hR : ∀ {s t u}, R s t → R t u → R s u) (hm : Within R m)
    (hf : ∀ a, Within R (f a)) : Within R (m >>= f) := by
  intro s
  rcases h : m s with ⟨e | a, t⟩
  · rw [bind_of_error h]
    exact hm.rel h
  · rw [bind_of_ok h]
    exact hR (hm.rel h) (hf a t)

theorem Within.attempt (hm : Within R m) : Within R m.attempt := hm

end Within

section Told

variable {τ ε : Type} {view : σ → τ} {apply : τ → ε → τ} {events : σ → List ε}
  {later : α → σ → List ε}

abbrev Keeps (view : σ → τ) (m : Act σ α) : Prop := Within (fun s t ↦ view t = view s) m

theorem keeps_pure (a : α) : Keeps view (pure a : Act σ α) := fun _ ↦ rfl

theorem keeps_fail (e : Fault) : Keeps view (fail e : Act σ α) := fun _ ↦ rfl

theorem keeps_ofExcept (r : Except Fault α) : Keeps view (ofExcept r : Act σ α) :=
  fun _ ↦ rfl

theorem keeps_get : Keeps view (get : Act σ σ) := fun _ ↦ rfl

theorem Keeps.bind (hm : Keeps view m) (hf : ∀ a, Keeps view (f a)) : Keeps view (m >>= f) :=
  Within.bind (fun h h' ↦ h'.trans h) hm hf

theorem Keeps.map {g : α → β} (hm : Keeps view m) : Keeps view (g <$> m) :=
  hm.bind fun a ↦ keeps_pure (g a)

/-- The events of what follows an action: there are some only where the action succeeds. -/
def next (m : Act σ α) (later : α → σ → List ε) : σ → List ε := fun s ↦
  match m s with
  | (.ok a, t) => later a t
  | (.error _, _) => []

theorem next_of_ok (h : m s = (.ok a, t)) : m.next later s = later a t := by
  unfold next
  rw [h]

theorem next_of_error (h : m s = (.error e, t)) : m.next later s = [] := by
  unfold next
  rw [h]

theorem exists_of_mem_next {x : ε} (hx : x ∈ m.next later s) :
    ∃ a t, m s = (.ok a, t) ∧ x ∈ later a t := by
  rcases hs : m s with ⟨e | a, t⟩
  · rw [next_of_error hs] at hx
    cases hx
  · rw [next_of_ok hs] at hx
    exact ⟨a, t, rfl, hx⟩

def Told (view : σ → τ) (apply : τ → ε → τ) (m : Act σ α) (events : σ → List ε) : Prop :=
  ∀ s, view (m s).2 = (events s).foldl apply (view s)

theorem Keeps.told (hm : Keeps view m) : Told view apply m fun _ ↦ [] := hm

theorem Told.bind (hm : Told view apply m events) (hf : ∀ a, Told view apply (f a) (later a)) :
    Told view apply (m >>= f) fun s ↦ events s ++ m.next later s := by
  intro s
  have h := hm s
  rw [List.foldl_append, ← h]
  rcases hs : m s with ⟨e | a, t⟩
  · rw [bind_of_error hs, next_of_error hs]
    rfl
  · rw [bind_of_ok hs, next_of_ok hs]
    exact hf a t

theorem Keeps.told_bind (hm : Keeps view m) (hf : ∀ a, Told view apply (f a) (later a)) :
    Told view apply (m >>= f) (m.next later) := hm.told.bind hf

theorem Told.bind_keeps (hm : Told view apply m events) (hf : ∀ a, Keeps view (f a)) :
    Told view apply (m >>= f) events := by
  intro s
  rw [← hm s]
  rcases hs : m s with ⟨e | a, t⟩
  · rw [bind_of_error hs]
  · rw [bind_of_ok hs]
    exact hf a t

theorem Told.map {g : α → β} (hm : Told view apply m events) : Told view apply (g <$> m) events :=
  hm.bind_keeps fun a ↦ keeps_pure (g a)

end Told

/-- From related states two actions come to the same outcome and to related states. -/
def Agrees (R : σ → σ → Prop) (m m' : Act σ α) : Prop :=
  ∀ s t, R s t → (m s).1 = (m' t).1 ∧ R (m s).2 (m' t).2

section Agrees

variable {R : σ → σ → Prop} {m' : Act σ α} {f' : α → Act σ β}

theorem agrees_pure (a : α) : Agrees R (pure a : Act σ α) (pure a) := fun _ _ h ↦ ⟨rfl, h⟩

theorem agrees_fail (e : Fault) : Agrees R (fail e : Act σ α) (fail e) := fun _ _ h ↦ ⟨rfl, h⟩

theorem agrees_ofExcept (r : Except Fault α) : Agrees R (ofExcept r : Act σ α) (ofExcept r) :=
  fun _ _ h ↦ ⟨rfl, h⟩

theorem agrees_modify {g g' : σ → σ} (h : ∀ s t, R s t → R (g s) (g' t)) :
    Agrees R (modify g) (modify g') := fun s t hst ↦ ⟨rfl, h s t hst⟩

theorem Agrees.bind (hm : Agrees R m m') (hf : ∀ a, Agrees R (f a) (f' a)) :
    Agrees R (m >>= f) (m' >>= f') := by
  intro s t h
  obtain ⟨hresult, hstate⟩ := hm s t h
  rcases hs : m s with ⟨e | a, s'⟩ <;> rcases ht : m' t with ⟨e' | a', t'⟩ <;>
    rw [hs, ht] at hresult hstate <;> cases hresult
  · rw [bind_of_error hs, bind_of_error ht]
    exact ⟨rfl, hstate⟩
  · rw [bind_of_ok hs, bind_of_ok ht]
    exact hf a s' t' hstate

theorem Agrees.map {g : α → β} (hm : Agrees R m m') : Agrees R (g <$> m) (g <$> m') :=
  hm.bind fun a ↦ agrees_pure (g a)

theorem Agrees.attempt (hm : Agrees R m m') : Agrees R m.attempt m'.attempt := by
  intro s t h
  obtain ⟨hresult, hstate⟩ := hm s t h
  exact ⟨congrArg Except.ok hresult, hstate⟩

theorem agrees_get_bind {g g' : σ → Act σ β} (h : ∀ s t, R s t → Agrees R (g s) (g' t)) :
    Agrees R (get >>= g) (get >>= g') := by
  intro s t hst
  rw [bind_of_ok (rfl : get s = (.ok s, s)), bind_of_ok (rfl : get t = (.ok t, t))]
  exact h s t hst s t hst

end Agrees

/-- Whatever the state, an action answers only values with `Q` and fails only with faults in `E`. -/
structure Yields (m : Act σ α) (Q : α → Prop) (E : Fault → Prop) : Prop where
  ok : ∀ {s a t}, m s = (.ok a, t) → Q a
  error : ∀ {s e t}, m s = (.error e, t) → E e

/-- An action may answer anything, but fails only with faults in `E`. -/
abbrev FailsOnly (m : Act σ α) (E : Fault → Prop) : Prop := m.Yields (fun _ ↦ True) E

section Yields

variable {P : α → Prop} {Q : β → Prop} {E E' : Fault → Prop}

theorem yields_pure (h : P a) : (pure a : Act σ α).Yields P E where
  ok hm := by cases hm; exact h
  error hm := by cases hm

theorem yields_fail (h : E e) : (fail e : Act σ α).Yields P E where
  ok hm := by cases hm
  error hm := by cases hm; exact h

theorem Yields.bind (hm : m.Yields P E) (hf : ∀ a, P a → (f a).Yields Q E) :
    (m >>= f).Yields Q E where
  ok h := by
    obtain ⟨a, t, hm', hf'⟩ := bind_eq_ok.1 h
    exact (hf a (hm.ok hm')).ok hf'
  error h := by
    obtain hm' | ⟨a, t, hm', hf'⟩ := bind_eq_error.1 h
    · exact hm.error hm'
    · exact (hf a (hm.ok hm')).error hf'

theorem failsOnly_pure (a : α) : (pure a : Act σ α).FailsOnly E := yields_pure trivial

theorem failsOnly_true : m.FailsOnly fun _ ↦ True := ⟨fun _ ↦ trivial, fun _ ↦ trivial⟩

theorem failsOnly_get : (get : Act σ σ).FailsOnly E := ⟨fun _ ↦ trivial, fun h ↦ by cases h⟩

theorem failsOnly_modify (g : σ → σ) : (modify g).FailsOnly E :=
  ⟨fun _ ↦ trivial, fun h ↦ by cases h⟩

theorem FailsOnly.bind (hm : m.FailsOnly E) (hf : ∀ a, (f a).Yields Q E) :
    (m >>= f).Yields Q E := Yields.bind hm fun a _ ↦ hf a

theorem FailsOnly.mono (hm : m.FailsOnly E) (h : ∀ e, E e → E' e) : m.FailsOnly E' :=
  ⟨hm.ok, fun h' ↦ h _ (hm.error h')⟩

theorem FailsOnly.map {g : α → β} (hm : m.FailsOnly E) : (g <$> m).FailsOnly E :=
  hm.bind fun a ↦ failsOnly_pure (g a)

theorem Yields.attempt (hm : m.Yields P E) :
    m.attempt.Yields (fun r ↦ (∀ a, r = .ok a → P a) ∧ ∀ e, r = .error e → E e) E' where
  ok h := by
    unfold Act.attempt at h
    rcases hm' : m _ with ⟨r, t⟩
    rw [hm'] at h
    cases h
    exact ⟨fun a ha ↦ hm.ok (ha ▸ hm'), fun e he ↦ hm.error (he ▸ hm')⟩
  error h := by cases h

end Yields

section Hinges

variable {δ : Type} {fault? : δ → Option Fault} {demands : σ → List δ} {later : α → σ → List δ}

def Hinges (fault? : δ → Option Fault) (m : Act σ α) (demands : σ → List δ) : Prop :=
  ∀ s e, (m s).1 = .error e ↔ ∃ d ∈ demands s, fault? d = some e

theorem hinges_pure (a : α) : Hinges fault? (pure a : Act σ α) fun _ ↦ [] := by
  intro s e
  simp [pure]

theorem hinges_modify (g : σ → σ) : Hinges fault? (modify g) fun _ ↦ [] := by
  intro s e
  simp [modify]

theorem Hinges.bind (hm : Hinges fault? m demands) (hf : ∀ a, Hinges fault? (f a) (later a)) :
    Hinges fault? (m >>= f) fun s ↦ demands s ++ m.next later s := by
  intro s e
  change _ ↔ ∃ d ∈ demands s ++ m.next later s, _
  have h := hm s
  rcases hs : m s with ⟨e' | a, t⟩ <;> rw [hs] at h
  · rw [bind_of_error hs, next_of_error hs, List.append_nil, ← h e, Except.error.injEq,
      Except.error.injEq]
  · rw [bind_of_ok hs, next_of_ok hs, hf a t e]
    constructor
    · rintro ⟨d, hd, he⟩
      exact ⟨d, List.mem_append_right _ hd, he⟩
    · rintro ⟨d, hd, he⟩
      obtain hd | hd := List.mem_append.1 hd
      · -- The first action has succeeded, so none of its demands has a fault.
        cases (h e).2 ⟨d, hd, he⟩
      · exact ⟨d, hd, he⟩

theorem Hinges.bind_pure (hm : Hinges fault? m demands) (hf : ∀ a, Hinges fault? (f a) fun _ ↦ []) :
    Hinges fault? (m >>= f) demands := by
  have hnext : (fun s ↦ demands s ++ m.next (fun _ _ ↦ []) s) = demands := by
    funext s
    rcases hs : m s with ⟨e | a, t⟩
    · rw [next_of_error hs, List.append_nil]
    · rw [next_of_ok hs, List.append_nil]
  exact hnext ▸ hm.bind hf

theorem Hinges.map {g : α → β} (hm : Hinges fault? m demands) :
    Hinges fault? (g <$> m) demands := hm.bind_pure fun a ↦ hinges_pure (g a)

end Hinges

section Each

/-- The action succeeds on each of them, with these answers. -/
inductive Runs (f : α → Act σ β) : σ → List α → List β → σ → Prop
  | nil (s : σ) : Runs f s [] [] s
  | cons {s t u : σ} {a : α} {b : β} {as : List α} {bs : List β} (h : f a s = (.ok b, t))
      (hrest : Runs f t as bs u) : Runs f s (a :: as) (b :: bs) u

/-- The action fails on one of them, after it has succeeded on those before. -/
inductive Breaks (f : α → Act σ β) : σ → List α → Fault → σ → Prop
  | here {s t : σ} {a : α} {as : List α} {e : Fault} (h : f a s = (.error e, t)) :
      Breaks f s (a :: as) e t
  | on {s t u : σ} {a : α} {b : β} {as : List α} {e : Fault} (h : f a s = (.ok b, t))
      (hrest : Breaks f t as e u) : Breaks f s (a :: as) e u

variable {f : α → Act σ β} {as : List α} {bs : List β}

theorem Runs.length_eq (h : Runs f s as bs t) : bs.length = as.length := by
  induction h with
  | nil => rfl
  | cons _ _ ih => exact congrArg (· + 1) ih

theorem mapM'_eq_ok_iff : as.mapM' f s = (.ok bs, t) ↔ Runs f s as bs t := by
  induction as generalizing s bs with
  | nil =>
    rw [List.mapM'_nil]
    constructor
    · rintro ⟨⟩
      exact .nil _
    · rintro ⟨⟩
      rfl
  | cons a as ih =>
    rw [List.mapM'_cons, bind_eq_ok]
    constructor
    · rintro ⟨b, s', ha, h⟩
      obtain ⟨cs, t', has, ⟨⟩⟩ := bind_eq_ok.1 h
      exact .cons ha (ih.1 has)
    · rintro (_ | ⟨ha, hrest⟩)
      exact ⟨_, _, ha, bind_eq_ok.2 ⟨_, _, ih.2 hrest, rfl⟩⟩

theorem mapM'_eq_error_iff : as.mapM' f s = (.error e, t) ↔ Breaks f s as e t := by
  induction as generalizing s with
  | nil =>
    rw [List.mapM'_nil]
    exact ⟨nofun, nofun⟩
  | cons a as ih =>
    rw [List.mapM'_cons, bind_eq_error]
    constructor
    · rintro (ha | ⟨b, s', ha, h⟩)
      · exact .here ha
      · obtain has | ⟨cs, t', -, ⟨⟩⟩ := bind_eq_error.1 h
        exact .on ha (ih.1 has)
    · rintro (ha | ⟨ha, hrest⟩)
      · exact .inl ha
      · exact .inr ⟨_, _, ha, bind_eq_error.2 (.inl (ih.2 hrest))⟩

theorem map_mapM'_eq_ok_iff {γ : Type} {g : List β → γ} {c : γ} :
    (g <$> as.mapM' f) s = (.ok c, t) ↔ ∃ bs, c = g bs ∧ Runs f s as bs t := by
  rw [map_eq_bind, bind_eq_ok]
  constructor
  · rintro ⟨bs, t', hbs, ⟨⟩⟩
    exact ⟨bs, rfl, mapM'_eq_ok_iff.1 hbs⟩
  · rintro ⟨bs, rfl, hbs⟩
    exact ⟨bs, t, mapM'_eq_ok_iff.2 hbs, rfl⟩

theorem map_mapM'_eq_error_iff {γ : Type} {g : List β → γ} :
    (g <$> as.mapM' f) s = (.error e, t) ↔ Breaks f s as e t := by
  rw [map_eq_bind, bind_eq_error, mapM'_eq_error_iff]
  constructor
  · rintro (h | ⟨bs, t', -, ⟨⟩⟩)
    exact h
  · exact .inl

end Each

end Flowgraph.Act
