import Flowgraph.Proofs.Run.Visit

namespace Flowgraph.Run

open Act

variable {s : Setup} {g : Graph}

section Loop

variable {name : String} {rest ts : List String} {p q : Progress} {f : Fault}

theorem loop_of_not_running (hp : p.running = false) (n : ℕ) (agenda : List String) :
    loop s g n agenda p = (.ok .stopped, p) := by
  rw [loop.eq_def, bind_of_ok (rfl : Act.get p = (.ok p, p))]
  exact congrFun (if_pos (by simp [hp])) p

theorem loop_nil (hp : p.running = true) (n : ℕ) : loop s g n [] p = (.ok .emptied, p) := by
  rw [loop.eq_def, bind_of_ok (rfl : Act.get p = (.ok p, p))]
  exact congrFun (if_neg (by simp [hp])) p

theorem loop_zero (hp : p.running = true) (name : String) (rest : List String) :
    loop s g 0 (name :: rest) p = (.ok .unfinished, p) := by
  rw [loop.eq_def, bind_of_ok (rfl : Act.get p = (.ok p, p))]
  exact congrFun (if_neg (by simp [hp])) p

theorem loop_cons (hp : p.running = true) (n : ℕ) (name : String) (rest : List String) :
    loop s g (n + 1) (name :: rest) p = (do
      match ← visit s g name with
      | none => return .stopped
      | some ts => loop s g n (ts ++ rest) : Act Progress Ending) p := by
  rw [loop.eq_def, bind_of_ok (rfl : Act.get p = (.ok p, p))]
  exact congrFun (if_neg (by simp [hp])) p

theorem loop_of_visit_some (hp : p.running = true) (h : visit s g name p = (.ok (some ts), q))
    (n : ℕ) (rest : List String) :
    loop s g (n + 1) (name :: rest) p = loop s g n (ts ++ rest) q := by
  rw [loop_cons hp, bind_of_ok h]

theorem loop_of_visit_none (hp : p.running = true) (h : visit s g name p = (.ok none, q))
    (n : ℕ) (rest : List String) : loop s g (n + 1) (name :: rest) p = (.ok .stopped, q) := by
  rw [loop_cons hp, bind_of_ok h]
  rfl

theorem loop_of_visit_error (hp : p.running = true) (h : visit s g name p = (.error f, q))
    (n : ℕ) (rest : List String) : loop s g (n + 1) (name :: rest) p = (.error f, q) := by
  rw [loop_cons hp, bind_of_error h]

end Loop

/-- The loop gets from one agenda and progress to another by visits of some names in a row, none of
which ends it. -/
inductive Walk (s : Setup) (g : Graph) :
    List String → Progress → List String → List String → Progress → Prop
  | stay (agenda : List String) (p : Progress) : Walk s g agenda p [] agenda p
  | step {name : String} {rest ts names agenda : List String} {p q r : Progress} :
      p.running = true → visit s g name p = (.ok (some ts), q) →
      Walk s g (ts ++ rest) q names agenda r →
      Walk s g (name :: rest) p (name :: names) agenda r

namespace Walk

variable {a a' names : List String} {p q : Progress}

/-- Names at the rear of the agenda are carried along. -/
theorem append (h : Walk s g a p names a' q) (b : List String) :
    Walk s g (a ++ b) p names (a' ++ b) q := by
  induction h with
  | stay agenda p => exact .stay _ p
  | @step name rest ts names agenda p q r hp hv h ih =>
    rw [List.append_assoc] at ih
    exact .step hp hv ih

theorem executed_eq (h : Walk s g a p names a' q) : q.executed = p.executed ++ names := by
  induction h with
  | stay agenda p => exact (List.append_nil _).symm
  | @step name rest ts names agenda p q r hp hv h ih =>
    obtain ⟨n, hn⟩ := node_of_visit hv
    have he := executed_visit (s := s) hn p
    rw [hv] at he
    rw [ih, he, List.append_assoc, List.singleton_append]

/-- The loop spends one visit on each name of a walk. -/
theorem loop_eq (h : Walk s g a p names a' q) (m : ℕ) :
    loop s g (names.length + m) a p = loop s g m a' q := by
  induction h with
  | stay agenda p => rw [List.length_nil, Nat.zero_add]
  | step hp hv h ih =>
    rw [List.length_cons, Nat.add_right_comm, loop_of_visit_some hp hv, ih]

end Walk

/-- The loop ends at once, without a further visit that lets it go on. -/
inductive Ends (s : Setup) (g : Graph) :
    ℕ → List String → Progress → Except Fault Ending × Progress → Prop
  | halted {n : ℕ} {agenda : List String} {p : Progress} :
      p.running = false → Ends s g n agenda p (.ok .stopped, p)
  | emptied {n : ℕ} {p : Progress} : p.running = true → Ends s g n [] p (.ok .emptied, p)
  | unfinished {name : String} {rest : List String} {p : Progress} :
      p.running = true → Ends s g 0 (name :: rest) p (.ok .unfinished, p)
  | stopped {n : ℕ} {name : String} {rest : List String} {p q : Progress} :
      p.running = true → visit s g name p = (.ok none, q) →
      Ends s g (n + 1) (name :: rest) p (.ok .stopped, q)
  | failed {n : ℕ} {name : String} {rest : List String} {p q : Progress} {f : Fault} :
      p.running = true → visit s g name p = (.error f, q) →
      Ends s g (n + 1) (name :: rest) p (.error f, q)

namespace Ends

variable {n : ℕ} {a : List String} {p : Progress} {r : Except Fault Ending × Progress}

theorem loop_eq (h : Ends s g n a p r) : loop s g n a p = r := by
  cases h with
  | halted hp => exact loop_of_not_running hp n a
  | emptied hp => exact loop_nil hp n
  | unfinished hp => exact loop_zero hp _ _
  | stopped hp hv => exact loop_of_visit_none hp hv _ _
  | failed hp hv => exact loop_of_visit_error hp hv _ _

/-- Only an empty agenda makes room for what waits behind it. -/
theorem append (h : Ends s g n a p r) (hr : r.1 ≠ .ok .emptied) (b : List String) :
    Ends s g n (a ++ b) p r := by
  cases h with
  | halted hp => exact .halted hp
  | emptied hp => exact absurd rfl hr
  | unfinished hp => exact .unfinished hp
  | stopped hp hv => exact .stopped hp hv
  | failed hp hv => exact .failed hp hv

end Ends

theorem ends_or_step (n : ℕ) (a : List String) (p : Progress) :
    (∃ r, Ends s g n a p r) ∨ ∃ k name rest ts q, n = k + 1 ∧ a = name :: rest ∧
      p.running = true ∧ visit s g name p = (.ok (some ts), q) := by
  cases hp : p.running with
  | false => exact .inl ⟨_, .halted hp⟩
  | true =>
    cases a with
    | nil => exact .inl ⟨_, .emptied hp⟩
    | cons name rest =>
      cases n with
      | zero => exact .inl ⟨_, .unfinished hp⟩
      | succ k =>
        rcases hv : visit s g name p with ⟨f | _ | ts, q⟩
        · exact .inl ⟨_, .failed hp hv⟩
        · exact .inl ⟨_, .stopped hp hv⟩
        · exact .inr ⟨k, name, rest, ts, q, rfl, rfl, rfl, hv⟩

theorem exists_walk (n : ℕ) (a : List String) (p : Progress) :
    ∃ names rest q m, n = names.length + m ∧ Walk s g a p names rest q ∧
      Ends s g m rest q (loop s g n a p) := by
  induction n generalizing a p with
  | zero =>
    obtain ⟨r, h⟩ | ⟨k, name, rest, ts, q, hk, -⟩ := ends_or_step (s := s) (g := g) 0 a p
    · exact ⟨[], a, p, 0, rfl, .stay a p, h.loop_eq ▸ h⟩
    · exact absurd hk k.succ_ne_zero.symm
  | succ n ih =>
    obtain ⟨r, h⟩ | ⟨k, name, rest, ts, q, hk, rfl, hp, hv⟩ :=
      ends_or_step (s := s) (g := g) (n + 1) a p
    · exact ⟨[], a, p, n + 1, (Nat.zero_add _).symm, .stay a p, h.loop_eq ▸ h⟩
    · obtain ⟨names, agenda, r, m, hn, hw, he⟩ := ih (ts ++ rest) q
      refine ⟨name :: names, agenda, r, m, ?_, .step hp hv hw, ?_⟩
      · rw [hn, List.length_cons, Nat.add_right_comm]
      · rwa [loop_of_visit_some hp hv]

/-- The loop on an agenda `a ++ b` is the loop on `a` as long as that goes on: it passes through the
same progress with `b` untouched at the rear. If the loop on `a` empties its agenda, the loop goes on
as the loop on `b` does from there; if it ends otherwise, so does the loop on `a ++ b`. -/
theorem loop_append (s : Setup) (g : Graph) (n : ℕ) (a b : List String) (p : Progress) :
    (∀ names rest q, Walk s g a p names rest q →
      Walk s g (a ++ b) p names (rest ++ b) q ∧ q.executed = p.executed ++ names) ∧
    match loop s g n a p with
    | (.ok .emptied, c) => c.running = true ∧ ∃ names, c.executed = p.executed ++ names ∧
        Walk s g a p names [] c ∧ ∀ m, loop s g (names.length + m) (a ++ b) p = loop s g m b c
    | ended => loop s g n (a ++ b) p = ended := by
  refine ⟨fun names rest q h ↦ ⟨h.append b, h.executed_eq⟩, ?_⟩
  obtain ⟨names, rest, q, m, rfl, hw, he⟩ := exists_walk (s := s) (g := g) n a p
  have happend (hr : (loop s g (names.length + m) a p).1 ≠ .ok .emptied) :
      loop s g (names.length + m) (a ++ b) p = loop s g (names.length + m) a p := by
    rw [(hw.append b).loop_eq, (he.append hr b).loop_eq]
  split
  · next c hc =>
    rw [hc] at he
    cases he with
    | emptied hp => exact ⟨hp, names, hw.executed_eq, hw, fun k ↦ (hw.append b).loop_eq k⟩
  · next hne => exact happend fun hr ↦ hne _ (Prod.ext hr rfl)

end Flowgraph.Run
