import Flowgraph.Value.Path
import Mathlib.Tactic.Common

namespace Flowgraph

namespace Text

theorem splitAt_eq_splitOn (sep : Char) (cs : List Char) : splitAt sep cs = cs.splitOn sep := by
  unfold List.splitOn
  induction cs with
  | nil => rfl
  | cons c cs ih =>
    rw [splitAt, List.splitOnP_cons_eq_if_modifyHead, ih]
    cases hsplit : cs.splitOnP (· == sep) with
    | nil => exact absurd hsplit (List.splitOnP_ne_nil _ _)
    | cons p ps => rfl

theorem splitAt_intercalate {sep : Char} {parts : List (List Char)} (hne : parts ≠ [])
    (hparts : ∀ p ∈ parts, sep ∉ p) : splitAt sep ([sep].intercalate parts) = parts := by
  rw [splitAt_eq_splitOn, List.splitOn_intercalate sep hparts hne]

theorem splitAt_of_not_mem {sep : Char} {cs : List Char} (h : sep ∉ cs) :
    splitAt sep cs = [cs] := by
  simpa using splitAt_intercalate (List.cons_ne_nil cs []) (by simpa using h)

theorem splitAt_append (sep : Char) (cs ds : List Char) :
    splitAt sep (cs ++ sep :: ds) = splitAt sep cs ++ splitAt sep ds := by
  simp only [splitAt_eq_splitOn]
  exact List.splitOnP_append_cons cs ds (beq_self_eq_true sep)

end Text

namespace Value

def IsPosition (segment : List Char) : Prop :=
  segment ≠ [] ∧ segment.all Text.isDigit = true

instance (segment : List Char) : Decidable (IsPosition segment) :=
  inferInstanceAs (Decidable (_ ∧ _))

theorem isPosition_iff {segment : List Char} :
    (!segment.isEmpty && segment.all Text.isDigit) = true ↔ IsPosition segment := by
  cases segment <;> simp [IsPosition]

/-- One segment of a path leads from a value to a part of it. -/
inductive Goes : Value → List Char → Value → Prop where
  | member {mark : ℕ} {es : Entries} {segment : List Char} {w : Value}
      (h : Entries.get? es (.str (String.ofList segment)) = some w) :
      Goes (.mapping mark es) segment w
  | item {mark i : ℕ} {vs : List Value} {segment : List Char} {w : Value}
      (hposition : IsPosition segment) (hindex : segmentIndex segment = .ok i)
      (h : vs[i]? = some w) : Goes (.list mark vs) segment w

/-- The segments of a path lead from a value to a part of it. -/
inductive Leads : Value → List (List Char) → Value → Prop where
  | here (v : Value) : Leads v [] v
  | on {v w u : Value} {segment : List Char} {segments : List (List Char)}
      (h : Goes v segment w) (hrest : Leads w segments u) : Leads v (segment :: segments) u

/-- The segments of a path lead to a list, and the next is all digits but no index. -/
inductive Missteps : Value → List (List Char) → PathFault → Prop where
  | here {mark : ℕ} {vs : List Value} {segment : List Char} {segments : List (List Char)}
      {f : PathFault} (hposition : IsPosition segment) (h : segmentIndex segment = .error f) :
      Missteps (.list mark vs) (segment :: segments) f
  | on {v w : Value} {segment : List Char} {segments : List (List Char)} {f : PathFault}
      (h : Goes v segment w) (hrest : Missteps w segments f) : Missteps v (segment :: segments) f

variable {v w : Value} {segment : List Char} {segments : List (List Char)} {f : PathFault}

theorem step_of_goes (h : Goes v segment w) : v.step segment = .ok w := by
  cases h with
  | member h => simp only [step, Entries.get, h, Option.getD_some]
  | item hposition hindex h =>
    obtain ⟨hne, hdigits⟩ := hposition
    simp [step, hne, hdigits, hindex, h, Functor.map, Except.map]

theorem step_eq_error : v.step segment = .error f ↔
    ∃ mark vs, v = .list mark vs ∧ IsPosition segment ∧ segmentIndex segment = .error f := by
  cases v with
  | list mark vs =>
    by_cases h : IsPosition segment
    · cases hindex : segmentIndex segment <;>
        simp [step, isPosition_iff.2 h, h, hindex, Functor.map, Except.map]
    · simp [step, mt isPosition_iff.1 h, h]
  | _ => simp [step]

theorem goes_of_step (h : v.step segment = .ok w) : Goes v segment w ∨ w = .undefined := by
  cases v with
  | mapping mark es =>
    obtain rfl := Except.ok.inj h
    cases hget : Entries.get? es (.str (String.ofList segment)) with
    | none => simp [Entries.get, hget]
    | some w => simpa [Entries.get, hget] using .inl (Goes.member hget)
  | list mark vs =>
    rw [step] at h
    split at h
    · rename_i hposition
      cases hindex : segmentIndex segment with
      | error f => simp [hindex, Functor.map, Except.map] at h
      | ok i =>
        have hposition : IsPosition segment := isPosition_iff.1 hposition
        cases hitem : vs[i]? with
        | none => simp_all [Functor.map, Except.map]
        | some u =>
          obtain rfl : u = w := by simpa [hindex, hitem, Functor.map, Except.map] using h
          exact .inl (.item hposition hindex hitem)
    · exact .inr (Except.ok.inj h).symm
  | _ => exact .inr (Except.ok.inj h).symm

def walk (v : Value) (segments : List (List Char)) : Except PathFault Value := segments.foldlM step v

theorem getPath_eq_walk (v : Value) (path : String) :
    v.getPath path = v.walk (Text.splitAt '.' path.toList) := rfl

theorem walk_nil (v : Value) : v.walk [] = .ok v := rfl

theorem walk_cons (v : Value) (segment : List Char) (segments : List (List Char)) :
    v.walk (segment :: segments) = v.step segment >>= fun w ↦ w.walk segments := by
  unfold walk
  rw [List.foldlM_cons]

theorem walk_undefined (segments : List (List Char)) :
    walk .undefined segments = .ok .undefined := by
  induction segments with
  | nil => rfl
  | cons segment segments ih => exact ih

theorem walk_cons_of_step (h : v.step segment = .ok w) (segments : List (List Char)) :
    v.walk (segment :: segments) = w.walk segments := by
  rw [walk_cons, h]
  rfl

theorem walk_eq_error : v.walk segments = .error f ↔ Missteps v segments f := by
  induction segments generalizing v with
  | nil =>
    rw [walk_nil]
    exact ⟨nofun, nofun⟩
  | cons segment segments ih =>
    cases hstep : v.step segment with
    | error g =>
      rw [walk_cons, hstep]
      constructor
      · intro h
        cases h
        obtain ⟨mark, vs, rfl, hposition, hindex⟩ := step_eq_error.1 hstep
        exact .here hposition hindex
      · rintro (⟨hposition, hindex⟩ | ⟨hgoes, -⟩)
        · rw [step_eq_error.2 ⟨_, _, rfl, hposition, hindex⟩] at hstep
          cases hstep
          rfl
        · rw [step_of_goes hgoes] at hstep
          cases hstep
    | ok w =>
      rw [walk_cons_of_step hstep]
      constructor
      · intro h
        rcases goes_of_step hstep with hgoes | rfl
        · exact .on hgoes (ih.1 h)
        · rw [walk_undefined] at h
          cases h
      · rintro (⟨hposition, hindex⟩ | ⟨hgoes, hrest⟩)
        · rw [step_eq_error.2 ⟨_, _, rfl, hposition, hindex⟩] at hstep
          cases hstep
        · rw [step_of_goes hgoes] at hstep
          cases hstep
          exact ih.2 hrest

theorem walk_append (v : Value) (segments rest : List (List Char)) :
    v.walk (segments ++ rest) = v.walk segments >>= fun w ↦ w.walk rest := List.foldlM_append

/-- A walk that ends at once, in `undefined`, where it comes to a value without parts, or to a list
with a segment that is no position. -/
def descend : Value → List (List Char) → Except PathFault Value
  | v, [] => .ok v
  | .mapping _ es, segment :: segments =>
    descend (Entries.get es (.str (String.ofList segment))) segments
  | .list _ vs, segment :: segments =>
    if IsPosition segment then
      segmentIndex segment >>= fun i ↦ descend (vs.getD i .undefined) segments
    else .ok .undefined
  | _, _ :: _ => .ok .undefined

/-- It makes no difference whether a walk ends at once or goes on from `undefined`. -/
theorem walk_eq_descend (v : Value) (segments : List (List Char)) :
    v.walk segments = v.descend segments := by
  induction segments generalizing v with
  | nil => cases v <;> rfl
  | cons segment segments ih =>
    cases v with
    | mapping mark es => exact ih _
    | list mark vs =>
      rw [walk_cons, step, descend]
      by_cases h : IsPosition segment
      · rw [if_pos (isPosition_iff.2 h), if_pos h]
        cases segmentIndex segment with
        | error f => rfl
        | ok i => exact ih _
      · rw [if_neg (mt isPosition_iff.1 h), if_neg h]
        exact walk_undefined segments
    | _ => exact walk_undefined segments

/-- A path behind another, with a dot between them, leads on from where the other leads: to the same
value, or it fails with the same fault. From `undefined` every path leads to `undefined`, and a walk
that ends there at once comes to the same. -/
theorem getPath_append (v : Value) (p q : String) :
    v.getPath (p ++ "." ++ q) = (v.getPath p >>= fun w ↦ w.getPath q) ∧
      getPath .undefined q = .ok .undefined ∧
      v.getPath p = v.descend (Text.splitAt '.' p.toList) := by
  refine ⟨?_, walk_undefined _, walk_eq_descend v _⟩
  have htext : (p ++ "." ++ q).toList = p.toList ++ '.' :: q.toList := by simp
  have hsegments := Text.splitAt_append '.' p.toList q.toList
  rw [getPath_eq_walk, htext, hsegments, walk_append]
  rfl

end Value

end Flowgraph
