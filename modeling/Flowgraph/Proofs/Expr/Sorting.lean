import Flowgraph.Expr.Sort
import Mathlib

namespace Flowgraph.Expr

section Insertion

variable {α β κ : Type} (before : α → α → Bool)

theorem perm_place (sorted : List α) (x : α) : (place before sorted x).Perm (x :: sorted) := by
  unfold place
  generalize searchPlace before x sorted.toArray 0 sorted.length = i
  have h : (sorted.take i ++ x :: sorted.drop i).Perm (x :: (sorted.take i ++ sorted.drop i)) :=
    List.perm_middle
  rwa [List.take_append_drop] at h

theorem perm_foldl_place (sorted xs : List α) :
    (xs.foldl (place before) sorted).Perm (sorted ++ xs) := by
  induction xs generalizing sorted with
  | nil => simp
  | cons x xs ih =>
    rw [List.foldl_cons]
    exact (ih _).trans (((perm_place before sorted x).append_right xs).trans List.perm_middle.symm)

theorem perm_insertionSort (xs : List α) : (insertionSort before xs).Perm xs := by
  unfold insertionSort
  dsimp only
  split
  · generalize runLength before xs = n
    have h := ((xs.take n).reverse_perm).append_right (xs.drop n)
    rw [List.take_append_drop] at h
    exact (perm_foldl_place before _ _).trans h
  · generalize runLength (fun b a ↦ !before b a) xs = n
    have h := perm_foldl_place before (xs.take n) (xs.drop n)
    rwa [List.take_append_drop] at h

variable {before}

theorem searchPlace_append {x : α} {u w : List α} (hu : ∀ y ∈ u, before x y = false)
    (hw : ∀ y ∈ w, before x y = true) {low high : ℕ} (hlow : low ≤ u.length)
    (hhigh : u.length ≤ high) (hlength : high ≤ (u ++ w).length) :
    searchPlace before x (u ++ w).toArray low high = u.length := by
  fun_induction searchPlace before x (u ++ w).toArray low high with
  | case1 low high hlt middle hnone =>
    rw [List.getElem?_toArray, List.getElem?_eq_none_iff] at hnone
    omega
  | case2 low high hlt middle y hy hbefore ih =>
    refine ih hlow ?_ (by omega)
    by_contra hmiddle
    rw [List.getElem?_toArray, List.getElem?_append_left (by omega)] at hy
    rw [hu y (List.mem_of_getElem? hy)] at hbefore
    cases hbefore
  | case3 low high hlt middle y hy hbefore ih =>
    refine ih ?_ hhigh hlength
    by_contra hmiddle
    rw [List.getElem?_toArray, List.getElem?_append_right (by omega)] at hy
    exact hbefore (hw y (List.mem_of_getElem? hy))
  | case4 low high hlt => omega

theorem place_append {x : α} {u w : List α} (hu : ∀ y ∈ u, before x y = false)
    (hw : ∀ y ∈ w, before x y = true) : place before (u ++ w) x = u ++ x :: w := by
  unfold place
  rw [searchPlace_append hu hw (Nat.zero_le _) (by simp) le_rfl]
  dsimp only
  rw [List.take_left, List.drop_left]

theorem isChain_take_runLength (step : α → α → Bool) (xs : List α) :
    (xs.take (runLength step xs)).IsChain fun a b ↦ step b a = true := by
  fun_induction runLength step xs with
  | case1 a b r h ih =>
    -- The run of the rest has its first item, so the step to that one joins on.
    obtain ⟨n, hn⟩ : ∃ n, runLength step (b :: r) = n + 1 := by
      cases r with
      | nil => exact ⟨0, rfl⟩
      | cons c r =>
        unfold runLength
        split
        · exact ⟨_, rfl⟩
        · exact ⟨0, rfl⟩
    rw [hn, List.take_succ_cons] at ih ⊢
    rw [List.take_succ_cons]
    exact .cons_cons h ih
  | case2 a b r h => exact .singleton a
  | case3 r h =>
    rw [List.take_length]
    match r with
    | [] => exact .nil
    | [a] => exact .singleton a
    | a :: b :: r => exact absurd rfl (h a b r)

/-- Where a test fails of all that follows an item of which it fails, it splits the list. -/
theorem exists_eq_append {p : α → Bool} {xs : List α}
    (h : xs.Pairwise fun x y ↦ p y = true → p x = true) :
    ∃ u w, xs = u ++ w ∧ (∀ y ∈ u, p y = true) ∧ ∀ y ∈ w, p y = false := by
  induction xs with
  | nil => exact ⟨[], [], rfl, by simp, by simp⟩
  | cons x xs ih =>
    obtain ⟨hx, hxs⟩ := List.pairwise_cons.1 h
    cases hp : p x with
    | false => exact ⟨[], x :: xs, rfl, by simp, List.forall_mem_cons.2 ⟨hp, fun y hy ↦
        Bool.eq_false_iff.2 fun hpy ↦ Bool.eq_false_iff.1 hp (hx y hy hpy)⟩⟩
    | true =>
      obtain ⟨u, w, rfl, hu, hw⟩ := ih hxs
      exact ⟨x :: u, w, rfl, List.forall_mem_cons.2 ⟨hp, hu⟩, hw⟩

theorem pairwise_take_runLength {step : α → α → Bool} {rank : α → κ} {R : κ → κ → Prop}
    [Trans R R R] {xs : List α} (h : ∀ x ∈ xs, ∀ y ∈ xs, step y x = true → R (rank x) (rank y)) :
    (xs.take (runLength step xs)).Pairwise fun x y ↦ R (rank x) (rank y) := by
  have hrun := (isChain_take_runLength step xs).imp_of_mem_imp fun x y hx hy ↦
    h x (List.mem_of_mem_take hx) y (List.mem_of_mem_take hy)
  exact List.pairwise_map.1 ((List.isChain_map rank).2 hrun).pairwise

variable [LinearOrder κ] {rank : α → κ} {x : α} {xs ys zs : List α}

def GoesBy (before : α → α → Bool) (rank : α → κ) (xs : List α) : Prop :=
  ∀ x ∈ xs, ∀ y ∈ xs, before x y = true ↔ rank x < rank y

/-- A list with the same items in the order of their ranks, those of each rank as they were. -/
structure StableSort (rank : α → κ) (ys xs : List α) : Prop where
  perm : ys.Perm xs
  sorted : ys.Pairwise fun x y ↦ rank x ≤ rank y
  stable : ∀ k, ys.filter (rank · = k) = xs.filter (rank · = k)

theorem StableSort.refl (h : xs.Pairwise fun x y ↦ rank x ≤ rank y) : StableSort rank xs xs :=
  ⟨.refl xs, h, fun _ ↦ rfl⟩

/-- No two items of a falling list have the same rank, so it may be turned round. -/
theorem StableSort.reverse (h : xs.Pairwise fun x y ↦ rank y < rank x) :
    StableSort rank xs.reverse xs where
  perm := xs.reverse_perm
  sorted := List.pairwise_reverse.2 (h.imp le_of_lt)
  stable k := by
    have hne : (xs.filter (rank · = k)).Pairwise fun _ _ ↦ False := by
      refine (h.filter _).imp_of_mem fun {x y} hx hy hlt ↦ ?_
      have hx := of_decide_eq_true (List.mem_filter.1 hx).2
      have hy := of_decide_eq_true (List.mem_filter.1 hy).2
      exact absurd hlt (by rw [hx, hy]; exact lt_irrefl k)
    rw [List.filter_reverse]
    match xs.filter (rank · = k), hne with
    | [], _ => rfl
    | [x], _ => rfl
    | x :: y :: _, hne => cases (List.pairwise_cons.1 hne).1 y (by simp)

theorem StableSort.place (h : StableSort rank ys xs) (hx : GoesBy before rank (xs ++ [x])) :
    StableSort rank (place before ys x) (xs ++ [x]) := by
  have hbefore {y : α} (hy : y ∈ ys) : before x y = true ↔ rank x < rank y :=
    hx x (by simp) y (by simp [h.perm.mem_iff.1 hy])
  -- The items up to the rank of `x` stand in front of the others.
  obtain ⟨u, w, rfl, hu, hw⟩ : ∃ u w, ys = u ++ w ∧ (∀ y ∈ u, rank y ≤ rank x) ∧
      ∀ y ∈ w, rank x < rank y := by
    obtain ⟨u, w, hys, hu, hw⟩ := exists_eq_append (p := fun y ↦ decide (rank y ≤ rank x))
      (h.sorted.imp fun hle hy ↦ decide_eq_true (hle.trans (of_decide_eq_true hy)))
    exact ⟨u, w, hys, fun y hy ↦ of_decide_eq_true (hu y hy),
      fun y hy ↦ lt_of_not_ge (of_decide_eq_false (hw y hy))⟩
  obtain ⟨hsu, hsw, hsuw⟩ := List.pairwise_append.1 h.sorted
  have hplace : Expr.place before (u ++ w) x = u ++ x :: w := by
    refine place_append (fun y hy ↦ ?_) fun y hy ↦ ?_
    · exact Bool.eq_false_iff.2 fun hb ↦
        (hu y hy).not_gt ((hbefore (List.mem_append_left w hy)).1 hb)
    · exact (hbefore (List.mem_append_right u hy)).2 (hw y hy)
  rw [hplace]
  refine ⟨?_, ?_, fun k ↦ ?_⟩
  · exact List.perm_middle.trans ((h.perm.cons x).trans (List.perm_append_singleton x xs).symm)
  · refine List.pairwise_append.2 ⟨hsu, List.pairwise_cons.2 ⟨fun y hy ↦ (hw y hy).le, hsw⟩, ?_⟩
    intro y hy z hz
    obtain rfl | hz := List.mem_cons.1 hz
    · exact hu y hy
    · exact hsuw y hy z hz
  · rw [List.filter_append, List.filter_append, ← h.stable k, List.filter_append, List.append_assoc]
    congr 1
    by_cases hk : rank x = k
    · have hnone : w.filter (rank · = k) = [] := by
        refine List.filter_eq_nil_iff.2 fun y hy hy' ↦ ?_
        exact (hw y hy).ne (hk.trans (of_decide_eq_true hy').symm)
      rw [List.filter_cons_of_pos (by simpa using hk), hnone]
      simp [hk]
    · rw [List.filter_cons_of_neg (by simpa using hk)]
      simp [hk]

theorem StableSort.foldl_place (h : StableSort rank ys xs) (hg : GoesBy before rank (xs ++ zs)) :
    StableSort rank (zs.foldl (Expr.place before) ys) (xs ++ zs) := by
  induction zs generalizing xs ys with
  | nil => simpa using h
  | cons z zs ih =>
    rw [List.append_cons] at hg ⊢
    refine ih (h.place fun x hx y hy ↦ ?_) hg
    exact hg x (List.mem_append_left _ hx) y (List.mem_append_left _ hy)

theorem stableSort_insertionSort (hg : GoesBy before rank xs) :
    StableSort rank (insertionSort before xs) xs := by
  have hsplit (n : ℕ) : GoesBy before rank (xs.take n ++ xs.drop n) := by
    rwa [List.take_append_drop]
  unfold insertionSort
  dsimp only
  split
  · have hfalls : (xs.take (runLength before xs)).Pairwise fun x y ↦ rank y < rank x :=
      pairwise_take_runLength (R := fun a b ↦ b < a) fun x hx y hy ↦ (hg y hy x hx).1
    have h := (StableSort.reverse hfalls).foldl_place (hsplit _)
    rwa [List.take_append_drop] at h
  · have hrises : (xs.take (runLength (fun b a ↦ !before b a) xs)).Pairwise fun x y ↦
        rank x ≤ rank y :=
      pairwise_take_runLength fun x hx y hy hb ↦ not_lt.1 fun hlt ↦ by
        rw [(hg y hy x hx).2 hlt] at hb
        cases hb
    have h := (StableSort.refl hrises).foldl_place (hsplit _)
    rwa [List.take_append_drop] at h

theorem StableSort.map {f : α → β} {rank' : β → κ} (h : StableSort rank ys xs)
    (hf : ∀ x ∈ xs, rank' (f x) = rank x) : StableSort rank' (ys.map f) (xs.map f) where
  perm := h.perm.map f
  sorted := List.pairwise_map.2 <| h.sorted.imp_of_mem fun hx hy hle ↦ by
    rwa [hf _ (h.perm.mem_iff.1 hx), hf _ (h.perm.mem_iff.1 hy)]
  stable k := by
    have hfilter {zs : List α} (hz : ∀ z ∈ zs, z ∈ xs) :
        (zs.map f).filter (rank' · = k) = (zs.filter (rank · = k)).map f := by
      rw [List.filter_map]
      refine congrArg _ (List.filter_congr fun z hz' ↦ ?_)
      simp only [Function.comp_apply, hf z (hz z hz')]
    rw [hfilter fun z ↦ h.perm.mem_iff.1, hfilter fun _ ↦ id, h.stable k]

end Insertion

/-- Fields have a common order: those that are there are all integers, or all texts. -/
inductive Uniform (fs : List Value) : Prop
  | integers : (∀ f ∈ fs, f.isNullish = true ∨ ∃ i, f = .int i) → Uniform fs
  | texts : (∀ f ∈ fs, f.isNullish = true ∨ ∃ s, f = .str s) → Uniform fs

inductive AtMost : Value → Value → Prop
  | int {i j : ℤ} : i ≤ j → AtMost (.int i) (.int j)
  | str {s t : String} : s ≤ t → AtMost (.str s) (.str t)

def sameField (f g : Value) : Bool :=
  if f.isNullish || g.isNullish then f.isNullish && g.isNullish else f.strictEqual g

/-- Missing fields have the lowest rank, and the others are ranked by their order. -/
structure Ranks {κ : Type} [LinearOrder κ] (rank : Value → WithBot κ) (fs : List Value) : Prop where
  lt_iff : ∀ f ∈ fs, ∀ g ∈ fs, compareFields true f g = .lt ↔ rank f < rank g
  gt_iff : ∀ f ∈ fs, ∀ g ∈ fs, compareFields true f g = .gt ↔ rank g < rank f
  same_iff : ∀ f ∈ fs, ∀ g ∈ fs, sameField f g = true ↔ rank f = rank g
  bot_iff : ∀ f ∈ fs, f.isNullish = true ↔ rank f = ⊥
  atMost : ∀ f ∈ fs, ∀ g ∈ fs, f.isNullish = false → rank f ≤ rank g → AtMost f g

section

variable {κ : Type} [LinearOrder κ] {fs : List Value}

/-- Fields that hold the members of an order are ranked by it. -/
theorem ranks_of_holds {hold : κ → Value} {rank : Value → WithBot κ}
    (hnull : ∀ f, f.isNullish = true → rank f = ⊥) (hhold : ∀ a, (hold a).isNullish = false)
    (hrank : ∀ a, rank (hold a) = a)
    (hlt : ∀ a b, Value.looseCompare (hold a) (hold b) = .lt ↔ a < b)
    (hgt : ∀ a b, Value.looseCompare (hold a) (hold b) = .gt ↔ b < a)
    (hequal : ∀ a b, (hold a).strictEqual (hold b) = true ↔ a = b)
    (hle : ∀ a b, a ≤ b → AtMost (hold a) (hold b))
    (h : ∀ f ∈ fs, f.isNullish = true ∨ ∃ a, f = hold a) : Ranks rank fs where
  lt_iff f hf g hg := by
    unfold compareFields
    obtain hf | ⟨a, rfl⟩ := h f hf <;> obtain hg | ⟨b, rfl⟩ := h g hg <;>
      simp [*, WithBot.coe_lt_coe]
  gt_iff f hf g hg := by
    unfold compareFields
    obtain hf | ⟨a, rfl⟩ := h f hf <;> obtain hg | ⟨b, rfl⟩ := h g hg <;>
      simp [*, WithBot.coe_lt_coe]
  same_iff f hf g hg := by
    unfold sameField
    obtain hf | ⟨a, rfl⟩ := h f hf <;> obtain hg | ⟨b, rfl⟩ := h g hg <;> simp [*]
  bot_iff f hf := by
    obtain hf | ⟨a, rfl⟩ := h f hf <;> simp [*]
  atMost f hf g hg hpresent hfg := by
    obtain hf | ⟨a, rfl⟩ := h f hf
    · rw [hf] at hpresent
      cases hpresent
    · obtain hg | ⟨b, rfl⟩ := h g hg
      · rw [hrank, hnull g hg] at hfg
        simp at hfg
      · rw [hrank, hrank, WithBot.coe_le_coe] at hfg
        exact hle a b hfg

theorem looseCompare_int (i j : ℤ) : Value.looseCompare (.int i) (.int j) = compare i j := by
  have h (op : Comparison) :
      Value.compareBy op (.int i) (.int j) = .ok (op.holds (compare i j)) := rfl
  unfold Value.looseCompare
  rw [h, h]
  cases compare i j <;> rfl

theorem looseCompare_str (s t : String) : Value.looseCompare (.str s) (.str t) = compare s t := by
  have h (op : Comparison) :
      Value.compareBy op (.str s) (.str t) = .ok (op.holds (compare s t)) := rfl
  unfold Value.looseCompare
  rw [h, h]
  cases compare s t <;> rfl

def intRank : Value → WithBot ℤ
  | .int i => i
  | _ => ⊥

def textRank : Value → WithBot String
  | .str s => s
  | _ => ⊥

theorem ranks_intRank (h : ∀ f ∈ fs, f.isNullish = true ∨ ∃ i, f = .int i) : Ranks intRank fs := by
  refine ranks_of_holds (fun f hf ↦ ?_) (fun _ ↦ rfl) (fun _ ↦ rfl) (fun i j ↦ ?_) (fun i j ↦ ?_)
    (fun i j ↦ ?_) (fun _ _ ↦ .int) h
  · cases f <;> first | rfl | cases hf
  · rw [looseCompare_int, compare_lt_iff_lt]
  · rw [looseCompare_int, compare_gt_iff_gt]
  · simp [Value.strictEqual, Value.isNumber, Value.equal, Value.toNum?, Num.equal, Num.compare?]

theorem ranks_textRank (h : ∀ f ∈ fs, f.isNullish = true ∨ ∃ s, f = .str s) :
    Ranks textRank fs := by
  refine ranks_of_holds (fun f hf ↦ ?_) (fun _ ↦ rfl) (fun _ ↦ rfl) (fun s t ↦ ?_) (fun s t ↦ ?_)
    (fun s t ↦ ?_) (fun _ _ ↦ .str) h
  · cases f <;> first | rfl | cases hf
  · rw [looseCompare_str, compare_lt_iff_lt]
  · rw [looseCompare_str, compare_gt_iff_gt]
  · simp [Value.strictEqual, Value.isNumber, Value.equal, Value.typeName]

end

def fieldOf (path : String) (v : Value) : Value :=
  (sortField (.str path) v).toOption.getD .undefined

def Rises (path : String) (vs : List Value) : Prop :=
  ∃ missing present, vs = missing ++ present ∧
    (∀ v ∈ missing, (fieldOf path v).isNullish = true) ∧
    (∀ v ∈ present, (fieldOf path v).isNullish = false) ∧
    present.Pairwise fun v w ↦ AtMost (fieldOf path v) (fieldOf path w)

def Falls (path : String) (vs : List Value) : Prop := Rises path vs.reverse

def tied (path : String) (v w : Value) : Bool := sameField (fieldOf path v) (fieldOf path w)

section

variable {path : String} {vs ws : List Value}

theorem sortField_eq {v f : Value} (h : sortField (.str path) v = .ok f) :
    sortField (.str path) v = .ok (fieldOf path v) := by
  unfold fieldOf
  rw [h]
  rfl

theorem mapM_sortField (h : ∀ v ∈ vs, ∃ f, sortField (.str path) v = .ok f) :
    vs.mapM (sortField (.str path)) = .ok (vs.map (fieldOf path)) := by
  induction vs with
  | nil => rfl
  | cons v vs ih =>
    obtain ⟨⟨f, hf⟩, hvs⟩ := List.forall_mem_cons.1 h
    rw [List.mapM_cons, sortField_eq hf, ih hvs]
    rfl

/-- A list of two items or more is sorted by the fields of all of them. -/
theorem withFields_eq (h : ∀ v ∈ vs, ∃ f, sortField (.str path) v = .ok f)
    (hlength : 2 ≤ vs.length) :
    withFields (.str path) vs = .ok (vs.map fun v ↦ (fieldOf path v, v)) := by
  match vs, hlength with
  | a :: b :: r, _ =>
    obtain ⟨⟨f, hf⟩, hbr⟩ := List.forall_mem_cons.1 h
    obtain ⟨⟨g, hg⟩, hr⟩ := List.forall_mem_cons.1 hbr
    have hzip : (r.map (fieldOf path)).zip r = r.map fun v ↦ (fieldOf path v, v) := by
      simpa only [List.map_id, id_eq] using List.zip_map' (l := r) (f := fieldOf path) (g := id)
    dsimp only [withFields]
    rw [sortField_eq hf, sortField_eq hg, mapM_sortField hr, List.map_cons, List.map_cons, ← hzip]
    rfl

/-- Whatever the fields are, sorting rearranges the items. Where they have ranks that the comparison
goes by, it is stable. -/
theorem exists_sort (mark : ℕ) (direction : Value)
    (h : ∀ v ∈ vs, ∃ f, sortField (.str path) v = .ok f) :
    ∃ ws, sort (.list mark vs) (.str path) direction = .ok (.ofList ws) ∧ ws.Perm vs ∧
      ∀ {κ : Type} [LinearOrder κ] (rank : Value → κ),
        (∀ f ∈ vs.map (fieldOf path), ∀ g ∈ vs.map (fieldOf path),
          compareFields (!direction.strictEqual (.str "desc")) f g = .lt ↔ rank f < rank g) →
        StableSort (fun v ↦ rank (fieldOf path v)) ws vs := by
  have hsort {pairs : List (Value × Value)} (hpairs : withFields (.str path) vs = .ok pairs) :
      sort (.list mark vs) (.str path) direction =
        .ok (.ofList ((insertionSort (fun p q ↦
          compareFields (!direction.strictEqual (.str "desc")) p.1 q.1 == .lt) pairs).map
            (·.2))) := by
    unfold sort
    dsimp only
    rw [hpairs]
    rfl
  generalize (!direction.strictEqual (.str "desc")) = ascending at hsort ⊢
  by_cases hlength : 2 ≤ vs.length
  · have hsnd : (vs.map fun v ↦ (fieldOf path v, v)).map (·.2) = vs := by
      rw [List.map_map]
      exact List.map_id vs
    refine ⟨_, hsort (withFields_eq h hlength), ?_, fun {κ} _ rank hrank ↦ ?_⟩
    · have hperm := (perm_insertionSort (fun p q : Value × Value ↦
        compareFields ascending p.1 q.1 == .lt) (vs.map fun v ↦ (fieldOf path v, v))).map (·.2)
      rwa [hsnd] at hperm
    · have hgoes : GoesBy (fun p q : Value × Value ↦ compareFields ascending p.1 q.1 == .lt)
          (fun p ↦ rank p.1) (vs.map fun v ↦ (fieldOf path v, v)) := fun p hp q hq ↦ by
        obtain ⟨v, hv, rfl⟩ := List.mem_map.1 hp
        obtain ⟨w, hw, rfl⟩ := List.mem_map.1 hq
        rw [beq_iff_eq]
        exact hrank _ (List.mem_map_of_mem hv) _ (List.mem_map_of_mem hw)
      have hmap : StableSort (fun v ↦ rank (fieldOf path v))
          (List.map (fun p : Value × Value ↦ p.2) _) (List.map (fun p : Value × Value ↦ p.2) _) :=
        (stableSort_insertionSort hgoes).map fun p hp ↦ by
          obtain ⟨v, hv, rfl⟩ := List.mem_map.1 hp
          rfl
      rwa [hsnd] at hmap
  · match vs, hlength with
    | [], _ => exact ⟨[], hsort rfl, .refl _, fun rank hrank ↦ .refl .nil⟩
    | [v], _ =>
      exact ⟨[v], hsort rfl, .refl _, fun rank hrank ↦ .refl (List.pairwise_singleton _ _)⟩
    | _ :: _ :: _, hlength => exact absurd (by simp) hlength

theorem strictEqual_str_iff {v : Value} {s : String} :
    v.strictEqual (.str s) = true ↔ v = .str s := by
  cases v with
  | view kind =>
    cases kind <;> simp [Value.strictEqual, Value.isNumber, Value.typeName]
  | stamp => simp [Value.strictEqual, Value.isNumber, Value.equal, Value.toNum?]
  | _ => simp [Value.strictEqual, Value.isNumber, Value.equal, Value.typeName]

/-- Items in the order of the ranks of their fields rise. -/
theorem rises_of_pairwise {κ : Type} [LinearOrder κ] {rank : Value → WithBot κ}
    (hrank : Ranks rank (ws.map (fieldOf path)))
    (h : ws.Pairwise fun v w ↦ rank (fieldOf path v) ≤ rank (fieldOf path w)) : Rises path ws := by
  have hmissing {v : Value} (hv : v ∈ ws) :
      (fieldOf path v).isNullish = true ↔ rank (fieldOf path v) = ⊥ :=
    hrank.bot_iff _ (List.mem_map_of_mem hv)
  obtain ⟨missing, present, rfl, hm, hp⟩ :=
    exists_eq_append (p := fun v ↦ (fieldOf path v).isNullish) <|
      h.imp_of_mem fun {v w} hv hw hle hnull ↦ by
        rw [hmissing hw] at hnull
        rwa [hmissing hv, ← le_bot_iff, ← hnull]
  refine ⟨missing, present, rfl, hm, hp, ?_⟩
  refine (List.pairwise_append.1 h).2.1.imp_of_mem fun {v w} hv hw hle ↦ ?_
  have hmem {v : Value} (hv : v ∈ present) :
      fieldOf path v ∈ (missing ++ present).map (fieldOf path) :=
    List.mem_map_of_mem (List.mem_append_right _ hv)
  exact hrank.atMost _ (hmem hv) _ (hmem hw) (hp v hv) hle

theorem Ranks.perm {κ : Type} [LinearOrder κ] {rank : Value → WithBot κ}
    (hrank : Ranks rank vs) (h : ws.Perm vs) : Ranks rank ws where
  lt_iff f hf g hg := hrank.lt_iff f (h.mem_iff.1 hf) g (h.mem_iff.1 hg)
  gt_iff f hf g hg := hrank.gt_iff f (h.mem_iff.1 hf) g (h.mem_iff.1 hg)
  same_iff f hf g hg := hrank.same_iff f (h.mem_iff.1 hf) g (h.mem_iff.1 hg)
  bot_iff f hf := hrank.bot_iff f (h.mem_iff.1 hf)
  atMost f hf g hg := hrank.atMost f (h.mem_iff.1 hf) g (h.mem_iff.1 hg)

/-- Sorting in either direction brings ranked fields into their order and keeps ties. -/
theorem order_of_ranks {κ : Type} [LinearOrder κ] {rank : Value → WithBot κ} {ascending : Bool}
    (hrank : Ranks rank (vs.map (fieldOf path)))
    (h : ∀ {κ : Type} [LinearOrder κ] (rank : Value → κ),
      (∀ f ∈ vs.map (fieldOf path), ∀ g ∈ vs.map (fieldOf path),
        compareFields ascending f g = .lt ↔ rank f < rank g) →
      StableSort (fun v ↦ rank (fieldOf path v)) ws vs) :
    (if ascending then Rises path ws else Falls path ws) ∧
      ∀ v ∈ vs, ws.filter (tied path v) = vs.filter (tied path v) := by
  have htied {κ' : Type} [LinearOrder κ'] {rank' : Value → κ'}
      (hs : StableSort (fun v ↦ rank' (fieldOf path v)) ws vs)
      (heq : ∀ f g, rank' f = rank' g ↔ rank f = rank g) :
      ∀ v ∈ vs, ws.filter (tied path v) = vs.filter (tied path v) := by
    intro v hv
    have hfilter {us : List Value} (hus : ∀ u ∈ us, u ∈ vs) : us.filter (tied path v) =
        us.filter fun u ↦ decide (rank' (fieldOf path u) = rank' (fieldOf path v)) := by
      refine List.filter_congr fun u hu ↦ ?_
      rw [Bool.eq_iff_iff, decide_eq_true_iff, heq, eq_comm (a := rank (fieldOf path u))]
      exact hrank.same_iff _ (List.mem_map_of_mem hv) _ (List.mem_map_of_mem (hus u hu))
    rw [hfilter fun u ↦ hs.perm.mem_iff.1, hfilter fun _ ↦ id]
    exact hs.stable _
  cases ascending with
  | true =>
    have hs := h rank hrank.lt_iff
    exact ⟨rises_of_pairwise (hrank.perm (hs.perm.map _)) hs.sorted, htied hs fun _ _ ↦ .rfl⟩
  | false =>
    -- Downwards the comparison is turned round, and so is the order of the ranks.
    have hs := h (fun f ↦ OrderDual.toDual (rank f)) fun f hf g hg ↦ by
      have hswap : compareFields false f g = (compareFields true f g).swap := rfl
      rw [hswap, Ordering.swap_eq_lt, hrank.gt_iff f hf g hg]
      rfl
    refine ⟨rises_of_pairwise (hrank.perm (((List.reverse_perm _).trans hs.perm).map _)) ?_,
      htied hs fun _ _ ↦ .rfl⟩
    exact List.pairwise_reverse.2 hs.sorted

/-- Where all fields can be looked up, sorting answers the items in another order. If the fields
that are there are all integers or all texts, they come out rising, or falling if the direction is
`desc`, with the missing ones at the low end, and items that are tied stay in their order. -/
theorem sort_stable (mark : ℕ) (vs : List Value) (path : String) (direction : Value)
    (h : ∀ v ∈ vs, ∃ f, sortField (.str path) v = .ok f) :
    ∃ ws, sort (.list mark vs) (.str path) direction = .ok (.ofList ws) ∧ ws.Perm vs ∧
      (Uniform (vs.map (fieldOf path)) →
        (direction ≠ .str "desc" → Rises path ws) ∧ (direction = .str "desc" → Falls path ws) ∧
        ∀ v ∈ vs, ws.filter (tied path v) = vs.filter (tied path v)) := by
  obtain ⟨ws, hsort, hperm, hstable⟩ := exists_sort mark direction h
  refine ⟨ws, hsort, hperm, fun huniform ↦ ?_⟩
  obtain ⟨hdirection, htied⟩ : (if !direction.strictEqual (.str "desc") then Rises path ws
      else Falls path ws) ∧ ∀ v ∈ vs, ws.filter (tied path v) = vs.filter (tied path v) := by
    cases huniform with
    | integers hint => exact order_of_ranks (ranks_intRank hint) hstable
    | texts htext => exact order_of_ranks (ranks_textRank htext) hstable
  refine ⟨fun hne ↦ ?_, fun heq ↦ ?_, htied⟩
  · rwa [Bool.eq_false_iff.2 (mt strictEqual_str_iff.1 hne)] at hdirection
  · rwa [strictEqual_str_iff.2 heq] at hdirection

end

def sailor (name : String) (rank : Value) : Value :=
  .ofEntries [(.str "name", .str name), (.str "rank", rank)]

def crew : List Value :=
  [sailor "Ada" (.int 2), sailor "Bo" .null, sailor "Cy" (.int 3), sailor "Di" (.int 2), .int 7,
    sailor "Ed" (.int (-1))]

def crewFalling : List Value :=
  [sailor "Cy" (.int 3), sailor "Ada" (.int 2), sailor "Di" (.int 2), sailor "Ed" (.int (-1)),
    sailor "Bo" .null, .int 7]

theorem sort_stable_crew :
    (∀ v ∈ crew, ∃ f, sortField (.str "rank") v = .ok f) ∧ Uniform (crew.map (fieldOf "rank")) ∧
      sort (.list 1 crew) (.str "rank") (.str "desc") = .ok (.ofList crewFalling) ∧
      crewFalling.Perm crew ∧ Falls "rank" crewFalling ∧
      ∀ v ∈ crew, crewFalling.filter (tied "rank" v) = crew.filter (tied "rank" v) := by
  have hfields : ∀ v ∈ crew, ∃ f, sortField (.str "rank") v = .ok f := by
    simp only [crew, List.mem_cons, List.not_mem_nil, or_false]
    rintro v (rfl | rfl | rfl | rfl | rfl | rfl) <;> exact ⟨_, rfl⟩
  have huniform : Uniform (crew.map (fieldOf "rank")) := by
    have hranks : crew.map (fieldOf "rank") =
        [.int 2, .null, .int 3, .int 2, .undefined, .int (-1)] := rfl
    rw [hranks]
    exact .integers (by simp [Value.isNullish])
  have hsort : sort (.list 1 crew) (.str "rank") (.str "desc") = .ok (.ofList crewFalling) := by cbv
  obtain ⟨ws, hws, hperm, horder⟩ := sort_stable 1 crew "rank" (.str "desc") hfields
  obtain rfl : crewFalling = ws := by
    rw [hsort] at hws
    injection hws with hws
    injection hws
  obtain ⟨-, hfalls, htied⟩ := horder huniform
  exact ⟨hfields, huniform, hsort, hperm, hfalls rfl, htied⟩

end Flowgraph.Expr
