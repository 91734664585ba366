import Flowgraph.Expr.Eval
import Flowgraph.Proofs.Expr.Filtering
import Flowgraph.Proofs.Expr.Sorting
import Flowgraph.Proofs.Value.Unmarked

namespace Flowgraph.Expr

open Value (unmarked unmarkedItems unmarkedEntries)

/-- Steps commute with changes of what they take and give, if each of them does. -/
theorem map_bind_of_forall {ε α α' β β' : Type} {r : Except ε α} {f : α → Except ε β}
    {f' : α' → Except ε β'} {g : α → α'} {h : β → β'} (hf : ∀ a, h <$> f a = f' (g a)) :
    h <$> (r >>= f) = (g <$> r) >>= f' := by
  cases r with
  | error e => rfl
  | ok a => exact hf a

theorem map_mapError {ε ε' α β : Type} (r : Except ε α) (g : ε → ε') (h : α → β) :
    h <$> r.mapError g = (h <$> r).mapError g := by
  cases r <;> rfl

section

variable (v w property : Value) (vs : List Value) (es query tests : List (Key × Value))

theorem first_unmarked : first v.unmarked = (first v).unmarked := by
  cases v with
  | list m vs => cases vs <;> rfl
  | _ => rfl

theorem last_unmarked : last v.unmarked = (last v).unmarked := by
  cases v with
  | list m vs =>
    simp only [unmarked, last, Value.unmarkedItems_eq_map, List.getLast?_map]
    cases vs.getLast? <;> rfl
  | _ => rfl

theorem matchesFields_unmarked :
    matchesFields (unmarkedEntries es) v.unmarked = matchesFields es v := by
  cases v with
  | mapping m fs =>
    simp only [unmarked, matchesFields, Value.unmarkedEntries_eq_map es, List.all_map,
      Function.comp_def, Value.get_unmarkedEntries, Value.strictEqual_unmarked]
  | _ => rfl

theorem matchesScalar_unmarked :
    matchesScalar w.unmarked property.unmarked v.unmarked = matchesScalar w property v := by
  have hequal := Value.strictEqual_unmarked v w
  cases v with
  | mapping m es =>
    cases property <;>
      simp only [unmarked, matchesScalar, Value.get_unmarkedEntries, Value.strictEqual_unmarked]
  | str | int | float => exact hequal
  | _ => rfl

theorem findMatches_unmarked :
    findMatches w.unmarked property.unmarked v.unmarked = findMatches w property v := by
  have hscalar := matchesScalar_unmarked v w property
  cases w with
  | mapping m es => exact matchesFields_unmarked v es
  | list | null | undefined => rfl
  | _ => exact hscalar

theorem find_unmarked :
    find v.unmarked w.unmarked property.unmarked = (find v w property).unmarked := by
  cases v with
  | list m vs =>
    simp only [unmarked, find, Value.unmarkedItems_eq_map, List.find?_map, Function.comp_def,
      findMatches_unmarked]
    cases vs.find? (findMatches w property) <;> rfl
  | _ => rfl

theorem holds_unmarked (o : FilterOperator) : o.holds v.unmarked w.unmarked = o.holds v w := by
  cases o with
  | order op => exact Value.safeCompare_unmarked op v w
  | equal => exact Value.strictEqual_unmarked v w
  | unequal => exact congrArg (!·) (Value.strictEqual_unmarked v w)

theorem passesTests_unmarked :
    passesTests v.unmarked (unmarkedEntries tests) = passesTests v tests := by
  induction tests with
  | nil => rfl
  | cons test tests ih =>
    obtain ⟨op, w⟩ := test
    rw [unmarkedEntries, passesTests, passesTests]
    cases FilterOperator.ofKey? op with
    | none => rfl
    | some o =>
      dsimp only
      rw [holds_unmarked, ih]

theorem lookUp_unmarked : lookUp v.unmarked w.unmarked = unmarked <$> lookUp v w := by
  cases w with
  | str p =>
    simp only [unmarked, lookUp, Value.getPath_unmarked, map_mapError]
  | view kind => cases kind <;> rfl
  | _ => rfl

theorem passesEntry_unmarked (path : Key) (condition : Value) :
    passesEntry v.unmarked (path, condition.unmarked) = passesEntry v (path, condition) := by
  have hfield := lookUp_unmarked v path.toValue
  rw [Value.unmarked_toValue] at hfield
  simp only [passesEntry, hfield]
  cases lookUp v path.toValue with
  | error c => rfl
  | ok field =>
    cases condition with
    | mapping m tests => exact passesTests_unmarked field tests
    | _ => exact congrArg Except.ok (Value.strictEqual_unmarked field _)

theorem passes_unmarked : passes v.unmarked (unmarkedEntries query) = passes v query := by
  induction query with
  | nil => rfl
  | cons entry query ih =>
    cases v with
    | mapping m es =>
      have hunmarked : IsMapping (Value.mapping m es).unmarked := ⟨_, _, rfl⟩
      rw [unmarkedEntries, passes_cons hunmarked, passes_cons ⟨_, _, rfl⟩, passesEntry_unmarked, ih]
    | _ => rfl

theorem passing_unmarked :
    passing (unmarkedEntries query) (unmarkedItems vs) = unmarkedItems <$> passing query vs := by
  induction vs with
  | nil => rfl
  | cons v vs ih =>
    rw [unmarkedItems, passing, passing, passes_unmarked, ih]
    cases passes v query with
    | error e => rfl
    | ok holds =>
      cases passing query vs with
      | error e => rfl
      | ok rest => cases holds <;> rfl

theorem filter_unmarked : filter v.unmarked w.unmarked = unmarked <$> filter v w := by
  have htype : (.error (.queryType w.unmarked.typeName) : Except QueryFault Value) =
      .error (.queryType w.typeName) := by rw [Value.typeName_unmarked]
  cases v with
  | list m vs =>
    cases w with
    | mapping n query =>
      simp only [unmarked, filter, passing_unmarked]
      cases passing query vs <;> rfl
    | _ => exact htype
  | _ => rfl

end

section

variable {α β : Type} {before : α → α → Bool} {before' : β → β → Bool} {f : α → β}

theorem runLength_map {step : α → α → Bool} {step' : β → β → Bool}
    (h : ∀ a b, step' (f a) (f b) = step a b) (xs : List α) :
    runLength step' (xs.map f) = runLength step xs := by
  fun_induction runLength step xs with
  | case1 a b r hstep ih =>
    rw [List.map_cons, List.map_cons, runLength, if_pos ((h b a).trans hstep)]
    exact congrArg (· + 1) ih
  | case2 a b r hstep =>
    rw [List.map_cons, List.map_cons, runLength, if_neg (mt (h b a).symm.trans hstep)]
  | case3 r hr =>
    rcases r with _ | ⟨a, _ | ⟨b, r⟩⟩
    · rfl
    · rfl
    · exact absurd rfl (hr a b r)

theorem searchPlace_map (h : ∀ a b, before' (f a) (f b) = before a b) (x : α) (sorted : Array α)
    (low high : ℕ) : searchPlace before' (f x) (sorted.map f) low high =
      searchPlace before x sorted low high := by
  fun_induction searchPlace before x sorted low high with
  | case1 low high hlt middle hnone =>
    rw [searchPlace, dif_pos hlt]
    simp only [Array.getElem?_map, show sorted[low + (high - low) / 2]? = none from hnone]
    rfl
  | case2 low high hlt middle y hy hbefore ih =>
    rw [searchPlace, dif_pos hlt]
    simp only [Array.getElem?_map, show sorted[low + (high - low) / 2]? = some y from hy,
      Option.map_some, h, hbefore]
    exact ih
  | case3 low high hlt middle y hy hbefore ih =>
    rw [searchPlace, dif_pos hlt]
    simp only [Array.getElem?_map, show sorted[low + (high - low) / 2]? = some y from hy,
      Option.map_some, h, hbefore]
    exact ih
  | case4 low high hlt =>
    rw [searchPlace, dif_neg hlt]

theorem place_map (h : ∀ a b, before' (f a) (f b) = before a b) (sorted : List α) (x : α) :
    place before' (sorted.map f) (f x) = (place before sorted x).map f := by
  simp only [place, List.length_map, ← List.map_toArray, searchPlace_map h, List.map_append,
    List.map_cons, List.map_take, List.map_drop]

theorem foldl_place_map (h : ∀ a b, before' (f a) (f b) = before a b) (sorted xs : List α) :
    (xs.map f).foldl (place before') (sorted.map f) = (xs.foldl (place before) sorted).map f := by
  induction xs generalizing sorted with
  | nil => rfl
  | cons x xs ih => rw [List.map_cons, List.foldl_cons, List.foldl_cons, place_map h, ih]

theorem insertionSort_map (h : ∀ a b, before' (f a) (f b) = before a b) (xs : List α) :
    insertionSort before' (xs.map f) = (insertionSort before xs).map f := by
  have hkeeps : runLength (fun b a ↦ !before' b a) (xs.map f) =
      runLength (fun b a ↦ !before b a) xs :=
    runLength_map (fun a b ↦ congrArg (!·) (h a b)) xs
  simp only [insertionSort, runLength_map h, hkeeps, ← List.map_take, ← List.map_drop,
    ← List.map_reverse, foldl_place_map h]
  split_ifs <;> rfl

end

section

variable (v w property path direction : Value) (vs : List Value)

theorem compareFields_unmarked (ascending : Bool) :
    compareFields ascending v.unmarked w.unmarked = compareFields ascending v w := by
  simp only [compareFields, Value.isNullish_unmarked, Value.looseCompare_unmarked]

theorem sortField_unmarked :
    sortField path.unmarked v.unmarked = unmarked <$> sortField path v := by
  have hfield := lookUp_unmarked v path
  cases v with
  | mapping | list => exact hfield
  | _ => rfl

theorem mapM_sortField_unmarked : (unmarkedItems vs).mapM (sortField path.unmarked) =
    unmarkedItems <$> vs.mapM (sortField path) := by
  induction vs with
  | nil => rfl
  | cons v vs ih =>
    rw [unmarkedItems, List.mapM_cons, List.mapM_cons, sortField_unmarked, ih]
    cases sortField path v with
    | error c => rfl
    | ok f => cases vs.mapM (sortField path) <;> rfl

abbrev unmarkedPair (p : Value × Value) : Value × Value := (p.1.unmarked, p.2.unmarked)

theorem withFields_unmarked : withFields path.unmarked (unmarkedItems vs) =
    List.map unmarkedPair <$> withFields path vs := by
  match vs with
  | [] | [_] => rfl
  | a :: b :: r =>
    simp only [unmarkedItems, withFields, sortField_unmarked, mapM_sortField_unmarked]
    cases sortField path b with
    | error c => rfl
    | ok g =>
      cases sortField path a with
      | error c => rfl
      | ok f =>
        cases r.mapM (sortField path) with
        | error c => rfl
        | ok fs =>
          have hzip : (unmarkedItems fs).zip (unmarkedItems r) = (fs.zip r).map unmarkedPair := by
            rw [Value.unmarkedItems_eq_map, Value.unmarkedItems_eq_map, List.zip_map]
            rfl
          exact congrArg (fun ps ↦ Except.ok (_ :: _ :: ps)) hzip

theorem sort_unmarked :
    sort v.unmarked path.unmarked direction.unmarked = unmarked <$> sort v path direction := by
  cases v with
  | list m vs =>
    have hdescends : direction.unmarked.strictEqual (.str "desc") =
        direction.strictEqual (.str "desc") := Value.strictEqual_unmarked direction (.str "desc")
    have hbefore : ∀ p q : Value × Value,
        (compareFields (!direction.strictEqual (.str "desc")) p.1.unmarked q.1.unmarked == .lt) =
          (compareFields (!direction.strictEqual (.str "desc")) p.1 q.1 == .lt) :=
      fun p q ↦ congrArg (· == .lt) (compareFields_unmarked _ _ _)
    simp only [unmarked, sort, withFields_unmarked, hdescends]
    cases withFields path vs with
    | error c => rfl
    | ok pairs =>
      refine congrArg Except.ok ?_
      rw [insertionSort_map (f := unmarkedPair) hbefore, List.map_map]
      simp [Value.ofList, unmarked, Value.unmarkedItems_eq_map, List.map_map, Function.comp_def]
  | _ => rfl

theorem better_unmarked (x : Extremum) :
    x.better v.unmarked w.unmarked = unmarked <$> x.better v w := by
  rw [Extremum.better, Value.compareBy_unmarked, Extremum.better]
  cases Value.compareBy x.test w v with
  | error u => rfl
  | ok wins => cases wins <;> rfl

theorem foldlM_better_unmarked (x : Extremum) : (unmarkedItems vs).foldlM x.better v.unmarked =
    unmarked <$> vs.foldlM x.better v := by
  induction vs generalizing v with
  | nil => rfl
  | cons w vs ih =>
    rw [unmarkedItems, List.foldlM_cons, List.foldlM_cons, better_unmarked]
    exact (map_bind_of_forall fun u ↦ (ih u).symm).symm

theorem apply_extremum_unmarked (x : Extremum) :
    x.apply (unmarkedItems vs) = unmarked <$> x.apply vs := by
  cases vs with
  | nil => rfl
  | cons v vs => exact foldlM_better_unmarked v vs x

theorem apply_unmarked (f : PathFunction) :
    f.apply (unmarkedItems vs) = unmarked <$> f.apply vs := by
  have hlength : (unmarkedItems vs).length = vs.length := by
    rw [Value.unmarkedItems_eq_map, List.length_map]
  simp only [PathFunction.apply, hlength, Value.getD_unmarkedItems vs _ (u := .undefined) rfl,
    Value.getD_unmarkedItems vs _ (u := .str "asc") rfl]
  split_ifs
  · rfl
  · cases f with
    | find => exact congrArg Except.ok (find_unmarked _ _ _)
    | filter => exact filter_unmarked _ _
    | sort =>
      dsimp only
      rw [sort_unmarked, map_mapError]
    | first => exact congrArg Except.ok (first_unmarked _)
    | last => exact congrArg Except.ok (last_unmarked _)

theorem memberOf_unmarked (name : String) :
    memberOf v.unmarked name = (memberOf v name).unmarked := by
  have hfirst := first_unmarked v
  have hlast := last_unmarked v
  cases v with
  | list m vs =>
    unfold memberOf
    dsimp only [unmarked]
    split
    · exact hfirst
    · exact hlast
    · rw [Value.unmarkedItems_eq_map, List.length_map]
      rfl
    · rfl
  | mapping m es => exact Value.get_unmarkedEntries es _
  | str s =>
    dsimp only [memberOf, unmarked]
    split_ifs <;> rfl
  | _ => rfl

theorem position?_unmarked : position? v.unmarked = position? v := by cases v <;> rfl

theorem indexOf_unmarked : indexOf v.unmarked w.unmarked = unmarked <$> indexOf v w := by
  cases v with
  | list m vs =>
    simp only [unmarked, indexOf, position?_unmarked]
    cases position? w with
    | none => rfl
    | some i =>
      dsimp only
      split_ifs
      · exact congrArg Except.ok (Value.getD_unmarkedItems vs _ rfl)
      · rfl
  | mapping m es =>
    cases w with
    | str s => exact congrArg Except.ok (Value.get_unmarkedEntries es _)
    | int | float =>
      simp only [unmarked, indexOf, Value.get_unmarkedEntries]
      generalize Value.display _ = shown
      cases shown <;> rfl
    | _ => rfl
  | _ => rfl

end

end Flowgraph.Expr
