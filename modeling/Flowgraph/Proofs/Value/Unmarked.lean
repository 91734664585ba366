import Flowgraph.Proofs.Value.Equality
import Flowgraph.Value.Mark
import Flowgraph.Value.Order
import Flowgraph.Value.Path
import Mathlib.Tactic.Common

namespace Flowgraph

namespace Value

mutual

def unmarked : Value → Value
  | .tuple vs => .tuple (unmarkedItems vs)
  | .list _ vs => .list 0 (unmarkedItems vs)
  | .mapping _ es => .mapping 0 (unmarkedEntries es)
  | .view kind m es => .view kind m (unmarkedEntries es)
  | .set _ ks => .set 0 ks
  | v => v
termination_by structural v => v

def unmarkedItems : List Value → List Value
  | [] => []
  | v :: vs => v.unmarked :: unmarkedItems vs
termination_by structural vs => vs

def unmarkedEntries : List (Key × Value) → List (Key × Value)
  | [] => []
  | (k, v) :: es => (k, v.unmarked) :: unmarkedEntries es
termination_by structural es => es

end

theorem unmarkedItems_eq_map (vs : List Value) : unmarkedItems vs = vs.map unmarked := by
  induction vs with
  | nil => rfl
  | cons v vs ih => exact congrArg _ ih

theorem unmarkedEntries_eq_map (es : Entries) :
    unmarkedEntries es = es.map fun e ↦ (e.1, e.2.unmarked) := by
  induction es with
  | nil => rfl
  | cons e es ih => exact congrArg _ ih

section

variable {v w : Value} {vs ws : List Value} {es fs : Entries}

@[simp] theorem length_unmarkedEntries (es : Entries) :
    (unmarkedEntries es).length = es.length := by
  rw [unmarkedEntries_eq_map, List.length_map]

theorem keys_unmarkedEntries (es : Entries) : (unmarkedEntries es).map (·.1) = es.map (·.1) := by
  rw [unmarkedEntries_eq_map, List.map_map]
  rfl

theorem get?_unmarkedEntries (es : Entries) (k : Key) :
    Entries.get? (unmarkedEntries es) k = (Entries.get? es k).map unmarked := by
  rw [unmarkedEntries_eq_map, Entries.get?, List.find?_map, Entries.get?, Option.map_map,
    Option.map_map]
  rfl

theorem get_unmarkedEntries (es : Entries) (k : Key) :
    Entries.get (unmarkedEntries es) k = (Entries.get es k).unmarked := by
  rw [Entries.get, get?_unmarkedEntries, Entries.get]
  cases Entries.get? es k <;> rfl

theorem insert_unmarkedEntries (es : Entries) (k : Key) (v : Value) :
    Entries.insert (unmarkedEntries es) k v.unmarked = unmarkedEntries (Entries.insert es k v) := by
  induction es with
  | nil => rfl
  | cons e es ih =>
    rw [unmarkedEntries, Entries.insert, Entries.insert]
    split_ifs
    · rfl
    · exact congrArg _ ih

theorem insertAll_unmarkedEntries (es fs : Entries) :
    Entries.insertAll (unmarkedEntries es) (unmarkedEntries fs) =
      unmarkedEntries (Entries.insertAll es fs) := by
  induction fs generalizing es with
  | nil => rfl
  | cons f fs ih =>
    exact (congrArg (Entries.insertAll · _) (insert_unmarkedEntries es _ _)).trans (ih _)

theorem ofList_unmarkedEntries (es : Entries) :
    Entries.ofList (unmarkedEntries es) = unmarkedEntries (Entries.ofList es) :=
  insertAll_unmarkedEntries [] es

@[simp] theorem isNullish_unmarked (v : Value) : v.unmarked.isNullish = v.isNullish := by
  cases v <;> rfl

@[simp] theorem toNum?_unmarked (v : Value) : v.unmarked.toNum? = v.toNum? := by cases v <;> rfl

@[simp] theorem typeName_unmarked (v : Value) : v.unmarked.typeName = v.typeName := by
  cases v with
  | view kind => cases kind <;> rfl
  | _ => rfl

@[simp] theorem kindName_unmarked (v : Value) : v.unmarked.kindName = v.kindName := by
  cases v with
  | view kind => cases kind <;> rfl
  | _ => rfl

mutual

theorem unmarked_toValue : ∀ k : Key, k.toValue.unmarked = k.toValue
  | .undefined | .null | .bool _ | .int _ | .float _ | .str _ | .bytes _ | .stamp _ => rfl
  | .tuple ks => congrArg _ (unmarkedItems_toValues ks)

theorem unmarkedItems_toValues : ∀ ks : List Key,
    unmarkedItems (Key.toValues ks) = Key.toValues ks
  | [] => rfl
  | k :: ks => congrArg₂ _ (unmarked_toValue k) (unmarkedItems_toValues ks)

end

theorem viewItems_unmarkedEntries (kind : ViewKind) (es : Entries) :
    viewItems kind (unmarkedEntries es) = unmarkedItems (viewItems kind es) := by
  rw [unmarkedEntries_eq_map, unmarkedItems_eq_map]
  cases kind <;> simp [viewItems, unmarked, unmarkedItems, unmarked_toValue]

theorem members?_unmarked (v : Value) : v.unmarked.members? = v.members?.map unmarkedItems := by
  cases v with
  | set m ks => exact congrArg some (unmarkedItems_toValues ks).symm
  | view kind m es =>
    cases kind with
    | values => rfl
    | keys | items => exact congrArg some (viewItems_unmarkedEntries _ es)
  | _ => rfl

theorem contains_unmarkedEntries (es : Entries) (k : Key) :
    Entries.contains (unmarkedEntries es) k = Entries.contains es k := by
  rw [unmarkedEntries_eq_map, Entries.contains, List.any_map]
  rfl

theorem all_unmarkedEntries (p : Key → Bool) (es : Entries) :
    ((unmarkedEntries es).all fun e ↦ p e.1) = es.all fun e ↦ p e.1 := by
  rw [unmarkedEntries_eq_map, List.all_map]
  rfl

mutual

theorem equal_unmarked (v w : Value) : equal v.unmarked w.unmarked = equal v w := by
  match v with
  | .tuple vs =>
    cases w with
    | tuple ws => exact equalItems_unmarked vs ws
    | _ => rfl
  | .list m vs =>
    cases w with
    | list n ws => exact equalItems_unmarked vs ws
    | _ => rfl
  | .mapping m es =>
    cases w with
    | mapping n fs =>
      simp only [unmarked, equal, length_unmarkedEntries, equalEntries_unmarked es fs]
    | _ => rfl
  | .view .values m es =>
    cases w with
    | view kind => cases kind <;> rfl
    | _ => rfl
  | .view .keys m es =>
    cases w with
    | set m ls =>
      simp only [unmarked, equal, length_unmarkedEntries, all_unmarkedEntries fun k ↦ ls.any k.same]
    | view kind n fs =>
      cases kind with
      | keys =>
        simp only [unmarked, equal, length_unmarkedEntries, contains_unmarkedEntries,
          all_unmarkedEntries (Entries.contains fs)]
      | _ => rfl
    | _ => rfl
  | .view .items m es =>
    cases w with
    | view kind n fs =>
      cases kind with
      | items => simp only [unmarked, equal, length_unmarkedEntries, equalEntries_unmarked es fs]
      | _ => rfl
    | _ => rfl
  | .undefined | .null | .bool _ | .int _ | .float _ | .str _ | .bytes _ | .stamp _ | .set .. =>
    cases w <;> rfl
termination_by structural v

theorem equalItems_unmarked (vs ws : List Value) :
    equalItems (unmarkedItems vs) (unmarkedItems ws) = equalItems vs ws := by
  match vs with
  | [] => cases ws <;> rfl
  | v :: vs =>
    cases ws with
    | nil => rfl
    | cons w ws =>
      rw [unmarkedItems, unmarkedItems, equalItems, equal_unmarked v w, equalItems_unmarked vs ws]
      rfl
termination_by structural vs

theorem equalEntries_unmarked (es : List (Key × Value)) (fs : Entries) :
    equalEntries (unmarkedEntries es) (unmarkedEntries fs) = equalEntries es fs := by
  match es with
  | [] => rfl
  | (k, v) :: es =>
    rw [unmarkedEntries, equalEntries, equalEntries, equalEntries_unmarked es fs,
      get?_unmarkedEntries]
    cases Entries.get? fs k with
    | none => rfl
    | some w => exact congrArg (· && _) (equal_unmarked v w)
termination_by structural es

end

theorem strictEqual_unmarked (v w : Value) :
    v.unmarked.strictEqual w.unmarked = v.strictEqual w := by
  have htyped : (v.unmarked.typeName == w.unmarked.typeName && equal v.unmarked w.unmarked) =
      (v.typeName == w.typeName && equal v w) := by
    rw [typeName_unmarked, typeName_unmarked, equal_unmarked]
  cases v <;> cases w <;> first | rfl | exact htyped

theorem subset_unmarked (vs ws : List Value) :
    subset (unmarkedItems vs) (unmarkedItems ws) = subset vs ws := by
  simp only [subset, unmarkedItems_eq_map, List.all_map, List.any_map, Function.comp_def,
    equal_unmarked]

theorem compareMembers_unmarked (op : Comparison) (vs ws : List Value) :
    compareMembers op (unmarkedItems vs) (unmarkedItems ws) = compareMembers op vs ws := by
  cases op <;> simp only [compareMembers, subset_unmarked] <;>
    simp only [unmarkedItems_eq_map, List.length_map]

/-- How values compare that are neither texts, octets, dates, lists nor tuples. -/
theorem compareBy_other_unmarked (op : Comparison) (v w : Value) :
    (match v.unmarked.toNum?, w.unmarked.toNum?, v.unmarked.members?, w.unmarked.members? with
      | some a, some b, _, _ => .ok ((a.compare? b).any op.holds)
      | _, _, some vs, some ws => .ok (compareMembers op vs ws)
      | _, _, _, _ => .error (.types op v.unmarked.typeName w.unmarked.typeName)) =
    (match v.toNum?, w.toNum?, v.members?, w.members? with
      | some a, some b, _, _ => .ok ((a.compare? b).any op.holds)
      | _, _, some vs, some ws => .ok (compareMembers op vs ws)
      | _, _, _, _ => .error (.types op v.typeName w.typeName) : Except Unordered Bool) := by
  simp only [toNum?_unmarked, members?_unmarked, typeName_unmarked]
  cases v.toNum? <;> cases w.toNum? <;> cases v.members? <;> cases w.members? <;>
    first | rfl | exact congrArg Except.ok (compareMembers_unmarked op _ _)

mutual

theorem compareBy_unmarked (op : Comparison) (v w : Value) :
    compareBy op v.unmarked w.unmarked = compareBy op v w := by
  have hother := compareBy_other_unmarked op v w
  match v with
  | .tuple vs =>
    cases w with
    | tuple ws => exact compareItems_unmarked op vs ws
    | _ => exact hother
  | .list m vs =>
    cases w with
    | list n ws => exact compareItems_unmarked op vs ws
    | _ => exact hother
  | .str _ | .bytes _ | .stamp _ => cases w <;> first | rfl | exact hother
  | .undefined | .null | .bool _ | .int _ | .float _ | .set .. | .mapping .. | .view .. =>
    cases w <;> exact hother
termination_by structural v

theorem compareItems_unmarked (op : Comparison) (vs ws : List Value) :
    compareItems op (unmarkedItems vs) (unmarkedItems ws) = compareItems op vs ws := by
  match vs with
  | [] => cases ws <;> rfl
  | v :: vs =>
    cases ws with
    | nil => rfl
    | cons w ws =>
      rw [unmarkedItems, unmarkedItems, compareItems, compareItems, equal_unmarked,
        compareBy_unmarked op v w, compareItems_unmarked op vs ws]
termination_by structural vs

end

theorem safeCompare_unmarked (op : Comparison) (v w : Value) :
    safeCompare op v.unmarked w.unmarked = safeCompare op v w := by
  simp only [safeCompare, isNullish_unmarked, compareBy_unmarked]

theorem looseCompare_unmarked (v w : Value) :
    looseCompare v.unmarked w.unmarked = looseCompare v w := by
  simp only [looseCompare, compareBy_unmarked]

theorem getD_unmarkedItems (vs : List Value) (i : ℕ) {u : Value} (hu : u.unmarked = u) :
    (unmarkedItems vs).getD i u = (vs.getD i u).unmarked := by
  rw [unmarkedItems_eq_map, List.getD_eq_getElem?_getD, List.getD_eq_getElem?_getD,
    List.getElem?_map]
  cases vs[i]? with
  | none => exact hu.symm
  | some v => rfl

theorem step_unmarked (v : Value) (segment : List Char) :
    v.unmarked.step segment = unmarked <$> v.step segment := by
  cases v with
  | list m vs =>
    simp only [unmarked, step, getD_unmarkedItems vs _ (u := .undefined) rfl]
    split_ifs
    · cases segmentIndex segment <;> rfl
    · rfl
  | mapping m es => exact congrArg Except.ok (get_unmarkedEntries es _)
  | _ => rfl

theorem getPath_unmarked (v : Value) (path : String) :
    v.unmarked.getPath path = unmarked <$> v.getPath path := by
  unfold getPath
  induction Text.splitAt '.' path.toList generalizing v with
  | nil => rfl
  | cons segment segments ih =>
    rw [List.foldlM_cons, List.foldlM_cons, step_unmarked]
    cases v.step segment with
    | error f => rfl
    | ok w => exact ih w

end

mutual

theorem unmarked_adopt (next : ℕ) (v : Value) : (v.adopt next).1.unmarked = v.unmarked := by
  match v with
  | .tuple vs => exact congrArg tuple (unmarkedItems_adoptItems next vs)
  | .list 0 vs => exact congrArg (list 0) (unmarkedItems_adoptItems (next + 1) vs)
  | .list (m + 1) vs => exact congrArg (list 0) (unmarkedItems_adoptItems next vs)
  | .mapping 0 es => exact congrArg (mapping 0) (unmarkedEntries_adoptEntries (next + 1) es)
  | .mapping (m + 1) es => exact congrArg (mapping 0) (unmarkedEntries_adoptEntries next es)
  | .view kind m es => exact congrArg (view kind m) (unmarkedEntries_adoptEntries next es)
  | .set 0 ks | .set (m + 1) ks => rfl
  | .undefined | .null | .bool _ | .int _ | .float _ | .str _ | .bytes _ | .stamp _ => rfl
termination_by structural v

theorem unmarkedItems_adoptItems (next : ℕ) (vs : List Value) :
    unmarkedItems (adoptItems next vs).1 = unmarkedItems vs := by
  match vs with
  | [] => rfl
  | v :: vs => exact congrArg₂ _ (unmarked_adopt next v) (unmarkedItems_adoptItems _ vs)
termination_by structural vs

theorem unmarkedEntries_adoptEntries (next : ℕ) (es : List (Key × Value)) :
    unmarkedEntries (adoptEntries next es).1 = unmarkedEntries es := by
  match es with
  | [] => rfl
  | (k, v) :: es =>
    exact congrArg₂ (fun w fs ↦ (k, w) :: fs) (unmarked_adopt next v)
      (unmarkedEntries_adoptEntries _ es)
termination_by structural es

end

end Value

namespace State

variable {s : State} {k n : String} (v : Value)

theorem get_set : (s.set k v).get k = (v.adopt (max s.next v.markBound)).1 :=
  congrArg (·.getD .undefined) (Entries.get?_insert_self s.entries k _)

/-- A value is found under the name that it has been put under. -/
theorem unmarked_get_set : ((s.set k v).get k).unmarked = v.unmarked := by
  rw [get_set, Value.unmarked_adopt]

theorem get_set_of_ne (h : n ≠ k) : (s.set k v).get n = s.get n :=
  congrArg (·.getD .undefined) (Entries.get?_insert_of_ne h s.entries _)

theorem unmarked_get_ofEntries (es : Entries) (n : String) :
    ((ofEntries es).get n).unmarked = (Entries.get es (.str n)).unmarked := by
  rw [← Value.get_unmarkedEntries, ← Value.unmarkedEntries_adoptEntries (Value.markBoundEntries es) es,
    Value.get_unmarkedEntries]
  rfl

end State

end Flowgraph
