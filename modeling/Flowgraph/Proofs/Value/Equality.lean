import Flowgraph.Value.Equality
import Mathlib.Data.Int.Notation
import Mathlib.Data.List.Forall2
import Mathlib.Data.List.Nodup
import Mathlib.Data.List.Perm.Subperm
import Mathlib.Logic.Relation
import Mathlib.Tactic.Common

namespace Flowgraph

theorem Key.same_str {k : Key} {s : String} : k.same (.str s) = true ↔ k = .str s := by
  cases k <;> simp [Key.same, Key.toNum?]

namespace Entries

/-- The keys of the entries are texts, no two of them the same. -/
structure ByText (es : Entries) : Prop where
  texts : ∀ e ∈ es, ∃ s : String, e.1 = .str s
  nodup : (es.map (·.1)).Nodup

/-- Both mappings have the same keys, and their values under each key are related. -/
structure Match (R : Value → Value → Prop) (es fs : Entries) : Prop where
  keys : ∀ s : String, (get? es s).isSome = (get? fs s).isSome
  values : ∀ {s : String} {v w : Value}, get? es s = some v → get? fs s = some w → R v w

variable {es fs gs : Entries} {s : String} {v w : Value} {R S : Value → Value → Prop}

theorem isSome_get?_iff : (get? es s).isSome = true ↔ Key.str s ∈ es.map (·.1) := by
  simp only [get?, Option.isSome_map, List.find?_isSome, Key.same_str, List.mem_map]

theorem mem_of_get? (hv : get? es s = some v) : (Key.str s, v) ∈ es := by
  obtain ⟨⟨k, w⟩, hfind, rfl⟩ := Option.map_eq_some_iff.1 hv
  have hk := List.find?_some hfind
  rw [Key.same_str] at hk
  exact hk ▸ List.mem_of_find?_eq_some hfind

theorem ByText.get?_of_mem {k : Key} (h : es.ByText) (hv : (k, v) ∈ es) : get? es k = some v := by
  obtain ⟨s, rfl : k = .str s⟩ := h.texts _ hv
  have hsome : (get? es s).isSome = true := isSome_get?_iff.2 (List.mem_map_of_mem hv)
  obtain ⟨w, hw⟩ := Option.isSome_iff_exists.1 hsome
  have hsame := List.inj_on_of_nodup_map h.nodup (mem_of_get? hw) hv rfl
  rw [hw, (Prod.mk.inj hsame).2]

theorem ByText.get?_eq_some_iff (h : es.ByText) : get? es s = some v ↔ (Key.str s, v) ∈ es :=
  ⟨mem_of_get?, h.get?_of_mem⟩

theorem ByText.perm (h : es.ByText) (hperm : es.Perm fs) : fs.ByText where
  texts e he := h.texts e (hperm.mem_iff.2 he)
  nodup := (hperm.map _).nodup_iff.1 h.nodup

theorem ByText.get?_perm (h : es.ByText) (hperm : es.Perm fs) : get? es s = get? fs s := by
  refine Option.ext fun v ↦ ?_
  rw [h.get?_eq_some_iff, (h.perm hperm).get?_eq_some_iff, hperm.mem_iff]

theorem ByText.mem_keys_iff {k : Key} (h : es.ByText) :
    k ∈ es.map (·.1) ↔ ∃ s : String, k = .str s ∧ (get? es s).isSome = true := by
  constructor
  · intro hk
    obtain ⟨e, he, rfl⟩ := List.mem_map.1 hk
    obtain ⟨s, hs⟩ := h.texts e he
    exact ⟨s, hs, isSome_get?_iff.2 (hs ▸ hk)⟩
  · rintro ⟨s, rfl, hs⟩
    exact isSome_get?_iff.1 hs

theorem ByText.keys_perm (hes : es.ByText) (hfs : fs.ByText)
    (h : ∀ s : String, (get? es s).isSome = (get? fs s).isSome) :
    (es.map (·.1)).Perm (fs.map (·.1)) := by
  refine (List.perm_ext_iff_of_nodup hes.nodup hfs.nodup).2 fun k ↦ ?_
  rw [hes.mem_keys_iff, hfs.mem_keys_iff]
  simp only [h]

/-- A text is put among the keys unless it is one of them. -/
theorem keys_insert (es : Entries) (s : String) (v : Value) :
    (insert es s v).map (·.1) = es.map (·.1) ∨
      Key.str s ∉ es.map (·.1) ∧ (insert es s v).map (·.1) = es.map (·.1) ++ [.str s] := by
  induction es with
  | nil => exact .inr ⟨List.not_mem_nil, rfl⟩
  | cons e es ih =>
    rw [insert]
    by_cases he : e.1 = .str s
    · exact .inl (by rw [if_pos (Key.same_str.2 he)]; rfl)
    · rw [if_neg (mt Key.same_str.1 he), List.map_cons, List.map_cons]
      refine ih.imp (congrArg _) fun ⟨hnew, hkeys⟩ ↦ ⟨?_, congrArg _ hkeys⟩
      exact List.not_mem_cons_of_ne_of_not_mem (Ne.symm he) hnew

theorem get?_insert_self (es : Entries) (s : String) (v : Value) :
    get? (insert es s v) s = some v := by
  have hself : Key.same (.str s) (.str s) = true := Key.same_str.2 rfl
  unfold get?
  induction es with
  | nil => simp [insert, hself]
  | cons e es ih =>
    rw [insert]
    by_cases he : e.1.same s = true
    · simp [he]
    · simp [he, ih]

theorem get?_insert_of_ne {k n : String} (h : n ≠ k) (es : Entries) (v : Value) :
    get? (insert es k v) n = get? es n := by
  have hkn : Key.same (.str k) (.str n) = false := by
    rw [← Bool.not_eq_true, Key.same_str]
    exact fun hk ↦ h (Key.str.inj hk).symm
  unfold get?
  induction es with
  | nil => rw [insert, List.find?_cons_of_neg (by simp [hkn])]
  | cons e es ih =>
    rw [insert]
    by_cases hk : e.1.same k = true
    · have hn : e.1.same n = false := Key.same_str.1 hk ▸ hkn
      rw [if_pos hk, List.find?_cons_of_neg (by simp [hn]), List.find?_cons_of_neg (by simp [hn])]
    · rw [if_neg hk, List.find?_cons, List.find?_cons]
      cases e.1.same n with
      | true => rfl
      | false => exact ih

theorem mem_keys_insert (es : Entries) (s : String) (v : Value) :
    Key.str s ∈ (insert es s v).map (·.1) := by
  rw [← isSome_get?_iff, get?_insert_self, Option.isSome_some]

theorem ByText.insert (h : es.ByText) (s : String) (v : Value) : (insert es s v).ByText where
  texts e he := by
    have hkey : e.1 ∈ (Entries.insert es s v).map (·.1) := List.mem_map_of_mem he
    have hold (hmem : e.1 ∈ es.map (·.1)) : ∃ t : String, e.1 = .str t := by
      obtain ⟨e', he', hkeys⟩ := List.mem_map.1 hmem
      exact hkeys ▸ h.texts e' he'
    obtain hkeys | ⟨-, hkeys⟩ := keys_insert es s v
    · exact hold (hkeys ▸ hkey)
    · rw [hkeys] at hkey
      obtain hmem | hnew := List.mem_append.1 hkey
      · exact hold hmem
      · exact ⟨s, List.mem_singleton.1 hnew⟩
  nodup := by
    obtain hkeys | ⟨hnew, hkeys⟩ := keys_insert es s v
    · exact hkeys ▸ h.nodup
    · rw [hkeys, ← List.concat_eq_append]
      exact h.nodup.concat hnew

theorem Match.exists_right (h : Match R es fs) (hv : get? es s = some v) :
    ∃ w, get? fs s = some w ∧ R v w := by
  have hsome : (get? fs s).isSome = true := by rw [← h.keys s, hv, Option.isSome_some]
  obtain ⟨w, hw⟩ := Option.isSome_iff_exists.1 hsome
  exact ⟨w, hw, h.values hv hw⟩

theorem match_congr (h : ∀ {s : String} {v w}, get? es s = some v → get? fs s = some w →
      (R v w ↔ S v w)) :
    Match R es fs ↔ Match S es fs :=
  ⟨fun hR ↦ ⟨hR.keys, fun hv hw ↦ (h hv hw).1 (hR.values hv hw)⟩,
    fun hS ↦ ⟨hS.keys, fun hv hw ↦ (h hv hw).2 (hS.values hv hw)⟩⟩

theorem match_and :
    Match (fun v w ↦ R v w ∧ S v w) es fs ↔ Match R es fs ∧ Match S es fs :=
  ⟨fun h ↦ ⟨⟨h.keys, fun hv hw ↦ (h.values hv hw).1⟩, ⟨h.keys, fun hv hw ↦ (h.values hv hw).2⟩⟩,
    fun ⟨hR, hS⟩ ↦ ⟨hR.keys, fun hv hw ↦ ⟨hR.values hv hw, hS.values hv hw⟩⟩⟩

end Entries

namespace Value

/-- Nothing, a truth value, an integer or a text, a list of such values, or a mapping of such values
under texts. -/
inductive IsExact : Value → Prop
  | undefined : IsExact .undefined
  | null : IsExact .null
  | bool (b : Bool) : IsExact (.bool b)
  | int (i : ℤ) : IsExact (.int i)
  | str (s : String) : IsExact (.str s)
  | list (mark : ℕ) {vs : List Value} (h : ∀ v ∈ vs, IsExact v) : IsExact (.list mark vs)
  | mapping (mark : ℕ) {es : Entries} (hkeys : es.ByText) (h : ∀ e ∈ es, IsExact e.2) :
      IsExact (.mapping mark es)

section Parts

variable {m n : ℕ} {u v w : Value} {vs ws : List Value} {es fs : Entries} {i : ℤ} {s : String}

theorem IsExact.items (h : IsExact (.list m vs)) : ∀ v ∈ vs, v.IsExact := by
  cases h
  assumption

theorem IsExact.singleton (h : v.IsExact) (mark : ℕ) : IsExact (.list mark [v]) :=
  .list mark (List.forall_mem_singleton.2 h)

theorem IsExact.byText (h : IsExact (.mapping m es)) : es.ByText := by
  cases h
  assumption

theorem IsExact.members (h : IsExact (.mapping m es)) : ∀ e ∈ es, e.2.IsExact := by
  cases h
  assumption

theorem IsExact.member (h : IsExact (.mapping m es)) (hv : Entries.get? es s = some v) :
    v.IsExact := h.members _ (Entries.mem_of_get? hv)

theorem equalItems_iff :
    equalItems vs ws = true ↔ List.Forall₂ (fun v w ↦ v.equal w = true) vs ws := by
  induction vs generalizing ws with
  | nil => cases ws <;> simp [equalItems]
  | cons v vs ih => cases ws <;> simp [equalItems, ih]

theorem equalEntries_iff : equalEntries es fs = true ↔
    ∀ e ∈ es, ∃ w, Entries.get? fs e.1 = some w ∧ e.2.equal w = true := by
  induction es with
  | nil => simp [equalEntries]
  | cons e es ih =>
    obtain ⟨k, v⟩ := e
    rw [equalEntries, Bool.and_eq_true, ih, List.forall_mem_cons]
    cases Entries.get? fs k <;> simp

theorem equal_list : equal (.list m vs) (.list n ws) = true ↔
    List.Forall₂ (fun v w ↦ v.equal w = true) vs ws := by
  rw [equal, equalItems_iff]

theorem equal_mapping_iff_entries : equal (.mapping m es) (.mapping n fs) = true ↔
    es.length = fs.length ∧ ∀ e ∈ es, ∃ w, Entries.get? fs e.1 = some w ∧ e.2.equal w = true := by
  rw [equal, Bool.and_eq_true, beq_iff_eq, equalEntries_iff]

theorem equal_mapping (hes : es.ByText) (hfs : fs.ByText) :
    equal (.mapping m es) (.mapping n fs) = true ↔
      Entries.Match (fun v w ↦ v.equal w = true) es fs := by
  rw [equal_mapping_iff_entries]
  constructor
  · rintro ⟨hlength, hentries⟩
    have hsubset : es.map (·.1) ⊆ fs.map (·.1) := by
      intro k hk
      obtain ⟨e, he, rfl⟩ := List.mem_map.1 hk
      obtain ⟨s, hs⟩ := hes.texts e he
      obtain ⟨w, hw, -⟩ := hentries e he
      rw [hs] at hw ⊢
      exact Entries.isSome_get?_iff.1 (Option.isSome_of_eq_some hw)
    -- As many keys, all of them among the others.
    have hkeys : (es.map (·.1)).Perm (fs.map (·.1)) :=
      (hes.nodup.subperm hsubset).perm_of_length_le (by simp [hlength])
    refine ⟨fun s ↦ ?_, fun {s v w} hv hw ↦ ?_⟩
    · rw [Bool.eq_iff_iff, Entries.isSome_get?_iff, Entries.isSome_get?_iff, hkeys.mem_iff]
    · obtain ⟨u, hu, hequal⟩ := hentries _ (Entries.mem_of_get? hv)
      obtain rfl := Option.some.inj (hw.symm.trans hu)
      exact hequal
  · intro h
    refine ⟨by simpa using (hes.keys_perm hfs h.keys).length_eq, fun e he ↦ ?_⟩
    obtain ⟨k, v⟩ := e
    obtain ⟨s, rfl : k = .str s⟩ := hes.texts _ he
    exact h.exists_right (hes.get?_of_mem he)

theorem equal_undefined : equal .undefined w = true ↔ w = .undefined := by
  cases w <;> simp [equal, toNum?]

theorem equal_null : equal .null w = true ↔ w = .null := by
  cases w <;> simp [equal, toNum?]

theorem equal_str : equal (.str s) w = true ↔ w = .str s := by
  cases w <;> simp [equal, toNum?, @eq_comm _ s]

theorem equal_of_toNum? (hv : v.toNum? = some (.int i)) (hw : w.IsExact) :
    v.equal w = true ↔ w.toNum? = some (.int i) := by
  cases v <;> cases hv <;> cases hw <;>
    simp [equal, toNum?, Num.equal, Num.compare?] <;> exact eq_comm

theorem exists_of_equal_list (h : equal (.list m vs) w = true) : ∃ n ws, w = .list n ws := by
  cases w <;> first | exact ⟨_, _, rfl⟩ | cases h

theorem exists_of_equal_mapping (h : equal (.mapping m es) w = true) :
    ∃ n fs, w = .mapping n fs := by
  cases w <;> first | exact ⟨_, _, rfl⟩ | cases h

theorem IsExact.equal_self (h : v.IsExact) : v.equal v = true := by
  induction h with
  | undefined => exact equal_undefined.2 rfl
  | null => exact equal_null.2 rfl
  | str s => exact equal_str.2 rfl
  | bool b => exact (equal_of_toNum? rfl (.bool b)).2 rfl
  | int i => exact (equal_of_toNum? rfl (.int i)).2 rfl
  | list _ _ ih => exact equal_list.2 (List.forall₂_same.2 ih)
  | mapping _ hkeys _ ih =>
    refine (equal_mapping hkeys hkeys).2 ⟨fun _ ↦ rfl, fun hv hw ↦ ?_⟩
    obtain rfl := Option.some.inj (hv.symm.trans hw)
    exact ih _ (Entries.mem_of_get? hv)

theorem IsExact.equal_symm (hv : v.IsExact) (hw : w.IsExact) (h : v.equal w = true) :
    w.equal v = true := by
  induction hv generalizing w with
  | undefined => exact (equal_undefined.1 h).symm ▸ h
  | null => exact (equal_null.1 h).symm ▸ h
  | str s => exact (equal_str.1 h).symm ▸ h
  | bool b => exact (equal_of_toNum? ((equal_of_toNum? rfl hw).1 h) (.bool b)).2 rfl
  | int i => exact (equal_of_toNum? ((equal_of_toNum? rfl hw).1 h) (.int i)).2 rfl
  | list _ _ ih =>
    obtain ⟨n, ws, rfl⟩ := exists_of_equal_list h
    obtain ⟨hlength, hitems⟩ := List.forall₂_iff_get.1 (equal_list.1 h)
    refine equal_list.2 (List.forall₂_iff_get.2 ⟨hlength.symm, fun i hi' hi ↦ ?_⟩)
    exact ih _ (List.get_mem ..) (hw.items _ (List.get_mem ..)) (hitems i hi hi')
  | @mapping _ es hkeys _ ih =>
    obtain ⟨n, fs, rfl⟩ := exists_of_equal_mapping h
    have hmatch := (equal_mapping hkeys hw.byText).1 h
    refine (equal_mapping hw.byText hkeys).2 ⟨fun s ↦ (hmatch.keys s).symm, fun hw' hv' ↦ ?_⟩
    exact ih _ (Entries.mem_of_get? hv') (hw.member hw') (hmatch.values hv' hw')

theorem IsExact.equal_trans (hu : u.IsExact) (hv : v.IsExact) (hw : w.IsExact)
    (huv : u.equal v = true) (hvw : v.equal w = true) : u.equal w = true := by
  induction hu generalizing v w with
  | undefined => rwa [equal_undefined.1 huv] at hvw
  | null => rwa [equal_null.1 huv] at hvw
  | str s => rwa [equal_str.1 huv] at hvw
  | bool | int =>
    exact (equal_of_toNum? rfl hw).2 ((equal_of_toNum? ((equal_of_toNum? rfl hv).1 huv) hw).1 hvw)
  | list _ _ ih =>
    obtain ⟨_, vs, rfl⟩ := exists_of_equal_list huv
    obtain ⟨_, ws, rfl⟩ := exists_of_equal_list hvw
    obtain ⟨hlength, hitems⟩ := List.forall₂_iff_get.1 (equal_list.1 huv)
    obtain ⟨hlength', hitems'⟩ := List.forall₂_iff_get.1 (equal_list.1 hvw)
    refine equal_list.2 (List.forall₂_iff_get.2 ⟨hlength.trans hlength', fun i hi hi'' ↦ ?_⟩)
    have hi' := hlength ▸ hi
    exact ih _ (List.get_mem ..) (hv.items _ (List.get_mem ..)) (hw.items _ (List.get_mem ..))
      (hitems i hi hi') (hitems' i hi' hi'')
  | @mapping _ es hkeys _ ih =>
    obtain ⟨_, fs, rfl⟩ := exists_of_equal_mapping huv
    obtain ⟨_, gs, rfl⟩ := exists_of_equal_mapping hvw
    have hes := (equal_mapping hkeys hv.byText).1 huv
    have hfs := (equal_mapping hv.byText hw.byText).1 hvw
    refine (equal_mapping hkeys hw.byText).2
      ⟨fun s ↦ (hes.keys s).trans (hfs.keys s), fun hu' hw' ↦ ?_⟩
    obtain ⟨v, hv', huv'⟩ := hes.exists_right hu'
    exact ih _ (Entries.mem_of_get? hu') (hv.member hv') (hw.member hw') huv'
      (hfs.values hv' hw')

def IsTruth (v : Value) : Prop := ∃ b, v = .bool b

/-- A truth value and the integer that it counts as, either way round. -/
inductive Conflated : Value → Value → Prop
  | truthLeft (b : Bool) : Conflated (.bool b) (.int b.toNat)
  | truthRight (b : Bool) : Conflated (.int b.toNat) (.bool b)

/-- Strict equality is equality in which, at the top, only truth values meet truth values. -/
theorem IsExact.strictEqual_iff (hv : v.IsExact) :
    v.strictEqual w = true ↔ v.equal w = true ∧ (v.IsTruth ↔ w.IsTruth) := by
  cases hv with
  | bool b =>
    cases w with
    | bool c => cases b <;> cases c <;> simp [strictEqual, IsTruth, equal, toNum?] <;> decide
    | _ => simp [strictEqual, IsTruth]
  | _ => cases w <;> simp [strictEqual, isNumber, typeName, IsTruth, equal, toNum?]

theorem eq_int_of_toNum? (hw : ¬ w.IsTruth) (h : w.toNum? = some (.int i)) : w = .int i := by
  cases w with
  | bool b => exact absurd ⟨b, rfl⟩ hw
  | int j =>
    cases h
    rfl
  | _ => cases h

/-- What is equal is strictly equal, or else a truth value has met an integer. -/
theorem equal_iff_strictEqual_or (hv : v.IsExact) (hw : w.IsExact) :
    v.equal w = true ↔ v.strictEqual w = true ∨ Conflated v w := by
  rw [hv.strictEqual_iff]
  constructor
  · intro h
    by_cases htruth : v.IsTruth <;> by_cases htruth' : w.IsTruth
    · exact .inl ⟨h, iff_of_true htruth htruth'⟩
    · obtain ⟨b, rfl⟩ := htruth
      obtain rfl := eq_int_of_toNum? htruth' ((equal_of_toNum? rfl hw).1 h)
      exact .inr (.truthLeft b)
    · obtain ⟨b, rfl⟩ := htruth'
      obtain rfl := eq_int_of_toNum? htruth ((equal_of_toNum? rfl hv).1 (hv.equal_symm hw h))
      exact .inr (.truthRight b)
    · exact .inl ⟨h, iff_of_false htruth htruth'⟩
  · rintro (⟨h, -⟩ | ⟨⟨b⟩ | ⟨b⟩⟩)
    · exact h
    · exact (equal_of_toNum? rfl (.int _)).2 rfl
    · exact (equal_of_toNum? rfl (.bool b)).2 rfl

theorem strictEqual_list (hvs : IsExact (.list m vs)) (hws : IsExact (.list n ws)) :
    strictEqual (.list m vs) (.list n ws) = true ↔
      List.Forall₂ (fun v w ↦ v.strictEqual w = true ∨ Conflated v w) vs ws := by
  have hequal : strictEqual (.list m vs) (.list n ws) = equal (.list m vs) (.list n ws) := rfl
  rw [hequal, equal_list, List.forall₂_iff_get, List.forall₂_iff_get]
  refine and_congr_right fun _ ↦ forall₃_congr fun i hi hi' ↦ ?_
  exact equal_iff_strictEqual_or (hvs.items _ (List.get_mem ..)) (hws.items _ (List.get_mem ..))

theorem strictEqual_mapping (hes : IsExact (.mapping m es)) (hfs : IsExact (.mapping n fs)) :
    strictEqual (.mapping m es) (.mapping n fs) = true ↔
      Entries.Match (fun v w ↦ v.strictEqual w = true ∨ Conflated v w) es fs := by
  have hequal :
    strictEqual (.mapping m es) (.mapping n fs) = equal (.mapping m es) (.mapping n fs) := rfl
  rw [hequal, equal_mapping hes.byText hfs.byText]
  exact Entries.match_congr fun hv hw ↦ equal_iff_strictEqual_or (hes.member hv) (hfs.member hw)

theorem strictEqual_iff_not_conflated : v.strictEqual w = true ↔
    (v.strictEqual w = true ∨ Conflated v w) ∧ ¬ Conflated v w := by
  constructor
  · intro h
    refine ⟨.inl h, fun hconflated ↦ ?_⟩
    cases hconflated <;> cases h
  · rintro ⟨h | h, hnot⟩
    · exact h
    · exact absurd h hnot

/-- Strict equality of lists and of mappings goes by parts, save that in a list or a mapping a truth
value may meet the integer that it counts as. Where none does, and only there, the parts are
strictly equal as well. At the top no truth value equals an integer. -/
theorem strictEqual_parts (m n : ℕ) (vs ws : List Value) (es fs : Entries) (b : Bool) (i : ℤ) :
    (IsExact (.list m vs) → IsExact (.list n ws) →
      (strictEqual (.list m vs) (.list n ws) = true ↔
        List.Forall₂ (fun v w ↦ v.strictEqual w = true ∨ Conflated v w) vs ws) ∧
      (List.Forall₂ (fun v w ↦ v.strictEqual w = true) vs ws ↔
        strictEqual (.list m vs) (.list n ws) = true ∧
          List.Forall₂ (fun v w ↦ ¬ Conflated v w) vs ws)) ∧
    (IsExact (.mapping m es) → IsExact (.mapping n fs) →
      (strictEqual (.mapping m es) (.mapping n fs) = true ↔
        Entries.Match (fun v w ↦ v.strictEqual w = true ∨ Conflated v w) es fs) ∧
      (Entries.Match (fun v w ↦ v.strictEqual w = true) es fs ↔
        strictEqual (.mapping m es) (.mapping n fs) = true ∧
          Entries.Match (fun v w ↦ ¬ Conflated v w) es fs)) ∧
    strictEqual (.bool b) (.int i) = false ∧ strictEqual (.int i) (.bool b) = false := by
  have hsplit : (fun v w ↦ v.strictEqual w = true) =
      fun v w ↦ (v.strictEqual w = true ∨ Conflated v w) ∧ ¬ Conflated v w :=
    funext₂ fun _ _ ↦ propext strictEqual_iff_not_conflated
  refine ⟨fun hvs hws ↦ ?_, fun hes hfs ↦ ?_, rfl, rfl⟩
  · have hlist := strictEqual_list hvs hws
    refine ⟨hlist, ?_⟩
    rw [hlist, hsplit]
    exact ⟨fun h ↦ ⟨h.imp fun _ _ ↦ And.left, h.imp fun _ _ ↦ And.right⟩,
      fun ⟨h, h'⟩ ↦ .mp (fun _ _ ↦ And.intro) h h'⟩
  · have hmapping := strictEqual_mapping hes hfs
    refine ⟨hmapping, ?_⟩
    rw [hmapping, hsplit, Entries.match_and]

/-- A truth value inside a list equals an integer, though by itself it does not. -/
theorem strictEqual_ofList_truth :
    strictEqual (.ofList [.bool true]) (.ofList [.int 1]) = true ∧
    ¬ List.Forall₂ (fun v w : Value ↦ v.strictEqual w = true) [.bool true] [.int 1] :=
  ⟨by decide, by simp [strictEqual]⟩

def slip (paid : Value) : Entries := [("paid", paid), ("seats", .list 3 [.int 4, .undefined])]

theorem isExact_slip {paid : Value} (h : paid.IsExact) (mark : ℕ) :
    IsExact (.mapping mark (slip paid)) := by
  have hkeys : (slip paid).ByText := ⟨by simp [slip], by simp [slip]⟩
  have hseats : IsExact (.list 3 [.int 4, .undefined]) :=
    .list 3 (by simpa using ⟨.int 4, .undefined⟩)
  exact .mapping mark hkeys (by simpa [slip] using ⟨h, hseats⟩)

theorem strictEqual_parts_slip :
    IsExact (.mapping 1 (slip (.bool true))) ∧ IsExact (.mapping 2 (slip (.int 1))) ∧
    IsExact (.list 0 [.mapping 1 (slip (.bool true))]) ∧
    IsExact (.list 0 [.mapping 2 (slip (.int 1))]) ∧
    Entries.Match (fun v w ↦ v.strictEqual w = true ∨ Conflated v w)
      (slip (.bool true)) (slip (.int 1)) ∧
    ¬ Entries.Match (fun v w ↦ v.strictEqual w = true) (slip (.bool true)) (slip (.int 1)) ∧
    List.Forall₂ (fun v w : Value ↦ v.strictEqual w = true)
      [.mapping 1 (slip (.bool true))] [.mapping 2 (slip (.int 1))] := by
  have hleft := isExact_slip (.bool true) 1
  have hright := isExact_slip (.int 1) 2
  obtain ⟨-, hmappings, -⟩ := strictEqual_parts 1 2 [] [] (slip (.bool true)) (slip (.int 1)) true 1
  obtain ⟨hconflated, hstrict⟩ := hmappings hleft hright
  obtain ⟨hlists, -⟩ := strictEqual_parts 0 0 [.mapping 1 (slip (.bool true))]
    [.mapping 2 (slip (.int 1))] [] [] true 1
  refine ⟨hleft, hright, hleft.singleton 0, hright.singleton 0, hconflated.1 (by decide), ?_, ?_⟩
  · exact fun h ↦ (hstrict.1 h).2.values (s := "paid") rfl rfl (.truthLeft true)
  · refine (hlists (hleft.singleton 0) (hright.singleton 0)).2.2 ⟨by decide, .cons ?_ .nil⟩
    rintro ⟨⟩

end Parts

/-- One mapping, however deep inside a value, is written in another order. -/
inductive Reorders : Value → Value → Prop
  | entries {mark : ℕ} {es fs : Entries} (h : es.Perm fs) :
      Reorders (.mapping mark es) (.mapping mark fs)
  | item {mark : ℕ} {us vs : List Value} {v w : Value} (h : Reorders v w) :
      Reorders (.list mark (us ++ v :: vs)) (.list mark (us ++ w :: vs))
  | member {mark : ℕ} {es fs : Entries} {k : Key} {v w : Value} (h : Reorders v w) :
      Reorders (.mapping mark (es ++ (k, v) :: fs)) (.mapping mark (es ++ (k, w) :: fs))

section Equivalence

variable {u v w : Value}

theorem Reorders.isExact (h : Reorders v w) (hv : v.IsExact) : w.IsExact := by
  induction h with
  | @entries mark _ _ hperm =>
    exact .mapping mark (hv.byText.perm hperm) fun e he ↦ hv.members e (hperm.mem_iff.2 he)
  | @item mark us vs v w _ ih =>
    have hitems := hv.items
    rw [List.forall_mem_append, List.forall_mem_cons] at hitems
    obtain ⟨hus, hv', hvs⟩ := hitems
    exact .list mark (List.forall_mem_append.2 ⟨hus, List.forall_mem_cons.2 ⟨ih hv', hvs⟩⟩)
  | @member mark es fs k v w _ ih =>
    obtain ⟨htexts, hnodup⟩ := hv.byText
    have hmembers := hv.members
    rw [List.forall_mem_append, List.forall_mem_cons] at htexts hmembers
    obtain ⟨hes, hv', hfs⟩ := hmembers
    have hkeys : Entries.ByText (es ++ (k, w) :: fs) :=
      ⟨List.forall_mem_append.2 ⟨htexts.1, List.forall_mem_cons.2 htexts.2⟩, by simpa using hnodup⟩
    exact .mapping mark hkeys (List.forall_mem_append.2 ⟨hes, List.forall_mem_cons.2 ⟨ih hv', hfs⟩⟩)

theorem Reorders.equal (h : Reorders v w) (hv : v.IsExact) : v.equal w = true := by
  have hw := h.isExact hv
  induction h with
  | entries hperm =>
    refine (equal_mapping hv.byText hw.byText).2 ⟨fun s ↦ ?_, fun hv' hw' ↦ ?_⟩
    · rw [hv.byText.get?_perm hperm]
    · rw [hv.byText.get?_perm hperm] at hv'
      obtain rfl := Option.some.inj (hv'.symm.trans hw')
      exact (hw.member hw').equal_self
  | @item mark us vs v w h ih =>
    have hitems := hv.items
    rw [List.forall_mem_append, List.forall_mem_cons] at hitems
    obtain ⟨hus, hv', hvs⟩ := hitems
    have hself {ts : List Value} (hts : ∀ t ∈ ts, t.IsExact) :
        List.Forall₂ (fun t t' ↦ t.equal t' = true) ts ts :=
      List.forall₂_same.2 fun t ht ↦ (hts t ht).equal_self
    exact equal_list.2
      (List.rel_append (hself hus) (.cons (ih hv' (h.isExact hv')) (hself hvs)))
  | @member mark es fs k v w h ih =>
    have hexact := hv.members
    rw [List.forall_mem_append, List.forall_mem_cons] at hexact
    obtain ⟨hes, hv', hfs⟩ := hexact
    have hself (e : Key × Value) (he : e.2.IsExact) (hmem : e ∈ es ++ (k, w) :: fs) :
        ∃ u, Entries.get? (es ++ (k, w) :: fs) e.1 = some u ∧ e.2.equal u = true :=
      ⟨e.2, hw.byText.get?_of_mem hmem, he.equal_self⟩
    refine equal_mapping_iff_entries.2 ⟨by simp, ?_⟩
    rw [List.forall_mem_append, List.forall_mem_cons]
    refine ⟨fun e he ↦ hself e (hes e he) (by simp [he]), ?_,
      fun e he ↦ hself e (hfs e he) (by simp [he])⟩
    exact ⟨w, hw.byText.get?_of_mem (by simp), ih hv' (h.isExact hv')⟩

theorem IsExact.strictEqual_self (hv : v.IsExact) : v.strictEqual v = true :=
  hv.strictEqual_iff.2 ⟨hv.equal_self, Iff.rfl⟩

theorem IsExact.strictEqual_symm (hv : v.IsExact) (hw : w.IsExact) (h : v.strictEqual w = true) :
    w.strictEqual v = true := by
  obtain ⟨hequal, htruth⟩ := hv.strictEqual_iff.1 h
  exact hw.strictEqual_iff.2 ⟨hv.equal_symm hw hequal, htruth.symm⟩

theorem IsExact.strictEqual_trans (hu : u.IsExact) (hv : v.IsExact) (hw : w.IsExact)
    (huv : u.strictEqual v = true) (hvw : v.strictEqual w = true) : u.strictEqual w = true := by
  obtain ⟨hequal, htruth⟩ := hu.strictEqual_iff.1 huv
  obtain ⟨hequal', htruth'⟩ := hv.strictEqual_iff.1 hvw
  exact hu.strictEqual_iff.2 ⟨hu.equal_trans hv hw hequal hequal', htruth.trans htruth'⟩

theorem Reorders.strictEqual (h : Reorders v w) (hv : v.IsExact) : v.strictEqual w = true := by
  refine hv.strictEqual_iff.2 ⟨h.equal hv, ?_⟩
  cases h <;> simp [IsTruth]

theorem strictEqual_of_reorders (h : Relation.ReflTransGen Reorders v w) (hv : v.IsExact) :
    w.IsExact ∧ v.strictEqual w = true := by
  induction h with
  | refl => exact ⟨hv, hv.strictEqual_self⟩
  | tail _ hstep ih =>
    obtain ⟨hu, hequal⟩ := ih
    have hw := hstep.isExact hu
    exact ⟨hw, hv.strictEqual_trans hu hw hequal (hstep.strictEqual hu)⟩

/-- Strict equality is an equivalence of exact values, for which the order of the entries of
mappings, however deep in the values, makes no difference. -/
theorem strictEqual_equivalence :
    Equivalence (fun v w : {v : Value // v.IsExact} ↦ v.1.strictEqual w.1 = true) ∧
    ∀ v v' w w' : Value, v.IsExact → w.IsExact → Relation.ReflTransGen Reorders v v' →
      Relation.ReflTransGen Reorders w w' → v'.strictEqual w' = v.strictEqual w := by
  refine ⟨⟨fun v ↦ v.2.strictEqual_self, fun {v w} ↦ v.2.strictEqual_symm w.2,
    fun {u v w} ↦ u.2.strictEqual_trans v.2 w.2⟩, fun v v' w w' hv hw hvv' hww' ↦ ?_⟩
  obtain ⟨hv', hsame⟩ := strictEqual_of_reorders hvv' hv
  obtain ⟨hw', hsame'⟩ := strictEqual_of_reorders hww' hw
  rw [Bool.eq_iff_iff]
  constructor
  · intro h
    exact hv.strictEqual_trans hv' hw hsame
      (hv'.strictEqual_trans hw' hw h (hw.strictEqual_symm hw' hsame'))
  · intro h
    exact hv'.strictEqual_trans hv hw' (hv.strictEqual_symm hv' hsame)
      (hv.strictEqual_trans hw hw' h hsame')

theorem strictEqual_equivalence_slip :
    IsExact (.list 0 [.mapping 1 (slip (.bool true))]) ∧
    IsExact (.list 0 [.mapping 2 (slip .null)]) ∧
    Relation.ReflTransGen Reorders (.list 0 [.mapping 1 (slip (.bool true))])
      (.list 0 [.mapping 1 (slip (.bool true)).reverse]) ∧
    strictEqual (.list 0 [.mapping 1 (slip (.bool true)).reverse])
      (.list 0 [.mapping 2 (slip .null)]) = strictEqual (.list 0 [.mapping 1 (slip (.bool true))])
      (.list 0 [.mapping 2 (slip .null)]) := by
  have hleft := (isExact_slip (.bool true) 1).singleton 0
  have hright := (isExact_slip .null 2).singleton 0
  have horder : Relation.ReflTransGen Reorders (.list 0 [.mapping 1 (slip (.bool true))])
      (.list 0 [.mapping 1 (slip (.bool true)).reverse]) :=
    .single (@Reorders.item 0 [] [] _ _ (.entries (List.reverse_perm _).symm))
  exact ⟨hleft, hright, horder, strictEqual_equivalence.2 _ _ _ _ hleft hright horder .refl⟩

end Equivalence

end Value

end Flowgraph
