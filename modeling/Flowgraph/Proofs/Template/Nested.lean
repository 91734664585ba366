import Flowgraph.Proofs.Json.RoundTrip
import Flowgraph.Proofs.Template.Filling
import Flowgraph.Proofs.Template.Outcome
import Flowgraph.Proofs.Value.Equality
import Flowgraph.Proofs.Value.Unmarked

namespace Flowgraph

open Act

namespace Json

theorem ofList_named_concat (es : List (String × Value)) (e : String × Value) :
    Entries.ofList (named (es ++ [e])) =
      Entries.insert (Entries.ofList (named es)) (.str e.1) e.2 := by
  rw [Entries.ofList, named, List.map_append, List.foldl_append]
  rfl

/-- Each name keeps the place where it comes first. -/
theorem keys_ofList_named (es : List (String × Value)) :
    (Entries.ofList (named es)).map (·.1) = (es.map (·.1)).eraseDups.map Key.str := by
  induction es using List.reverseRecOn with
  | nil => rfl
  | append_singleton es e ih =>
    have hmem : Key.str e.1 ∈ (Entries.ofList (named es)).map (·.1) ↔ e.1 ∈ es.map (·.1) := by
      rw [ih, List.mem_map_of_injective fun _ _ ↦ Key.str.inj, List.mem_eraseDups]
    rw [ofList_named_concat, List.map_append, List.map_singleton, List.eraseDups_append]
    obtain hkeys | ⟨hnew, hkeys⟩ := Entries.keys_insert (Entries.ofList (named es)) e.1 e.2
    · have hold : e.1 ∈ es.map (·.1) := hmem.1 (hkeys ▸ Entries.mem_keys_insert _ e.1 e.2)
      have hnone : [e.1].removeAll (es.map (·.1)) = [] := by simpa [List.removeAll] using hold
      rw [hkeys, ih, hnone, List.eraseDups_nil, List.append_nil]
    · have hone : [e.1].removeAll (es.map (·.1)) = [e.1] := by
        simpa [List.removeAll] using mt hmem.2 hnew
      rw [hkeys, ih, hone, List.map_append]
      rfl

/-- Under each name stands the value that comes last. -/
theorem get?_ofList_named (es : List (String × Value)) (name : String) :
    Entries.get? (Entries.ofList (named es)) name = es.reverse.lookup name := by
  induction es using List.reverseRecOn with
  | nil => rfl
  | append_singleton es e ih =>
    rw [ofList_named_concat, List.reverse_concat, List.lookup_cons]
    by_cases h : name = e.1
    · subst h
      rw [Entries.get?_insert_self, beq_self_eq_true]
    · rw [Entries.get?_insert_of_ne h, beq_false_of_ne h, ih]

end Json

namespace Template

open Json Value

/-- What a member of a mapping becomes: first the text of its key is interpolated, then its value. -/
def interpolateMember (source : Source) (e : Key × Value) : Act Journal (String × Value) := do
  let name ← interpolate source (← keyText e.1)
  let v ← interpolateValue source e.2
  return (name, v)

section

variable (source : Source)

theorem interpolateItems_eq (vs : List Value) :
    interpolateItems source vs = vs.mapM' (interpolateValue source) := by
  induction vs with
  | nil => rfl
  | cons v vs ih =>
    rw [interpolateItems, ih]
    rfl

theorem interpolateEntries_eq (done es : Entries) :
    interpolateEntries source done es =
      (fun fs ↦ Entries.insertAll done (named fs)) <$> es.mapM' (interpolateMember source) := by
  induction es generalizing done with
  | nil => rfl
  | cons e es ih =>
    rw [interpolateEntries, List.mapM'_cons, interpolateMember]
    simp only [ih, map_eq_bind, bind_bind]
    rfl

theorem interpolateValue_list (mark : ℕ) (vs : List Value) :
    interpolateValue source (.list mark vs) = ofList <$> vs.mapM' (interpolateValue source) := by
  rw [interpolateValue, interpolateItems_eq]

theorem interpolateValue_mapping (mark : ℕ) (es : Entries) :
    interpolateValue source (.mapping mark es) =
      (fun fs ↦ ofEntries (Entries.ofList (named fs))) <$> es.mapM' (interpolateMember source) := by
  rw [interpolateValue, interpolateEntries_eq, map_eq_bind, map_eq_bind, bind_bind]
  rfl

end

def Opens (text : String) : Prop :=
  ['$', '\x7b'] <:+: text.toList ∨ ['\x7b', '\x7b'] <:+: text.toList

instance (text : String) : Decidable (Opens text) := inferInstanceAs (Decidable (_ ∨ _))

def isFillable : Value → Bool
  | .str _ | .list .. | .mapping .. => true
  | _ => false

/-- The keys of all mappings in a value are texts, and in none of these and in no text among its
items and members does a placeholder open. -/
inductive Inert : Value → Prop
  | str {s : String} (h : ¬ Opens s) : Inert (.str s)
  | list (mark : ℕ) {vs : List Value} (h : ∀ v ∈ vs, Inert v) : Inert (.list mark vs)
  | mapping (mark : ℕ) {es : Entries} (hkeys : es.ByText)
      (hnames : ∀ s : String, Key.str s ∈ es.map (·.1) → ¬ Opens s) (h : ∀ e ∈ es, Inert e.2) :
      Inert (.mapping mark es)
  | kept {v : Value} (h : isFillable v = false) : Inert v

section

variable {source : Source} {v : Value} {vs : List Value} {es : Entries}

theorem interpolateValue_of_not_isFillable (h : isFillable v = false) :
    interpolateValue source v = pure v := by
  cases v <;> first | rfl | cases h

theorem interpolate_of_not_opens {s : String} (h : ¬ Opens s) (j : Journal) :
    interpolate source s j = (.ok s, j) :=
  interpolate_of_no_opening (fun hname ↦ h (.inl hname)) (fun hspan ↦ h (.inr hspan)) source j

/-- Interpolation answers the value, in new lists and mappings, and notes nothing. -/
def Stays (source : Source) (v : Value) : Prop :=
  ∀ j, ∃ w, interpolateValue source v j = (.ok w, j) ∧ w.unmarked = v.unmarked

theorem exists_runs_items (h : ∀ v ∈ vs, Stays source v) (j : Journal) :
    ∃ ws, Runs (interpolateValue source) j vs ws j ∧ unmarkedItems ws = unmarkedItems vs := by
  induction vs with
  | nil => exact ⟨[], .nil j, rfl⟩
  | cons v vs ih =>
    obtain ⟨hv, hvs⟩ := List.forall_mem_cons.1 h
    obtain ⟨w, hw, hunmarked⟩ := hv j
    obtain ⟨ws, hws, hrest⟩ := ih hvs
    exact ⟨w :: ws, .cons hw hws, congrArg₂ List.cons hunmarked hrest⟩

theorem interpolateMember_of_stays {name : String} (hname : ¬ Opens name) {j : Journal} {w : Value}
    (hw : interpolateValue source v j = (.ok w, j)) :
    interpolateMember source (.str name, v) j = (.ok (name, w), j) := by
  have hkey : keyText (.str name) j = (.ok name, j) := rfl
  rw [interpolateMember, bind_of_ok hkey, bind_of_ok (interpolate_of_not_opens hname j),
    bind_of_ok hw]
  rfl

theorem exists_runs_members
    (hkeys : ∀ e ∈ es, ∃ s : String, e.1 = .str s ∧ ¬ Opens s)
    (h : ∀ e ∈ es, Stays source e.2) (j : Journal) :
    ∃ fs, Runs (interpolateMember source) j es fs j ∧
      unmarkedEntries (named fs) = unmarkedEntries es := by
  induction es with
  | nil => exact ⟨[], .nil j, rfl⟩
  | cons e es ih =>
    obtain ⟨key, v⟩ := e
    obtain ⟨⟨name, rfl : key = .str name, hname⟩, htexts⟩ := List.forall_mem_cons.1 hkeys
    obtain ⟨hv, hes⟩ := List.forall_mem_cons.1 h
    obtain ⟨w, hw, hunmarked : w.unmarked = v.unmarked⟩ := hv j
    obtain ⟨fs, hfs, hrest⟩ := ih htexts hes
    refine ⟨(name, w) :: fs, .cons (interpolateMember_of_stays hname hw) hfs, ?_⟩
    rw [named, List.map_cons, unmarkedEntries, unmarkedEntries, hunmarked, hrest]

theorem Inert.stays (h : Inert v) : Stays source v := by
  intro j
  induction h generalizing j with
  | str h => exact ⟨_, map_of_ok (interpolate_of_not_opens h j), rfl⟩
  | list mark _ ih =>
    obtain ⟨ws, hws, hunmarked⟩ := exists_runs_items ih j
    refine ⟨ofList ws, ?_, congrArg (Value.list 0) hunmarked⟩
    rw [interpolateValue_list]
    exact map_mapM'_eq_ok_iff.2 ⟨ws, rfl, hws⟩
  | @mapping mark es hkeys hnames _ ih =>
    have htexts : ∀ e ∈ es, ∃ s : String, e.1 = .str s ∧ ¬ Opens s := by
      intro e he
      obtain ⟨s, hs⟩ := hkeys.texts e he
      exact ⟨s, hs, hnames s (hs ▸ List.mem_map_of_mem he)⟩
    obtain ⟨fs, hfs, hunmarked⟩ := exists_runs_members htexts ih j
    -- The names are those of the mapping, so no two of them meet.
    have hnodup : (fs.map (·.1)).Nodup := by
      refine nodup_of_named ?_
      rw [← keys_unmarkedEntries, hunmarked, keys_unmarkedEntries]
      exact hkeys.nodup
    refine ⟨ofEntries (named fs), ?_, congrArg (Value.mapping 0) hunmarked⟩
    rw [interpolateValue_mapping]
    exact map_mapM'_eq_ok_iff.2 ⟨fs, congrArg ofEntries (ofList_named hnodup).symm, hfs⟩
  | kept h =>
    rw [interpolateValue_of_not_isFillable h]
    exact ⟨_, rfl, rfl⟩

end

/-- Interpolation keeps the structure of a value. A list becomes a list of the same length, item by
item. A mapping becomes what its members become, put one after the other under what the texts of
their keys become: of equal names the first gives the place and the last the value. Either fails
where one of its parts does, with the fault of the first that does. Other values that are no texts
stay as they are, and so does every value in which no placeholder opens, with nothing noted. -/
theorem interpolateValue_structure (source : Source) :
    (∀ s, interpolateValue source (.str s) = .str <$> interpolate source s) ∧
    (∀ mark vs j,
      (∀ w k, interpolateValue source (.list mark vs) j = (.ok w, k) ↔
        ∃ ws, w = .ofList ws ∧ ws.length = vs.length ∧
          Runs (interpolateValue source) j vs ws k) ∧
      ∀ f k, interpolateValue source (.list mark vs) j = (.error f, k) ↔
        Breaks (interpolateValue source) j vs f k) ∧
    (∀ mark es j,
      (∀ w k, interpolateValue source (.mapping mark es) j = (.ok w, k) ↔
        ∃ fs, w = .ofEntries (Entries.ofList (named fs)) ∧ fs.length = es.length ∧
          Runs (interpolateMember source) j es fs k) ∧
      ∀ f k, interpolateValue source (.mapping mark es) j = (.error f, k) ↔
        Breaks (interpolateMember source) j es f k) ∧
    (∀ fs, (Entries.ofList (named fs)).map (·.1) = (fs.map (·.1)).eraseDups.map Key.str ∧
      ∀ name : String,
        Entries.get? (Entries.ofList (named fs)) name = fs.reverse.lookup name) ∧
    (∀ v, isFillable v = false → interpolateValue source v = pure v) ∧
    ∀ v j, Inert v →
      ∃ w, interpolateValue source v j = (.ok w, j) ∧ w.unmarked = v.unmarked := by
  refine ⟨fun s ↦ rfl, fun mark vs j ↦ ⟨fun w k ↦ ?_, fun f k ↦ ?_⟩,
    fun mark es j ↦ ⟨fun w k ↦ ?_, fun f k ↦ ?_⟩,
    fun fs ↦ ⟨keys_ofList_named fs, get?_ofList_named fs⟩,
    fun v ↦ interpolateValue_of_not_isFillable, fun v j h ↦ h.stays j⟩
  · rw [interpolateValue_list, map_mapM'_eq_ok_iff]
    exact exists_congr fun ws ↦ and_congr_right' (iff_and_self.2 Runs.length_eq)
  · rw [interpolateValue_list, map_mapM'_eq_error_iff]
  · rw [interpolateValue_mapping, map_mapM'_eq_ok_iff]
    exact exists_congr fun fs ↦ and_congr_right' (iff_and_self.2 Runs.length_eq)
  · rw [interpolateValue_mapping, map_mapM'_eq_error_iff]

def crate : Value :=
  .mapping 1 [("to", .str "Ada"), ("$", .list 2 [.int 3, .str "$ \x7b \x7b \x7d\x7d", .null]),
    ("\x7b", .mapping 3 [("sum", .tuple [.str "\x7b\x7b 1 \x7d\x7d"])])]

theorem inert_crate : Inert crate := by
  have hsum : Inert (.mapping 3 [("sum", .tuple [.str "\x7b\x7b 1 \x7d\x7d"])]) := by
    refine .mapping 3 ⟨by simp, by simp⟩ ?_ ?_
    · simp only [List.map_cons, List.map_nil, List.mem_singleton, Key.str.injEq, forall_eq]
      decide
    · exact List.forall_mem_singleton.2 (.kept rfl)
  have hitems : Inert (.list 2 [.int 3, .str "$ \x7b \x7b \x7d\x7d", .null]) := by
    refine .list 2 ?_
    simp only [List.forall_mem_cons]
    exact ⟨.kept rfl, .str (by decide), .kept rfl, List.forall_mem_nil _⟩
  refine .mapping 1 ⟨by simp, by simp⟩ ?_ ?_
  · simp only [List.map_cons, List.map_nil, List.mem_cons, List.not_mem_nil, or_false,
      Key.str.injEq, forall_eq_or_imp, forall_eq]
    decide
  · simp only [List.forall_mem_cons]
    exact ⟨.str (by decide), hitems, hsum, List.forall_mem_nil _⟩

theorem interpolateValue_structure_crate :
    Inert crate ∧ ∃ w, interpolateValue ⟨fun _ ↦ none, 1, .standard⟩ crate lobby = (.ok w, lobby) ∧
      w.unmarked = crate.unmarked := by
  obtain ⟨-, -, -, -, -, hinert⟩ := interpolateValue_structure ⟨fun _ ↦ none, 1, .standard⟩
  exact ⟨inert_crate, hinert crate lobby inert_crate⟩

theorem interpolateValue_almanac :
    (fun w ↦ w.typeName) <$> (interpolateValue ⟨fun _ ↦ none, 1, .standard⟩
      (.ofList [.str "\x7b\x7b d \x7d\x7d"])
      { state := Run.initialState almanac }).1.mapError Fault.message =
      .error "keys must be str, int, float, bool or None, not date" := by decide +kernel

end Template

end Flowgraph
