import Flowgraph.Document.Text
import Flowgraph.Proofs.Condition.Depth
import Flowgraph.Proofs.Document.Recovery
import Flowgraph.Proofs.Text.Upper

namespace Flowgraph

theorem Comparison.symbol_of_ofSymbol? {s : String} {op : Comparison} (h : ofSymbol? s = some op) :
    op.symbol = s := by
  unfold ofSymbol? at h
  split at h <;> cases h <;> rfl

theorem Relation.symbol_ofSymbol (s : String) : (ofSymbol s).symbol = s := by
  unfold ofSymbol
  split
  · rfl
  · rfl
  · split
    · exact Comparison.symbol_of_ofSymbol? ‹_›
    · rfl

theorem Condition.toValues_eq_map (cs : List Condition) : toValues cs = cs.map toValue := by
  induction cs with
  | nil => rfl
  | cons c cs ih => rw [toValues, ih, List.map_cons]

namespace Document

open Checked

theorem upper_upper (s : String) : upper (upper s) = upper s := by
  unfold upper
  rw [String.toList_ofList, Text.toUpper_toUpper]

theorem one_le_length_upper {s : String} (h : 1 ≤ s.length) : 1 ≤ (upper s).length := by
  rw [Nat.one_le_iff_ne_zero, Ne, String.length_eq_zero_iff] at h ⊢
  intro hempty
  exact h (String.toList_eq_nil_iff.1 (Text.toUpper_eq_nil (String.ofList_eq_empty_iff.1 hempty)))

namespace Library.Lawful

variable {L : Library} (hL : L.Lawful)

include hL

theorem recovers_text : Recovers (L.nullable L.string) textValue? :=
  hL.recovers_nullable rfl (fun _ h ↦ by cases h) hL.recovers_string

theorem recovers_code : Recovers (L.nullable L.integer) intValue? :=
  hL.recovers_nullable rfl (fun _ h ↦ by cases h) hL.recovers_integer

theorem recovers_header : Recovers (L.before spell L.string) .str :=
  fun _ s _ ↦ hL.before.2 ⟨.str s, rfl, hL.string s⟩

theorem recovers_method : Recovers (L.after upper (L.minLength 1)) .str := by
  intro v method h
  obtain ⟨s, hs, rfl⟩ := hL.after.1 h
  refine hL.after.2 ⟨upper s, hL.minLength.2 ⟨hL.string _, ?_⟩, upper_upper s⟩
  exact one_le_length_upper (hL.minLength.1 hs).2

theorem literal_self (word : String) : L.literal [word] (.str word) = .fits word :=
  hL.literal.2 ⟨rfl, List.mem_singleton_self word⟩

theorem nullable_none {α : Type} (check : Check α) : L.nullable check .null = .fits none :=
  hL.nullable.2 (.inl ⟨rfl, rfl⟩)

theorem table_nil {α : Type} (check : Check α) : L.table check (Document.record []) = .fits [] :=
  hL.table.2 ⟨0, [], [], rfl, .nil, rfl⟩

theorem recover_table {α : Type} {check : Check α} {write : α → Value} {es : Entries}
    {names : List String} {table : List (String × α)}
    (htable : FieldReads es names (some []) (L.table check) table) (h : Recovers check write) :
    L.table check (tableValue write table) = .fits table :=
  htable.recover_default (hL.recovers_table h) (hL.table_nil check)

theorem recovers_request {v : Value} {r : Request} (h : checkRequest L v = .fits r) :
    checkRequest L (Executor.http r).toValue = .fits r := by
  obtain ⟨_, es, -, h⟩ := hL.record.1 h
  obtain ⟨_, ⟨_, ⟨_, ⟨_, ⟨_, ⟨_, rfl, type, -, rfl⟩, method, hmethod, rfl⟩, endpoint, hendpoint, rfl⟩,
    body, -, rfl⟩, mutate, hmutate, rfl⟩, headers, hheaders, rfl⟩ := h
  have hmethod := hmethod.recover hL.recovers_method
  have hendpoint := hendpoint.recover hL.recovers_string
  have hmutate := hmutate.recover_default hL.recovers_text (hL.nullable_none _)
  have hheaders := hL.recover_table hheaders hL.recovers_header
  refine hL.record.2 ⟨0, _, rfl, ?_⟩
  exact ((((((Fields.Reads.made _).field (.of_get? rfl (hL.literal_self "http"))).field
    (.of_get? rfl hmethod)).field (.of_get? rfl hendpoint)).field
    (.of_get? rfl (hL.anything body))).field (.of_get? rfl hmutate)).field (.of_get? rfl hheaders)

theorem executor_none : checkExecutor L Executor.none.toValue = .fits .none := by
  refine hL.union.2 ⟨"none", _, rfl, rfl, hL.record.2 ⟨0, _, rfl, ?_⟩⟩
  exact (Fields.Reads.made _).field (.of_get? rfl (hL.literal_self "none"))

theorem recovers_executor : Recovers (checkExecutor L) Executor.toValue := by
  intro v x h
  obtain ⟨tag, check, -, hcheck, hx⟩ := hL.union.1 h
  have hmem := mem_of_lookup hcheck
  simp only [List.mem_cons, Prod.mk.injEq, List.not_mem_nil, or_false] at hmem
  obtain ⟨-, rfl⟩ | ⟨-, rfl⟩ | ⟨-, rfl⟩ | ⟨-, rfl⟩ := hmem
  · obtain ⟨r, hr, rfl⟩ := map_eq_fits.1 hx
    exact hL.union.2 ⟨"http", _, rfl, rfl, map_eq_fits.2 ⟨r, hL.recovers_request hr, rfl⟩⟩
  · obtain ⟨_, es, -, _, ⟨_, rfl, type, -, rfl⟩, milliseconds, hms, rfl⟩ := hL.record.1 hx
    have hms := hms.recover (hL.recovers_atLeast 0.0)
    refine hL.union.2 ⟨"sleep", _, rfl, rfl, hL.record.2 ⟨0, _, rfl, ?_⟩⟩
    exact ((Fields.Reads.made _).field (.of_get? rfl (hL.literal_self "sleep"))).field
      (.of_get? rfl hms)
  · obtain ⟨_, es, -, _, rfl, type, -, rfl⟩ := hL.record.1 hx
    exact hL.executor_none
  · obtain ⟨_, es, -, _, ⟨_, rfl, type, -, rfl⟩, code, -, rfl⟩ := hL.record.1 hx
    refine hL.union.2 ⟨"end", _, rfl, rfl, hL.record.2 ⟨0, _, rfl, ?_⟩⟩
    exact ((Fields.Reads.made _).field (.of_get? rfl (hL.literal_self "end"))).field
      (.of_get? rfl (hL.integer code))

theorem recovers_relation : Recovers (checkRelation L) fun r ↦ .str r.symbol := by
  intro v r h
  obtain ⟨symbol, hsymbol, rfl⟩ := map_eq_fits.1 h
  refine map_eq_fits.2 ⟨symbol, ?_, rfl⟩
  dsimp only
  rw [Relation.symbol_ofSymbol]
  exact hL.recovers_literal Relation.symbols v symbol hsymbol

theorem recovers_simple : Recovers (checkSimple L) Condition.toValue := by
  intro v c h
  obtain ⟨_, es, -, _, ⟨_, ⟨_, rfl, path, hpath, rfl⟩, r, hr, rfl⟩, operand, -, rfl⟩ :=
    hL.record.1 h
  have hpath := hpath.recover (hL.recovers_minLength 1)
  have hr := hr.recover hL.recovers_relation
  refine hL.record.2 ⟨0, _, rfl, ?_⟩
  exact (((Fields.Reads.made _).field (.of_get? rfl hpath)).field (.of_get? rfl hr)).field
    (.of_get? rfl (hL.anything operand))

theorem exists_simple {v : Value} {c : Condition} (h : checkSimple L v = .fits c) :
    ∃ path r operand, c = .simple path r operand := by
  obtain ⟨_, es, -, _, ⟨_, ⟨_, rfl, path, -, rfl⟩, r, -, rfl⟩, operand, -, rfl⟩ := hL.record.1 h
  exact ⟨path, r, operand, rfl⟩

theorem recovers_conditions {check : Check Condition} (h : Recovers check Condition.toValue) :
    Recovers (L.list check) fun cs ↦ .ofList (Condition.toValues cs) := by
  simp only [Condition.toValues_eq_map]
  exact hL.recovers_list h

def Regroups (check : Check Condition) (make : List Condition → Condition) : Prop :=
  ∀ v c, check v = .fits c → ∃ cs, c = make cs ∧ check c.toValue = .fits c

theorem regroups {check : Check Condition} (h : Recovers check Condition.toValue)
    {make : List Condition → Condition} {kind name : String} {names : List String}
    (hmake : ∀ cs, (make cs).toValue = Document.record [(name, .ofList (Condition.toValues cs))])
    (hname : ∀ v, Entries.get? [(.str name, v)] (.str name) = some v) :
    Regroups (L.record kind ((Fields.made make).required (name :: names) (L.list check))) make := by
  intro v c hc
  obtain ⟨_, es, -, _, rfl, cs, hcs, rfl⟩ := hL.record.1 hc
  have hcs := hcs.recover (hL.recovers_conditions h)
  refine ⟨cs, rfl, hL.record.2 ⟨0, _, hmake cs, ?_⟩⟩
  exact (Fields.Reads.made _).field (.of_get? (hname _) hcs)

theorem kinds_cases {all any : Check Condition} {v : Value} {c : Condition}
    (h : checkKinds L all any v = .fits c) :
    checkSimple L v = .fits c ∨ all v = .fits c ∨ any v = .fits c ∨ ∃ name, c = .named name := by
  obtain ⟨tag, check, -, hcheck, hc⟩ := hL.union.1 h
  have hmem := mem_of_lookup hcheck
  simp only [List.mem_cons, Prod.mk.injEq, List.not_mem_nil, or_false] at hmem
  obtain ⟨-, rfl⟩ | ⟨-, rfl⟩ | ⟨-, rfl⟩ | ⟨-, rfl⟩ := hmem
  · exact .inl hc
  · exact .inr (.inl hc)
  · exact .inr (.inr (.inl hc))
  · obtain ⟨name, -, rfl⟩ := map_eq_fits.1 hc
    exact .inr (.inr (.inr ⟨name, rfl⟩))

theorem recovers_kinds {all any : Check Condition} (hall : Regroups all .all)
    (hany : Regroups any .any) : Recovers (checkKinds L all any) Condition.toValue := by
  intro v c h
  obtain hc | hc | hc | ⟨name, rfl⟩ := hL.kinds_cases h
  · obtain ⟨path, r, operand, rfl⟩ := hL.exists_simple hc
    exact hL.union.2 ⟨"simple", _, rfl, rfl, hL.recovers_simple v _ hc⟩
  · obtain ⟨cs, rfl, hcs⟩ := hall v c hc
    exact hL.union.2 ⟨"and", _, rfl, rfl, hcs⟩
  · obtain ⟨cs, rfl, hcs⟩ := hany v c hc
    exact hL.union.2 ⟨"or", _, rfl, rfl, hcs⟩
  · exact hL.union.2 ⟨"named", _, rfl, rfl, map_eq_fits.2 ⟨name, hL.string name, rfl⟩⟩

theorem recovers_conditionWithin (depth : ℕ) :
    Recovers (checkConditionWithin L depth) Condition.toValue := by
  induction depth with
  | zero => exact hL.recovers_kinds (fun _ _ h ↦ nomatch h) (fun _ _ h ↦ nomatch h)
  | succ depth ih =>
    exact hL.recovers_kinds (hL.regroups ih (fun _ ↦ rfl) fun _ ↦ rfl)
      (hL.regroups ih (fun _ ↦ rfl) fun _ ↦ rfl)

theorem recovers_condition : Recovers (checkCondition L) Condition.toValue :=
  hL.recovers_conditionWithin L.depth

theorem recovers_condition? : Recovers (L.nullable (checkCondition L))
    fun c? ↦ (c?.map Condition.toValue).getD .null := by
  refine hL.recovers_nullable rfl (fun c h ↦ ?_) hL.recovers_condition
  cases c <;> cases h

theorem recovers_edge : Recovers (checkEdge L) Edge.toValue := by
  intro v e h
  obtain ⟨_, es, -, _, ⟨_, ⟨_, rfl, target, htarget, rfl⟩, condition, hcondition, rfl⟩,
    fallback, hfallback, rfl⟩ := hL.record.1 h
  have htarget := htarget.recover (hL.recovers_minLength 1)
  have hcondition := hcondition.recover_default hL.recovers_condition? (hL.nullable_none _)
  have hfallback := hfallback.recover_default hL.recovers_text (hL.nullable_none _)
  refine hL.record.2 ⟨0, _, rfl, ?_⟩
  exact (((Fields.Reads.made _).field (.of_get? rfl htarget)).field
    (.of_get? rfl hcondition)).field (.of_get? rfl hfallback)

theorem recovers_end :
    Recovers (checkEnd L) fun isEnd ↦ if isEnd then .str "end" else .null := by
  intro v isEnd _
  cases isEnd with
  | false => exact map_eq_fits.2 ⟨none, hL.nullable_none _, rfl⟩
  | true =>
    exact map_eq_fits.2 ⟨some "end", hL.nullable.2 (.inr ⟨nofun, "end", hL.literal_self "end", rfl⟩), rfl⟩

theorem list_nil {α : Type} (check : Check α) : L.list check (.ofList []) = .fits [] :=
  hL.list.2 .nil

theorem recovers_node : Recovers (checkNode L) Node.toValue := by
  intro v n h
  obtain ⟨_, es, -, _, ⟨_, ⟨_, ⟨_, ⟨_, rfl, description, hdescription, rfl⟩, executor, hexecutor,
    rfl⟩, edges, hedges, rfl⟩, isEnd, hend, rfl⟩, code, hcode, rfl⟩ := hL.record.1 h
  have hdescription := hdescription.recover_default hL.recovers_string (hL.string "")
  have hexecutor := hexecutor.recover_default hL.recovers_executor hL.executor_none
  have hedges := hedges.recover_default (hL.recovers_list hL.recovers_edge) (hL.list_nil _)
  have hend := hend.recover_default hL.recovers_end
    (map_eq_fits.2 ⟨none, hL.nullable_none _, rfl⟩)
  have hcode := hcode.recover_default hL.recovers_code (hL.nullable_none _)
  refine hL.record.2 ⟨0, _, rfl, ?_⟩
  exact (((((Fields.Reads.made _).field (.of_get? rfl hdescription)).field
    (.of_get? rfl hexecutor)).field (.of_get? rfl hedges)).field (.of_get? rfl hend)).field
    (.of_get? rfl hcode)

theorem recovers_hook :
    Recovers (checkHook L) fun x ↦ Document.record [("executor", x.toValue)] := by
  intro v x h
  obtain ⟨w, -, hw⟩ := hL.before.1 h
  obtain ⟨_, es, -, _, rfl, x, hx, rfl⟩ := hL.record.1 hw
  have hx := hx.recover hL.recovers_executor
  refine hL.before.2 ⟨_, rfl, hL.record.2 ⟨0, _, rfl, ?_⟩⟩
  exact (Fields.Reads.made _).field (.of_get? rfl hx)

theorem hooks_toValue {h : Hooks}
    (hall : L.table (checkHook L) (hooksValue h.all) = .fits h.all)
    (hstart : L.table (checkHook L) (hooksValue h.start) = .fits h.start) :
    checkHooks L h.toValue = .fits h := by
  refine hL.before.2 ⟨_, rfl, hL.before.2 ⟨_, rfl, hL.record.2 ⟨0, _, rfl, ?_⟩⟩⟩
  exact ((Fields.Reads.made _).field (.of_get? rfl hall)).field (.of_get? rfl hstart)

theorem recovers_hooks : Recovers (checkHooks L) Hooks.toValue := by
  intro v h hv
  obtain ⟨_, -, hv⟩ := hL.before.1 hv
  obtain ⟨_, -, hv⟩ := hL.before.1 hv
  obtain ⟨_, es, -, _, ⟨_, rfl, all, hall, rfl⟩, start, hstart, rfl⟩ := hL.record.1 hv
  exact hL.hooks_toValue (hL.recover_table hall hL.recovers_hook)
    (hL.recover_table hstart hL.recovers_hook)

theorem recover_headers {v : Value} {http : String × Headers}
    (h : checkHttpOptions L v = .fits http) :
    checkHeaders L (headersValue http.2) = .fits http.2 := by
  obtain ⟨_, es, -, _, ⟨_, rfl, url, -, rfl⟩, headers, hheaders, rfl⟩ := hL.record.1 h
  exact hL.recover_table hheaders hL.recovers_header

theorem options_toValue {o : Options}
    (hheaders : checkHeaders L (headersValue o.headers) = .fits o.headers) :
    checkOptions L o.toValue = .fits o := by
  have hhttp : checkHttpOptions L (Document.record [("base_url", .str o.baseUrl),
      ("headers", headersValue o.headers)]) = .fits (o.baseUrl, o.headers) := by
    refine hL.record.2 ⟨0, _, rfl, ?_⟩
    exact ((Fields.Reads.made _).field (.of_get? rfl (hL.string o.baseUrl))).field
      (.of_get? rfl hheaders)
  refine hL.record.2 ⟨0, _, rfl, ?_⟩
  exact ((Fields.Reads.made _).field (.of_get? rfl (hL.truth o.verbose))).field
    (.of_get? rfl hhttp)

theorem recovers_options : Recovers (checkOptions L) Options.toValue := by
  intro v o h
  obtain ⟨_, es, -, _, ⟨_, rfl, verbose, -, rfl⟩, http, hhttp, rfl⟩ := hL.record.1 h
  apply hL.options_toValue
  cases hhttp with
  | there hfound hv => exact hL.recover_headers hv
  | absent habsent hdefault =>
    cases hdefault
    exact hL.table_nil _

theorem recovers_open : Recovers (checkOpen L) .ofEntries := by
  intro v es h
  obtain ⟨table, htable, rfl⟩ := map_eq_fits.1 h
  have hwritten := hL.recovers_table hL.recovers_anything v table htable
  unfold tableValue Document.record at hwritten
  rw [List.map_map] at hwritten
  exact map_eq_fits.2 ⟨table, hwritten, rfl⟩

theorem recovers_graph : Recovers (checkGraph L) Graph.toValue := by
  intro v g h
  obtain ⟨_, es, -, _, ⟨_, ⟨_, ⟨_, ⟨_, ⟨_, rfl, state, hstate, rfl⟩, options, hoptions, rfl⟩,
    vars, hvars, rfl⟩, before, hbefore, rfl⟩, conditions, hconditions, rfl⟩, nodes, hnodes, rfl⟩ :=
    hL.record.1 h
  have hempty : checkOpen L (.ofEntries []) = .fits [] :=
    map_eq_fits.2 ⟨[], hL.table_nil L.anything, rfl⟩
  have hstate := hstate.recover_default hL.recovers_open hempty
  have hoptions := hoptions.recover_default hL.recovers_options
    (hL.options_toValue (hL.table_nil _))
  have hvars := hvars.recover_default hL.recovers_open hempty
  have hbefore := hbefore.recover_default hL.recovers_hooks
    (hL.hooks_toValue (hL.table_nil _) (hL.table_nil _))
  have hconditions := hL.recover_table hconditions hL.recovers_condition
  have hnodes := hnodes.recover (hL.recovers_table hL.recovers_node)
  refine hL.record.2 ⟨0, _, rfl, ?_⟩
  exact ((((((Fields.Reads.made _).field (.of_get? rfl hstate)).field
    (.of_get? rfl hoptions)).field (.of_get? rfl hvars)).field (.of_get? rfl hbefore)).field
    (.of_get? rfl hconditions)).field (.of_get? rfl hnodes)

end Library.Lawful

/-- The document that writes out all that another one means is taken to mean the same, whichever
library does the checks. -/
theorem readGraph_toValue {L : Library} (hL : L.Lawful) {v : Value} {g : Graph}
    (h : readGraph L v = .ok g) : readGraph L g.toValue = .ok g := by
  have hread (w : Value) : readGraph L w = .ok g ↔ checkGraph L w = .fits g := by
    unfold readGraph accept
    cases checkGraph L w <;> simp [toExcept, refuse]
  exact (hread _).2 (hL.recovers_graph v g ((hread v).1 h))

/-- A document that takes every liberty: fields under their other names, bare hooks without a layer, a
method in lower case, a number as a header, texts for numbers. -/
def casual : Value :=
  record [("initial_state", record [("n", .int 1)]),
    ("options", record [("verbose", .str "on"), ("http", record [("headers",
      record [("X-Page", .int 1)])])]),
    ("variables", record [("HOST", .str "here")]),
    ("before", record [("audit", record [("type", .str "none")])]),
    ("conditions", record [("ready", record [("and_", .ofList [.str "armed", record [("or",
      .ofList [record [("path", .str "n"), ("operator", .str ">=")]])]])])]),
    ("graph", record [
      ("start", record [("executor", record [("type", .str "http"), ("method", .str "get"),
          ("endpoint", .str "/"), ("headers", record [("X-Page", .int 2)])]),
        ("edges", .ofList [record [("to", .str "end"), ("condition", .str "ready"),
          ("fallback", .str "start")], record [("to", .str "end")]])]),
      ("end", record [("type", .str "end"), ("code", .str "7")])])]

def formal : Graph where
  initialState := [(.str "n", .int 1)]
  options := { verbose := true, headers := [("X-Page", "1")] }
  vars := [(.str "HOST", .str "here")]
  before := { all := [("audit", .none)] }
  conditions := [("ready", .all [.named "armed", .any [.simple "n" (.order .ge) .null]])]
  nodes := [
    ("start", {
      executor := .http { method := "GET", endpoint := "/", headers := [("X-Page", "2")] },
      edges := [⟨"end", some (.named "ready"), some "start"⟩, ⟨"end", none, none⟩] }),
    ("end", { isEnd := true, code := some 7 })]

theorem readGraph_toValue_formal :
    Library.standard.Lawful ∧ readGraph .standard casual = .ok formal ∧
    readGraph .standard formal.toValue = .ok formal := by
  have hcasual : readGraph .standard casual = .ok formal := by with_unfolding_all rfl
  exact ⟨Library.standard_lawful, hcasual, readGraph_toValue Library.standard_lawful hcasual⟩

end Document

end Flowgraph
