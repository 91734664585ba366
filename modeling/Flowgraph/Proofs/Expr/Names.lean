import Flowgraph.Proofs.Expr.Edits
import Flowgraph.Proofs.Expr.Unmarked
import Flowgraph.Proofs.Value.Equality

namespace Flowgraph.Expr

open Value (unmarked unmarkedItems unmarkedEntries)

mutual

def freeNames : Expr → List String
  | literal _ => []
  | name n => [n]
  | object ps => freeNamesOfProperties ps
  | member e _ => e.freeNames
  | index e i => e.freeNames ++ i.freeNames
  | call _ as => freeNamesOfAll as
  | method e _ as => e.freeNames ++ freeNamesOfAll as
termination_by structural e => e

def freeNamesOfAll : List Expr → List String
  | [] => []
  | e :: es => e.freeNames ++ freeNamesOfAll es
termination_by structural es => es

def freeNamesOfProperties : List (String × Expr) → List String
  | [] => []
  | (_, e) :: ps => e.freeNames ++ freeNamesOfProperties ps
termination_by structural ps => ps

end

mutual

def valueIn (env : String → Value) : Expr → Except Fault Value
  | .literal l => .ok l.value
  | .name n => .ok (env n)
  | .object ps => (fun es ↦ .ofEntries (Entries.ofList es)) <$> propertiesIn env ps
  | .member e p => (fun v ↦ if v.isNullish then .undefined else memberOf v p) <$> valueIn env e
  | .index e i => valueIn env e >>= fun v ↦
      if v.isNullish then .ok .undefined else valueIn env i >>= indexOf v
  | .call f as =>
    match Extremum.ofName? f with
    | none => .error (.eval (.unknownFunction f))
    | some x => valuesIn env as >>= fun vs ↦ (x.apply vs).mapError fun c ↦ .eval (.call f c)
  | .method e m as => valueIn env e >>= fun v ↦
      if v.isNullish then .error (.eval (.methodOnNothing m v.kindName))
      else match PathFunction.ofName? m with
        | none => .error (.eval (.notAFunction m v.kindName))
        | some f => valuesIn env as >>= fun vs ↦
            (f.apply (v :: vs)).mapError fun c ↦ .eval (c.toEvalFault m)
termination_by structural e => e

def valuesIn (env : String → Value) : List Expr → Except Fault (List Value)
  | [] => .ok []
  | e :: es => valueIn env e >>= fun v ↦ (v :: ·) <$> valuesIn env es
termination_by structural es => es

def propertiesIn (env : String → Value) : List (String × Expr) → Except Fault (List (Key × Value))
  | [] => .ok []
  | (k, e) :: ps => valueIn env e >>= fun v ↦ ((.str k, v) :: ·) <$> propertiesIn env ps
termination_by structural ps => ps

end

section

variable {α β : Type} {r : Except Fault α} {f : α → List Edit → Outcome β}
  {g : α → Except Fault β}

theorem Outcome.andThen_of_forall (h : ∀ a, f a [] = ⟨g a, []⟩) :
    Outcome.andThen ⟨r, []⟩ f = ⟨r >>= g, []⟩ := by
  cases r with
  | error e => rfl
  | ok a =>
    change (⟨(f a []).result, [] ++ (f a []).edits⟩ : Outcome β) = _
    rw [h a]
    rfl

end

section

variable (methods : Methods) (s : State)

mutual

theorem eval_eq_valueIn (e : Expr) (h : e.callsNative = false) :
    eval methods s e = ⟨valueIn s.get e, []⟩ := by
  match e with
  | .literal _ | .name _ => rfl
  | .object ps =>
    rw [eval, evalProperties_eq_propertiesIn ps h]
    rfl
  | .member e p =>
    rw [eval, eval_eq_valueIn e h]
    rfl
  | .index e i =>
    simp only [callsNative, Bool.or_eq_false_iff] at h
    rw [eval, eval_eq_valueIn e h.1]
    refine Outcome.andThen_of_forall fun v ↦ ?_
    split_ifs with hv
    · rfl
    · rw [State.edits_nil, eval_eq_valueIn i h.2]
      exact Outcome.andThen_of_forall fun w ↦ rfl
  | .call f as =>
    rw [eval, valueIn]
    cases Extremum.ofName? f with
    | none => rfl
    | some x =>
      dsimp only
      rw [evalAll_eq_valuesIn as h]
      refine Outcome.andThen_of_forall fun vs ↦ ?_
      cases x.apply vs <;> rfl
  | .method e m as =>
    simp only [callsNative, Bool.or_eq_false_iff] at h
    obtain ⟨⟨he, hm⟩, has⟩ := h
    obtain ⟨f, hf⟩ := Option.isSome_iff_exists.1 (Option.isNone_eq_false_iff.1 hm)
    rw [eval, eval_eq_valueIn e he, valueIn, hf]
    refine Outcome.andThen_of_forall fun v ↦ ?_
    cases v.isNullish with
    | true => rfl
    | false =>
      rw [if_neg Bool.false_ne_true, if_neg Bool.false_ne_true]
      dsimp only
      rw [State.edits_nil, evalAll_eq_valuesIn as has]
      refine Outcome.andThen_of_forall fun vs ↦ ?_
      rw [Value.edits_nil]
      cases f.apply (v :: vs) <;> rfl
termination_by structural e

theorem evalAll_eq_valuesIn (es : List Expr) (h : anyCallsNative es = false) :
    evalAll methods s es = ⟨valuesIn s.get es, []⟩ := by
  match es with
  | [] => rfl
  | e :: es =>
    simp only [anyCallsNative, Bool.or_eq_false_iff] at h
    rw [evalAll, eval_eq_valueIn e h.1]
    refine Outcome.andThen_of_forall fun v ↦ ?_
    rw [State.edits_nil, evalAll_eq_valuesIn es h.2]
    exact Outcome.andThen_of_forall fun vs ↦ rfl
termination_by structural es

theorem evalProperties_eq_propertiesIn (ps : List (String × Expr))
    (h : propertiesCallNative ps = false) :
    evalProperties methods s ps = ⟨propertiesIn s.get ps, []⟩ := by
  match ps with
  | [] => rfl
  | (k, e) :: ps =>
    simp only [propertiesCallNative, Bool.or_eq_false_iff] at h
    rw [evalProperties, eval_eq_valueIn e h.1]
    refine Outcome.andThen_of_forall fun v ↦ ?_
    rw [State.edits_nil, evalProperties_eq_propertiesIn ps h.2]
    exact Outcome.andThen_of_forall fun es ↦ rfl
termination_by structural ps

end

end

section

variable {env env' : String → Value}

mutual

theorem valueIn_congr (e : Expr) (h : ∀ n ∈ e.freeNames, env n = env' n) :
    valueIn env e = valueIn env' e := by
  match e with
  | .literal _ => rfl
  | .name n => exact congrArg Except.ok (h n List.mem_cons_self)
  | .object ps => rw [valueIn, propertiesIn_congr ps h, valueIn]
  | .member e p => rw [valueIn, valueIn_congr e h, valueIn]
  | .index e i =>
    obtain ⟨he, hi⟩ := List.forall_mem_append.1 h
    rw [valueIn, valueIn_congr e he, valueIn_congr i hi, valueIn]
  | .call f as => rw [valueIn, valuesIn_congr as h, valueIn]
  | .method e m as =>
    obtain ⟨he, has⟩ := List.forall_mem_append.1 h
    rw [valueIn, valueIn_congr e he, valuesIn_congr as has, valueIn]
termination_by structural e

theorem valuesIn_congr (es : List Expr) (h : ∀ n ∈ freeNamesOfAll es, env n = env' n) :
    valuesIn env es = valuesIn env' es := by
  match es with
  | [] => rfl
  | e :: es =>
    obtain ⟨he, hes⟩ := List.forall_mem_append.1 h
    rw [valuesIn, valueIn_congr e he, valuesIn_congr es hes, valuesIn]
termination_by structural es

theorem propertiesIn_congr (ps : List (String × Expr))
    (h : ∀ n ∈ freeNamesOfProperties ps, env n = env' n) :
    propertiesIn env ps = propertiesIn env' ps := by
  match ps with
  | [] => rfl
  | (k, e) :: ps =>
    obtain ⟨he, hps⟩ := List.forall_mem_append.1 h
    rw [propertiesIn, valueIn_congr e he, propertiesIn_congr ps hps, propertiesIn]
termination_by structural ps

end

end

section

variable (env : String → Value)

def unmarkedIn (n : String) : Value := (env n).unmarked

mutual

theorem valueIn_unmarked (e : Expr) :
    valueIn (unmarkedIn env) e = unmarked <$> valueIn env e := by
  match e with
  | .literal l => cases l <;> rfl
  | .name _ => rfl
  | .object ps =>
    rw [valueIn, propertiesIn_unmarked ps, valueIn]
    cases propertiesIn env ps with
    | error f => rfl
    | ok es =>
      exact congrArg (fun es ↦ Except.ok (Value.ofEntries es)) (Value.ofList_unmarkedEntries es)
  | .member e p =>
    rw [valueIn, valueIn_unmarked e, valueIn]
    cases valueIn env e with
    | error f => rfl
    | ok v =>
      refine congrArg Except.ok ?_
      dsimp only
      rw [Value.isNullish_unmarked, memberOf_unmarked]
      split_ifs <;> rfl
  | .index e i =>
    rw [valueIn, valueIn_unmarked e, valueIn_unmarked i, valueIn]
    refine (map_bind_of_forall fun v ↦ ?_).symm
    rw [Value.isNullish_unmarked]
    split_ifs
    · rfl
    · exact map_bind_of_forall fun w ↦ (indexOf_unmarked v w).symm
  | .call f as =>
    rw [valueIn, valuesIn_unmarked as, valueIn]
    cases Extremum.ofName? f with
    | none => rfl
    | some x =>
      refine (map_bind_of_forall fun vs ↦ ?_).symm
      rw [map_mapError, apply_extremum_unmarked]
  | .method e m as =>
    rw [valueIn, valueIn_unmarked e, valuesIn_unmarked as, valueIn]
    refine (map_bind_of_forall fun v ↦ ?_).symm
    rw [Value.isNullish_unmarked, Value.kindName_unmarked]
    split_ifs
    · rfl
    · cases PathFunction.ofName? m with
      | none => rfl
      | some f =>
        refine map_bind_of_forall fun vs ↦ ?_
        rw [map_mapError, ← apply_unmarked]
        rfl
termination_by structural e

theorem valuesIn_unmarked (es : List Expr) :
    valuesIn (unmarkedIn env) es = unmarkedItems <$> valuesIn env es := by
  match es with
  | [] => rfl
  | e :: es =>
    rw [valuesIn, valueIn_unmarked e, valuesIn_unmarked es, valuesIn]
    refine (map_bind_of_forall fun v ↦ ?_).symm
    cases valuesIn env es <;> rfl
termination_by structural es

theorem propertiesIn_unmarked (ps : List (String × Expr)) :
    propertiesIn (unmarkedIn env) ps = unmarkedEntries <$> propertiesIn env ps := by
  match ps with
  | [] => rfl
  | (k, e) :: ps =>
    rw [propertiesIn, valueIn_unmarked e, propertiesIn_unmarked ps, propertiesIn]
    refine (map_bind_of_forall fun v ↦ ?_).symm
    cases propertiesIn env ps <;> rfl
termination_by structural ps

end

end

section

variable {methods : Methods} {s t : State} {e : Expr}

theorem eval_congr (he : e.callsNative = false) (h : ∀ n ∈ e.freeNames, s.get n = t.get n) :
    eval methods s e = eval methods t e := by
  rw [eval_eq_valueIn methods s e he, eval_eq_valueIn methods t e he, valueIn_congr e h]

theorem result_eval_congr (he : e.callsNative = false)
    (h : ∀ n ∈ e.freeNames, (s.get n).unmarked = (t.get n).unmarked) :
    unmarked <$> (eval methods s e).result = unmarked <$> (eval methods t e).result := by
  rw [eval_eq_valueIn methods s e he, eval_eq_valueIn methods t e he]
  exact (valueIn_unmarked s.get e).symm.trans ((valueIn_congr e h).trans (valueIn_unmarked t.get e))

/-- An expression without native methods comes to the same in two run states that hold the same
under each name in it; if they hold the same but for marks, it comes to the same but for marks, or
to the same fault. Nothing that is put under another name, be it that of a function, of a method, of
a property or a key of an object, changes what the expression comes to. -/
theorem eval_names (methods : Methods) (s : State) (e : Expr) (he : e.callsNative = false) :
    (∀ t : State, (∀ n ∈ e.freeNames, s.get n = t.get n) → eval methods s e = eval methods t e) ∧
    (∀ t : State, (∀ n ∈ e.freeNames, (s.get n).unmarked = (t.get n).unmarked) →
      unmarked <$> (eval methods s e).result = unmarked <$> (eval methods t e).result ∧
        (eval methods s e).edits = [] ∧ (eval methods t e).edits = []) ∧
    ∀ k ∉ e.freeNames, ∀ v, eval methods (s.set k v) e = eval methods s e :=
  ⟨fun _ h ↦ eval_congr he h,
    fun t h ↦ ⟨result_eval_congr he h, edits_eval methods s e he, edits_eval methods t e he⟩,
    fun _ hk v ↦ eval_congr he fun _ hn ↦ State.get_set_of_ne v (ne_of_mem_of_not_mem hn hk)⟩

def outranked : Expr :=
  .call "max" [.name "x", .member (.method (.name "crew") "find"
    [.object [("id", .literal (.int 2))]]) "rank"]

def crewed : State :=
  ⟨[(.str "x", .int 1), (.str "find", .str "nobody"), (.str "crew", .list 1
    [.mapping 2 [(.str "id", .int 2), (.str "rank", .int 7)]])], 3⟩

theorem eval_names_crewed :
    outranked.callsNative = false ∧ "max" ∉ outranked.freeNames ∧ "find" ∉ outranked.freeNames ∧
    (eval Method.standard (crewed.set "max" .null) outranked).result = .ok (.int 7) ∧
    (eval Method.standard (crewed.set "find" .null) outranked).result = .ok (.int 7) := by
  have hnative : outranked.callsNative = false := rfl
  have hmax : "max" ∉ outranked.freeNames := by decide
  have hfind : "find" ∉ outranked.freeNames := by decide
  have hvalue : (eval Method.standard crewed outranked).result = .ok (.int 7) := rfl
  obtain ⟨-, -, hother⟩ := eval_names Method.standard crewed outranked hnative
  refine ⟨hnative, hmax, hfind, ?_, ?_⟩
  · rw [hother "max" hmax, hvalue]
  · rw [hother "find" hfind, hvalue]

end

end Flowgraph.Expr
