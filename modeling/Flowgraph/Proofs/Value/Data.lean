import Flowgraph.Proofs.Value.Path
import Flowgraph.Value.Display

namespace Flowgraph

namespace Entries

variable {P : Key → Prop} {Q : Value → Prop} {es : Entries}

theorem forall_insert (h : ∀ e ∈ es, P e.1 ∧ Q e.2) {k : Key} {v : Value} (hk : P k) (hv : Q v) :
    ∀ e ∈ insert es k v, P e.1 ∧ Q e.2 := by
  induction es with
  | nil => exact List.forall_mem_singleton.2 ⟨hk, hv⟩
  | cons e es ih =>
    obtain ⟨he, hes⟩ := List.forall_mem_cons.1 h
    rw [insert]
    split
    · exact List.forall_mem_cons.2 ⟨⟨he.1, hv⟩, hes⟩
    · exact List.forall_mem_cons.2 ⟨he, ih hes⟩

theorem forall_ofList (h : ∀ e ∈ es, P e.1 ∧ Q e.2) : ∀ e ∈ ofList es, P e.1 ∧ Q e.2 := by
  have hfold (acc : Entries) (hacc : ∀ e ∈ acc, P e.1 ∧ Q e.2) :
      ∀ e ∈ es.foldl (fun acc e ↦ insert acc e.1 e.2) acc, P e.1 ∧ Q e.2 := by
    induction es generalizing acc with
    | nil => exact hacc
    | cons e es ih =>
      obtain ⟨⟨hk, hv⟩, hes⟩ := List.forall_mem_cons.1 h
      exact ih hes _ (forall_insert hacc hk hv)
  exact hfold [] (List.forall_mem_nil _)

end Entries

namespace Value

/-- Nothing, a truth value, a number or a text, or a list of such values, or a mapping of such
values under texts. -/
inductive IsData : Value → Prop where
  | undefined : IsData .undefined
  | null : IsData .null
  | bool (b : Bool) : IsData (.bool b)
  | int (i : Int) : IsData (.int i)
  | float (x : Float) : IsData (.float x)
  | str (s : String) : IsData (.str s)
  | list (mark : ℕ) {vs : List Value} (h : ∀ v ∈ vs, IsData v) : IsData (.list mark vs)
  | mapping (mark : ℕ) {es : Entries} (hkeys : ∀ e ∈ es, ∃ s : String, e.1 = .str s)
      (h : ∀ e ∈ es, IsData e.2) : IsData (.mapping mark es)

variable {v w : Value} {mark : ℕ} {vs : List Value} {es : Entries}

theorem IsData.items (h : IsData (.list mark vs)) : ∀ v ∈ vs, v.IsData := by
  cases h
  assumption

theorem IsData.members (h : IsData (.mapping mark es)) : ∀ e ∈ es, e.2.IsData := by
  cases h
  assumption

theorem isData_getD (h : ∀ v ∈ vs, v.IsData) (i : ℕ) : (vs.getD i .undefined).IsData := by
  rw [List.getD_eq_getElem?_getD]
  cases hi : vs[i]? with
  | none => exact .undefined
  | some v => exact h v (List.mem_of_getElem? hi)

theorem isData_of_get? {k : Key} (h : ∀ e ∈ es, e.2.IsData) (hv : Entries.get? es k = some v) :
    v.IsData := by
  obtain ⟨e, he, rfl⟩ := Option.map_eq_some_iff.1 hv
  exact h e (List.mem_of_find?_eq_some he)

theorem isData_get (h : ∀ e ∈ es, e.2.IsData) (k : Key) : (Entries.get es k).IsData := by
  rw [Entries.get]
  cases hk : Entries.get? es k with
  | none => exact .undefined
  | some v => exact isData_of_get? h hk

end Value

namespace Json

def FailsAtInteger {α : Type} (r : Except WriteError α) : Prop := ∀ e, r = .error e → e = .integer

section FailsAtInteger

variable {α β : Type} {r : Except WriteError α} {f : α → Except WriteError β}

theorem failsAtInteger_ok (a : α) : FailsAtInteger (.ok a) := nofun

theorem FailsAtInteger.bind (hr : FailsAtInteger r) (hf : ∀ a, FailsAtInteger (f a)) :
    FailsAtInteger (r >>= f) := by
  cases r with
  | error e => exact fun e' h ↦ hr e' (by cases h; rfl)
  | ok a => exact hf a

theorem FailsAtInteger.map (g : α → β) (hr : FailsAtInteger r) : FailsAtInteger (g <$> r) := by
  cases r with
  | error e => exact fun e' h ↦ hr e' (by cases h; rfl)
  | ok a => exact failsAtInteger_ok (g a)

theorem failsAtInteger_writeInt (i : Int) : FailsAtInteger (writeInt i) := by
  rw [FailsAtInteger, writeInt]
  split
  · exact failsAtInteger_ok _
  · rintro e ⟨⟩
    rfl

theorem failsAtInteger_writeItems {vs : List Value} {level : ℕ}
    (h : ∀ v ∈ vs, FailsAtInteger (write .compact level v.settled)) :
    FailsAtInteger (writeItems .compact level (Value.settledItems vs)) := by
  induction vs with
  | nil => exact failsAtInteger_ok []
  | cons v vs ih =>
    obtain ⟨hv, hvs⟩ := List.forall_mem_cons.1 h
    cases v with
    | undefined =>
      exact FailsAtInteger.bind (failsAtInteger_ok _) fun _ ↦ (ih hvs).bind fun _ ↦
        failsAtInteger_ok _
    | _ => exact FailsAtInteger.bind hv fun _ ↦ (ih hvs).bind fun _ ↦ failsAtInteger_ok _

theorem failsAtInteger_writeEntries {es : Entries} {level : ℕ}
    (hkeys : ∀ e ∈ es, ∃ s : String, e.1 = .str s)
    (h : ∀ e ∈ es, FailsAtInteger (write .compact level e.2.settled)) :
    FailsAtInteger (writeEntries .compact level (Value.settledEntries es)) := by
  induction es with
  | nil => exact failsAtInteger_ok []
  | cons e es ih =>
    obtain ⟨k, v⟩ := e
    obtain ⟨⟨s, rfl : k = .str s⟩, htexts⟩ := List.forall_mem_cons.1 hkeys
    obtain ⟨hv, hvs⟩ := List.forall_mem_cons.1 h
    have hes := ih htexts hvs
    cases v with
    | undefined => exact hes
    | _ =>
      exact FailsAtInteger.bind (failsAtInteger_ok s) fun _ ↦ FailsAtInteger.bind hv fun _ ↦
        hes.bind fun _ ↦ failsAtInteger_ok _

theorem failsAtInteger_write {v : Value} (h : v.IsData) (level : ℕ) :
    FailsAtInteger (write .compact level v.settled) := by
  induction h generalizing level with
  | undefined | null | bool | float | str => exact failsAtInteger_ok _
  | int i => exact failsAtInteger_writeInt i
  | list mark _ ih => exact (failsAtInteger_writeItems fun v hv ↦ ih v hv (level + 1)).map _
  | mapping mark hkeys _ ih =>
    exact (failsAtInteger_writeEntries hkeys fun e he ↦ ih e he (level + 1)).map _

end FailsAtInteger

end Json

theorem Value.IsData.failsAtInteger_display {v : Value} (h : v.IsData) :
    Json.FailsAtInteger v.display := by
  cases h with
  | undefined | null | bool | str => exact Json.failsAtInteger_ok _
  | float x =>
    rw [display]
    split <;> exact Json.failsAtInteger_ok _
  | int i => exact (Json.failsAtInteger_writeInt i).map _
  | list mark h => exact (Json.failsAtInteger_write (.list mark h) 0).map _
  | mapping mark hkeys h => exact (Json.failsAtInteger_write (.mapping mark hkeys h) 0).map _

end Flowgraph
