import Flowgraph.Proofs.Json.RoundTrip
import Flowgraph.Proofs.Value.Data
import Flowgraph.Proofs.Value.Display
import Flowgraph.Proofs.Value.Equality

namespace Flowgraph

def Key.jsonName (k : Key) : String := (Json.keyText k).toOption.getD ""

namespace Value

mutual

def isSendable : Value → Bool
  | .null | .bool _ | .float _ | .str _ => true
  | .int i => (Number.integerText i).isOk
  | .list _ vs | .tuple vs => areSendable vs
  | .mapping _ es => areMembersSendable es
  | _ => false
termination_by structural v => v

def areSendable : List Value → Bool
  | [] => true
  | v :: vs => v.isSendable && areSendable vs
termination_by structural vs => vs

def areMembersSendable : List (Key × Value) → Bool
  | [] => true
  | (k, v) :: es => k.isName && v.isSendable && areMembersSendable es
termination_by structural es => es

end

mutual

def isFloatFree : Value → Bool
  | .float _ => false
  | .list _ vs | .tuple vs => areFloatFree vs
  | .mapping _ es => areMembersFloatFree es
  | _ => true
termination_by structural v => v

def areFloatFree : List Value → Bool
  | [] => true
  | v :: vs => v.isFloatFree && areFloatFree vs
termination_by structural vs => vs

def areMembersFloatFree : List (Key × Value) → Bool
  | [] => true
  | (_, v) :: es => v.isFloatFree && areMembersFloatFree es
termination_by structural es => es

end

mutual

def isTupleFree : Value → Bool
  | .tuple _ => false
  | .list _ vs => areTupleFree vs
  | .mapping _ es => areMembersTupleFree es
  | _ => true
termination_by structural v => v

def areTupleFree : List Value → Bool
  | [] => true
  | v :: vs => v.isTupleFree && areTupleFree vs
termination_by structural vs => vs

def areMembersTupleFree : List (Key × Value) → Bool
  | [] => true
  | (_, v) :: es => v.isTupleFree && areMembersTupleFree es
termination_by structural es => es

end

mutual

def carried : Value → Value
  | .list _ vs | .tuple vs => .ofList (carriedItems vs)
  | .mapping _ es => .ofEntries (Entries.ofList (Json.named (carriedMembers es)))
  | v => v
termination_by structural v => v

def carriedItems : List Value → List Value
  | [] => []
  | v :: vs => v.carried :: carriedItems vs
termination_by structural vs => vs

def carriedMembers : List (Key × Value) → List (String × Value)
  | [] => []
  | (k, v) :: es => (k.jsonName, v.carried) :: carriedMembers es
termination_by structural es => es

end

theorem carried_ofList {vs : List Value} (h : carriedItems vs = vs) :
    (ofList vs).carried = .ofList vs := by rw [ofList, carried, h, ofList]

theorem carried_ofEntries {es : Entries} (hes : es.ByText) (h : ∀ e ∈ es, e.2.carried = e.2) :
    (ofEntries es).carried = .ofEntries es := by
  have hnamed : Json.named (carriedMembers es) = es := by
    have htexts := hes.texts
    clear hes
    induction es with
    | nil => rfl
    | cons e es ih =>
      obtain ⟨k, v⟩ := e
      obtain ⟨⟨name, rfl : k = .str name⟩, hnames⟩ := List.forall_mem_cons.1 htexts
      obtain ⟨hv : v.carried = v, hes⟩ := List.forall_mem_cons.1 h
      rw [carriedMembers, hv]
      exact congrArg ((Key.str name, v) :: ·) (ih hes hnames)
  have hnodup : ((carriedMembers es).map (·.1)).Nodup := by
    refine Json.nodup_of_named ?_
    rw [hnamed]
    exact hes.nodup
  rw [ofEntries, carried, Json.ofList_named hnodup, hnamed, ofEntries]

end Value

namespace Json

open Value

mutual

theorem isOk_write_request (level : ℕ) (v : Value) :
    (write .request level v).isOk = v.isSendable := by
  cases v with
  | int i => exact isOk_writeInt i
  | list m vs => exact (isOk_map _ _).trans (isOk_writeItems_request (level + 1) vs)
  | tuple vs => exact (isOk_map _ _).trans (isOk_writeItems_request (level + 1) vs)
  | mapping m es => exact (isOk_map _ _).trans (isOk_writeEntries_request (level + 1) es)
  | _ => rfl
termination_by structural v

theorem isOk_writeItems_request (level : ℕ) (vs : List Value) :
    (writeItems .request level vs).isOk = areSendable vs := by
  cases vs with
  | nil => rfl
  | cons v vs =>
    have hv := isOk_write_request level v
    have hvs := isOk_writeItems_request level vs
    exact (isOk_bind_map _ _ _).trans (congrArg₂ _ hv hvs)
termination_by structural vs

theorem isOk_writeEntries_request (level : ℕ) (es : List (Key × Value)) :
    (writeEntries .request level es).isOk = areMembersSendable es := by
  cases es with
  | nil => rfl
  | cons e es =>
    obtain ⟨k, v⟩ := e
    have hv := isOk_write_request level v
    have hes := isOk_writeEntries_request level es
    rw [areMembersSendable, Bool.and_assoc, ← isOk_keyText]
    exact isOk_bind _ _ _ fun name ↦ (isOk_bind_map _ _ _).trans (congrArg₂ _ hv hes)
termination_by structural es

end

theorem isOk_writeText_request (v : Value) : (writeText .request v).isOk = v.isSendable :=
  (isOk_map _ _).trans (isOk_write_request 0 v)

theorem exists_writeText_eq_ok {v : Value} (hv : v.isSendable = true) :
    ∃ text, writeText .request v = .ok text := by
  rw [← isOk_writeText_request] at hv
  cases htext : writeText .request v with
  | ok text => exact ⟨text, rfl⟩
  | error e =>
    rw [htext] at hv
    cases hv

theorem exists_writeText_eq_error {v : Value} (hv : v.isSendable = false) :
    ∃ e, writeText .request v = .error e := by
  rw [← isOk_writeText_request] at hv
  cases htext : writeText .request v with
  | ok text =>
    rw [htext] at hv
    cases hv
  | error e => exact ⟨e, rfl⟩

theorem keyText_of_isName {k : Key} (h : k.isName = true) : keyText k = .ok k.jsonName := by
  rw [← isOk_keyText] at h
  unfold Key.jsonName
  cases hk : keyText k with
  | ok name => rfl
  | error e =>
    rw [hk] at h
    cases h

theorem enclosed_eq {r : Except WriteError (List (List Char))} {ts : List (List Char)}
    (h : r = .ok ts) (level : ℕ) (opening closing : Char) :
    Style.request.enclose level opening closing <$> r =
      .ok (opening :: (joined [',', ' '] ts ++ [closing])) := by
  rw [h]
  exact congrArg Except.ok (enclose_eq rfl level opening closing ts)

theorem exists_spells_list {vs ws : List Value} (h : ∃ enough ts,
      (∀ level, writeItems .request level vs = .ok ts) ∧
      ∀ room, enough ≤ room → List.Forall₂ (Spells room) ws ts) :
    ∃ enough t, (∀ level,
        Style.request.enclose level '[' ']' <$> writeItems .request (level + 1) vs = .ok t) ∧
      ∀ room, enough ≤ room → Spells room (.ofList ws) t := by
  obtain ⟨enough, ts, hts, hspells⟩ := h
  refine ⟨enough + 1, _, fun level ↦ enclosed_eq (hts (level + 1)) level _ _, fun room hroom ↦ ?_⟩
  obtain ⟨room, rfl⟩ := Nat.exists_eq_succ_of_ne_zero (Nat.ne_zero_of_lt hroom)
  exact spells_list (spaced_blank ',') (hspells room (Nat.le_of_succ_le_succ hroom))

mutual

theorem exists_spells (v : Value) (hv : v.isSendable = true) (hfree : v.isFloatFree = true) :
    ∃ enough t, (∀ level, write .request level v = .ok t) ∧
      ∀ room, enough ≤ room → Spells room v.carried t := by
  match v with
  | .null => exact ⟨0, _, fun _ ↦ rfl, fun _ _ ↦ shows_null.toSpells⟩
  | .bool b => exact ⟨0, _, fun _ ↦ rfl, fun _ _ ↦ (shows_bool b).toSpells⟩
  | .str s => exact ⟨0, _, fun _ ↦ rfl, fun _ _ ↦ (shows_str s).toSpells⟩
  | .int i =>
    have hi := Number.isOk_integerText_iff.1 hv
    exact ⟨0, _, fun _ ↦ writeInt_eq hi, fun _ _ ↦ (shows_int hi).toSpells⟩
  | .list m vs => exact exists_spells_list (exists_spells_items vs hv hfree)
  | .tuple vs => exact exists_spells_list (exists_spells_items vs hv hfree)
  | .mapping m es =>
    obtain ⟨enough, us, hus, hspells⟩ := exists_spells_members es hv hfree
    refine ⟨enough + 1, _, fun level ↦ enclosed_eq (hus (level + 1)) level _ _, fun room hroom ↦ ?_⟩
    obtain ⟨room, rfl⟩ := Nat.exists_eq_succ_of_ne_zero (Nat.ne_zero_of_lt hroom)
    exact spells_mapping (spaced_blank ',') (spaced_blank ':')
      (hspells room (Nat.le_of_succ_le_succ hroom))
termination_by structural v

theorem exists_spells_items (vs : List Value) (hv : areSendable vs = true)
    (hfree : areFloatFree vs = true) :
    ∃ enough ts, (∀ level, writeItems .request level vs = .ok ts) ∧
      ∀ room, enough ≤ room → List.Forall₂ (Spells room) (carriedItems vs) ts := by
  match vs with
  | [] => exact ⟨0, [], fun _ ↦ rfl, fun _ _ ↦ .nil⟩
  | v :: vs =>
    obtain ⟨hv, hvs⟩ := Bool.and_eq_true_iff.1 hv
    obtain ⟨hfree, hfrees⟩ := Bool.and_eq_true_iff.1 hfree
    obtain ⟨n, t, ht, hspells⟩ := exists_spells v hv hfree
    obtain ⟨m, ts, hts, hspells'⟩ := exists_spells_items vs hvs hfrees
    refine ⟨max n m, t :: ts, fun level ↦ ?_, fun room hroom ↦ ?_⟩
    · rw [writeItems, ht, hts]
      rfl
    · exact .cons (hspells room (le_of_max_le_left hroom)) (hspells' room (le_of_max_le_right hroom))
termination_by structural vs

theorem exists_spells_members (es : List (Key × Value)) (hv : areMembersSendable es = true)
    (hfree : areMembersFloatFree es = true) :
    ∃ enough us, (∀ level, writeEntries .request level es = .ok us) ∧
      ∀ room, enough ≤ room →
        List.Forall₂ (SpellsMember [':', ' '] room) (carriedMembers es) us := by
  match es with
  | [] => exact ⟨0, [], fun _ ↦ rfl, fun _ _ ↦ .nil⟩
  | (k, v) :: es =>
    obtain ⟨hkv, hes⟩ := Bool.and_eq_true_iff.1 hv
    obtain ⟨hk, hv⟩ := Bool.and_eq_true_iff.1 hkv
    obtain ⟨hfree, hfrees⟩ := Bool.and_eq_true_iff.1 hfree
    obtain ⟨n, t, ht, hspells⟩ := exists_spells v hv hfree
    obtain ⟨m, us, hus, hspells'⟩ := exists_spells_members es hes hfrees
    refine ⟨max n m, (writeString k.jsonName ++ [':', ' '] ++ t) :: us, fun level ↦ ?_,
      fun room hroom ↦ .cons ⟨t, rfl, ?_⟩ (hspells' room (le_of_max_le_right hroom))⟩
    · rw [writeEntries, keyText_of_isName hk, ht, hus]
      rfl
    · exact hspells room (le_of_max_le_left hroom)
termination_by structural es

end

/-- The text of a value without floats is read as what JSON carries of it, where brackets may be deep
enough. -/
theorem exists_read_writeText {v : Value} (hv : v.isSendable = true)
    (hfree : v.isFloatFree = true) : ∃ text enough, writeText .request v = .ok text ∧
      ∀ room, enough ≤ room → read room text.toList = .ok v.carried := by
  obtain ⟨enough, t, ht, hspells⟩ := exists_spells v hv hfree
  refine ⟨String.ofList t, enough, by rw [writeText, ht]; rfl, fun room hroom ↦ ?_⟩
  rw [String.toList_ofList]
  exact (hspells room hroom).read_eq

structure Delivers {α : Type} (Q : α → Prop) (r : Except Failure (α × List Char)) : Prop where
  of_ok : ∀ {a rest}, r = .ok (a, rest) → Q a

section Delivers

variable {α β : Type} {P : α → Prop} {Q : β → Prop} {r : Except Failure (α × List Char)}

theorem delivers_ok {a : α} {rest : List Char} (h : P a) : Delivers P (.ok (a, rest)) :=
  ⟨by rintro b rest' ⟨⟩; exact h⟩

theorem delivers_fail {cause : Cause} {s : List Char} : Delivers P (fail cause s) := ⟨nofun⟩

theorem delivers_true : Delivers (fun _ ↦ True) r := ⟨fun _ ↦ trivial⟩

theorem Delivers.bind {f : α × List Char → Except Failure (β × List Char)} (h : Delivers P r)
    (hf : ∀ a rest, P a → Delivers Q (f (a, rest))) : Delivers Q (r >>= f) := by
  match r with
  | .ok (a, rest) => exact hf a rest (h.of_ok rfl)
  | .error e => exact ⟨nofun⟩

end Delivers

theorem areSendable_iff {vs : List Value} : areSendable vs = true ↔ ∀ v ∈ vs, v.isSendable = true := by
  induction vs with
  | nil => simp [areSendable]
  | cons v vs ih => simp [areSendable, ih]

theorem areMembersSendable_iff {es : Entries} : areMembersSendable es = true ↔
    ∀ e ∈ es, e.1.isName = true ∧ e.2.isSendable = true := by
  induction es with
  | nil => simp [areMembersSendable]
  | cons e es ih => simp [areMembersSendable, ih]

theorem delivers_readNumber (s : List Char) :
    Delivers (fun v ↦ v.isSendable = true) (readNumber s) := by
  have hmagnitude (start s : List Char) (negative : Bool) :
      Delivers (fun v ↦ v.isSendable = true) (readMagnitude start negative s) := by
    unfold readMagnitude
    extract_lets whole n
    have hwhole : ∀ d ∈ whole, d.isDigit = true := by
      simp only [whole]
      split
      · simp
      · exact List.all_eq_true.1 List.all_takeWhile
    dsimp only
    split
    · exact delivers_fail
    · split
      · split
        · exact delivers_fail
        · next hlong =>
          have hvalue : Number.digitsValue whole < 10 ^ Number.longestInteger :=
            (Number.digitsValue_lt hwhole).trans_le
              (Nat.pow_le_pow_right (by decide) (Nat.not_lt.1 hlong))
          refine delivers_ok (Number.isOk_integerText_iff.2 ?_)
          cases negative <;> simpa [n] using hvalue
      · exact delivers_ok rfl
  unfold readNumber
  split
  · split
    · exact delivers_ok rfl
    · exact hmagnitude _ _ _
  · exact hmagnitude _ _ _

theorem delivers_readWord (s : List Char) :
    Delivers (fun v ↦ v.isSendable = true) (readWord s) := by
  unfold readWord
  repeat' split
  all_goals first | exact delivers_ok rfl | exact delivers_fail

mutual

theorem delivers_readValue (fuel room : ℕ) (s : List Char) :
    Delivers (fun v ↦ v.isSendable = true) (readValue fuel room s) := by
  cases fuel with
  | zero => exact delivers_fail
  | succ fuel =>
    unfold readValue
    split
    · next r =>
      exact delivers_true.bind fun t rest _ ↦ delivers_ok rfl
    · next r =>
      split
      · exact delivers_fail
      · next room =>
        split
        · exact delivers_ok rfl
        · refine (delivers_readEntries fuel room [] _ (List.forall_mem_nil _)).bind fun es rest hes ↦ ?_
          exact delivers_ok (areMembersSendable_iff.2 (Entries.forall_ofList
            (P := fun k ↦ k.isName = true) (Q := fun v ↦ v.isSendable = true) hes))
    · next r =>
      split
      · exact delivers_fail
      · next room =>
        split
        · exact delivers_ok rfl
        · refine (delivers_readItems fuel room [] _ (List.forall_mem_nil _)).bind fun vs rest hvs ↦ ?_
          exact delivers_ok (areSendable_iff.2 hvs)
    · split
      · exact delivers_readNumber _
      · exact delivers_readWord _
    · exact delivers_fail
termination_by fuel

theorem delivers_readItems (fuel room : ℕ) (acc : List Value) (s : List Char)
    (h : ∀ v ∈ acc, v.isSendable = true) :
    Delivers (fun vs ↦ ∀ v ∈ vs, v.isSendable = true) (readItems fuel room acc s) := by
  cases fuel with
  | zero => exact delivers_fail
  | succ fuel =>
    unfold readItems
    refine (delivers_readValue fuel room s).bind fun v rest hv ↦ ?_
    have hacc : ∀ w ∈ v :: acc, w.isSendable = true := List.forall_mem_cons.2 ⟨hv, h⟩
    dsimp only
    split
    · exact delivers_ok (fun w hw ↦ hacc w (List.mem_reverse.1 hw))
    · exact delivers_readItems fuel room _ _ hacc
    · exact delivers_fail
termination_by fuel

theorem delivers_readEntries (fuel room : ℕ) (acc : List (Key × Value)) (s : List Char)
    (h : ∀ e ∈ acc, e.1.isName = true ∧ e.2.isSendable = true) :
    Delivers (fun es ↦ ∀ e ∈ es, e.1.isName = true ∧ e.2.isSendable = true)
      (readEntries fuel room acc s) := by
  cases fuel with
  | zero => exact delivers_fail
  | succ fuel =>
    unfold readEntries
    split
    · next r =>
      refine delivers_true.bind fun name rest _ ↦ ?_
      dsimp only
      split
      · refine (delivers_readValue fuel room _).bind fun v rest hv ↦ ?_
        have hacc : ∀ e ∈ (Key.str name, v) :: acc, e.1.isName = true ∧ e.2.isSendable = true :=
          List.forall_mem_cons.2 ⟨⟨rfl, hv⟩, h⟩
        dsimp only
        split
        · exact delivers_ok (fun e he ↦ hacc e (List.mem_reverse.1 he))
        · exact delivers_readEntries fuel room _ _ hacc
        · exact delivers_fail
      · exact delivers_fail
    · exact delivers_fail
termination_by fuel

end

theorem isSendable_of_read {room : ℕ} {text : List Char} {v : Value}
    (h : read room text = .ok v) : v.isSendable = true := by
  unfold read at h
  dsimp only at h
  split at h
  · cases h
  · split at h
    · cases h
    · next hr =>
      split at h
      · cases h
        exact (delivers_readValue _ _ _).of_ok hr
      · cases h

end Json

end Flowgraph
