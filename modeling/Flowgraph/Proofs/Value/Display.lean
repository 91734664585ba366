import Flowgraph.Value.Display
import Mathlib.Tactic.Common

namespace Flowgraph

def Key.isName : Key → Bool
  | .str _ | .float _ | .bool _ | .null => true
  | .int i => (Number.integerText i).isOk
  | _ => false

namespace Value

mutual

/-- Whether all that a value shows can be written. Members without a value are not shown. -/
def isShowable : Value → Bool
  | .list _ vs | .tuple vs => areShowable vs
  | .mapping _ es => areMembersShowable es
  | v => v.isSpellable
termination_by structural v => v

def areShowable : List Value → Bool
  | [] => true
  | v :: vs => v.isShowable && areShowable vs
termination_by structural vs => vs

def areMembersShowable : List (Key × Value) → Bool
  | [] => true
  | (_, .undefined) :: es => areMembersShowable es
  | (k, v) :: es => k.isName && v.isShowable && areMembersShowable es
termination_by structural es => es

end

end Value

namespace Json

theorem isOk_map {ε α β : Type} (f : α → β) (r : Except ε α) : (f <$> r).isOk = r.isOk := by
  cases r <;> rfl

theorem isOk_ite {ε α : Type} (b : Bool) (a : α) (e : ε) :
    (if b then .ok a else .error e : Except ε α).isOk = b := by
  cases b <;> rfl

theorem isOk_bind_map {ε α β γ : Type} (f : α → β → γ) (r : Except ε α) (r' : Except ε β) :
    (do return f (← r) (← r')).isOk = (r.isOk && r'.isOk) := by
  cases r <;> cases r' <;> rfl

theorem isOk_bind {ε α β : Type} (f : α → Except ε β) (r : Except ε α) (b : Bool)
    (h : ∀ a, (f a).isOk = b) : (r >>= f).isOk = (r.isOk && b) := by
  cases r with
  | ok a => exact (h a).trans (Bool.true_and b).symm
  | error e => rfl

theorem isOk_writeInt (i : Int) : (writeInt i).isOk = (Number.integerText i).isOk := by
  unfold writeInt
  cases Number.integerText i <;> rfl

theorem isOk_keyText (k : Key) : (keyText k).isOk = k.isName := by
  cases k with
  | int i => exact (isOk_map _ _).trans (isOk_writeInt i)
  | _ => rfl

mutual

theorem isOk_write_settled (level : ℕ) (v : Value) :
    (write .compact level v.settled).isOk = v.isShowable := by
  cases v with
  | int i => exact isOk_writeInt i
  | list m vs => exact (isOk_map _ _).trans (isOk_writeItems_settled (level + 1) vs)
  | tuple vs => exact (isOk_map _ _).trans (isOk_writeItems_settled (level + 1) vs)
  | mapping m es => exact (isOk_map _ _).trans (isOk_writeEntries_settled (level + 1) es)
  | set ks => exact isOk_ite _ _ _
  | view kind m es => exact isOk_ite _ _ _
  | _ => rfl
termination_by structural v

theorem isOk_writeItems_settled (level : ℕ) (vs : List Value) :
    (writeItems .compact level (Value.settledItems vs)).isOk = Value.areShowable vs := by
  cases vs with
  | nil => rfl
  | cons v vs =>
    have hv := isOk_write_settled level v
    have hvs := isOk_writeItems_settled level vs
    cases v <;> exact (isOk_bind_map _ _ _).trans (congrArg₂ _ hv hvs)
termination_by structural vs

theorem isOk_writeEntries_settled (level : ℕ) (es : List (Key × Value)) :
    (writeEntries .compact level (Value.settledEntries es)).isOk = Value.areMembersShowable es := by
  cases es with
  | nil => rfl
  | cons e es =>
    obtain ⟨k, v⟩ := e
    have hv := isOk_write_settled level v
    have hes := isOk_writeEntries_settled level es
    have hmember (text : Except WriteError (List Char)) (htext : text.isOk = v.isShowable) :
        (do
          let name ← keyText k
          let text ← text
          return (writeString name ++ Style.compact.colon ++ text) ::
            (← writeEntries .compact level (Value.settledEntries es))).isOk =
          (k.isName && v.isShowable && Value.areMembersShowable es) := by
      rw [isOk_bind _ _ _ fun name ↦ (isOk_bind_map _ _ _).trans (congrArg₂ _ htext hes),
        isOk_keyText, Bool.and_assoc]
    cases v with
    | undefined => exact hes
    | _ => exact hmember _ hv
termination_by structural es

end

end Json

/-- The values that have a text are those that can be shown. -/
theorem Value.isOk_display (v : Value) : v.display.isOk = v.isShowable := by
  cases v with
  | int i => exact (Json.isOk_map _ _).trans (Json.isOk_writeInt i)
  | list m vs => exact (Json.isOk_map _ _).trans (Json.isOk_write_settled 0 _)
  | tuple vs => exact (Json.isOk_map _ _).trans (Json.isOk_write_settled 0 _)
  | mapping m es => exact (Json.isOk_map _ _).trans (Json.isOk_write_settled 0 _)
  | float x =>
    dsimp only [display]
    split <;> rfl
  | set ks => exact Json.isOk_ite _ _ _
  | view kind m es => exact Json.isOk_ite _ _ _
  | _ => rfl

end Flowgraph
