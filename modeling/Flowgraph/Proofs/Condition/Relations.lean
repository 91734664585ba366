import Flowgraph.Proofs.Condition.Frame
import Flowgraph.Proofs.Value.Display
import Mathlib.Data.Int.Notation

namespace Flowgraph

def Comparison.swap : Comparison → Comparison
  | lt => gt
  | le => ge
  | gt => lt
  | ge => le

namespace Value

/-- Neither value comes before the other: one is missing, is a mapping, is a number next to a text,
or is a list next to no list. -/
inductive Apart : Value → Value → Prop
  | missing {v w : Value} (h : v.isNullish = true) : Apart v w
  | number {v : Value} {a : Num} (s : String) (h : v.toNum? = some a) : Apart v (.str s)
  | list {mark : ℕ} {vs : List Value} {w : Value} (h : ∀ n ws, w ≠ .list n ws) :
      Apart (.list mark vs) w
  | mapping (mark : ℕ) (es : Entries) (w : Value) : Apart (.mapping mark es) w
  | symm {v w : Value} (h : Apart v w) : Apart w v

variable {v w : Value}

theorem Apart.safeCompare (h : v.Apart w) (op : Comparison) : safeCompare op v w = false := by
  have hboth : Value.safeCompare op v w = false ∧ Value.safeCompare op w v = false := by
    induction h with
    | missing h => simp [Value.safeCompare, h]
    | @number v a s h => cases v <;> cases h <;> exact ⟨rfl, rfl⟩
    | @list mark vs w h =>
      cases w with
      | list n ws => exact absurd rfl (h n ws)
      | view kind => cases kind <;> exact ⟨rfl, rfl⟩
      | _ => exact ⟨rfl, rfl⟩
    | mapping mark es w =>
      cases w with
      | view kind => cases kind <;> exact ⟨rfl, rfl⟩
      | _ => exact ⟨rfl, rfl⟩
    | symm _ ih => exact ih.symm
  exact hboth.1

end Value

def Relation.holds : Relation → Value → Value → Bool
  | equal, v, w => v.strictEqual w
  | unequal, v, w => !v.strictEqual w
  | order op, v, w => Value.safeCompare op v w
  | unknown _, _, _ => false

namespace Condition

open Act

def sides (runtime : Expr.Runtime) (path : String) (operand : Value) :
    Act Journal (Value × Value) :=
  resolvePath runtime path >>= fun left ↦ resolveOperand runtime left.1 operand

variable {st : Setting} {path : String} {r : Relation} {operand v w : Value} {j k : Journal}
  {s t : String} {e : Json.WriteError}

def bounds : Journal := shelf [.int 3, .int 5]

end Condition

end Flowgraph
