import Flowgraph.Expr.Fault
import Flowgraph.Expr.Query

namespace Flowgraph.Expr

section Insertion

variable {α : Type} (before : α → α → Bool)

/-- The length of the longest run from the front along which `step` holds of each item and the one
before it. -/
def runLength (step : α → α → Bool) : List α → Nat
  | a :: b :: r => if step b a then runLength step (b :: r) + 1 else 1
  | r => r.length

/-- The place for `x` among sorted items, by halving the span from `low` to `high`. -/
def searchPlace (x : α) (sorted : Array α) (low high : Nat) : Nat :=
  if _ : low < high then
    let middle := low + (high - low) / 2
    match sorted[middle]? with
    | none => low
    | some y =>
      if before x y then searchPlace x sorted low middle
      else searchPlace x sorted (middle + 1) high
  else low
termination_by high - low

def place (sorted : List α) (x : α) : List α :=
  let i := searchPlace before x sorted.toArray 0 sorted.length
  sorted.take i ++ x :: sorted.drop i

def insertionSort (xs : List α) : List α :=
  let falls := runLength before xs
  if 2 ≤ falls then (xs.drop falls).foldl (place before) (xs.take falls).reverse
  else
    let n := runLength (fun b a ↦ !before b a) xs
    (xs.drop n).foldl (place before) (xs.take n)

end Insertion

/-- The order of two looked-up fields; a missing one comes first, or last if descending. -/
def compareFields (ascending : Bool) (v w : Value) : Ordering :=
  let o := match v.isNullish, w.isNullish with
    | true, true => .eq
    | true, false => .lt
    | false, true => .gt
    | false, false => Value.looseCompare v w
  if ascending then o else o.swap

def sortField (path : Value) (item : Value) : Except CallFault Value :=
  match item with
  | .mapping .. | .list .. => lookUp item path
  | _ => .ok .undefined

def withFields (path : Value) : List Value → Except CallFault (List (Value × Value))
  | a :: b :: r => do
    let g ← sortField path b
    let f ← sortField path a
    let fs ← r.mapM (sortField path)
    return (f, a) :: (g, b) :: fs.zip r
  | r => .ok (r.map fun v ↦ (.undefined, v))

def sort (list path direction : Value) : Except CallFault Value :=
  match list with
  | .list _ vs => do
    let ascending := !direction.strictEqual (.str "desc")
    let pairs ← withFields path vs
    let sorted := insertionSort (fun p q ↦ compareFields ascending p.1 q.1 == .lt) pairs
    return .ofList (sorted.map (·.2))
  | _ => .ok (.ofList [])

end Flowgraph.Expr
