import Flowgraph.Expr.Method.Container
import Flowgraph.Expr.Method.Scalar
import Flowgraph.Expr.Method.Text

namespace Flowgraph.Expr.Method

def names : Value → List String
  | .str _ => Text.methods
  | .int _ | .bool _ => Scalar.intMethods
  | .float _ => Scalar.floatMethods
  | .bytes _ => Scalar.bytesMethods
  | .stamp d => if d.timed then Scalar.dateMethods ++ Scalar.timeMethods else Scalar.dateMethods
  | .list .. => Container.listMethods
  | .mapping .. => Container.mappingMethods
  | .tuple _ => Container.tupleMethods
  | .set .. => Container.setMethods
  | .view .values .. => []
  | .view .. => ["isdisjoint"]
  | .undefined | .null => []

def has (v : Value) (method : String) : Bool := (names v).contains method

/-- Calls a method. Marks from `next` on are free for what the call puts into a container. -/
def call (next : Nat) (v : Value) (method : String) (args : List Value) : Reply :=
  match v with
  | .str s => .ofOption (Text.call? s.toList method args)
  | .int i => .ofOption (Scalar.callInt i method args)
  | .bool b => .ofOption (Scalar.callBool b method args)
  | .float x => .ofOption (Scalar.callFloat x method args)
  | .bytes os => .ofOption (Scalar.callBytes os method args)
  | .stamp d => .ofOption (Scalar.callStamp d method args)
  | .list m vs => Container.callList next m vs method args
  | .mapping m es => Container.callMapping next m es method args
  | .tuple vs => Container.callTuple vs method args
  | .set _ ks => Container.callMembers (Key.toValues ks) method args
  | .view kind _ es => Container.callMembers (Value.viewItems kind es) method args
  | .undefined | .null => .refuse

def standard : Methods := ⟨has, call⟩

end Flowgraph.Expr.Method
