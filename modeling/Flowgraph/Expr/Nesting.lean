import Flowgraph.Expr.Parser

namespace Flowgraph.Expr

/-- The depth after a row of tokens and the greatest depth on the way, from a depth `now`. -/
def depths (now greatest : Nat) : List Token → Nat
  | [] => greatest
  | t :: ts =>
    match t.lexeme with
    | .mark .openParen | .mark .openBrace | .mark .openBracket =>
      depths (now + 1) (max greatest (now + 1)) ts
    | .mark .closeParen | .mark .closeBrace | .mark .closeBracket => depths (now - 1) greatest ts
    | _ => depths now greatest ts

def nesting (ts : List Token) : Nat := depths 0 0 ts

inductive ParseError where
  | invalid (e : SyntaxError)
  | tooDeep

def parseWithin (room : Nat) (text : String) : Except ParseError Expr :=
  match tokenize text with
  | .error e => .error (.invalid e)
  | .ok tokens =>
    match parseTokens tokens with
    | .ok e => if room < nesting tokens then .error .tooDeep else .ok e
    | .error e =>
      if room < nesting (tokens.filter (·.position < e.position)) then .error .tooDeep
      else .error (.invalid e)

end Flowgraph.Expr
