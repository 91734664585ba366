import Flowgraph.Expr.Basic
import Flowgraph.Expr.Token
import Flowgraph.Number.Numeral

namespace Flowgraph.Expr

inductive Expected where
  | propertyAfterDot
  | closeArguments
  | closeIndex
  | closeGroup
  | colonAfterProperty
  | closeObject
deriving DecidableEq

/-- What is wrong with a row of tokens. The last two are not errors of syntax: a word that is none of
the keywords, and a row without its end. -/
inductive SyntaxCause where
  | lexical (cause : LexicalCause)
  | expected (what : Expected) (found : Lexeme)
  | expectedPropertyName
  | unexpected (found : Lexeme)
  | trailing (found : Lexeme)
  | notCallable
  | malformedNumber (text : String)
  | unknownKeyword (text : String)
  | exhausted
deriving DecidableEq

structure SyntaxError where
  cause : SyntaxCause
  position : Nat
deriving DecidableEq

def Expected.message : Expected → String
  | propertyAfterDot => "Expected property name after \".\""
  | closeArguments => "Expected \")\" after arguments"
  | closeIndex => "Expected \"]\" after index"
  | closeGroup => "Expected \")\" after expression"
  | colonAfterProperty => "Expected \":\" after property name"
  | closeObject => "Expected \"\x7d\" after object properties"

def Lexeme.key? : Lexeme → Option String
  | string k | identifier k => some k
  | _ => none

def Lexeme.describe (l : Lexeme) : String := l.typeName ++ " '" ++ l.text ++ "'"

namespace SyntaxCause

def kind : SyntaxCause → String
  | unknownKeyword _ => "KeyError"
  | exhausted => "IndexError"
  | _ => "ExpressionSyntaxError"

def message : SyntaxCause → String
  | lexical .unterminatedString => "Unterminated string literal"
  | lexical (.unexpectedCharacter c) => "Unexpected character '" ++ String.singleton c ++ "'"
  | expected what found => what.message ++ ". Got " ++ found.describe
  | expectedPropertyName => "Expected property name"
  | unexpected .eof => "Unexpected end of expression"
  | unexpected l => "Unexpected token " ++ l.describe
  | trailing l => "Unexpected token " ++ l.describe ++ " after expression"
  | notCallable => "Only identifiers can be called as functions"
  | malformedNumber s => "Malformed number literal '" ++ s ++ "'"
  | unknownKeyword s => Text.quoted s
  | exhausted => "list index out of range"

end SyntaxCause

/-- A complaint with its position, above the source and a mark below the offending character. -/
def syntaxText (complaint source : String) (position : Nat) : String :=
  let head := complaint ++ " at position " ++ toString position
  if source.isEmpty then head
  else head ++ ":\n" ++ source ++ "\n" ++ String.ofList (List.replicate position ' ') ++ "^"

def SyntaxError.message (e : SyntaxError) (source : String) : String :=
  match e.cause with
  | .unknownKeyword _ | .exhausted => e.cause.message
  | cause => syntaxText cause.message source e.position

structure Input where
  tokens : List Token

namespace Input

def found (s : Input) : Option Lexeme := s.tokens.head?.map (·.lexeme)

def rest (s : Input) : Input := ⟨s.tokens.tail⟩

def fail (s : Input) (cause : Lexeme → SyntaxCause) : Except SyntaxError α :=
  match s.tokens with
  | [] => .error ⟨.exhausted, 0⟩
  | t :: _ => .error ⟨cause t.lexeme, t.position⟩

def expect (s : Input) (m : Mark) (what : Expected) : Except SyntaxError Input :=
  if s.found = some (.mark m) then .ok s.rest else s.fail (.expected what)

end Input

def Keyword.literal : Keyword → Literal
  | true => .bool Bool.true
  | false => .bool Bool.false
  | null => .null

/-- The number that a text writes: a float if there is a point in it, and else a whole one. -/
def numberValue? (text : String) : Option Literal :=
  if text.toList.contains '.' then (Number.readPointed? text.toList).map .float
  else (Number.readWhole? text.toList).map .int

mutual

/-- An expression from the front of the input. Four units of fuel for each token are enough. -/
def parseExpression (fuel : Nat) (s : Input) : Except SyntaxError (Expr × Input) :=
  match fuel with
  | 0 => s.fail .unexpected
  | fuel + 1 => do
    let (e, s) ← parsePrimary fuel s
    parseSuffixes fuel e s
termination_by structural fuel

def parsePrimary (fuel : Nat) (s : Input) : Except SyntaxError (Expr × Input) :=
  match fuel with
  | 0 => s.fail .unexpected
  | fuel + 1 =>
    match s.found with
    | some (.string t) => .ok (.literal (.str t), s.rest)
    | some (.number t) =>
      match numberValue? t with
      | some l => .ok (.literal l, s.rest)
      | none => s.fail fun _ ↦ .malformedNumber t
    | some (.keyword t) =>
      match Keyword.ofText? t with
      | some k => .ok (.literal k.literal, s.rest)
      | none => s.fail fun _ ↦ .unknownKeyword t
    | some (.identifier n) => .ok (.name n, s.rest)
    | some (.mark .openBrace) =>
      if s.rest.found = some (.mark .closeBrace) then .ok (.object [], s.rest.rest)
      else do
        let (ps, s) ← parseProperties fuel s.rest
        let s ← s.expect .closeBrace .closeObject
        return (.object ps, s)
    | some (.mark .openParen) => do
      let (e, s) ← parseExpression fuel s.rest
      let s ← s.expect .closeParen .closeGroup
      return (e, s)
    | _ => s.fail .unexpected
termination_by structural fuel

def parseSuffixes (fuel : Nat) (e : Expr) (s : Input) : Except SyntaxError (Expr × Input) :=
  match fuel with
  | 0 => .ok (e, s)
  | fuel + 1 =>
    match s.found with
    | some (.mark .dot) =>
      match s.rest.found with
      | some (.identifier n) =>
        let s := s.rest.rest
        if s.found = some (.mark .openParen) then do
          let (as, s) ← parseArguments fuel s.rest
          let s ← s.expect .closeParen .closeArguments
          parseSuffixes fuel (.method e n as) s
        else parseSuffixes fuel (.member e n) s
      | _ => s.rest.fail (.expected .propertyAfterDot)
    | some (.mark .openParen) =>
      match e with
      | .name n => do
        let (as, s) ← parseArguments fuel s.rest
        let s ← s.expect .closeParen .closeArguments
        parseSuffixes fuel (.call n as) s
      | _ => s.fail fun _ ↦ .notCallable
    | some (.mark .openBracket) => do
      let (i, s) ← parseExpression fuel s.rest
      let s ← s.expect .closeBracket .closeIndex
      parseSuffixes fuel (.index e i) s
    | some _ => .ok (e, s)
    | none => s.fail .unexpected
termination_by structural fuel

def parseArguments (fuel : Nat) (s : Input) : Except SyntaxError (List Expr × Input) :=
  match fuel with
  | 0 => s.fail .unexpected
  | fuel + 1 =>
    if s.found = some (.mark .closeParen) then .ok ([], s)
    else parseMoreArguments fuel s
termination_by structural fuel

def parseMoreArguments (fuel : Nat) (s : Input) : Except SyntaxError (List Expr × Input) :=
  match fuel with
  | 0 => s.fail .unexpected
  | fuel + 1 => do
    let (e, s) ← parseExpression fuel s
    if s.found = some (.mark .comma) then
      let (es, s) ← parseMoreArguments fuel s.rest
      return (e :: es, s)
    else return ([e], s)
termination_by structural fuel

def parseProperties (fuel : Nat) (s : Input) :
    Except SyntaxError (List (String × Expr) × Input) :=
  match fuel with
  | 0 => s.fail fun _ ↦ .expectedPropertyName
  | fuel + 1 =>
    match s.found.bind Lexeme.key? with
    | none => s.fail fun _ ↦ .expectedPropertyName
    | some key => do
      let s ← s.rest.expect .colon .colonAfterProperty
      let (e, s) ← parseExpression fuel s
      if s.found = some (.mark .comma) then
        let (ps, s) ← parseProperties fuel s.rest
        return ((key, e) :: ps, s)
      else return ([(key, e)], s)
termination_by structural fuel

end

def parseTokens (tokens : List Token) : Except SyntaxError Expr := do
  let (e, s) ← parseExpression (4 * tokens.length + 4) ⟨tokens⟩
  if s.found = some .eof then return e else s.fail .trailing

def LexicalError.toSyntaxError (e : LexicalError) : SyntaxError := ⟨.lexical e.cause, e.position⟩

def tokenize (text : String) : Except SyntaxError (List Token) :=
  match Token.scan text with
  | .error e => .error e.toSyntaxError
  | .ok tokens => .ok (tokens ++ [⟨.eof, text.length⟩])

def parse (text : String) : Except SyntaxError Expr := do parseTokens (← tokenize text)

end Flowgraph.Expr
