import Flowgraph.Text.Blank
import Flowgraph.Text.Digit

namespace Flowgraph.Expr

inductive Mark where
  | openParen
  | closeParen
  | openBrace
  | closeBrace
  | openBracket
  | closeBracket
  | dot
  | comma
  | colon
deriving DecidableEq

inductive Keyword where
  | true
  | false
  | null
deriving DecidableEq

inductive Lexeme where
  | mark (m : Mark)
  | string (contents : String)
  | number (text : String)
  | identifier (name : String)
  | keyword (text : String)
  | eof
deriving DecidableEq

structure Token where
  lexeme : Lexeme
  position : Nat
deriving DecidableEq

inductive LexicalCause where
  | unterminatedString
  | unexpectedCharacter (c : Char)
deriving DecidableEq

structure LexicalError where
  cause : LexicalCause
  position : Nat
deriving DecidableEq

def Mark.char : Mark → Char
  | openParen => '('
  | closeParen => ')'
  | openBrace => '\x7b'
  | closeBrace => '\x7d'
  | openBracket => '['
  | closeBracket => ']'
  | dot => '.'
  | comma => ','
  | colon => ':'

def Mark.all : List Mark :=
  [openParen, closeParen, openBrace, closeBrace, openBracket, closeBracket, dot, comma, colon]

def Mark.ofChar? (c : Char) : Option Mark := Mark.all.find? (·.char == c)

def Mark.typeName : Mark → String
  | openParen => "LPAREN"
  | closeParen => "RPAREN"
  | openBrace => "LBRACE"
  | closeBrace => "RBRACE"
  | openBracket => "LBRACKET"
  | closeBracket => "RBRACKET"
  | dot => "DOT"
  | comma => "COMMA"
  | colon => "COLON"

def Keyword.text : Keyword → String
  | true => "true"
  | false => "false"
  | null => "null"

def Keyword.ofText? : String → Option Keyword
  | "true" => some .true
  | "false" => some .false
  | "null" => some .null
  | _ => none

namespace Lexeme

def typeName : Lexeme → String
  | mark m => m.typeName
  | string _ => "STRING"
  | number _ => "NUMBER"
  | identifier _ => "IDENTIFIER"
  | keyword _ => "KEYWORD"
  | eof => "EOF"

def text : Lexeme → String
  | mark m => String.singleton m.char
  | string s => s
  | number s => s
  | identifier s => s
  | keyword s => s
  | eof => ""

def ofWord (w : List Char) : Lexeme :=
  match Keyword.ofText? (String.ofList w) with
  | some k => keyword k.text
  | none => identifier (String.ofList w)

end Lexeme

def isNameStart (c : Char) : Bool :=
  c == '_' || ('a' ≤ c && c ≤ 'z') || ('A' ≤ c && c ≤ 'Z')

def isNameChar (c : Char) : Bool := isNameStart c || Text.isAsciiDigit c

def isNumberChar (c : Char) : Bool := Text.isAsciiDigit c || c == '.'

def isQuote (c : Char) : Bool := c == '\'' || c == '"'

/-- The contents of a string up to its closing quote, the count of characters read, and the rest.
A backslash stands for the character after it. -/
def scanString (quote : Char) : List Char → Option (List Char × Nat × List Char)
  | [] => none
  | c :: s =>
    if c == quote then some ([], 1, s)
    else if c == '\\' then
      match s with
      | [] => none
      | d :: r => (scanString quote r).map fun (cs, n, r) ↦ (d :: cs, n + 2, r)
    else (scanString quote s).map fun (cs, n, r) ↦ (c :: cs, n + 1, r)

theorem length_of_scanString {quote : Char} {s cs r : List Char} {n : Nat}
    (h : scanString quote s = some (cs, n, r)) : s.length = n + r.length ∧ 0 < n := by
  fun_induction scanString quote s generalizing cs n r with
  | case1 => simp at h
  | case2 c s hc => simp only [Option.some.injEq, Prod.mk.injEq] at h; grind
  | case3 => simp at h
  | case4 c hc hb d r' ih =>
    obtain ⟨⟨cs', n', r''⟩, h', he⟩ := Option.map_eq_some_iff.1 h
    have := ih h'
    grind
  | case5 c s hc hb ih =>
    obtain ⟨⟨cs', n', r''⟩, h', he⟩ := Option.map_eq_some_iff.1 h
    have := ih h'
    grind

def Token.scanFrom (position : Nat) (s : List Char) : Except LexicalError (List Token) :=
  match s with
  | [] => .ok []
  | c :: r =>
    if Text.isBlank c then scanFrom (position + 1) r
    else if let some m := Mark.ofChar? c then
      (⟨.mark m, position⟩ :: ·) <$> scanFrom (position + 1) r
    else if isQuote c then
      match h : scanString c r with
      | none => .error ⟨.unterminatedString, position⟩
      | some (cs, n, rest) =>
        have := length_of_scanString h
        (⟨.string (String.ofList cs), position⟩ :: ·) <$> scanFrom (position + 1 + n) rest
    else if Text.isAsciiDigit c then
      let tail := r.takeWhile isNumberChar
      (⟨.number (String.ofList (c :: tail)), position⟩ :: ·) <$>
        scanFrom (position + 1 + tail.length) (r.drop tail.length)
    else if isNameStart c then
      let tail := r.takeWhile isNameChar
      (⟨Lexeme.ofWord (c :: tail), position⟩ :: ·) <$>
        scanFrom (position + 1 + tail.length) (r.drop tail.length)
    else .error ⟨.unexpectedCharacter c, position⟩
termination_by s.length
decreasing_by all_goals simp_wf <;> grind

def Token.scan (text : String) : Except LexicalError (List Token) := scanFrom 0 text.toList

end Flowgraph.Expr
