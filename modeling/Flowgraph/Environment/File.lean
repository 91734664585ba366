import Flowgraph.Environment.Basic
import Flowgraph.Text.Blank

namespace Flowgraph.Environment

inductive Statement where
  | blank
  | binding (name : String) (value : Option String)
  | malformed (line : Nat)
deriving DecidableEq

def isBreak (c : Char) : Bool := c == '\n' || c == '\r'

def isGap (c : Char) : Bool := Text.isBlank c && !isBreak c

def skipGaps (s : List Char) : List Char := s.dropWhile isGap

def dropBreak (s : List Char) : List Char :=
  match s with
  | '\r' :: '\n' :: r | '\n' :: r | '\r' :: r => r
  | _ => s

def dropLine (s : List Char) : List Char := dropBreak (s.dropWhile fun c ↦ !isBreak c)

def countBreaks : List Char → Nat
  | [] => 0
  | '\r' :: '\n' :: r => countBreaks r + 1
  | c :: r => countBreaks r + if isBreak c then 1 else 0

def atPlainQuote (quote : Char) : List Char → Option (List Char × List Char)
  | [] => none
  | '\\' :: c :: r =>
    if c == quote then (atPlainQuote quote r).map fun (a, b) ↦ ('\\' :: c :: a, b)
    else (atPlainQuote quote (c :: r)).map fun (a, b) ↦ ('\\' :: a, b)
  | c :: r =>
    if c == quote then some ([], r) else (atPlainQuote quote r).map fun (a, b) ↦ (c :: a, b)

def atLastQuote (quote : Char) (s : List Char) : Option (List Char × List Char) :=
  let back := s.reverse
  let behind := back.takeWhile (· != quote)
  match back.drop behind.length with
  | _ :: before => some (before.reverse, behind.reverse)
  | [] => none

/-- The text up to a closing quote: the first that no backslash precedes, else the last. -/
def upToQuote (quote : Char) (s : List Char) : Option (List Char × List Char) :=
  (atPlainQuote quote s).or (atLastQuote quote s)

def escaped? (quote c : Char) : Option Char :=
  if c == '\\' || c == '\'' then some c
  else if quote == '\'' then none
  else match c with
    | '"' => some '"'
    | 'a' => some '\x07'
    | 'b' => some '\x08'
    | 'f' => some '\x0c'
    | 'n' => some '\n'
    | 'r' => some '\r'
    | 't' => some '\t'
    | 'v' => some '\x0b'
    | _ => none

def unescape (quote : Char) : List Char → List Char
  | '\\' :: c :: r =>
    match escaped? quote c with
    | some d => d :: unescape quote r
    | none => '\\' :: unescape quote (c :: r)
  | c :: r => c :: unescape quote r
  | [] => []

def dropComment (s : List Char) : List Char :=
  match s with
  | [] => []
  | c :: r =>
    if Text.isBlank c && (r.dropWhile Text.isBlank).head? == some '#' then []
    else c :: dropComment r

def value? (s : List Char) : Option (List Char × List Char) :=
  match s with
  | '\'' :: r => (upToQuote '\'' r).map fun (a, b) ↦ (unescape '\'' a, b)
  | '"' :: r => (upToQuote '"' r).map fun (a, b) ↦ (unescape '"' a, b)
  | _ =>
    let line := s.takeWhile fun c ↦ !isBreak c
    some (Text.trimEnd (dropComment line), s.drop line.length)

def dropExport (s : List Char) : List Char :=
  match s with
  | 'e' :: 'x' :: 'p' :: 'o' :: 'r' :: 't' :: r =>
    if r.head?.any isGap then skipGaps r else s
  | _ => s

def name? (s : List Char) : Option (List Char × List Char) :=
  match s with
  | '\'' :: r =>
    let name := r.takeWhile (· != '\'')
    match name, r.drop name.length with
    | _ :: _, _ :: rest => some (name, rest)
    | _, _ => none
  | _ =>
    let name := s.takeWhile fun c ↦ c != '=' && c != '#' && !Text.isBlank c
    if name.isEmpty then none else some (name, s.drop name.length)

/-- What stands behind the end of a line, with a comment in front of it; none if something else
stands there. -/
def lineEnd? (s : List Char) : Option (List Char) :=
  let t := skipGaps s
  let t := if t.head? == some '#' then t.dropWhile fun c ↦ !isBreak c else t
  if t.head?.all isBreak then some (dropBreak t) else none

def statement (line : Nat) (s : List Char) : Statement × List Char :=
  let t := s.dropWhile Text.isBlank
  match t with
  | [] => (.blank, [])
  | '#' :: _ => (.blank, dropLine t)
  | _ =>
    let malformed (rest : List Char) : Statement × List Char := (.malformed line, dropLine rest)
    let t := dropExport t
    if t.head? == some '#' then (.blank, dropLine t)
    else match name? t with
      | none => malformed t
      | some (name, r) =>
        let name := String.ofList name
        let finish (value : Option String) (r : List Char) : Statement × List Char :=
          match lineEnd? r with
          | some rest => (.binding name value, rest)
          | none => malformed (if (skipGaps r).head? == some '#' then skipGaps r else r)
        match skipGaps r with
        | '=' :: r =>
          let r := skipGaps r
          match value? r with
          | some (v, r) => finish (some (String.ofList v)) r
          | none => malformed r
        | r => finish none r

def statements (count line : Nat) (s : List Char) : List Statement :=
  match count, s with
  | 0, _ | _, [] => []
  | count + 1, s =>
    let (first, rest) := statement line s
    let read := s.take (s.length - rest.length)
    first :: statements count (line + countBreaks read) rest

def reference? (s : List Char) : Option (String × String × List Char) :=
  match s with
  | '$' :: '\x7b' :: r =>
    let name := r.takeWhile fun c ↦ c != '\x7d' && c != ':'
    match r.drop name.length with
    | '\x7d' :: rest => some (String.ofList name, "", rest)
    | ':' :: '-' :: r =>
      let other := r.takeWhile (· != '\x7d')
      match r.drop other.length with
      | _ :: rest => some (String.ofList name, String.ofList other, rest)
      | [] => none
    | _ => none
  | _ => none

/-- Puts the values of variables in place of references, of which at most `count` are read. -/
def expand (value : String → Option String) : Nat → List Char → List Char
  | 0, s => s
  | _, [] => []
  | count + 1, c :: s =>
    match reference? (c :: s) with
    | some (name, other, rest) =>
      ((value name).getD other).toList ++ expand value count rest
    | none => c :: expand value count s

/-- Variables of a file; those without a value count as empty where they are referred to. -/
abbrev Bindings := List (String × Option String)

def setBinding : Bindings → String → Option String → Bindings
  | [], n, v => [(n, v)]
  | b :: bs, n, v => if b.1 == n then (n, v) :: bs else b :: setBinding bs n v

/-- What a name stands for inside a file: the environment comes before the file. -/
def meaning (env : Environment) (bs : Bindings) (name : String) : Option String :=
  (env.get? name).or ((bs.lookup name).map fun v ↦ v.getD "")

def bindings (env : Environment) (ss : List Statement) : Bindings :=
  ss.foldl (fun bs s ↦ match s with
    | .binding n v =>
      setBinding bs n (v.map fun v ↦
        String.ofList (expand (meaning env bs) (v.length + 1) v.toList))
    | _ => bs) []

def readStatements (content : String) : List Statement :=
  statements (content.length + 1) 1 content.toList

def addFile (env : Environment) (content : String) : Environment :=
  (bindings env (readStatements content)).foldl (fun env (n, v) ↦ match v with
    | some v => env.add n v
    | none => env) env

def malformedLines (content : String) : List Nat :=
  (readStatements content).filterMap fun
    | .malformed line => some line
    | _ => none

end Flowgraph.Environment
