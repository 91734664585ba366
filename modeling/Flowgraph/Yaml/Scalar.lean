import Flowgraph.Text.Utf8
import Flowgraph.Yaml.Cursor

namespace Flowgraph.Yaml

def malformed (c : Cursor) : Except Fault α := .error (.malformed (some (c.line + 1)))

def simpleEscape? : Char → Option Char
  | '0' => some '\x00'
  | 'a' => some '\x07'
  | 'b' => some '\x08'
  | 't' | '\t' => some '\t'
  | 'n' => some '\n'
  | 'v' => some '\x0b'
  | 'f' => some '\x0c'
  | 'r' => some '\r'
  | 'e' => some '\x1b'
  | ' ' => some ' '
  | '"' => some '"'
  | '\\' => some '\\'
  | '/' => some '/'
  | 'N' => some '\x85'
  | '_' => some '\xa0'
  | 'L' => some '\u2028'
  | 'P' => some '\u2029'
  | _ => none

def escapeDigits? : Char → Option Nat
  | 'x' => some 2
  | 'u' => some 4
  | 'U' => some 8
  | _ => none

def hexValue (c : Char) : Nat :=
  if '0' ≤ c && c ≤ '9' then c.toNat - 48
  else if 'a' ≤ c && c ≤ 'f' then c.toNat - 87
  else c.toNat - 55

def isHex (c : Char) : Bool :=
  ('0' ≤ c && c ≤ '9') || ('a' ≤ c && c ≤ 'f') || ('A' ≤ c && c ≤ 'F')

def hexNumber (ds : List Char) : Nat := ds.foldl (fun n d ↦ n * 16 + hexValue d) 0

def badCodePoint? (n : Nat) : Option Fault :=
  if 0x80000000 ≤ n then some (.scalar "OverflowError" "Python int too large to convert to C int")
  else if 0x110000 ≤ n then some (.scalar "ValueError" "chr() arg not in range(0x110000)")
  else none

/-- The line breaks and blanks between two lines of a quoted scalar, as the breaks alone. -/
def quotedBreaks : Nat → Cursor → Except Fault (List Char × Cursor)
  | 0, c => .ok ([], c)
  | fuel + 1, c => do
    if c.atSeparator then malformed c
    let c := c.skip fun a ↦ a == ' ' || a == '\t'
    if isBreak c.peek then
      let (b, c) := c.lineBreak
      let (bs, c) ← quotedBreaks fuel c
      return (b ++ bs, c)
    else return ([], c)

/-- What two lines are joined by: a blank, or the breaks that are between them besides the first. -/
def folded (first others : List Char) : List Char :=
  (if first != ['\n'] then first else if others.isEmpty then [' '] else []) ++ others

def quotedScalar (double : Bool) : Nat → Cursor → Except Fault (List Char × Cursor)
  | 0, c => malformed c
  | fuel + 1, c =>
    let quote := if double then '"' else '\''
    let go (text : List Char) (c : Cursor) : Except Fault (List Char × Cursor) := do
      let (more, c) ← quotedScalar double fuel c
      return (text ++ more, c)
    if c.atEnd then malformed c
    else if !double && c.peek == '\'' && c.peek 1 == '\'' then go ['\''] (c.forward 2)
    else if c.peek == quote then .ok ([], c.next)
    else if double && c.peek == '\\' then
      let c := c.next
      match simpleEscape? c.peek, escapeDigits? c.peek with
      | some a, _ => if c.atEnd then malformed c else go [a] c.next
      | none, some n =>
        let c := c.next
        let ds := (c.rest.take n).takeWhile isHex
        if ds.length < n then malformed c
        else match badCodePoint? (hexNumber ds) with
          | some fault => .error fault
          | none => go [Text.charOf (hexNumber ds)] (c.forward n)
      | none, none =>
        if isBreak c.peek then do
          let (bs, c) ← quotedBreaks (c.rest.length + 1) c.lineBreak.2
          go bs c
        else malformed c
    else if c.peek == ' ' || c.peek == '\t' || isBreak c.peek then
      let (blanks, c) := c.span fun a ↦ a == ' ' || a == '\t'
      if c.atEnd then malformed c
      else if isBreak c.peek then do
        let (b, c) := c.lineBreak
        let (bs, c) ← quotedBreaks (c.rest.length + 1) c
        go (folded b bs) c
      else go blanks c
    else go [c.peek] c.next

/-- What lies between two lines of a plain scalar: the breaks there and the place behind them, or
nothing if the scalar ends there; and whether a line break was passed. -/
structure PlainGap where
  text : List Char
  cursor : Cursor
  ended : Bool
  passedBreak : Bool

def plainBreaks : Nat → Cursor → List Char × Cursor × Bool
  | 0, c => ([], c, false)
  | fuel + 1, c =>
    if c.peek == ' ' then plainBreaks fuel c.next
    else if isBreak c.peek then
      let (b, c) := c.lineBreak
      if c.atSeparator then ([], c, true)
      else
        let (bs, c, ended) := plainBreaks fuel c
        (b ++ bs, c, ended)
    else ([], c, false)

def plainGap (c : Cursor) : PlainGap :=
  let (blanks, c) := c.span (· == ' ')
  if isBreak c.peek then
    let (b, c) := c.lineBreak
    if c.atSeparator then ⟨[], c, true, true⟩
    else
      let (bs, c, ended) := plainBreaks (c.rest.length + 1) c
      ⟨folded b bs, c, ended, true⟩
  else ⟨blanks, c, blanks.isEmpty, false⟩

def isFlowMark (c : Char) : Bool :=
  c == ',' || c == '[' || c == ']' || c == '\x7b' || c == '\x7d'

def plainLength (inFlow : Bool) : List Char → Nat
  | [] => 0
  | a :: r =>
    let b := r.headD endMark
    if isGap a || (a == ':' && (isGap b || (inFlow && isFlowMark b))) ||
        (inFlow && (a == '?' || isFlowMark a)) then 0
    else plainLength inFlow r + 1

/-- A plain scalar: its text, the place behind it, and whether the last line break passed lets a
key begin there. -/
def plainScalar (inFlow : Bool) (indent : Int) (spaces : List Char) (mayBegin : Bool) :
    Nat → Cursor → List Char × Cursor × Bool
  | 0, c => ([], c, mayBegin)
  | fuel + 1, c =>
    let n := if c.peek == '#' then 0 else plainLength inFlow c.rest
    if n == 0 then ([], c, mayBegin)
    else
      let piece := spaces ++ c.rest.take n
      let gap := plainGap (c.forward n)
      let c := gap.cursor
      if gap.ended || c.peek == '#' || (!inFlow && (c.column : Int) < indent) then
        (piece, c, gap.passedBreak)
      else
        let (more, c, b) := plainScalar inFlow indent gap.text gap.passedBreak fuel c
        (piece ++ more, c, b)

/-- The header of a block scalar: whether closing breaks are kept (`true`) or dropped (`false`),
and the further indentation, where these are given. -/
def blockHeader (c : Cursor) : Except Fault ((Option Bool × Option Nat) × Cursor) := do
  let chomp (c : Cursor) : Option Bool × Cursor :=
    if c.peek == '+' then (some true, c.next)
    else if c.peek == '-' then (some false, c.next)
    else (none, c)
  let indentation (c : Cursor) : Except Fault (Option Nat × Cursor) :=
    if c.peek.isDigit then
      if c.peek == '0' then malformed c else .ok (some (c.peek.toNat - 48), c.next)
    else .ok (none, c)
  let (keep, c') := chomp c
  let ((keep, more), c) ←
    if keep.isSome then
      let (more, c) ← indentation c'
      pure ((keep, more), c)
    else
      let (more, c) ← indentation c
      if more.isSome then
        let (keep, c) := chomp c
        pure ((keep, more), c)
      else pure ((none, none), c)
  if !isEndOrSpace c.peek then malformed c
  return ((keep, more), c)

def ignoredLine (c : Cursor) : Except Fault Cursor :=
  let c := c.skip (· == ' ')
  let c := if c.peek == '#' then c.skip (!isBreak ·) else c
  if isEndOrBreak c.peek then .ok c.lineBreak.2 else malformed c

/-- The breaks before a block scalar of unknown indentation, and the widest indentation there. -/
def blockIndentation (widest : Nat) : Nat → Cursor → List Char × Nat × Cursor
  | 0, c => ([], widest, c)
  | fuel + 1, c =>
    if c.peek == ' ' then
      let c := c.next
      blockIndentation (max widest c.column) fuel c
    else if isBreak c.peek then
      let (b, c) := c.lineBreak
      let (bs, w, c) := blockIndentation widest fuel c
      (b ++ bs, w, c)
    else ([], widest, c)

def skipIndent (indent : Nat) (c : Cursor) : Cursor :=
  c.forward (min (indent - c.column) (c.rest.takeWhile (· == ' ')).length)

def blockBreaks (indent : Nat) : Nat → Cursor → List Char × Cursor
  | 0, c => ([], c)
  | fuel + 1, c =>
    let c := skipIndent indent c
    if isBreak c.peek then
      let (b, c) := c.lineBreak
      let (bs, c) := blockBreaks indent fuel c
      (b ++ bs, c)
    else ([], c)

/-- The lines of a block scalar; `breaks` are the empty lines before the next one. -/
def blockLines (fold : Bool) (keep : Option Bool) (indent : Nat) (breaks lastBreak : List Char) :
    Nat → Cursor → List Char × Cursor
  | 0, c => ([], c)
  | fuel + 1, c =>
    if c.column == indent && !c.atEnd then
      let blank (a : Char) := a == ' ' || a == '\t'
      let flush := !blank c.peek
      let (line, c) := c.span (!isBreak ·)
      let (b, c) := c.lineBreak
      let (bs, c) := blockBreaks indent (c.rest.length + 1) c
      let joint :=
        if c.column == indent && !c.atEnd then
          if fold && b == ['\n'] && flush && !blank c.peek then
            if bs.isEmpty then [' '] else []
          else b
        else []
      let (more, c) := blockLines fold keep indent bs b fuel c
      (breaks ++ line ++ joint ++ more, c)
    else
      ((if keep == some false then [] else lastBreak) ++
        (if keep == some true then breaks else []), c)

/-- A block scalar from its indicator on, in a block that is indented by `outer`. -/
def blockScalar (fold : Bool) (outer : Int) (c : Cursor) : Except Fault (List Char × Cursor) := do
  let ((keep, more), c) ← blockHeader c.next
  let c ← ignoredLine c
  let least := (max 1 (outer + 1)).toNat
  match more with
  | none =>
    let (bs, widest, c) := blockIndentation 0 (c.rest.length + 1) c
    return blockLines fold keep (max least widest) bs [] (c.rest.length + 1) c
  | some n =>
    let indent := least + n - 1
    let (bs, c) := blockBreaks indent (c.rest.length + 1) c
    return blockLines fold keep indent bs [] (c.rest.length + 1) c

end Flowgraph.Yaml
