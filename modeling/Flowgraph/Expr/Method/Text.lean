import Flowgraph.Expr.Method.Arguments
import Flowgraph.Text.Blank
import Flowgraph.Text.Case
import Flowgraph.Text.Digit
import Flowgraph.Text.Letter
import Flowgraph.Text.Printable

namespace Flowgraph.Expr.Method

namespace Text

open Flowgraph.Text

abbrev Chars := List Char

def str (cs : Chars) : Value := .str (String.ofList cs)

def strs (ps : List Chars) : Value := .ofList (ps.map str)

/-- Offsets at which a part occurs in a text, from an offset on, overlaps included. -/
def offsets (part : Chars) (text : Chars) (offset : Nat) : List Nat :=
  match text with
  | [] => if part.isEmpty then [offset] else []
  | _ :: rest =>
    let tail := offsets part rest (offset + 1)
    if part.isPrefixOf text then offset :: tail else tail

def cut? (part : Chars) : Chars → Option (Chars × Chars)
  | [] => if part.isEmpty then some ([], []) else none
  | c :: cs =>
    if part.isPrefixOf (c :: cs) then some ([], (c :: cs).drop part.length)
    else (cut? part cs).map fun (a, b) ↦ (c :: a, b)

def splitOn (part : Chars) : Nat → Chars → List Chars
  | 0, s => [s]
  | limit + 1, s =>
    match cut? part s with
    | none => [s]
    | some (a, b) => a :: splitOn part limit b

/-- The pieces between runs of blanks, at most `limit` of them; what is left after those stays whole
but for the blanks before it. -/
def splitAtBlanks : Nat → Chars → List Chars
  | 0, s => let r := trimStart s; if r.isEmpty then [] else [r]
  | limit + 1, s =>
    let r := trimStart s
    if r.isEmpty then []
    else
      let w := r.takeWhile (!isBlank ·)
      w :: splitAtBlanks limit (r.drop w.length)

def mirrored (f : Chars → List Chars) (s : Chars) : List Chars :=
  ((f s.reverse).map List.reverse).reverse

def replaceAll (old new : Chars) (limit : Nat) (s : Chars) : Chars :=
  if old.isEmpty then interleave new limit s
  else List.intercalate new (splitOn old limit s)
where
  interleave (new : Chars) : Nat → Chars → Chars
    | 0, s => s
    | _ + 1, [] => new
    | limit + 1, c :: s => new ++ c :: interleave new limit s

def isLineEnd (c : Char) : Bool :=
  c == '\n' || c == '\r' || c == '\x0b' || c == '\x0c' || c == '\x1c' || c == '\x1d' ||
    c == '\x1e' || c == '\x85' || c == '\u2028' || c == '\u2029'

/-- The lines of a text, with their ends if asked; `line` is the begun line in reverse. -/
def lines (keepEnds : Bool) (line : Chars) : Chars → List Chars
  | [] => if line.isEmpty then [] else [line.reverse]
  | '\r' :: '\n' :: s =>
    (line.reverse ++ if keepEnds then ['\r', '\n'] else []) :: lines keepEnds [] s
  | c :: s =>
    if isLineEnd c then (line.reverse ++ if keepEnds then [c] else []) :: lines keepEnds [] s
    else lines keepEnds (c :: line) s

def expandTabs (size : Nat) (column : Nat) : Chars → Chars
  | [] => []
  | c :: s =>
    if c == '\t' then
      let n := if size == 0 then 0 else size - column % size
      List.replicate n ' ' ++ expandTabs size (column + n) s
    else if c == '\n' || c == '\r' then c :: expandTabs size 0 s
    else c :: expandTabs size (column + 1) s

def widest : Int := 0x80000000

def fill (s : Chars) (width : Int) (pad : Char) (left : Nat → Nat) : Option Value :=
  if widest < width then none
  else
    let missing := width.toNat - s.length
    let n := left missing
    some (str (List.replicate n pad ++ s ++ List.replicate (missing - n) pad))

def zeroFill (s : Chars) (width : Int) : Option Value :=
  if widest < width then none
  else
    let zeros := List.replicate (width.toNat - s.length) '0'
    match s with
    | c :: r =>
      if c == '+' || c == '-' then some (str (c :: zeros ++ r)) else some (str (zeros ++ s))
    | [] => some (str zeros)

def limit? (size : Nat) : Option Value → Option Nat
  | none => some (size + 1)
  | some v => (asSize? v).map fun i ↦ if i < 0 then size + 1 else min i.toNat (size + 1)

def utf8 (s : Chars) : List UInt8 := (String.ofList s).toUTF8.toList

def narrow (bound : Nat) (s : Chars) (onFault : String) : Option (List UInt8) :=
  s.foldr (fun c acc ↦ acc.bind fun os ↦
    if c.toNat < bound then some (c.toNat.toUInt8 :: os)
    else match onFault with
      | "ignore" => some os
      | "replace" => some (63 :: os)
      | _ => none) (some [])

def encodingName (s : String) : String :=
  String.ofList ((s.toList.map Char.toLower).map fun c ↦ if c == '-' || c == ' ' then '_' else c)

def encode (s : Chars) (encoding onFault : String) : Option Value :=
  match encodingName encoding with
  | "utf_8" | "utf8" | "u8" | "utf" => some (.bytes (utf8 s))
  | "ascii" | "us_ascii" | "646" => (narrow 128 s onFault).map .bytes
  | "latin_1" | "latin1" | "iso_8859_1" | "iso8859_1" | "l1" | "latin" =>
    (narrow 256 s onFault).map .bytes
  | _ => none

/-- Where a part may lie: the text from one bound to another, and the first bound. -/
def window? (s : Chars) (start stop : Option Value) : Option (Nat × Option Chars) := do
  let first ← bound? s.length 0 start
  let last ← bound? s.length s.length stop
  let start ← match start with
    | none | some .null => some 0
    | some v => asInt? v
  -- a start beyond the end leaves no window, not even an empty one
  if (s.length : Int) < start || last < first then return (first, none)
  return (first, some ((s.drop first).take (last - first)))

def occurrences? (s part : Chars) (start stop : Option Value) : Option (List Nat) := do
  let (offset, text) ← window? s start stop
  return match text with
    | none => []
    | some text => offsets part text offset

def count? (s part : Chars) (start stop : Option Value) : Option Value := do
  let (_, text) ← window? s start stop
  match text with
  | none => return .int 0
  | some text =>
    if part.isEmpty then return .int (text.length + 1)
    else return .int ((splitOn part text.length text).length - 1)

def affix? (test : Chars → Chars → Bool) (s : Chars) (part : Value) (start stop : Option Value) :
    Option Value := do
  let (_, text) ← window? s start stop
  let fits (p : Chars) := text.any (test p)
  match part with
  | .str p => return .bool (fits p.toList)
  | .tuple ps => do
    let answers ← ps.mapM fun
      | .str p => some (fits p.toList)
      | _ => none
    return .bool answers.or
  | _ => none

def strip? (f : (Char → Bool) → Chars → Chars) (s : Chars) : List Value → Option Value
  | [] | [.null] => some (str (f isBlank s))
  | [.str cs] => some (str (f (cs.toList.contains ·) s))
  | _ => none

def dropEnd (p : Char → Bool) (s : Chars) : Chars := (s.reverse.dropWhile p).reverse

def isIdentifier : Chars → Bool
  | [] => false
  | c :: cs => (c == '_' || isLetter c) &&
      cs.all fun d ↦ d == '_' || isLetterOrNumeral d

def padChar? : Option Value → Option Char
  | none => some ' '
  | some (.str s) => match s.toList with
    | [c] => some c
    | _ => none
  | some _ => none

def join? (s : Chars) (items : Value) : Option Value := do
  let vs ← iterate? items
  let parts ← vs.mapM fun
    | .str p => some p.toList
    | _ => none
  return str (List.intercalate s parts)

def partition? (s : Chars) (sep : Chars) (fromRight : Bool) : Option Value :=
  if sep.isEmpty then none
  else if fromRight then
    match cut? sep.reverse s.reverse with
    | some (b, a) => some (.tuple [str a.reverse, str sep, str b.reverse])
    | none => some (.tuple [str [], str [], str s])
  else
    match cut? sep s with
    | some (a, b) => some (.tuple [str a, str sep, str b])
    | none => some (.tuple [str s, str [], str []])

def split? (s : Chars) (fromRight : Bool) (args : List Value) : Option Value := do
  let cut (f : Chars → Chars → List Chars) (part : Chars) :=
    if fromRight then mirrored (f part.reverse) s else f part s
  match args with
  | [] | [.null] => return strs (cut (fun _ ↦ splitAtBlanks (s.length + 1)) [])
  | [.str p] =>
    if p.isEmpty then none else return strs (cut (splitOn · (s.length + 1)) p.toList)
  | [.null, n] => do
    let n ← limit? s.length (some n)
    return strs (cut (fun _ ↦ splitAtBlanks n) [])
  | [.str p, n] => do
    let n ← limit? s.length (some n)
    if p.isEmpty then none else return strs (cut (splitOn · n) p.toList)
  | _ => none

def call? (s : Chars) (method : String) (args : List Value) : Option Value :=
  match method, args with
  | "upper", [] => str (toUpper s)
  | "lower", [] => str (toLower s)
  | "title", [] => str (toTitle s)
  | "capitalize", [] => str (capitalize s)
  | "swapcase", [] => str (swapCase s)
  | "casefold", [] => str (toFolded s)
  | "strip", _ => strip? (fun p s ↦ dropEnd p (s.dropWhile p)) s args
  | "lstrip", _ => strip? (fun p s ↦ s.dropWhile p) s args
  | "rstrip", _ => strip? dropEnd s args
  | "split", _ => split? s false args
  | "rsplit", _ => split? s true args
  | "splitlines", [] => strs (lines false [] s)
  | "splitlines", [v] => (asInt? v).map fun i ↦ strs (lines (i != 0) [] s)
  | "join", [v] => join? s v
  | "replace", [.str a, .str b] => str (replaceAll a.toList b.toList (s.length + 1) s)
  | "replace", [.str a, .str b, n] =>
    (limit? s.length (some n)).map fun n ↦ str (replaceAll a.toList b.toList n s)
  | "startswith", p :: r => if 2 < r.length then none else
      affix? (fun p s ↦ p.isPrefixOf s) s p r[0]? r[1]?
  | "endswith", p :: r => if 2 < r.length then none else
      affix? (fun p s ↦ p.isSuffixOf s) s p r[0]? r[1]?
  | "count", .str p :: r => if 2 < r.length then none else count? s p.toList r[0]? r[1]?
  | "index", .str p :: r => if 2 < r.length then none else do
      let n ← (← occurrences? s p.toList r[0]? r[1]?).head?
      return .int n
  | "rindex", .str p :: r => if 2 < r.length then none else do
      let n ← (← occurrences? s p.toList r[0]? r[1]?).getLast?
      return .int n
  | "rfind", .str p :: r => if 2 < r.length then none else do
      let ns ← occurrences? s p.toList r[0]? r[1]?
      return .int ((ns.getLast?.map Int.ofNat).getD (-1))
  | "zfill", [n] => (asSize? n).bind (zeroFill s)
  | "center", n :: r => if 1 < r.length then none else do
      let n ← asSize? n
      fill s n (← padChar? r[0]?) fun k ↦ k / 2 + k % 2 * (n.toNat % 2)
  | "ljust", n :: r => if 1 < r.length then none else do
      fill s (← asSize? n) (← padChar? r[0]?) fun _ ↦ 0
  | "rjust", n :: r => if 1 < r.length then none else do
      fill s (← asSize? n) (← padChar? r[0]?) id
  | "isdigit", [] => some (.bool (!s.isEmpty && s.all isDigit))
  | "isdecimal", [] => some (.bool (!s.isEmpty && s.all isDecimal))
  | "isnumeric", [] => some (.bool (!s.isEmpty && s.all isNumeral))
  | "isalpha", [] => some (.bool (!s.isEmpty && s.all isLetter))
  | "isalnum", [] => some (.bool (!s.isEmpty && s.all isLetterOrNumeral))
  | "isspace", [] => some (.bool (!s.isEmpty && s.all isBlank))
  | "isupper", [] => some (.bool (allUpper s))
  | "islower", [] => some (.bool (allLower s))
  | "istitle", [] => some (.bool (inTitleCase s))
  | "isascii", [] => some (.bool (s.all (·.toNat < 128)))
  | "isprintable", [] => some (.bool (s.all isPrintable))
  | "isidentifier", [] => some (.bool (isIdentifier s))
  | "partition", [.str p] => partition? s p.toList false
  | "rpartition", [.str p] => partition? s p.toList true
  | "removeprefix", [.str p] =>
    str (if p.toList.isPrefixOf s then s.drop p.length else s)
  | "removesuffix", [.str p] =>
    str (if !p.isEmpty && p.toList.isSuffixOf s then s.take (s.length - p.length) else s)
  | "expandtabs", [] => str (expandTabs 8 0 s)
  | "expandtabs", [n] => (asSize? n).map fun n ↦ str (expandTabs n.toNat 0 s)
  | "encode", [] => encode s "utf-8" "strict"
  | "encode", [.str e] => encode s e "strict"
  | "encode", [.str e, .str f] => encode s e f
  | _, _ => none

def methods : List String :=
  ["capitalize", "casefold", "center", "count", "encode", "endswith", "expandtabs", "index",
   "isalnum", "isalpha", "isascii", "isdecimal", "isdigit", "isidentifier", "islower",
   "isnumeric", "isprintable", "isspace", "istitle", "isupper", "join", "ljust", "lower",
   "lstrip", "maketrans", "partition", "removeprefix", "removesuffix", "replace", "rfind",
   "rindex", "rjust", "rpartition", "rsplit", "rstrip", "split", "splitlines", "startswith",
   "strip", "swapcase", "title", "translate", "upper", "zfill"]

end Text

end Flowgraph.Expr.Method
