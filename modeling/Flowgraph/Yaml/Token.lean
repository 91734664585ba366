import Flowgraph.Number.Decimal
import Flowgraph.Text.Blank
import Flowgraph.Yaml.Scalar

namespace Flowgraph.Yaml

inductive TokenKind where
  | streamEnd
  | version (major : Nat)
  | tagDirective (handle tagPrefix : String)
  | otherDirective
  | documentStart
  | documentEnd
  | blockSequenceStart
  | blockMappingStart
  | blockEnd
  | flowSequenceStart
  | flowSequenceEnd
  | flowMappingStart
  | flowMappingEnd
  | blockEntry
  | flowEntry
  | key
  | value
  | alias (name : String)
  | anchor (name : String)
  | tag (handle : Option String) (suffix : String)
  | scalar (text : String) (plain : Bool)
deriving DecidableEq

structure Token where
  kind : TokenKind
  line : Nat

structure PendingKey where
  token : Nat
  required : Bool
  index : Nat
  line : Nat
  column : Nat

structure Scanner where
  cursor : Cursor
  flow : Nat := 0
  indent : Int := -1
  indents : List Int := []
  allowKey : Bool := true
  /-- The keys that may have begun, by the depth of flow collections. -/
  pending : List (Nat × PendingKey) := []
  tokens : Array Token := #[]
  done : Bool := false

namespace Scanner

abbrev Step := Scanner → Except Fault Scanner

def push (s : Scanner) (kind : TokenKind) (line : Nat) : Scanner :=
  { s with tokens := s.tokens.push ⟨kind, line⟩ }

def insert (s : Scanner) (i : Nat) (kind : TokenKind) (line : Nat) : Scanner :=
  { s with tokens :=
      (s.tokens.extract 0 i).push ⟨kind, line⟩ ++ s.tokens.extract i s.tokens.size }

def fail (s : Scanner) : Except Fault Scanner := malformed s.cursor

def unwind (column : Int) : Nat → Scanner → Scanner
  | 0, s => s
  | fuel + 1, s =>
    if s.flow == 0 && column < s.indent then
      let s := s.push .blockEnd s.cursor.line
      unwind column fuel { s with indent := s.indents.headD (-1), indents := s.indents.tail }
    else s

def unwindTo (s : Scanner) (column : Int) : Scanner := s.unwind column (s.indents.length + 1)

def deepens (s : Scanner) (column : Nat) : Bool := s.indent < column

def enter (s : Scanner) (column : Nat) : Scanner :=
  { s with indents := s.indent :: s.indents, indent := column }

def dropStale (s : Scanner) : Except Fault Scanner :=
  let stale (k : PendingKey) := k.line != s.cursor.line || 1024 < s.cursor.index - k.index
  if s.pending.any fun p ↦ stale p.2 && p.2.required then s.fail
  else .ok { s with pending := s.pending.filter fun p ↦ !stale p.2 }

def removeKey (s : Scanner) : Except Fault Scanner :=
  if s.pending.any fun p ↦ p.1 == s.flow && p.2.required then s.fail
  else .ok { s with pending := s.pending.filter fun p ↦ p.1 != s.flow }

def saveKey (s : Scanner) : Except Fault Scanner :=
  if s.allowKey then do
    let required := s.flow == 0 && s.indent == s.cursor.column
    let key : PendingKey :=
      ⟨s.tokens.size, required, s.cursor.index, s.cursor.line, s.cursor.column⟩
    let s ← s.removeKey
    return { s with pending := (s.flow, key) :: s.pending }
  else .ok s

def skipToToken : Nat → Scanner → Scanner
  | 0, s => s
  | fuel + 1, s =>
    let c := s.cursor.skip (· == ' ')
    let c := if c.peek == '#' then c.skip (!isBreak ·) else c
    if isBreak c.peek then
      skipToToken fuel { s with cursor := c.lineBreak.2, allowKey := s.allowKey || s.flow == 0 }
    else { s with cursor := c }

def number (c : Cursor) : Except Fault (Nat × Cursor) :=
  let (ds, c') := c.span Char.isDigit
  if ds.isEmpty then malformed c
  else if Number.longestInteger < ds.length then
    .error (.scalar "ValueError" (Number.longNumeralText ds.length))
  else .ok (Number.digitsValue ds, c')

def isUriChar (c : Char) : Bool := c.isAlphanum || "-;/?:@&=+$,_.!~*'()[]%".toList.contains c

def uriEscapes : Nat → Cursor → Except Fault (List UInt8 × Cursor)
  | 0, c => .ok ([], c)
  | fuel + 1, c =>
    if c.peek == '%' then
      let c := c.next
      if isHex c.peek && isHex (c.peek 1) then do
        let (os, c') ← uriEscapes fuel (c.forward 2)
        return ((hexNumber (c.rest.take 2)).toUInt8 :: os, c')
      else malformed c
    else .ok ([], c)

def uriChars : Nat → Cursor → Except Fault (List Char × Cursor)
  | 0, c => .ok ([], c)
  | fuel + 1, c =>
    if c.peek == '%' then
      match uriEscapes (c.rest.length + 1) c with
      | .error e => .error e
      | .ok (os, c') =>
        match Text.decodeUtf8 os with
        | .error _ => malformed c
        | .ok t => do
          let (more, c) ← uriChars fuel c'
          return (t.toList ++ more, c)
    else if isUriChar c.peek then do
      let (more, c') ← uriChars fuel c.next
      return (c.peek :: more, c')
    else .ok ([], c)

def uri (c : Cursor) : Except Fault (String × Cursor) := do
  let (cs, c') ← uriChars (c.rest.length + 1) c
  if cs.isEmpty then malformed c else return (String.ofList cs, c')

def handle (c : Cursor) : Except Fault (String × Cursor) :=
  if c.peek != '!' then malformed c
  else if c.peek 1 == ' ' then .ok ("!", c.next)
  else
    let (word, c') := c.next.span isWordChar
    if c'.peek == '!' then .ok (String.ofList ('!' :: word ++ ['!']), c'.next)
    else if word.isEmpty then malformed c
    else malformed c'

def directiveKind (name : List Char) (c : Cursor) : Except Fault (TokenKind × Cursor) := do
  match String.ofList name with
  | "YAML" =>
    let (major, c) ← number (c.skip (· == ' '))
    if c.peek != '.' then malformed c
    let (_, c) ← number c.next
    if !isEndOrSpace c.peek then malformed c
    return (.version major, c)
  | "TAG" =>
    let (h, c) ← handle (c.skip (· == ' '))
    if c.peek != ' ' then malformed c
    let (p, c) ← uri (c.skip (· == ' '))
    if !isEndOrSpace c.peek then malformed c
    return (.tagDirective h p, c)
  | _ => return (.otherDirective, c.skip (!isBreak ·))

def fetchDirective : Step := fun s ↦ do
  let s ← (s.unwindTo (-1)).removeKey
  let line := s.cursor.line
  let (name, c) := s.cursor.next.span isWordChar
  if name.isEmpty || !isEndOrSpace c.peek then malformed c
  let (kind, c) ← directiveKind name c
  let c ← ignoredLine c
  return { s.push kind line with allowKey := false, cursor := c }

def pass (s : Scanner) (kind : TokenKind) (n : Nat := 1) : Scanner :=
  { s.push kind s.cursor.line with cursor := s.cursor.forward n }

def fetchEnd : Step := fun s ↦ do
  let s ← (s.unwindTo (-1)).removeKey
  return { s.push .streamEnd s.cursor.line with allowKey := false, pending := [], done := true }

def fetchDocumentMark (kind : TokenKind) : Step := fun s ↦ do
  let s ← (s.unwindTo (-1)).removeKey
  return { s.pass kind 3 with allowKey := false }

def fetchFlowStart (kind : TokenKind) : Step := fun s ↦ do
  let s ← s.saveKey
  return { s.pass kind with flow := s.flow + 1, allowKey := true }

def fetchFlowEnd (kind : TokenKind) : Step := fun s ↦ do
  let s ← s.removeKey
  return { s.pass kind with flow := s.flow - 1, allowKey := false }

def fetchFlowEntry : Step := fun s ↦ do
  let s ← { s with allowKey := true }.removeKey
  return s.pass .flowEntry

def openBlock (kind : TokenKind) : Step := fun s ↦
  if s.flow != 0 then .ok s
  else if !s.allowKey then s.fail
  else if s.deepens s.cursor.column then
    .ok ((s.enter s.cursor.column).push kind s.cursor.line)
  else .ok s

def fetchBlockEntry : Step := fun s ↦ do
  let s ← s.openBlock .blockSequenceStart
  let s ← { s with allowKey := true }.removeKey
  return s.pass .blockEntry

def fetchKey : Step := fun s ↦ do
  let s ← s.openBlock .blockMappingStart
  let s ← { s with allowKey := s.flow == 0 }.removeKey
  return s.pass .key

def fetchValue : Step := fun s ↦ do
  match s.pending.find? (·.1 == s.flow) with
  | some (_, k) =>
    let s := { s with pending := s.pending.filter (·.1 != s.flow) }
    let s := s.insert k.token .key k.line
    let s :=
      if s.flow == 0 && s.deepens k.column then
        (s.enter k.column).insert k.token .blockMappingStart k.line
      else s
    return { s.pass .value with allowKey := false }
  | none =>
    let s ← s.openBlock .blockMappingStart
    let s ← { s with allowKey := s.flow == 0 }.removeKey
    return s.pass .value

def anchorEnd (c : Char) : Bool := isGap c || "?:,]\x7d%@`".toList.contains c

def fetchAnchor (kind : String → TokenKind) : Step := fun s ↦ do
  let s ← s.saveKey
  let (name, c) := s.cursor.next.span isWordChar
  if name.isEmpty || !anchorEnd c.peek then malformed c
  return { s.push (kind (String.ofList name)) s.cursor.line with allowKey := false, cursor := c }

def hasHandle (s : List Char) : Bool :=
  (s.takeWhile fun c ↦ !isEndOrSpace c).contains '!'

def tagKind (c : Cursor) : Except Fault (TokenKind × Cursor) := do
  if c.peek 1 == '<' then
    let (suffix, c) ← uri (c.forward 2)
    if c.peek != '>' then malformed c
    return (.tag none suffix, c.next)
  else if isGap (c.peek 1) then return (.tag none "!", c.next)
  else
    let (h, c) ← if hasHandle (c.rest.drop 1) then handle c else .ok ("!", c.next)
    let (suffix, c) ← uri c
    return (.tag (some h) suffix, c)

def fetchTag : Step := fun s ↦ do
  let s ← s.saveKey
  let (kind, c) ← tagKind s.cursor
  if !isEndOrSpace c.peek then malformed c
  return { s.push kind s.cursor.line with allowKey := false, cursor := c }

def fetchBlockScalar (fold : Bool) : Step := fun s ↦ do
  let s ← { s with allowKey := true }.removeKey
  let (text, c) ← blockScalar fold s.indent s.cursor
  return { s.push (.scalar (String.ofList text) false) s.cursor.line with cursor := c }

def fetchQuoted (double : Bool) : Step := fun s ↦ do
  let s ← s.saveKey
  let (text, c) ← quotedScalar double (s.cursor.rest.length + 1) s.cursor.next
  return { s.push (.scalar (String.ofList text) false) s.cursor.line with
    allowKey := false, cursor := c }

def fetchPlain : Step := fun s ↦ do
  let s ← s.saveKey
  let (text, c, b) :=
    plainScalar (s.flow != 0) (s.indent + 1) [] false (s.cursor.rest.length + 1) s.cursor
  return { s.push (.scalar (String.ofList text) true) s.cursor.line with
    allowKey := b, cursor := c }

def beginsPlain (s : Scanner) : Bool :=
  let c := s.cursor.peek
  let gapNext := isGap (s.cursor.peek 1)
  (!isGap c && !"-?:,[]\x7b\x7d#&*!|>'\"%@`".toList.contains c) ||
    (!gapNext && (c == '-' || (s.flow == 0 && (c == '?' || c == ':'))))

def fetch : Step := fun s ↦ do
  let s := skipToToken (s.cursor.rest.length + 1) s
  let s ← s.dropStale
  let s := s.unwindTo s.cursor.column
  let c := s.cursor
  let gapNext := isGap (c.peek 1)
  if c.atEnd then s.fetchEnd
  else if c.peek == '%' && c.column == 0 then s.fetchDirective
  else if c.column == 0 && c.atSeparator then
    s.fetchDocumentMark (if c.peek == '-' then .documentStart else .documentEnd)
  else match c.peek with
    | '[' => s.fetchFlowStart .flowSequenceStart
    | '\x7b' => s.fetchFlowStart .flowMappingStart
    | ']' => s.fetchFlowEnd .flowSequenceEnd
    | '\x7d' => s.fetchFlowEnd .flowMappingEnd
    | ',' => s.fetchFlowEntry
    | '*' => s.fetchAnchor .alias
    | '&' => s.fetchAnchor .anchor
    | '!' => s.fetchTag
    | '\'' => s.fetchQuoted false
    | '"' => s.fetchQuoted true
    | a =>
      if a == '-' && gapNext then s.fetchBlockEntry
      else if a == '?' && (s.flow != 0 || gapNext) then s.fetchKey
      else if a == ':' && (s.flow != 0 || gapNext) then s.fetchValue
      else if a == '|' && s.flow == 0 then s.fetchBlockScalar false
      else if a == '>' && s.flow == 0 then s.fetchBlockScalar true
      else if s.beginsPlain then s.fetchPlain
      else s.fail

def released (s : Scanner) : Nat :=
  s.pending.foldl (fun n p ↦ min n p.2.token) s.tokens.size

end Scanner

/-- The released tokens of a text, and the fault that ends them if there is one. -/
structure TokenStream where
  tokens : List Token
  fault : Option Fault

def scanFrom (released : Nat) : Nat → Scanner → TokenStream
  | 0, s => ⟨s.tokens.toList, none⟩
  | fuel + 1, s =>
    match s.fetch.bind Scanner.dropStale with
    | .error e => ⟨s.tokens.toList.take released, some e⟩
    | .ok s =>
      if s.done then ⟨s.tokens.toList, none⟩ else scanFrom s.released fuel s

def isAllowed (c : Char) : Bool :=
  c == '\t' || c == '\n' || c == '\r' || (' ' ≤ c && c ≤ '~') || c == '\x85' ||
    ('\xa0' ≤ c && c.toNat ≠ 0xFFFE && c.toNat ≠ 0xFFFF)

def tokens (text : List Char) : TokenStream :=
  if !text.all isAllowed then ⟨[], some (.malformed none)⟩
  else
    let text := if text.head? == some '\uFEFF' then text.tail else text
    scanFrom 0 (2 * text.length + 2) { cursor := { rest := text } }

end Flowgraph.Yaml
