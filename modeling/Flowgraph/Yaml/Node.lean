import Flowgraph.Yaml.Token

namespace Flowgraph.Yaml

inductive Tag where
  /-- None: a scalar is taken for what it looks like if it is plain. -/
  | implicit (plain : Bool)
  | explicit (name : String)
deriving DecidableEq

inductive Node where
  | scalar (tag : Tag) (text : String) (line : Nat)
  | sequence (number : Nat) (tag : Tag) (items : List Node) (line : Nat)
  | mapping (number : Nat) (tag : Tag) (entries : List (Node × Node)) (line : Nat)
  /-- An alias inside the collection that it stands for. -/
  | loop (line : Nat)

def Node.line : Node → Nat
  | scalar _ _ l | sequence _ _ _ l | mapping _ _ _ l | loop l => l

structure Composer where
  tokens : List Token
  fault : Option Fault
  anchors : List (String × Node) := []
  handles : List (String × String) := []
  next : Nat := 1

abbrev Compose := StateT Composer (Except Fault)

namespace Compose

def peek : Compose Token := do
  let s ← get
  match s.tokens with
  | t :: _ => return t
  | [] => throw (s.fault.getD (.malformed none))

def advance : Compose Unit := modify fun s ↦ { s with tokens := s.tokens.tail }

def sees (kinds : List TokenKind) : Compose Bool := do return kinds.contains (← peek).kind

def fail {α : Type} : Compose α := do throw (.malformed (some ((← peek).line + 1)))

def fresh : Compose Nat := modifyGet fun s ↦ (s.next, { s with next := s.next + 1 })

def defaultHandles : List (String × String) := [("!", "!"), ("!!", "tag:yaml.org,2002:")]

structure Properties where
  anchor : Option String := none
  tag : Option (Option String × String) := none
  line : Option Nat := none
  tagLine : Nat := 0

def properties : Compose Properties := do
  let first ← peek
  match first.kind with
  | .anchor a =>
    advance
    let second ← peek
    match second.kind with
    | .tag h s =>
      advance
      return ⟨some a, some (h, s), some first.line, second.line⟩
    | _ => return { anchor := some a, line := some first.line }
  | .tag h s =>
    advance
    let second ← peek
    match second.kind with
    | .anchor a =>
      advance
      return ⟨some a, some (h, s), some first.line, first.line⟩
    | _ => return { tag := some (h, s), line := some first.line, tagLine := first.line }
  | _ => return {}

def tagName (p : Properties) : Compose (Option String) := do
  match p.tag with
  | none => return none
  | some (none, suffix) => return some suffix
  | some (some h, suffix) =>
    match (← get).handles.lookup h with
    | some name => return some (name ++ suffix)
    | none => throw (.malformed (some (p.tagLine + 1)))

def tagOf (name : Option String) (plain : Bool) : Tag :=
  match name with
  | none => .implicit plain
  | some "!" => .implicit true
  | some n => .explicit n

def checkAnchor (anchor : Option String) (line : Nat) : Compose Unit := do
  match anchor with
  | some a => if ((← get).anchors.lookup a).isSome then throw (.malformed (some (line + 1)))
  | none => pure ()

def setAnchor (anchor : Option String) (n : Node) : Compose Unit := do
  match anchor with
  | some a => modify fun s ↦ { s with anchors := (a, n) :: s.anchors }
  | none => pure ()

def collect (anchor : Option String) (line : Nat) (read : Compose α) (make : Nat → α → Node) :
    Compose Node := do
  checkAnchor anchor line
  let number ← fresh
  setAnchor anchor (.loop line)
  let members ← read
  let n := make number members
  setAnchor anchor n
  return n

def scalarNode (p : Properties) (name : Option String) (text : String) (plain : Bool)
    (line : Nat) : Compose Node := do
  checkAnchor p.anchor line
  let n := Node.scalar (tagOf name plain) text line
  setAnchor p.anchor n
  return n

def emptyNode : Compose Node := do return .scalar (.implicit true) "" (← peek).line

inductive Position where
  | block
  | blockOrIndentless
  | flow
deriving DecidableEq

mutual

def node (fuel room : Nat) (position : Position) : Compose Node :=
  match fuel with
  | 0 => fail
  | fuel + 1 => do
    let t ← peek
    if let .alias a := t.kind then
      advance
      match (← get).anchors.lookup a with
      | some n => return n
      | none => throw (.malformed (some (t.line + 1)))
    else
      let p ← properties
      let name ← tagName p
      let t ← peek
      let line := p.line.getD t.line
      let tag := tagOf name false
      let sequence (read : Compose (List Node)) : Compose Node :=
        collect p.anchor line read fun i ns ↦ .sequence i tag ns line
      let mapping (read : Compose (List (Node × Node))) : Compose Node :=
        collect p.anchor line read fun i es ↦ .mapping i tag es line
      match room with
      | 0 => throw .tooDeep
      | room + 1 =>
        match t.kind, position with
        | .blockEntry, .blockOrIndentless => sequence (indentlessItems fuel room)
        | .scalar text plain, _ =>
          advance
          scalarNode p name text plain line
        | .flowSequenceStart, _ => sequence (do advance; flowItems fuel room true)
        | .flowMappingStart, _ => mapping (do advance; flowEntries fuel room true)
        | .blockSequenceStart, .block | .blockSequenceStart, .blockOrIndentless =>
          sequence (do advance; blockItems fuel room)
        | .blockMappingStart, .block | .blockMappingStart, .blockOrIndentless =>
          mapping (do advance; blockEntries fuel room)
        | _, _ =>
          if p.line.isSome then scalarNode p name "" (name.isNone || name == some "!") line
          else fail
termination_by structural fuel

def nodeUnless (fuel room : Nat) (kinds : List TokenKind) (position : Position) : Compose Node :=
  match fuel with
  | 0 => fail
  | fuel + 1 => do
    if ← sees kinds then emptyNode else node fuel room position
termination_by structural fuel

def blockItems (fuel room : Nat) : Compose (List Node) :=
  match fuel with
  | 0 => fail
  | fuel + 1 => do
    if ← sees [.blockEntry] then
      advance
      let n ← nodeUnless fuel room [.blockEntry, .blockEnd] .block
      return n :: (← blockItems fuel room)
    else if ← sees [.blockEnd] then
      advance
      return []
    else fail
termination_by structural fuel

def indentlessItems (fuel room : Nat) : Compose (List Node) :=
  match fuel with
  | 0 => fail
  | fuel + 1 => do
    if ← sees [.blockEntry] then
      advance
      let n ← nodeUnless fuel room [.blockEntry, .key, .value, .blockEnd] .block
      return n :: (← indentlessItems fuel room)
    else return []
termination_by structural fuel

def blockEntries (fuel room : Nat) : Compose (List (Node × Node)) :=
  match fuel with
  | 0 => fail
  | fuel + 1 => do
    if ← sees [.key] then
      advance
      let k ← nodeUnless fuel room [.key, .value, .blockEnd] .blockOrIndentless
      let v ← blockValue fuel room
      return (k, v) :: (← blockEntries fuel room)
    else if ← sees [.blockEnd] then
      advance
      return []
    else fail
termination_by structural fuel

def blockValue (fuel room : Nat) : Compose Node :=
  match fuel with
  | 0 => fail
  | fuel + 1 => do
    if ← sees [.value] then
      advance
      nodeUnless fuel room [.key, .value, .blockEnd] .blockOrIndentless
    else emptyNode
termination_by structural fuel

def flowItems (fuel room : Nat) (first : Bool) : Compose (List Node) :=
  match fuel with
  | 0 => fail
  | fuel + 1 => do
    if ← sees [.flowSequenceEnd] then
      advance
      return []
    else
      if !first then
        if ← sees [.flowEntry] then advance else fail
      if ← sees [.key] then
        let line := (← peek).line
        advance
        let number ← fresh
        let k ← nodeUnless fuel room [.value, .flowEntry, .flowSequenceEnd] .flow
        let v ← flowValue fuel room [.flowEntry, .flowSequenceEnd]
        let n := Node.mapping number (.implicit false) [(k, v)] line
        return n :: (← flowItems fuel room false)
      else if ← sees [.flowSequenceEnd] then
        advance
        return []
      else
        let n ← node fuel room .flow
        return n :: (← flowItems fuel room false)
termination_by structural fuel

def flowValue (fuel room : Nat) (kinds : List TokenKind) : Compose Node :=
  match fuel with
  | 0 => fail
  | fuel + 1 => do
    if ← sees [.value] then
      advance
      nodeUnless fuel room kinds .flow
    else emptyNode
termination_by structural fuel

def flowEntries (fuel room : Nat) (first : Bool) : Compose (List (Node × Node)) :=
  match fuel with
  | 0 => fail
  | fuel + 1 => do
    if ← sees [.flowMappingEnd] then
      advance
      return []
    else
      if !first then
        if ← sees [.flowEntry] then advance else fail
      if ← sees [.key] then
        advance
        let k ← nodeUnless fuel room [.value, .flowEntry, .flowMappingEnd] .flow
        let v ← flowValue fuel room [.flowEntry, .flowMappingEnd]
        return (k, v) :: (← flowEntries fuel room false)
      else if ← sees [.flowMappingEnd] then
        advance
        return []
      else
        let k ← node fuel room .flow
        let v ← emptyNode
        return (k, v) :: (← flowEntries fuel room false)
termination_by structural fuel

end

def directives (version : Bool) : Nat → Compose Unit
  | 0 => fail
  | fuel + 1 => do
    let t ← peek
    match t.kind with
    | .version major =>
      if version || major != 1 then fail
      advance
      directives true fuel
    | .tagDirective h p =>
      if ((← get).handles.lookup h).isSome then fail
      modify fun s ↦ { s with handles := (h, p) :: s.handles }
      advance
      directives version fuel
    | .otherDirective =>
      advance
      directives version fuel
    | _ => pure ()

def isDirective (t : Token) : Bool :=
  match t.kind with
  | .version _ | .tagDirective .. | .otherDirective => true
  | _ => false

def skipDocumentEnds : Nat → Compose Unit
  | 0 => pure ()
  | fuel + 1 => do
    if ← sees [.documentEnd] then
      advance
      skipDocumentEnds fuel

def document (fuel room : Nat) : Compose (Option Node) := do
  let t ← peek
  let isStart := isDirective t || t.kind == .documentStart || t.kind == .streamEnd
  if isStart then skipDocumentEnds fuel
  if t.kind == .streamEnd then return none
  if isStart then
    directives false fuel
    if !(← sees [.documentStart]) then fail
    advance
  modify fun s ↦ { s with handles := s.handles ++ defaultHandles }
  let t ← peek
  let isEmpty := isStart &&
    (isDirective t || [.documentStart, .documentEnd, .streamEnd].contains t.kind)
  let n ← if isEmpty then emptyNode else node fuel room .block
  skipDocumentEnds fuel
  let t ← peek
  if t.kind == .streamEnd then return some n
  let line := t.line
  modify fun s ↦ { s with handles := [] }
  directives false fuel
  if !(← sees [.documentStart]) then fail
  throw (.malformed (some (line + 1)))

end Compose

def standardRoom : Nat := 300

def compose (room : Nat) (text : List Char) : Except Fault (Option Node) :=
  let s := tokens text
  ((Compose.document (4 * s.tokens.length + 8) room).run
    { tokens := s.tokens, fault := s.fault }).map (·.1)

end Flowgraph.Yaml
