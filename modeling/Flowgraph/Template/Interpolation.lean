import Flowgraph.Journal
import Flowgraph.Template.Placeholder
import Flowgraph.Template.Span

namespace Flowgraph.Template

/-- What placeholders are filled from, and how often expressions are. -/
structure Source where
  secret : String → Option String
  maxPasses : Nat
  runtime : Expr.Runtime := .standard

def variableOpening : List Char := "$\x7bvar.".toList

def secretOpenings : List (List Char) := ["$\x7bsecret.".toList, "$\x7bSECRET.".toList]

def fillPieces (opening : List Char) (value? : String → Act Journal (Option String)) :
    List Piece → Act Journal (List Char)
  | [] => pure []
  | .char c :: ps => do return c :: (← fillPieces opening value? ps)
  | .hole name :: ps => do
    let text := match ← value? (String.ofList name) with
      | some s => s.toList
      | none => holeText opening name
    return text ++ (← fillPieces opening value? ps)

/-- The value of a variable, which lives in the mapping `var` of the run state. -/
def variableValue (s : State) (name : String) : Value :=
  match s.get "var" with
  | .mapping _ es => Entries.get es (.str name)
  | _ => .undefined

def variableText (name : String) : Act Journal (Option String) := do
  match variableValue (← Act.get).state name with
  | .undefined => do
    note .warning ("Variable '" ++ name ++ "' not found in variables") [("variable", .str name)]
    return none
  | v => some <$> display v

def fillVariables (text : List Char) : Act Journal (List Char) :=
  fillPieces variableOpening variableText (pieces variableOpening text)

def secretText (secret : String → Option String) (name : String) :
    Act Journal (Option String) := do
  match secret name with
  | some s => return some s
  | none =>
    note .warning ("Secret '" ++ name ++ "' not found in environment") [("secret", .str name)]
    return none

def fillSecrets (secret : String → Option String) (text : List Char) : Act Journal (List Char) :=
  secretOpenings.foldlM (fun text opening ↦
    fillPieces opening (secretText secret) (pieces opening text)) text

/-- A span whose expression has a value: the text before it, the value and the text after it. -/
structure Hit where
  before : List Char
  value : Value
  after : List Char

def noteFailure (source : String) (e : Expr.Error) : Act Journal Unit :=
  note .warning ("Error interpolating '" ++ source ++ "': " ++ e.message)
    [("expression", .str source)]

/-- The first span with a value from `text` on; `before` is the text before that, in reverse.
Every span that fails on the way leaves a warning. -/
def nextHit (runtime : Expr.Runtime) (before text : List Char) : Act Journal (Option Hit) :=
  match text with
  | '\x7b' :: '\x7b' :: s =>
    match closeSpan 2 s with
    | none => nextHit runtime ('\x7b' :: '\x7b' :: before) s
    | some (inner, after) => do
      let source := spanSource inner
      match ← evaluate runtime source with
      | .ok (v, _) => return some ⟨before.reverse, v, after⟩
      | .error e => do
        noteFailure source e
        nextHit runtime ('\x7b' :: '\x7b' :: before) s
  | c :: s => nextHit runtime (c :: before) s
  | [] => pure none
termination_by structural text

def fillExpressions (source : Source) (template : List Char) (passes : Nat) (text : List Char) :
    Act Journal (List Char) := do
  match ← nextHit source.runtime [] text with
  | none => return text
  | some hit =>
    match passes with
    | 0 => do
      note .warning ("Stopped interpolating after " ++ toString source.maxPasses ++
        " substitutions") [("template", .str (String.ofList template))]
      return text
    | passes + 1 => do
      let shown ← display hit.value
      fillExpressions source template passes (hit.before ++ shown.toList ++ hit.after)

def interpolate (source : Source) (template : String) : Act Journal String := do
  let text ← fillVariables template.toList
  let text ← fillSecrets source.secret text
  String.ofList <$> fillExpressions source text source.maxPasses text

def keyText (k : Key) : Act Journal String :=
  if k.isSpellable then pure k.text else Act.fail (.text .integer)

mutual

/-- Interpolates the texts in a value: items of lists, keys and members of mappings. -/
def interpolateValue (source : Source) : Value → Act Journal Value
  | .str s => .str <$> interpolate source s
  | .list _ vs => .ofList <$> interpolateItems source vs
  | .mapping _ es => .ofEntries <$> interpolateEntries source [] es
  | v => pure v
termination_by structural v => v

def interpolateItems (source : Source) : List Value → Act Journal (List Value)
  | [] => pure []
  | v :: vs => do
    let v ← interpolateValue source v
    return v :: (← interpolateItems source vs)
termination_by structural vs => vs

/-- Puts interpolated entries into `done`, under the text of their interpolated keys. -/
def interpolateEntries (source : Source) (done : Entries) :
    List (Key × Value) → Act Journal Entries
  | [] => pure done
  | (k, v) :: es => do
    let name ← interpolate source (← keyText k)
    let v ← interpolateValue source v
    interpolateEntries source (Entries.insert done (.str name) v) es
termination_by structural es => es

end

end Flowgraph.Template
