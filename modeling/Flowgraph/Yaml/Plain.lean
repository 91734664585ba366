import Flowgraph.Yaml.Node
import Flowgraph.Value.Path
import Flowgraph.Yaml.Stamp

namespace Flowgraph.Yaml

inductive Kind where
  | null
  | bool
  | int
  | float
  | text
  | octets
  | stamp
  /-- The key under which mappings are merged into their own. -/
  | merge
  | default
  | sequence
  | mapping
  | set
  | pairs
  | unknown
deriving DecidableEq

def Kind.ofName (name : String) : Kind :=
  match name with
  | "tag:yaml.org,2002:null" => null
  | "tag:yaml.org,2002:bool" => bool
  | "tag:yaml.org,2002:int" => int
  | "tag:yaml.org,2002:float" => float
  | "tag:yaml.org,2002:str" => text
  | "tag:yaml.org,2002:binary" => octets
  | "tag:yaml.org,2002:timestamp" => stamp
  | "tag:yaml.org,2002:merge" => merge
  | "tag:yaml.org,2002:value" => default
  | "tag:yaml.org,2002:seq" => sequence
  | "tag:yaml.org,2002:map" => mapping
  | "tag:yaml.org,2002:set" => set
  | "tag:yaml.org,2002:omap" | "tag:yaml.org,2002:pairs" => pairs
  | _ => unknown

def isDigitOrBar (c : Char) : Bool := c.isDigit || c == '_'

def isHexOrBar (c : Char) : Bool :=
  isDigitOrBar c || ('a' ≤ c && c ≤ 'f') || ('A' ≤ c && c ≤ 'F')

/-- Whether a text consists of groups of a colon and a number below sixty, at least one. -/
def areSixties (s : List Char) : Bool :=
  match Text.splitAt ':' s with
  | [] :: groups => !groups.isEmpty && groups.all fun
    | [a] => a.isDigit
    | [a, b] => '0' ≤ a && a ≤ '5' && b.isDigit
    | _ => false
  | _ => false

def dropSign (s : List Char) : List Char :=
  match s with
  | '-' :: r | '+' :: r => r
  | _ => s

def looksLikeInteger (s : List Char) : Bool :=
  match dropSign s with
  | '0' :: 'b' :: r => !r.isEmpty && r.all fun c ↦ c == '0' || c == '1' || c == '_'
  | '0' :: 'x' :: r => !r.isEmpty && r.all isHexOrBar
  | '0' :: r => r.all fun c ↦ ('0' ≤ c && c ≤ '7') || c == '_'
  | c :: r =>
    let rest := r.dropWhile isDigitOrBar
    c.isDigit && (rest.isEmpty || areSixties rest)
  | [] => false

def isExponent (s : List Char) : Bool :=
  match s with
  | [] => true
  | e :: sign :: ds =>
    (e == 'e' || e == 'E') && (sign == '+' || sign == '-') && !ds.isEmpty && ds.all Char.isDigit
  | _ => false

def looksLikeFloat (s : List Char) : Bool :=
  let r := dropSign s
  match r with
  | '.' :: 'n' :: _ | '.' :: 'N' :: _ => [".nan", ".NaN", ".NAN"].contains (String.ofList s)
  | '.' :: 'i' :: _ | '.' :: 'I' :: _ => [".inf", ".Inf", ".INF"].contains (String.ofList r)
  | '.' :: d :: t => r.length == s.length && d.isDigit && isExponent (t.dropWhile isDigitOrBar)
  | d :: _ =>
    let t := r.dropWhile isDigitOrBar
    d.isDigit && match t with
      | '.' :: t => isExponent (t.dropWhile isDigitOrBar)
      | t =>
        let groups := t.takeWhile (· != '.')
        match t.drop groups.length with
        | '.' :: t => areSixties groups && t.all isDigitOrBar
        | _ => false
  | [] => false

def truthWords : List (String × Bool) :=
  [("yes", true), ("no", false), ("true", true), ("false", false), ("on", true), ("off", false)]

def truth? (word : String) : Option Bool := truthWords.lookup word

def looksLikeTruth (s : List Char) : Bool :=
  truthWords.any fun (w, _) ↦
    let w := w.toList
    s == w || s == w.map Char.toUpper || s == (w.take 1).map Char.toUpper ++ w.drop 1

def Kind.ofPlain (stamps : Bool) (text : String) : Kind :=
  let s := text.toList
  if looksLikeTruth s then bool
  else if looksLikeFloat s then float
  else if looksLikeInteger s then int
  else if text == "<<" then merge
  else if ["~", "null", "Null", "NULL", ""].contains text then null
  else if stamps && looksLikeMoment s then stamp
  else if text == "=" then default
  else if ["!", "&", "*"].contains text then unknown
  else Kind.text

def Node.kind (stamps : Bool) : Node → Kind
  | scalar (.implicit true) text _ => .ofPlain stamps text
  | scalar (.implicit false) _ _ => .text
  | sequence _ (.implicit _) _ _ => .sequence
  | mapping _ (.implicit _) _ _ => .mapping
  | scalar (.explicit n) _ _ | sequence _ (.explicit n) _ _ | mapping _ (.explicit n) _ _ =>
    .ofName n
  | loop _ => .unknown

end Flowgraph.Yaml
