import Flowgraph.Document.Basic
import Flowgraph.Document.Check
import Flowgraph.Json.Writer
import Flowgraph.Text.Case

namespace Flowgraph

def Relation.symbols : List String := ["=", "!=", ">", "<", ">=", "<="]

namespace Document

variable (L : Library)

def spell (v : Value) : Except String Value :=
  if v.isSpellable then .ok (.str v.text) else .error Json.WriteError.integer.message

def checkHeaders : Check Headers := L.table (L.before spell L.string)

def upper (s : String) : String := String.ofList (Text.toUpper s.toList)

def checkRequest : Check Request :=
  L.record "HttpExecutorRecord" <|
    Fields.made (fun _ method endpoint body mutate headers ↦
        { method, endpoint, body, mutate, headers })
      |>.optional ["type"] "http" (L.literal ["http"])
      |>.required ["method"] (L.after upper (L.minLength 1))
      |>.required ["endpoint"] L.string
      |>.optional ["body"] .null L.anything
      |>.optional ["mutate"] none (L.nullable L.string)
      |>.optional ["headers"] [] (checkHeaders L)

def checkExecutor : Check Executor :=
  L.union (.key "type") [
    ("http", fun v ↦ Executor.http <$> checkRequest L v),
    ("sleep", L.record "SleepExecutorRecord" <|
      Fields.made (fun _ milliseconds ↦ .sleep milliseconds)
        |>.optional ["type"] "sleep" (L.literal ["sleep"])
        |>.required ["value"] (L.atLeast 0.0)),
    ("none", L.record "NoneExecutorRecord" <|
      Fields.made (fun _ ↦ .none)
        |>.optional ["type"] "none" (L.literal ["none"])),
    ("end", L.record "EndExecutorRecord" <|
      Fields.made (fun _ code ↦ .stop code)
        |>.optional ["type"] "end" (L.literal ["end"])
        |>.optional ["code"] 0 L.integer)]

def checkRelation : Check Relation := fun v ↦
  Relation.ofSymbol <$> L.literal Relation.symbols v

def checkSimple : Check Condition :=
  L.record "SimpleCondition" <|
    Fields.made Condition.simple
      |>.required ["path"] (L.minLength 1)
      |>.required ["operator"] (checkRelation L)
      |>.optional ["value"] .null L.anything

def conditionKind : Value → Option String
  | .str _ => some "named"
  | .mapping _ es =>
    if Entries.contains es (.str "and") || Entries.contains es (.str "and_") then some "and"
    else if Entries.contains es (.str "or") || Entries.contains es (.str "or_") then some "or"
    else some "simple"
  | _ => none

def checkKinds (all any : Check Condition) : Check Condition :=
  L.union (.function "_condition_kind()" conditionKind) [
    ("simple", checkSimple L), ("and", all), ("or", any),
    ("named", fun v ↦ Condition.named <$> L.string v)]

def checkConditionWithin : Nat → Check Condition
  | 0 => checkKinds L (fun _ ↦ .fault L.tooDeep) (fun _ ↦ .fault L.tooDeep)
  | depth + 1 => checkKinds L
      (L.record "AndCondition" <| Fields.made Condition.all
        |>.required ["and", "and_"] (L.list (checkConditionWithin depth)))
      (L.record "OrCondition" <| Fields.made Condition.any
        |>.required ["or", "or_"] (L.list (checkConditionWithin depth)))

def checkCondition : Check Condition := checkConditionWithin L L.depth

def checkEdge : Check Edge :=
  L.record "EdgeRecord" <|
    Fields.made (fun target condition fallback ↦ { target, condition, fallback })
      |>.required ["to"] (L.minLength 1)
      |>.optional ["condition"] none (L.nullable (checkCondition L))
      |>.optional ["fallback"] none (L.nullable L.string)

def checkEnd : Check Bool := fun v ↦
  (· == some "end") <$> L.nullable (L.literal ["end"]) v

def checkNode : Check Node :=
  L.record "NodeRecord" <|
    Fields.made (fun description executor edges isEnd code ↦
        { description, executor, edges, isEnd, code })
      |>.optional ["description"] "" L.string
      |>.optional ["executor"] .none (checkExecutor L)
      |>.optional ["edges"] [] (L.list (checkEdge L))
      |>.optional ["type"] false (checkEnd L)
      |>.optional ["code"] none (L.nullable L.integer)

def wrapBareExecutor (v : Value) : Except String Value :=
  match v with
  | .mapping _ es =>
    if !Entries.contains es (.str "executor") && Entries.contains es (.str "type") then
      .ok (.ofEntries [(.str "executor", v)])
    else .ok v
  | _ => .ok v

def checkHook : Check Executor :=
  L.before wrapBareExecutor <| L.record "BeforeHook" <|
    Fields.made (fun executor ↦ executor)
      |>.required ["executor"] (checkExecutor L)

def acceptLegacyLayout (v : Value) : Except String Value :=
  match v with
  | .mapping _ es =>
    if !Entries.contains es (.str "all") && !Entries.contains es (.str "start") then
      .ok (.ofEntries [(.str "all", v)])
    else .ok v
  | _ => .ok v

def defaultMissingBefore (v : Value) : Except String Value :=
  match v with
  | .null => .ok (.ofEntries [])
  | v => .ok v

def checkHooks : Check Hooks :=
  L.before defaultMissingBefore <| L.before acceptLegacyLayout <| L.record "BeforeHooks" <|
    Fields.made (fun all start ↦ { all, start })
      |>.optional ["all"] [] (L.table (checkHook L))
      |>.optional ["start"] [] (L.table (checkHook L))

def checkHttpOptions : Check (String × Headers) :=
  L.record "HttpOptions" <|
    Fields.made Prod.mk
      |>.optional ["base_url"] "" L.string
      |>.optional ["headers"] [] (checkHeaders L)

def checkOptions : Check Options :=
  L.record "GraphOptions" <|
    Fields.made (fun verbose http ↦ { verbose, baseUrl := http.1, headers := http.2 })
      |>.optional ["verbose"] false L.truth
      |>.optional ["http"] ("", []) (checkHttpOptions L)

def checkOpen : Check Entries := fun v ↦
  (fun es ↦ es.map fun (k, v) ↦ (Key.str k, v)) <$> L.table L.anything v

def checkGraph : Check Graph :=
  L.record "GraphConfig" <|
    Fields.made (fun initialState options vars before conditions nodes ↦
        { initialState, options, vars, before, conditions, nodes })
      |>.optional ["initialState", "initial_state"] [] (checkOpen L)
      |>.optional ["config", "options"] {} (checkOptions L)
      |>.optional ["variables"] [] (checkOpen L)
      |>.optional ["before"] {} (checkHooks L)
      |>.optional ["conditions"] [] (L.table (checkCondition L))
      |>.required ["graph"] (L.table (checkNode L))

end Document

end Flowgraph
