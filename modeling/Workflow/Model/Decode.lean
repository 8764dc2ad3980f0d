import Workflow.Model.Decl
import Workflow.Json.Decode

/-!
# モデルの宣言を JSON から読む

各構造体はオブジェクト（または宣言順の配列）から読む。省略できるフィールドと既定値：

* プロセス：`kind` は `public`。
* タスク：`type` はなし、`items` は空。
* タイマー：`active` は偽、`delay` は 0、`unit` は `minutes`、`base` はなし。
* モデルの切り替え：`task` はなし。`version` と `event` は必須。
* イベント：`result` は空、`follow_up` は偽、`next_event` は 0、ほかはなし。
* 要素：`name` は空、ほかはなし。`id` と `kind` は必須。
* フロー：`id` は空、`condition` はなし。`source` と `target` は必須。
* モデル：`definition` と `processes` と `flows` は空。`version` と `elements` は必須。

省略できる値のフィールドは `null` でも省略と同じ。未知のフィールドは無視する。
-/

namespace Workflow.Model

open Workflow.Json

/-- 値を捨てて型だけ調べる。 -/
def checkOnly {α : Type} (d : Value → Decoded α) (v : Value) : Decoded Unit :=
  (d v).map fun _ => ()

/-- プロセスの宣言を読む。 -/
def decodeProcess : Value → Decoded ProcessDecl :=
  decodeStruct "ProcessRaw" ["id", "name", "kind"]
    (fun k v => match k with
      | "id" | "name" => checkOnly decodeString v
      | _ => checkOnly (decodeVariant ProcessKind.all) v)
    (fun src => do
      let id ← src.required "id" decodeString
      let name ← src.required "name" decodeString
      let kind ← src.withDefault "kind" (decodeVariant ProcessKind.all) .publicProcess
      pure { id, name, kind })

/-- タスクの中身を読む。 -/
def decodeTask : Value → Decoded TaskDecl :=
  decodeStruct "TaskRaw" ["id", "type", "items"]
    (fun k v => match k with
      | "id" => checkOnly decodeInt v
      | "type" => checkOnly (decodeOption decodeString) v
      | _ => checkOnly decodeMap v)
    (fun src => do
      let id ← src.required "id" decodeInt
      let docType ← src.optional "type" decodeString
      let items ← src.withDefault "items" decodeMap []
      pure { id, docType, items })

/-- タイマーを読む。 -/
def decodeTimer : Value → Decoded TimerDecl :=
  decodeStruct "TimerDefinition" ["active", "delay", "unit", "base"]
    (fun k v => match k with
      | "active" => checkOnly decodeBool v
      | "delay" => checkOnly decodeInt v
      | "unit" => checkOnly (decodeVariant TimerUnit.all) v
      | _ => checkOnly (decodeOption decodeString) v)
    (fun src => do
      let active ← src.withDefault "active" decodeBool false
      let delay ← src.withDefault "delay" decodeInt 0
      let unit ← src.withDefault "unit" (decodeVariant TimerUnit.all) .minutes
      let base ← src.optional "base" decodeString
      pure { active, delay, unit, base })

/-- モデルの切り替えを読む。 -/
def decodeSwitch : Value → Decoded ModelSwitch :=
  decodeStruct "ModelSwitch" ["version", "task", "event"]
    (fun k v => match k with
      | "version" => checkOnly decodeString v
      | "task" => checkOnly (decodeOption decodeInt) v
      | _ => checkOnly decodeInt v)
    (fun src => do
      let version ← src.required "version" decodeString
      let task ← src.optional "task" decodeInt
      let event ← src.required "event" decodeInt
      pure { version, task, event })

/-- イベントの中身を読む。 -/
def decodeEvent : Value → Decoded EventDecl :=
  decodeStruct "EventRaw"
    ["id", "result", "follow_up", "next_event", "signal", "timer", "model_switch", "items"]
    (fun k v => match k with
      | "id" | "next_event" => checkOnly decodeInt v
      | "result" => checkOnly decodeString v
      | "follow_up" => checkOnly decodeBool v
      | "signal" => checkOnly (decodeOption decodeString) v
      | "timer" => checkOnly (decodeOption decodeTimer) v
      | "model_switch" => checkOnly (decodeOption decodeSwitch) v
      | _ => checkOnly decodeMap v)
    (fun src => do
      let id ← src.required "id" decodeInt
      let result ← src.withDefault "result" decodeString ""
      let followUp ← src.withDefault "follow_up" decodeBool false
      let nextEvent ← src.withDefault "next_event" decodeInt 0
      let signal ← src.optional "signal" decodeString
      let timer ← src.optional "timer" decodeTimer
      let modelSwitch ← src.optional "model_switch" decodeSwitch
      let items ← src.withDefault "items" decodeMap []
      pure { id, result, followUp, nextEvent, signal, timer, modelSwitch, items })

/-- 要素を読む。 -/
def decodeElement : Value → Decoded ElementDecl :=
  decodeStruct "ElementRaw" ["id", "kind", "name", "process", "gateway", "link", "task", "event"]
    (fun k v => match k with
      | "id" | "name" => checkOnly decodeString v
      | "kind" => checkOnly (decodeVariant ElementKind.all) v
      | "process" | "link" => checkOnly (decodeOption decodeString) v
      | "gateway" => checkOnly (decodeOption (decodeVariant GatewayKind.all)) v
      | "task" => checkOnly (decodeOption decodeTask) v
      | _ => checkOnly (decodeOption decodeEvent) v)
    (fun src => do
      let id ← src.required "id" decodeString
      let kind ← src.required "kind" (decodeVariant ElementKind.all)
      let name ← src.withDefault "name" decodeString ""
      let process ← src.optional "process" decodeString
      let gateway ← src.optional "gateway" (decodeVariant GatewayKind.all)
      let link ← src.optional "link" decodeString
      let task ← src.optional "task" decodeTask
      let event ← src.optional "event" decodeEvent
      pure { id, kind, name, process, gateway, link, task, event })

/-- シーケンスフローを読む。 -/
def decodeFlow : Value → Decoded FlowDecl :=
  decodeStruct "FlowRaw" ["id", "source", "target", "condition"]
    (fun k v => match k with
      | "condition" => checkOnly (decodeOption decodeString) v
      | _ => checkOnly decodeString v)
    (fun src => do
      let id ← src.withDefault "id" decodeString ""
      let source ← src.required "source" decodeString
      let target ← src.required "target" decodeString
      let condition ← src.optional "condition" decodeString
      pure { id, source, target, condition })

/-- モデル全体の宣言を読む。 -/
def decodeModel : Value → Decoded ModelDecl :=
  decodeStruct "ModelGraphRaw" ["version", "definition", "processes", "elements", "flows"]
    (fun k v => match k with
      | "version" => checkOnly decodeString v
      | "definition" => checkOnly decodeMap v
      | "processes" => checkOnly (decodeList decodeProcess) v
      | "elements" => checkOnly (decodeList decodeElement) v
      | _ => checkOnly (decodeList decodeFlow) v)
    (fun src => do
      let version ← src.required "version" decodeString
      let definition ← src.withDefault "definition" decodeMap []
      let processes ← src.withDefault "processes" (decodeList decodeProcess) []
      let elements ← src.required "elements" (decodeList decodeElement)
      let flows ← src.withDefault "flows" (decodeList decodeFlow) []
      pure { version, definition, processes, elements, flows })

end Workflow.Model
