import Workflow.Model.Decl
import Workflow.Model.Checksum
import Workflow.Json.Writer

/-!
# モデルの宣言を JSON に書く

フィールドは宣言の順に書く。省略できて値がない（`none` か空の）フィールドは書かない。
ただしプロセスの `kind`、タイマーの `active`・`delay`・`unit`、イベントの `follow_up`・
`next_event`、要素の `name`、フローの `id`、モデルの `processes`・`flows` は常に書く。

この書き方を詰めた JSON にしたバイト列の CRC-32C が、モデルの指紋（checksum）である。
読み直すと同じ宣言に戻るので、キーの順や未知のフィールドが違うだけの入力は同じ指紋になる。
-/

namespace Workflow.Model

open Workflow.Json

/-- 値があればフィールドにする。 -/
def optField {α : Type} (k : String) (f : α → Value) : Option α → List (String × Value)
  | some a => [(k, f a)]
  | none => []

/-- 空でなければ写像のフィールドにする。 -/
def mapField (k : String) (fs : List (String × Value)) : List (String × Value) :=
  if fs.isEmpty then [] else [(k, .object fs)]

/-- プロセスの宣言の JSON。 -/
def ProcessDecl.toJson (p : ProcessDecl) : Value :=
  .object [("id", .string p.id), ("name", .string p.name), ("kind", .string p.kind.name)]

/-- タスクの中身の JSON。 -/
def TaskDecl.toJson (t : TaskDecl) : Value :=
  .object ([("id", Value.int t.id)] ++ optField "type" .string t.docType ++ mapField "items" t.items)

/-- タイマーの JSON。 -/
def TimerDecl.toJson (t : TimerDecl) : Value :=
  .object ([("active", .bool t.active), ("delay", Value.int t.delay), ("unit", .string t.unit.name)] ++
    optField "base" .string t.base)

/-- モデルの切り替えの JSON。 -/
def ModelSwitch.toJson (s : ModelSwitch) : Value :=
  .object ([("version", .string s.version)] ++ optField "task" Value.int s.task ++
    [("event", Value.int s.event)])

/-- イベントの中身の JSON。 -/
def EventDecl.toJson (e : EventDecl) : Value :=
  .object ([("id", Value.int e.id)] ++
    (if e.result.isEmpty then [] else [("result", .string e.result)]) ++
    [("follow_up", .bool e.followUp), ("next_event", Value.int e.nextEvent)] ++
    optField "signal" .string e.signal ++ optField "timer" TimerDecl.toJson e.timer ++
    optField "model_switch" ModelSwitch.toJson e.modelSwitch ++ mapField "items" e.items)

/-- 要素の JSON。 -/
def ElementDecl.toJson (el : ElementDecl) : Value :=
  .object ([("id", .string el.id), ("kind", .string el.kind.name), ("name", .string el.name)] ++
    optField "process" .string el.process ++
    optField "gateway" (fun g => .string g.name) el.gateway ++
    optField "link" .string el.link ++ optField "task" TaskDecl.toJson el.task ++
    optField "event" EventDecl.toJson el.event)

/-- フローの JSON。 -/
def FlowDecl.toJson (f : FlowDecl) : Value :=
  .object ([("id", .string f.id), ("source", .string f.source), ("target", .string f.target)] ++
    optField "condition" .string f.condition)

/-- モデル全体の宣言の JSON（宣言順）。 -/
def ModelDecl.toJson (m : ModelDecl) : Value :=
  .object ([("version", .string m.version)] ++ mapField "definition" m.definition ++
    [("processes", .array (m.processes.map ProcessDecl.toJson)),
     ("elements", .array (m.elements.map ElementDecl.toJson)),
     ("flows", .array (m.flows.map FlowDecl.toJson))])

/-- モデルの指紋：宣言順の詰めた JSON の CRC-32C を 8 桁の 16 進で。 -/
def ModelDecl.checksum (m : ModelDecl) : String :=
  hex8 (crc32c m.toJson.compact.toUTF8.toList)

end Workflow.Model
