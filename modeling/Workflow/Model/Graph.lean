import Workflow.Model.Decode
import Workflow.Model.Encode
import Workflow.Document.Json

/-!
# 検査済みのモデル

モデルの宣言を検査して、登録できるグラフにする。検査は次の順で行い、最初に破れた
条件を誤りとして返す。

1. 版が空白だけでない。
2. プロセスの id が互いに異なる。
3. 要素ごとに宣言順で：id が前の要素と異なる。プロセスの参照が宣言されたプロセスを指す。
   タスクは正のタスク id を持ち、それが前のタスクと異なる。イベントは正のイベント id を持ち、
   モデルの切り替えがあれば版が空白でなく切り替え先のイベントが正である。ゲートウェイは
   種類を持つ。リンクイベントは空白でないリンク名を持ち、リンクキャッチのリンク名は
   前のリンクキャッチと異なる。
4. フローの両端が要素を指す。

グラフは宣言そのものを持ち、要素やフローは宣言の列から引く。索引は持たない。

## 実体

タスクとイベントの実体は、宣言から作る呼び手のための写しである。要素の業務グループは
属するプロセスの名前で、プロセスの参照がなく、プロセスがちょうど一つなら、その名前になる。
-/

namespace Workflow.Model

open Workflow.Json

/-- 検査済みのモデル。 -/
structure Graph where
  /-- 宣言。 -/
  decl : ModelDecl
  /-- 宣言の指紋。 -/
  checksum : String
  /-- モデル全体の項目。 -/
  definition : Document

/-- タスクの実体。 -/
structure Task where
  id : Int
  elementId : String
  name : String
  /-- 属するプロセスの名前。 -/
  group : String
  docType : Option String
  items : Document

/-- イベントの実体。 -/
structure Event where
  id : Int
  /-- このイベントを引いたタスク。 -/
  taskId : Int
  elementId : String
  name : String
  workflowResult : String
  followUp : Bool
  nextEvent : Int
  signalAdapter : Option String
  timer : Option TimerDecl
  modelSwitch : Option ModelSwitch
  items : Document

/-- 後続イベントの id。`follow_up` が立ち、`next_event` が正のときだけ。 -/
def Event.followUpEvent (e : Event) : Option Int :=
  if e.followUp && e.nextEvent > 0 then some e.nextEvent else none

/-- 値がなければ `null`。 -/
def orNull {α : Type} (f : α → Value) : Option α → Value
  | some a => f a
  | none => .null

/-- タイマーの見え方。`base` がなければ `null`。 -/
def TimerDecl.view (t : TimerDecl) : Value :=
  .object [("active", .bool t.active), ("delay", Value.int t.delay), ("unit", .string t.unit.name),
    ("base", orNull .string t.base)]

/-- モデルの切り替えの見え方。`task` がなければ `null`。 -/
def ModelSwitch.view (s : ModelSwitch) : Value :=
  .object [("version", .string s.version), ("task", orNull Value.int s.task),
    ("event", Value.int s.event)]

/-- タスクの実体の JSON。 -/
def Task.toJson (t : Task) : Value :=
  .object [("id", Value.int t.id), ("element_id", .string t.elementId), ("name", .string t.name),
    ("group", .string t.group), ("doc_type", orNull .string t.docType), ("items", t.items.toJson)]

/-- イベントの実体の JSON。 -/
def Event.toJson (e : Event) : Value :=
  .object [("id", Value.int e.id), ("task_id", Value.int e.taskId),
    ("element_id", .string e.elementId), ("name", .string e.name),
    ("workflow_result", .string e.workflowResult), ("follow_up", .bool e.followUp),
    ("next_event", Value.int e.nextEvent), ("follow_up_event", orNull Value.int e.followUpEvent),
    ("signal_adapter", orNull .string e.signalAdapter), ("timer", orNull TimerDecl.view e.timer),
    ("model_switch", orNull ModelSwitch.view e.modelSwitch), ("items", e.items.toJson)]

/-- 探索の結果の次の要素。 -/
inductive NextElement where
  | task (t : Task)
  | event (e : Event)

/-- 項目の写像を文書にする。 -/
def itemsDocument (items : List (String × Value)) : Document :=
  Document.ofFields items

/-- イベントの中身を持つ要素のイベント実体。`taskId` は引いたタスク。 -/
def ElementDecl.eventEntity? (el : ElementDecl) (taskId : Int) : Option Event :=
  el.event.map fun e =>
    { id := e.id, taskId, elementId := el.id, name := el.name, workflowResult := e.result,
      followUp := e.followUp, nextEvent := e.nextEvent,
      signalAdapter := e.signal.filter (fun s => !Text.isBlankText s),
      timer := e.timer, modelSwitch := e.modelSwitch, items := itemsDocument e.items }

/-! ## 検査 -/

/-- 重複のない列か。重複があれば最初に重複した値。 -/
def firstDuplicate {α : Type} [BEq α] : List α → List α → Option α
  | _, [] => none
  | seen, x :: xs => if seen.contains x then some x else firstDuplicate (x :: seen) xs

/-- 要素を一つずつ検査する。`ids`・`tasks`・`links` はそれまでに見た要素 id、タスク id、
リンクキャッチのリンク名。 -/
def checkElements (version : String) (processIds : List String) :
    List String → List Int → List String → List ElementDecl → Except Error Unit
  | _, _, _, [] => .ok ()
  | ids, tasks, links, el :: rest => do
    if ids.contains el.id then throw (.invalidDefinition s!"duplicate element id '{el.id}'")
    match el.process with
    | some p =>
      if !processIds.contains p then
        throw (.invalidDefinition s!"element '{el.id}' references unknown process '{p}'")
    | none => pure ()
    match el.kind with
    | .task =>
      let id := (el.task.map (·.id)).getD 0
      if id ≤ 0 then throw (.invalidDefinition s!"task '{el.id}' has no positive task id")
      if tasks.contains id then throw (.invalidDefinition s!"duplicate task id {id}")
      checkElements version processIds (el.id :: ids) (id :: tasks) links rest
    | .event =>
      let id := (el.event.map (·.id)).getD 0
      if id ≤ 0 then throw (.invalidDefinition s!"event '{el.id}' has no positive event id")
      match el.event.bind (·.modelSwitch) with
      | some sw =>
        if Text.isBlankText sw.version || sw.event ≤ 0 then
          throw (.invalidModel version
            s!"event '{el.id}' switches model without a target version and event")
      | none => pure ()
      checkElements version processIds (el.id :: ids) tasks links rest
    | .gateway =>
      if el.gateway.isNone then throw (.invalidDefinition s!"gateway '{el.id}' has no gateway kind")
      checkElements version processIds (el.id :: ids) tasks links rest
    | .linkThrow | .linkCatch =>
      match el.link with
      | some l =>
        if Text.isBlankText l then throw (.invalidDefinition s!"link event '{el.id}' has no link name")
        if el.kind == .linkCatch then
          if links.contains l then
            throw (.invalidDefinition s!"duplicate link catch event for link '{l}'")
          checkElements version processIds (el.id :: ids) tasks (l :: links) rest
        else checkElements version processIds (el.id :: ids) tasks links rest
      | none => throw (.invalidDefinition s!"link event '{el.id}' has no link name")
    | _ => checkElements version processIds (el.id :: ids) tasks links rest

/-- フローの両端を検査する。 -/
def checkFlows (elementIds : List String) : List FlowDecl → Except Error Unit
  | [] => .ok ()
  | f :: rest =>
    if elementIds.contains f.source && elementIds.contains f.target then checkFlows elementIds rest
    else .error (.invalidDefinition
      s!"sequence flow '{f.id}' references unknown element ({f.source} -> {f.target})")

/-- 宣言を検査してグラフにする。 -/
def Graph.ofDecl (m : ModelDecl) : Except Error Graph := do
  if Text.isBlankText m.version then throw (.invalidDefinition "model version must not be empty")
  match firstDuplicate [] (m.processes.map (·.id)) with
  | some p => throw (.invalidDefinition s!"duplicate process id '{p}'")
  | none => pure ()
  checkElements m.version (m.processes.map (·.id)) [] [] [] m.elements
  checkFlows (m.elements.map (·.id)) m.flows
  pure { decl := m, checksum := m.checksum, definition := itemsDocument m.definition }

/-- JSON の値を読んで検査する。 -/
def Graph.ofJson (v : Value) : Except Error Graph :=
  match decodeModel v with
  | .ok m => Graph.ofDecl m
  | .error e => .error (.json (e.message .json))

/-- 宣言の JSON の値（`to_json`）。JSON の値のオブジェクトはキーの昇順の写像なので、入れ子の中まで
キーを並べ直す。 -/
def Graph.toJson (g : Graph) : Value :=
  g.decl.toJson.sortKeys

namespace Graph

/-- 版。 -/
def version (g : Graph) : String := g.decl.version

/-- 要素の列（宣言順）。 -/
def elements (g : Graph) : List ElementDecl := g.decl.elements

/-- プロセスの列。 -/
def processes (g : Graph) : List ProcessDecl := g.decl.processes

/-- id の要素。 -/
def element? (g : Graph) (id : String) : Option ElementDecl :=
  g.decl.elements.find? (·.id == id)

/-- 要素から出るフロー（宣言順）。 -/
def outgoing (g : Graph) (id : String) : List FlowDecl :=
  g.decl.flows.filter (·.source == id)

/-- 要素に入るフロー（宣言順）。 -/
def incoming (g : Graph) (id : String) : List FlowDecl :=
  g.decl.flows.filter (·.target == id)

/-- タスク id のタスク要素。 -/
def taskElement? (g : Graph) (taskId : Int) : Option ElementDecl :=
  g.decl.elements.find? fun el => el.kind == .task && (el.task.map (·.id)) == some taskId

/-- リンク名のリンクキャッチ要素。 -/
def linkCatch? (g : Graph) (link : String) : Option ElementDecl :=
  g.decl.elements.find? fun el => el.kind == .linkCatch && el.link == some link

/-- 非公開のプロセスがあればコラボレーション図である。 -/
def isCollaboration (g : Graph) : Bool :=
  g.decl.processes.any (·.kind == .privateProcess)

/-- 要素の業務グループ：属するプロセスの名前。 -/
def groupOf (g : Graph) (el : ElementDecl) : String :=
  let owner : Option ProcessDecl := match el.process with
    | some id => g.decl.processes.find? (·.id == id)
    | none => match g.decl.processes with
      | [p] => some p
      | _ => none
  (owner.map (·.name)).getD ""

/-- タスクの中身を持つ要素のタスク実体。 -/
def taskEntity? (g : Graph) (el : ElementDecl) : Option Task :=
  el.task.map fun t =>
    { id := t.id, elementId := el.id, name := el.name, group := g.groupOf el, docType := t.docType,
      items := itemsDocument t.items }

/-- タスクの中身を持つ要素すべての実体（宣言順）。 -/
def tasks (g : Graph) : List Task :=
  g.decl.elements.filterMap g.taskEntity?

end Graph

end Workflow.Model
