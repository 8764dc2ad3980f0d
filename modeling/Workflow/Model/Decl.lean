import Workflow.Json.Value
import Workflow.Text.Blank

/-!
# モデルの宣言

モデルは JSON で書かれた BPMN のグラフである。版・定義の項目・プロセス（プール）・要素・
シーケンスフローからなる。ここにあるのは読んだままの宣言で、検査と索引づけは
`Workflow.Model.Graph` で行う。
-/

namespace Workflow.Model

/-- 要素の種類。 -/
inductive ElementKind where
  /-- 文書がとどまる状態。 -/
  | task
  /-- 遷移を定めるイベント。 -/
  | event
  | startEvent
  | endEvent
  /-- 探索では素通りする中間スローイベント。 -/
  | throwEvent
  /-- 探索は同じリンク名のリンクキャッチから続く。 -/
  | linkThrow
  | linkCatch
  | gateway
  deriving BEq, Repr, DecidableEq

/-- ゲートウェイの種類。 -/
inductive GatewayKind where
  | parallel | exclusive | inclusive | eventBased
  deriving BEq, Repr, DecidableEq

/-- プロセスの種類。コラボレーション図のプールは非公開のプロセスである。 -/
inductive ProcessKind where
  | publicProcess | privateProcess
  deriving BEq, Repr, DecidableEq

/-- タイマーの時間の単位。 -/
inductive TimerUnit where
  | minutes | hours | days | workdays
  deriving BEq, Repr, DecidableEq

/-- プロセスの宣言。 -/
structure ProcessDecl where
  id : String
  name : String
  kind : ProcessKind := .publicProcess

/-- タスクの中身。 -/
structure TaskDecl where
  id : Int
  /-- 文書がこのタスクに着いたときに付ける文書の型。 -/
  docType : Option String := none
  items : List (String × Json.Value) := []

/-- イベントに付くタイマー。予定を組むのは外の仕事である。 -/
structure TimerDecl where
  active : Bool := false
  delay : Int := 0
  unit : TimerUnit := .minutes
  /-- 基準の時刻を持つ項目。なければ最後の処理の時刻。 -/
  base : Option String := none

/-- 文書を別の版のモデルへ移す指定。 -/
structure ModelSwitch where
  version : String
  task : Option Int := none
  event : Int

/-- イベントの中身。 -/
structure EventDecl where
  id : Int
  result : String := ""
  followUp : Bool := false
  nextEvent : Int := 0
  /-- このイベントに結びつくシグナルアダプタの id。 -/
  signal : Option String := none
  timer : Option TimerDecl := none
  modelSwitch : Option ModelSwitch := none
  items : List (String × Json.Value) := []

/-- グラフの節点。 -/
structure ElementDecl where
  id : String
  kind : ElementKind
  name : String := ""
  /-- 属するプロセスの id。 -/
  process : Option String := none
  gateway : Option GatewayKind := none
  /-- リンクイベントのリンク名。 -/
  link : Option String := none
  task : Option TaskDecl := none
  event : Option EventDecl := none

/-- シーケンスフロー。 -/
structure FlowDecl where
  id : String := ""
  source : String
  target : String
  condition : Option String := none

/-- モデル全体の宣言。 -/
structure ModelDecl where
  version : String
  /-- 環境の設定などモデル全体の項目。 -/
  definition : List (String × Json.Value) := []
  processes : List ProcessDecl := []
  elements : List ElementDecl
  flows : List FlowDecl := []

/-- 要素の種類の名前。 -/
def ElementKind.name : ElementKind → String
  | .task => "task"
  | .event => "event"
  | .startEvent => "startEvent"
  | .endEvent => "endEvent"
  | .throwEvent => "throwEvent"
  | .linkThrow => "linkThrow"
  | .linkCatch => "linkCatch"
  | .gateway => "gateway"

/-- ゲートウェイの種類の名前。 -/
def GatewayKind.name : GatewayKind → String
  | .parallel => "parallel"
  | .exclusive => "exclusive"
  | .inclusive => "inclusive"
  | .eventBased => "eventBased"

/-- プロセスの種類の名前。 -/
def ProcessKind.name : ProcessKind → String
  | .publicProcess => "public"
  | .privateProcess => "private"

/-- 時間の単位の名前。 -/
def TimerUnit.name : TimerUnit → String
  | .minutes => "minutes"
  | .hours => "hours"
  | .days => "days"
  | .workdays => "workdays"

/-- 要素の種類の一覧（名前とともに）。 -/
def ElementKind.all : List (String × ElementKind) :=
  [.task, .event, .startEvent, .endEvent, .throwEvent, .linkThrow, .linkCatch, .gateway].map
    fun k => (k.name, k)

/-- ゲートウェイの種類の一覧。 -/
def GatewayKind.all : List (String × GatewayKind) :=
  [.parallel, .exclusive, .inclusive, .eventBased].map fun k => (k.name, k)

/-- プロセスの種類の一覧。 -/
def ProcessKind.all : List (String × ProcessKind) :=
  [.publicProcess, .privateProcess].map fun k => (k.name, k)

/-- 時間の単位の一覧。 -/
def TimerUnit.all : List (String × TimerUnit) :=
  [.minutes, .hours, .days, .workdays].map fun k => (k.name, k)

/-- シーケンスフローの条件。空白だけなら条件なし。前後の空白は落とす。 -/
def FlowDecl.activeCondition (f : FlowDecl) : Option String :=
  match f.condition with
  | some c =>
    let t := Workflow.Text.trim c
    if t.isEmpty then none else some t
  | none => none

end Workflow.Model
