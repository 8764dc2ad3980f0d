import Workflow.Kernel.Runtime
import Workflow.Document.Json

/-!
# 拡張：アダプタとプラグイン

遷移のたびに、核はまずアダプタを、次にプラグインを動かす。ここでの拡張は台本で決まる：
何を記録し、いつ失敗し、文書に何を書くかを値として持つ。

## アダプタ

種類は三つある。汎用（`generic`）はどの遷移でも、合図（`signal`）はイベントが名指したとき
だけ、静的（`static`）は前の二つのあとにいつも動く。アダプタは動くと
`adapter:ID:タスク.イベント` を記録し、失敗の台本があって（条件の項目があればそれが真のとき）
失敗する。失敗しなければ、書く項目を文書に書く（JSON の値の並びとして入れ、空なら消える）。

核はアダプタの失敗を文書の項目 `adapter.error_context`・`adapter.error_code`・
`adapter.error_params`・`adapter.error_message` にも残す。

## プラグイン

プラグインは登録の順に動く。

* 登録のとき `名前:init` を記録し、初期化の失敗の台本があれば失敗する。
* 遷移のとき `名前:run:文書のタスク:タスク.イベント` を記録する。イベントが失敗の一覧に
  あれば失敗し、なければ項目を書き、`append` の項目に自分の名前を足し、保留中のイベントを
  足す。
* 遷移のあと、成否にかかわらず全員が `名前:close:成否` を記録し、閉じる失敗の台本があれば
  失敗する。

最小のプラグインは動いたことだけを記録し、初期化と閉じるときは何もしない。

プラグインの工場は名前からプラグインを作る。作れないこともある。
-/

namespace Workflow.Kernel

open Workflow.Json
open Workflow.Model

/-- アダプタの種類。 -/
inductive AdapterKind where
  | generic | signal | static
  deriving BEq, Repr

/-- 台本で動くアダプタ。 -/
structure Adapter where
  id : String
  kind : AdapterKind := .signal
  /-- 失敗するなら、その符号・文・付加の値。 -/
  failure : Option AdapterFailure := none
  /-- この項目が真のときだけ失敗する。 -/
  failIf : Option String := none
  /-- 成功したときに書く項目。 -/
  writes : List (String × Value) := []

/-- 項目を書く。値は JSON の値の並びとして入れ、空なら項目が消える。 -/
def writeItems (d : Document) (writes : List (String × Value)) : Document :=
  writes.foldl (fun d (name, v) => d.setItems name (Document.valuesOfJson v)) d

namespace Adapter

/-- アダプタを動かす。失敗すれば、その失敗を返す。 -/
def execute (a : Adapter) (d : Document) (ev : Event) : Run (Document × Option AdapterFailure) := do
  Runtime.note s!"adapter:{a.id}:{ev.taskId}.{ev.id}"
  let fails := match a.failure with
    | some f => if (a.failIf.map d.getBool).getD true then some f else none
    | none => none
  match fails with
  | some f => pure (d, some f)
  | none => pure (writeItems d a.writes, none)

end Adapter

/-- アダプタの失敗を文書に残す。 -/
def recordAdapterFailure (d : Document) (id : String) (f : AdapterFailure) : Document :=
  let d := d.setItem ItemName.adapterErrorContext (.text id)
  let d := d.setItem ItemName.adapterErrorCode (.text f.code)
  let d := d.setItems ItemName.adapterErrorParams (f.params.map .text)
  d.setItem ItemName.adapterErrorMessage (.text f.message)

/-- 文書に残したアダプタの失敗を消す。 -/
def clearAdapterErrors (d : Document) : Document :=
  [ItemName.adapterErrorContext, ItemName.adapterErrorCode, ItemName.adapterErrorParams,
    ItemName.adapterErrorMessage].foldl (fun d name => (d.removeItem name).2) d

/-- アダプタを動かし、失敗なら文書に残して核の誤りにする。 -/
def runAdapter (a : Adapter) (d : Document) (ev : Event) : Run (Document × Option KernelError) := do
  match ← a.execute d ev with
  | (d, some f) => pure (recordAdapterFailure d a.id f, some (.adapter a.id f))
  | (d, none) => pure (d, none)

/-- アダプタを順に動かし、最初の失敗で止める。 -/
def runAdapters : List Adapter → Document → Event → Run (Document × Option KernelError)
  | [], d, _ => pure (d, none)
  | a :: rest, d, ev => do
    match ← runAdapter a d ev with
    | (d, some e) => pure (d, some e)
    | (d, none) => runAdapters rest d ev

/-- 遷移のアダプタを動かす：汎用、名指された合図、静的の順。 -/
def executeAdapters (adapters : List Adapter) (version : String) (d : Document) (ev : Event) :
    Run (Document × Option KernelError) := do
  let (d, err) ← runAdapters (adapters.filter (·.kind == .generic)) d ev
  if err.isSome then return (d, err)
  let (d, err) ← match ev.signalAdapter with
    | some id =>
      match adapters.find? (·.id == id) with
      | none =>
        pure (d, some (.model (.invalidModel version
          s!"event {ev.taskId}.{ev.id} names signal adapter '{id}' which is not registered")))
      | some a => if a.kind == .signal then runAdapter a d ev else pure (d, none)
    | none => pure (d, none)
  if err.isSome then return (d, err)
  runAdapters (adapters.filter (·.kind == .static)) d ev

/-- 台本で動くプラグイン。 -/
structure Plugin where
  name : String
  /-- 動いたことだけを記録する最小のプラグインか。 -/
  minimal : Bool := false
  /-- このイベント id のとき失敗する。 -/
  failOn : List Int := []
  /-- 遷移で失敗するときの符号と文。 -/
  failure : PluginFailure := ⟨"REJECTED", "event rejected"⟩
  /-- 閉じるときに失敗するか。 -/
  failClose : Bool := false
  /-- 初期化で失敗するなら、その符号と文。 -/
  failInit : Option PluginFailure := none
  /-- 先に登録されているべきプラグイン。 -/
  dependsOn : List String := []
  /-- 遷移で書く項目。 -/
  writes : List (String × Value) := []
  /-- 名前を足していく項目。 -/
  append : Option String := none
  /-- 保留中に足すイベント。 -/
  pending : List Int := []

namespace Plugin

/-- 初期化する。 -/
def init (p : Plugin) : Run (Option PluginFailure) := do
  if p.minimal then return none
  Runtime.note s!"{p.name}:init"
  pure p.failInit

/-- 遷移のときに動く。 -/
def run (p : Plugin) (d : Document) (ev : Event) : Run (Document × Option PluginFailure) := do
  Runtime.note s!"{p.name}:run:{d.taskId}:{ev.taskId}.{ev.id}"
  if p.minimal then return (d, none)
  if p.failOn.contains ev.id then return (d, some p.failure)
  let d := writeItems d p.writes
  let d := match p.append with
    | some item => d.appendItem item (.text p.name)
    | none => d
  pure (p.pending.foldl Document.appendPendingEvent d, none)

/-- 遷移のあとに閉じる。 -/
def close (p : Plugin) (success : Bool) : Run (Option PluginFailure) := do
  if p.minimal then return none
  Runtime.note s!"{p.name}:close:{success}"
  pure (if p.failClose then some ⟨"CLOSE", "close failed"⟩ else none)

end Plugin

/-- プラグインを順に動かし、最初の失敗で止める。 -/
def runPlugins : List Plugin → Document → Event → Run (Document × Option KernelError)
  | [], d, _ => pure (d, none)
  | p :: rest, d, ev => do
    match ← p.run d ev with
    | (d, some f) => pure (d, some (.plugin p.name f))
    | (d, none) => runPlugins rest d ev

/-- すべてのプラグインを閉じる。`outcome` がまだ誤りでなければ、最初の閉じる失敗がそれになる。 -/
def closePlugins (success : Bool) : List Plugin → Option KernelError → Run (Option KernelError)
  | [], outcome => pure outcome
  | p :: rest, outcome => do
    match ← p.close success with
    | some f => closePlugins success rest (outcome.orElse fun _ => some (.plugin p.name f))
    | none => closePlugins success rest outcome

/-- 遷移のプラグインを動かし、成否を伝えて閉じる。 -/
def executePlugins (plugins : List Plugin) (d : Document) (ev : Event) :
    Run (Document × Option KernelError) := do
  let (d, outcome) ← runPlugins plugins d ev
  let outcome ← closePlugins outcome.isNone plugins outcome
  pure (d, outcome)

/-- 登録：鍵の同じ最初の要素をその位置で置き換え、なければ最後に足す。アダプタは id、
プラグインは名前を鍵にする。 -/
def replaceOrAppend {α : Type} (key : α → String) (x : α) : List α → List α
  | [] => [x]
  | y :: ys => if key y == key x then x :: ys else y :: replaceOrAppend key x ys

/-- プラグインの工場。 -/
inductive Factory where
  /-- 呼ぶたびにこのプラグインを作る。 -/
  | build (p : Plugin)
  /-- 作れない。 -/
  | refuse (f : PluginFailure)

/-- 名前で引く工場の一覧（名前の昇順）。 -/
structure Factories where
  entries : List (String × Factory) := []

namespace Factories

/-- 工場を登録する。同じ名前は置き換える。 -/
def register (fs : Factories) (name : String) (f : Factory) : Factories :=
  let rec insert : List (String × Factory) → List (String × Factory)
    | [] => [(name, f)]
    | (n, g) :: rest =>
      if name < n then (name, f) :: (n, g) :: rest
      else if name == n then (name, f) :: rest
      else (n, g) :: insert rest
  ⟨insert fs.entries⟩

/-- 工場の名前（昇順）。 -/
def names (fs : Factories) : List String := fs.entries.map (·.1)

/-- その名前の工場があるか。 -/
def contains (fs : Factories) (name : String) : Bool := fs.names.contains name

/-- 名前のプラグインを作る。 -/
def create (fs : Factories) (name : String) : Except KernelError Plugin :=
  match fs.entries.lookup name with
  | none => .error (.pluginNotCreatable name "no factory registered")
  | some (.build p) => .ok p
  | some (.refuse f) => .error (.pluginNotCreatable name f.text)

end Factories

end Workflow.Kernel
