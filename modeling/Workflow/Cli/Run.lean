import Workflow.Cli.Args
import Workflow.Kernel.Process
import Workflow.Kernel.ConfigFile
import Workflow.Kernel.Loader
import Workflow.Kernel.Debug
import Workflow.Json.Writer
import Workflow.Json.Reader
import Workflow.Document.Json
import Workflow.Files.Access

/-!
# コマンドを実行する

1. コマンドラインを読む。使い方や版を示すとき、引数が誤りのときはそこで終わる（誤りは終了
   状態 2）。
2. 設定を読み込む。誤りのとき、`BPMNFLOW_CONFIG` が設定されていれば誤りの内部の形を示して
   終わり（終了状態 1）、そうでなければ既定の設定を使う。`--models` があればディレクトリを
   置き換える。
3. `check` はここで、モデルのファイルだけを調べる。
4. モデルを読み込み、核を作り、設定のプラグインを登録する（工場はないので、プラグインの
   名前があれば誤り）。ここでの誤りも内部の形を示して終わる。
5. コマンドを実行する。結果は標準出力に、誤りは `Error: 文` として標準エラーに書き、終了状態
   は 1 である。

`process` は、処理した文書の識別子と遷移を標準エラーに書いてから、文書を整形した JSON で
標準出力に書く（`--output` があればファイルに書く）。
-/

namespace Workflow.Cli

open Workflow.Kernel
open Workflow.Model
open Workflow.Files

/-- 実行の結果：終了状態と、標準出力・標準エラーに書く文。 -/
structure Outcome where
  status : Nat
  stdout : String := ""
  stderr : String := ""

/-- コマンドの答え：出力の文か、誤りの文。 -/
abbrev Reply := Except String String

/-- 答えを書く。`note` は先に標準エラーに書いた文。 -/
def Reply.outcome (note : String) : Reply → Outcome
  | .ok text => { status := 0, stdout := text ++ "\n", stderr := note }
  | .error msg => { status := 1, stderr := note ++ "Error: " ++ msg ++ "\n" }

/-- 入口での誤り。 -/
def fatal (debug : String) : Outcome :=
  { status := 1, stderr := "Error: " ++ debug ++ "\n" }

/-- モデルのファイルを調べる。 -/
def checkModel (text : String) : Reply :=
  match Json.parseText text with
  | .error e => .error e.message
  | .ok v =>
    match Graph.ofJson v with
    | .error e => .error e.message
    | .ok g =>
      .ok ("Valid model " ++ g.version ++ " (" ++ toString g.elements.length ++ " elements, checksum: " ++
        g.checksum ++ ")")

/-- 登録したモデルの一覧。 -/
def modelsReport (reg : Registry) : Reply :=
  if reg.versions.isEmpty then .ok "No models registered"
  else
    let lines := reg.models.map fun (v, g) =>
      "  " ++ v ++ " [groups: " ++ ", ".intercalate (g.groups.toOption.getD []) ++ "] (checksum: " ++
        g.checksum ++ ")\n"
    .ok (Text.trimEnd ("Models:\n" ++ String.join lines))

/-- イベントの行。 -/
def eventLine (ev : Event) : String :=
  let adapter := match ev.signalAdapter with
    | some a => " (adapter: " ++ a ++ ")"
    | none => ""
  let next := match ev.followUpEvent with
    | some n => " (follow-up: " ++ toString n ++ ")"
    | none => ""
  "  " ++ toString ev.id ++ " " ++ ev.name ++ adapter ++ next ++ "\n"

/-- タスクのイベントの一覧、またはモデルのタスクの一覧。 -/
def eventsReport (reg : Registry) (version : String) (task : Option Int) : Reply :=
  match reg.get version with
  | .error e => .error e.message
  | .ok g =>
    match task with
    | some t =>
      match g.eventsOfTask t with
      | .error e => .error e.message
      | .ok evs => .ok (Text.trimEnd ("Task " ++ toString t ++ " in " ++ version ++ "\n" ++ String.join (evs.map eventLine)))
    | none =>
      let lines := g.tasks.map fun t => "  " ++ toString t.id ++ " " ++ t.name ++ " [" ++ t.group ++ "]\n"
      .ok (Text.trimEnd ("Model " ++ version ++ "\n" ++ String.join lines))

/-- 文書を処理した知らせ。 -/
def processedNote (d : Document) (r : ProcessResult) : String :=
  "Processed " ++ d.uniqueId ++ " " ++ toString r.previousTask ++ " → " ++ toString r.task ++ " (" ++
    r.modelVersion ++ ") [" ++ ", ".intercalate r.history ++ "]\n"

section

variable {m : Type → Type} [Monad m] [FileAccess m]

/-- 文書の引数を読む：`@道筋` ならファイルから、そうでなければ JSON の文字列として。 -/
def readDocument (arg : String) (event : Option Int) : m (Except String Document) := do
  let text : Except String String ← if arg.startsWith "@" then
      pure ((← readText (arg.drop 1).toString).mapError IoError.message)
    else pure (.ok arg)
  return do
    let v ← (Json.parseText (← text)).mapError Json.SyntaxError.message
    let d ← (Document.ofJson v).mapError Error.message
    pure (match event with
      | some e => d.setEventId e
      | none => d)

/-- モデルのファイルを読んで調べる。 -/
def checkFile (file : String) : m Reply := do
  match ← readText file with
  | .error e => return .error e.message
  | .ok text => return checkModel text

/-- 文書を処理する。 -/
def processDocument (k : Kernel) (rt : Runtime) (document : String) (event : Option Int)
    (output : Option String) : m Outcome := do
  match ← readDocument document event with
  | .error msg => return Reply.outcome "" (.error msg)
  | .ok d =>
    match ((k.process d).run rt).1 with
    | (.error e, _, _) => return Reply.outcome "" (.error e.message)
    | (.ok r, d, _) =>
      let note := processedNote d r
      let json := d.toJson.prettyText
      match output with
      | none => return Reply.outcome note (.ok json)
      | some path =>
        match ← writeText path json with
        | .ok () => return Reply.outcome note (.ok ("Written " ++ path))
        | .error e => return Reply.outcome note (.error e.message)

/-- 文書が行き着くタスクを求める。 -/
def evalDocument (k : Kernel) (rt : Runtime) (document : String) (event : Option Int) : m Outcome := do
  match ← readDocument document event with
  | .error msg => return Reply.outcome "" (.error msg)
  | .ok d =>
    match ((k.eval d).run rt).1.1 with
    | .error e => return Reply.outcome "" (.error e.message)
    | .ok task =>
      return Reply.outcome "" (.ok ("Evaluated " ++ toString d.taskId ++ "." ++ toString d.eventId ++ " → " ++
        toString task))

/-- 設定を読み込む。`BPMNFLOW_CONFIG` がなければ、誤りのときは既定の設定を使う。 -/
def loadConfig (env : String → Option String) : m (Except ConfigError Config) := do
  match ← Config.load env with
  | .ok c => return .ok c
  | .error e => return if (env "BPMNFLOW_CONFIG").isSome then .error e else .ok {}

/-- コマンドラインを実行する。`env` は環境変数の値を引き、`rt` は時計と乱数の種を持つ。 -/
def runCommandLine (args : List String) (env : String → Option String) (rt : Runtime) : m Outcome := do
  match parseArgs args env with
  | .show text => return { status := 0, stdout := text }
  | .reject text => return { status := 2, stderr := text }
  | .run inv =>
    match ← loadConfig env with
    | .error e => return fatal e.debugText
    | .ok config =>
      let config := match inv.models with
        | some dir => { config with models := { config.models with dir } }
        | none => config
      match inv.command with
      | .check file => return Reply.outcome "" (← checkFile file)
      | command =>
        match ← loadModels config.models {} with
        | (.error e, _) => return fatal e.debugText
        | (.ok _, reg) =>
          let (k, err) := ((Kernel.registerConfigured { registry := reg, config := config.kernel } {}).run rt).1
          match err with
          | some e => return fatal e.debugText
          | none =>
            match command with
            | .process document event output => processDocument k rt document event output
            | .eval document event => evalDocument k rt document event
            | .models => return Reply.outcome "" (modelsReport k.registry)
            | .events version task => return Reply.outcome "" (eventsReport k.registry version task)
            | .check file => return Reply.outcome "" (← checkFile file)

end

end Workflow.Cli
