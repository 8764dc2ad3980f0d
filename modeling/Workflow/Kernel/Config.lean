import Workflow.Document.Basic
import Workflow.Decimal.Text
import Workflow.Files.Tree
import Workflow.Json.Decode

/-!
# 設定

設定は二つの部分からなる。

* `models` — モデルのファイルを置くディレクトリと、読めないファイルで止まるか。
* `kernel` — 遷移の記録に残す件数（0 なら無制限）、登録するプラグインの名前、
  記録に添える注釈を読む項目の名前。

読み込みの順は、既定値、設定ファイル、環境変数の上書きである。環境変数は
`BPMNFLOW_MODELS_DIR`、`BPMNFLOW_FAIL_ON_INVALID_MODEL`（`true` か `1` のときだけ真）、
`BPMNFLOW_MAX_LOG_ENTRIES`（負でない整数として読めるときだけ）、`BPMNFLOW_PLUGINS`
（`,` で区切り、前後の空白を除き、空の名前を捨てる）。

検査は、ディレクトリが空でないこと、プラグインの名前が空白だけでなく重複しないこと、
注釈の項目の名前が空白だけでないことを見る。
-/

namespace Workflow.Kernel

/-- モデルのファイルの設定。 -/
structure ModelsConfig where
  /-- モデルのファイルを置くディレクトリ。 -/
  dir : String := "./models"
  /-- 読めないファイルがあれば読み込みを誤りにするか。 -/
  failOnInvalid : Bool := false

/-- 核の設定。 -/
structure KernelConfig where
  /-- 遷移の記録に残す件数。0 なら無制限。 -/
  maxLogEntries : Nat := 30
  /-- 登録するプラグインの名前。 -/
  plugins : List String := []
  /-- 遷移の記録に添える注釈を読む項目の名前。 -/
  logCommentItem : String := ItemName.transitionLogComment

/-- 設定全体。 -/
structure Config where
  models : ModelsConfig := {}
  kernel : KernelConfig := {}

/-- 設定の誤り。 -/
inductive ConfigError where
  /-- 設定ファイルを読めない。 -/
  | io (path : String) (err : Files.IoError)
  /-- 設定ファイルの書式が正しくない。 -/
  | parse (path detail : String)
  /-- 設定の値が正しくない。 -/
  | validation (detail : String)

namespace ConfigError

/-- 誤りの文。 -/
def message : ConfigError → String
  | .io path err => s!"failed to read config file '{path}': {err.message}"
  | .parse path detail => s!"failed to parse config file '{path}': {detail}"
  | .validation detail => s!"configuration validation failed: {detail}"

/-- 誤りの種類の名前。 -/
def kindName : ConfigError → String
  | .io .. => "IoError"
  | .parse .. => "ParseError"
  | .validation .. => "ValidationError"

/-- 誤りの内部の形の表示。 -/
def debugText : ConfigError → String
  | .io path err => "IoError(" ++ Json.debugQuote path ++ ", " ++ err.debugText ++ ")"
  | .parse path detail => "ParseError(" ++ Json.debugQuote path ++ ", " ++ Json.debugQuote detail ++ ")"
  | .validation detail => "ValidationError(" ++ Json.debugQuote detail ++ ")"

end ConfigError

/-- プラグインの名前の並びで、最初に重複した名前。 -/
def firstRepeated : List String → List String → Option String
  | _, [] => none
  | seen, n :: rest => if seen.contains n then some n else firstRepeated (n :: seen) rest

/-- 核の設定を検査する。 -/
def KernelConfig.validate (c : KernelConfig) : Except ConfigError Unit :=
  if c.plugins.any Text.isBlankText then
    .error (.validation "kernel.plugins contains an empty name")
  else match firstRepeated [] c.plugins with
    | some n => .error (.validation s!"kernel.plugins lists '{n}' more than once")
    | none =>
      if Text.isBlankText c.logCommentItem then
        .error (.validation "kernel.log_comment_item must not be empty")
      else .ok ()

/-- 設定全体を検査する。 -/
def Config.validate (c : Config) : Except ConfigError Unit :=
  if c.models.dir.isEmpty then .error (.validation "models.dir must not be empty")
  else c.kernel.validate

/-- `,` で区切ったプラグインの名前。前後の空白を除き、空の名前を捨てる。 -/
def pluginList (s : String) : List String :=
  ((s.splitOn ",").map Text.trim).filter fun n => !n.isEmpty

/-- 環境変数で上書きする。`env` は変数の値を引く。 -/
def Config.withEnv (c : Config) (env : String → Option String) : Config :=
  let models := match env "BPMNFLOW_MODELS_DIR" with
    | some dir => { c.models with dir }
    | none => c.models
  let models := match env "BPMNFLOW_FAIL_ON_INVALID_MODEL" with
    | some v => { models with failOnInvalid := v == "true" || v == "1" }
    | none => models
  let kernel := match (env "BPMNFLOW_MAX_LOG_ENTRIES").bind Decimal.readNat with
    | some n => { c.kernel with maxLogEntries := n }
    | none => c.kernel
  let kernel := match env "BPMNFLOW_PLUGINS" with
    | some v => { kernel with plugins := pluginList v }
    | none => kernel
  { models, kernel }

end Workflow.Kernel
