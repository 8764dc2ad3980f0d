import Workflow.Kernel.Config
import Workflow.Yaml.Decode
import Workflow.Json.Value
import Workflow.Files.Access

/-!
# 設定ファイル

設定ファイルは YAML で書く。どのフィールドも省けて、省いたものは既定値になる。
知らないフィールドは読み飛ばす。文書が空なら設定はすべて既定値である。文書が二つ以上
あれば、最初の文書を読めたときに限り、そのことを誤りとする。

* `models` — `dir`（文字列）、`fail_on_invalid`（真偽）
* `kernel` — `max_log_entries`（符号なし整数）、`plugins`（文字列の列）、
  `log_comment_item`（文字列）

設定は JSON の値としても書き出せる（フィールドの名前はファイルと同じ）。
-/

namespace Workflow.Kernel

open Workflow.Yaml
open Workflow.Json

/-- `models` のフィールド。 -/
def modelsFields : List (FieldDecoder ModelsConfig) :=
  [("dir", fun p n c => (decodeText "path string" p n).map fun dir => { c with dir }),
   ("fail_on_invalid", fun p n c => (decodeFlag p n).map fun b => { c with failOnInvalid := b })]

/-- `kernel` のフィールド。 -/
def kernelFields : List (FieldDecoder KernelConfig) :=
  [("max_log_entries", fun p n c => (decodeSize p n).map fun k => { c with maxLogEntries := k }),
   ("plugins", fun p n c => (decodeList (decodeText "a string") p n).map fun ps => { c with plugins := ps }),
   ("log_comment_item", fun p n c =>
      (decodeText "a string" p n).map fun s => { c with logCommentItem := s })]

/-- 設定全体のフィールド。 -/
def configFields : List (FieldDecoder Config) :=
  [("models", fun p n c => (decodeStruct "ModelsConfig" modelsFields {} p n).map fun m => { c with models := m }),
   ("kernel", fun p n c => (decodeStruct "KernelConfig" kernelFields {} p n).map fun k => { c with kernel := k })]

/-- 設定ファイルの中身を読む。誤りは文で返す。 -/
def Config.ofYaml (text : String) : Except String Config :=
  let doc := FirstDocument.read text
  let decoded : Except Failure Config := match doc.root with
    | none => .ok {}
    | some n => decodeStruct "Config" configFields {} .root n
  match decoded, doc.error with
  | .error f, _ => .error f.message
  | .ok _, some e => .error e.message
  | .ok c, none =>
    if doc.more then .error "deserializing from YAML containing more than one document is not supported"
    else .ok c

section

variable {m : Type → Type} [Monad m] [Files.FileAccess m]

/-- 設定ファイルを読む。 -/
def Config.fromFile (path : String) : m (Except ConfigError Config) := do
  match ← Files.readText path with
  | .error e => return .error (.io path e)
  | .ok text =>
    match Config.ofYaml text with
    | .ok c => return .ok c
    | .error msg => return .error (.parse path msg)

/-- 設定を読み込む：既定値か、`BPMNFLOW_CONFIG` が指す設定ファイル。それから環境変数で
上書きし、検査する。 -/
def Config.load (env : String → Option String) : m (Except ConfigError Config) := do
  let base ← match env "BPMNFLOW_CONFIG" with
    | some path => Config.fromFile path
    | none => pure (.ok {})
  return do
    let c := (← base).withEnv env
    c.validate
    pure c

end

/-- 設定の JSON の形。 -/
def Config.toJson (c : Config) : Value :=
  .object [
    ("models", .object [("dir", .string c.models.dir), ("fail_on_invalid", .bool c.models.failOnInvalid)]),
    ("kernel", .object [
      ("max_log_entries", .number (.nat c.kernel.maxLogEntries)),
      ("plugins", .array (c.kernel.plugins.map .string)),
      ("log_comment_item", .string c.kernel.logCommentItem)])]

end Workflow.Kernel
