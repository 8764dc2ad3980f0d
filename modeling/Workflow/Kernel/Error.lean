import Workflow.Error

/-!
# 核の誤り

核（文書を遷移させる処理）の誤り。モデルの誤り（`Workflow.Error`）はそのまま包み、文と符号は
内側のものを使う。

拡張（アダプタとプラグイン）の失敗は、拡張が返した符号と文を持つ。誤りの原因として見せるのは
`符号: 文` の形で、モデルの誤りは内側の JSON の読み取りの誤りだけが原因を持つ。
-/

namespace Workflow.Kernel

open Workflow.Json

/-- アダプタの失敗：符号、文、付加の値。 -/
structure AdapterFailure where
  code : String
  message : String
  params : List String := []

/-- プラグインの失敗：符号と文。 -/
structure PluginFailure where
  code : String
  message : String

/-- 失敗の表示 `符号: 文`。 -/
def AdapterFailure.text (f : AdapterFailure) : String := f.code ++ ": " ++ f.message

/-- 失敗の表示 `符号: 文`。 -/
def PluginFailure.text (f : PluginFailure) : String := f.code ++ ": " ++ f.message

/-- 核の誤り。 -/
inductive KernelError where
  /-- 文書に項目がない。 -/
  | undefinedDocument
  /-- 文書のタスク id が正でない。 -/
  | undefinedTask (task : Int)
  /-- 文書のイベント id が正でない。 -/
  | undefinedEvent (event : Int)
  /-- 同じ遷移を一度の処理で二度行おうとした。 -/
  | loopDetected (transition : String) (history : List String)
  /-- アダプタが失敗した。 -/
  | adapter (id : String) (failure : AdapterFailure)
  /-- プラグインが失敗した。 -/
  | plugin (name : String) (failure : PluginFailure)
  /-- その名前のプラグインは登録されていない。 -/
  | pluginNotRegistered (name : String)
  /-- プラグインを作れない。 -/
  | pluginNotCreatable (name reason : String)
  /-- モデルのファイルを読めない。 -/
  | modelFile (path reason : String)
  /-- モデルの誤り。 -/
  | model (e : Error)

namespace KernelError

/-- 誤りの文。 -/
def message : KernelError → String
  | .undefinedDocument => "document undefined: no items"
  | .undefinedTask t => s!"$taskid undefined: {t}"
  | .undefinedEvent e => s!"$eventid undefined: {e}"
  | .loopDetected t h =>
    let past := ", ".intercalate h
    s!"loop detected: {t} already processed ({past})"
  | .adapter id f =>
    let detail := f.text
    s!"adapter '{id}' failed: {detail}"
  | .plugin name f =>
    let detail := f.text
    s!"plugin '{name}' failed: {detail}"
  | .pluginNotRegistered name => s!"plugin not registered: {name}"
  | .pluginNotCreatable name reason => s!"plugin '{name}' cannot be created: {reason}"
  | .modelFile path reason => s!"model file '{path}': {reason}"
  | .model e => e.message

/-- 誤りの符号。 -/
def code : KernelError → String
  | .undefinedDocument => "UNDEFINED_DOCUMENT"
  | .undefinedTask .. => "UNDEFINED_TASK"
  | .undefinedEvent .. => "UNDEFINED_EVENT"
  | .loopDetected .. => "LOOP_DETECTED"
  | .adapter .. => "ADAPTER_ERROR"
  | .plugin .. => "PLUGIN_ERROR"
  | .pluginNotRegistered .. => "PLUGIN_NOT_REGISTERED"
  | .pluginNotCreatable .. => "PLUGIN_NOT_CREATABLE"
  | .modelFile .. => "MODEL_FILE_ERROR"
  | .model e => e.code

/-- 誤りの種類の名前。モデルの誤りは内側の種類の名前。 -/
def kindName : KernelError → String
  | .undefinedDocument => "UndefinedDocument"
  | .undefinedTask .. => "UndefinedTask"
  | .undefinedEvent .. => "UndefinedEvent"
  | .loopDetected .. => "LoopDetected"
  | .adapter .. => "Adapter"
  | .plugin .. => "Plugin"
  | .pluginNotRegistered .. => "PluginNotRegistered"
  | .pluginNotCreatable .. => "PluginNotCreatable"
  | .modelFile .. => "ModelFile"
  | .model e => e.kindName

/-- モデルの欠陥を指すか：ループと、モデルの欠陥を指すモデルの誤り。 -/
def isModelDefect : KernelError → Bool
  | .loopDetected .. => true
  | .model e => e.isModelDefect
  | _ => false

/-- 再試行で直りうるか。どの誤りも直らない。 -/
def isRetryable (_ : KernelError) : Bool := false

/-- 誤りの原因の表示。拡張の失敗と、JSON の読み取りの誤りだけが持つ。 -/
def source? : KernelError → Option String
  | .adapter _ f => some f.text
  | .plugin _ f => some f.text
  | .model (.json detail) => some detail
  | _ => none

/-- 誤りの JSON 表現：種類・符号・文・モデルの欠陥か。 -/
def toJson (e : KernelError) : Value :=
  .object [("code", .string e.code), ("error", .string e.kindName), ("message", .string e.message),
    ("model_defect", .bool e.isModelDefect)]

end KernelError

end Workflow.Kernel
