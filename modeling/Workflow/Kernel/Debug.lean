import Workflow.Kernel.Error
import Workflow.Json.Decode

/-!
# 誤りの内部の形の表示

プログラムの入口で起きた誤りは、文ではなく内部の形で示す。形は
`名前 { フィールド: 値, ... }` で、文字列は引用符で囲み、特別な文字を書き換える。
文字列の並びは `["a", "b"]` と書く。

JSON の読み取りの誤りは、文の末尾の位置 `at line L column C` を行と桁に分けて示す。
位置のない文なら行と桁は 0 である。
-/

namespace Workflow.Kernel

open Workflow.Json

/-- フィールドを並べた形 `名前 { a: 1, b: 2 }`。 -/
def structText (name : String) (fields : List (String × String)) : String :=
  name ++ " \x7b " ++ ", ".intercalate (fields.map fun (k, v) => k ++ ": " ++ v) ++ " \x7d"

/-- 文字列の並び。 -/
def listText (xs : List String) : String :=
  "[" ++ ", ".intercalate (xs.map debugQuote) ++ "]"

/-- 文の末尾の位置 `at line L column C` を分ける。 -/
def splitPosition (detail : String) : String × Nat × Nat :=
  match detail.splitOn " at line " with
  | [] | [_] => (detail, 0, 0)
  | parts =>
    let head := " at line ".intercalate parts.dropLast
    match (parts.getLast?.getD "").splitOn " column " with
    | [l, c] =>
      match l.toNat?, c.toNat? with
      | some line, some column => (head, line, column)
      | _, _ => (detail, 0, 0)
    | _ => (detail, 0, 0)

/-- モデルの誤りの内部の形。 -/
def modelErrorText : Error → String
  | .undefinedModelVersion v => structText "UndefinedModelVersion" [("version", debugQuote v)]
  | .undefinedModelEntry v e => structText "UndefinedModelEntry" [("version", debugQuote v), ("entry", debugQuote e)]
  | .invalidModel v r => structText "InvalidModel" [("version", debugQuote v), ("reason", debugQuote r)]
  | .invalidDefinition r => structText "InvalidDefinition" [("reason", debugQuote r)]
  | .invalidExpression x r => structText "InvalidExpression" [("expression", debugQuote x), ("reason", debugQuote r)]
  | .json detail =>
    let (msg, line, column) := splitPosition detail
    "Json(Error(" ++ debugQuote msg ++ ", line: " ++ toString line ++ ", column: " ++ toString column ++ "))"

/-- 核の誤りの内部の形。 -/
def KernelError.debugText : KernelError → String
  | .undefinedDocument => "UndefinedDocument"
  | .undefinedTask t => structText "UndefinedTask" [("task", toString t)]
  | .undefinedEvent e => structText "UndefinedEvent" [("event", toString e)]
  | .loopDetected t h => structText "LoopDetected" [("transition", debugQuote t), ("history", listText h)]
  | .adapter id f =>
    structText "Adapter" [("adapter", debugQuote id), ("source", structText "AdapterError"
      [("code", debugQuote f.code), ("message", debugQuote f.message), ("params", listText f.params)])]
  | .plugin name f =>
    structText "Plugin" [("plugin", debugQuote name), ("source", structText "PluginError"
      [("code", debugQuote f.code), ("message", debugQuote f.message)])]
  | .pluginNotRegistered name => structText "PluginNotRegistered" [("name", debugQuote name)]
  | .pluginNotCreatable name reason =>
    structText "PluginNotCreatable" [("name", debugQuote name), ("reason", debugQuote reason)]
  | .modelFile path reason => structText "ModelFile" [("path", debugQuote path), ("reason", debugQuote reason)]
  | .model e => "Model(" ++ modelErrorText e ++ ")"

end Workflow.Kernel
