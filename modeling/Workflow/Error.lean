import Workflow.Json.Value

/-!
# モデルと文書の誤り

モデルの登録・解決・経路の探索、文書と条件式の読み取りで起きる誤り。
どれも作り直しで直るものではない（再試行しても同じ結果になる）。
登録済みモデルの欠陥を指すのは、項目の欠落・不正なモデル・不正な定義の三つである。
-/

namespace Workflow

/-- モデルと文書の誤り。 -/
inductive Error where
  /-- 版が登録されていない。 -/
  | undefinedModelVersion (version : String)
  /-- モデルにその項目（タスクやイベント）がない。 -/
  | undefinedModelEntry (version entry : String)
  /-- 登録済みのモデルが使えない。 -/
  | invalidModel (version reason : String)
  /-- モデルの定義が正しくない。 -/
  | invalidDefinition (reason : String)
  /-- 条件式が読めない。 -/
  | invalidExpression (expression reason : String)
  /-- JSON が読めないか、形が合わない。`detail` は読み取りの誤りの文。 -/
  | json (detail : String)
  deriving Repr, BEq

namespace Error

/-- 誤りの文。 -/
def message : Error → String
  | .undefinedModelVersion v => "model version not found: '" ++ v ++ "'"
  | .undefinedModelEntry v e => "model entry " ++ e ++ " not defined in model '" ++ v ++ "'"
  | .invalidModel v r => "invalid model '" ++ v ++ "': " ++ r
  | .invalidDefinition r => "invalid model definition: " ++ r
  | .invalidExpression x r => "invalid expression '" ++ x ++ "': " ++ r
  | .json d => "JSON error: " ++ d

/-- 誤りの符号。 -/
def code : Error → String
  | .undefinedModelVersion .. => "UNDEFINED_MODEL_VERSION"
  | .undefinedModelEntry .. => "UNDEFINED_MODEL_ENTRY"
  | .invalidModel .. => "INVALID_MODEL"
  | .invalidDefinition .. => "INVALID_MODEL"
  | .invalidExpression .. => "INVALID_EXPRESSION"
  | .json .. => "BAD_REQUEST"

/-- 誤りの種類の名前。 -/
def kindName : Error → String
  | .undefinedModelVersion .. => "UndefinedModelVersion"
  | .undefinedModelEntry .. => "UndefinedModelEntry"
  | .invalidModel .. => "InvalidModel"
  | .invalidDefinition .. => "InvalidDefinition"
  | .invalidExpression .. => "InvalidExpression"
  | .json .. => "Json"

/-- 登録済みモデルの欠陥を指すか。 -/
def isModelDefect : Error → Bool
  | .undefinedModelEntry .. | .invalidModel .. | .invalidDefinition .. => true
  | _ => false

/-- 誤りの JSON 表現：種類・符号・文・モデルの欠陥か。 -/
def toJson (e : Error) : Json.Value :=
  .object [("code", .string e.code), ("error", .string e.kindName), ("message", .string e.message),
    ("model_defect", .bool e.isModelDefect)]

end Error

end Workflow
