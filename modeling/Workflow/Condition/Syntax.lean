import Workflow.Json.Value

/-!
# 条件式の構文

シーケンスフローに付く条件式の抽象構文。条件式は文書の項目を読む真偽式で、
定数・真偽の判定・等しさ・数の大小・否定・論理積・論理和からなる。

等しさの右辺は文字列・真偽値・`null`・有限の数のどれか。大小の右辺は数で、
無限大でもよい。
-/

namespace Workflow.Condition

/-- 等しさの右辺。 -/
inductive Operand where
  | text (s : String)
  | bool (b : Bool)
  | null
  | number (f : Float)

/-- 数の大小の関係。 -/
inductive Relation where
  | gt | ge | lt | le
  deriving BEq, Repr

/-- 条件式。 -/
inductive Condition where
  /-- 定数。 -/
  | const (b : Bool)
  /-- 項目の値が真とみなせるか。 -/
  | truthy (field : String)
  /-- 項目の値が右辺と等しいか。 -/
  | eq (field : String) (rhs : Operand)
  /-- 項目の値が右辺と等しくないか。 -/
  | ne (field : String) (rhs : Operand)
  /-- 項目の値を数として右辺と比べる。 -/
  | compare (rel : Relation) (field : String) (bound : Float)
  | and (a b : Condition)
  | or (a b : Condition)
  | not (a : Condition)

/-- 関係の名前。 -/
def Relation.name : Relation → String
  | .gt => "gt"
  | .ge => "ge"
  | .lt => "lt"
  | .le => "le"

end Workflow.Condition
