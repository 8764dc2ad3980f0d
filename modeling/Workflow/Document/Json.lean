import Workflow.Document.Basic
import Workflow.Error

/-!
# 文書と JSON

文書は、項目名から値の配列へのオブジェクトとして書く。読むときはオブジェクトしか受けない。
フィールドの値が配列なら各要素を値に、それ以外なら一つの値にする。`null` は捨てる。
値が残らなかった項目は置かれない。フィールドはキーの昇順に入れるので、正規化すると
同じ名前になるキーが複数あれば、後のキー（空の列なら除く）が勝つ。
-/

namespace Workflow

open Workflow.Json

namespace Document

/-- JSON のオブジェクトにする。 -/
def toJson (d : Document) : Value :=
  .object (d.items.map fun (k, vs) => (k, .array (ItemValue.listToJson vs)))

/-- 一つのフィールドの値を値の列にする。 -/
def valuesOfJson : Value → List ItemValue
  | .array xs => ItemValue.listOfJson xs
  | v => (ItemValue.ofJson v).toList

/-- フィールドの列から文書を作る。 -/
def ofFields (fs : List (String × Value)) : Document :=
  fs.foldl (fun d (k, v) => d.setItems k (valuesOfJson v)) empty

/-- JSON のオブジェクトから文書を作る。 -/
def ofJson (v : Value) : Except Error Document :=
  match v with
  | .object fs => .ok (ofFields fs)
  | _ => .error (.invalidDefinition "document must be a JSON object")

end Document

end Workflow
