import Workflow.Json.Writer
import Workflow.Time.Instant
import Workflow.Text.Blank
import Workflow.Text.Case

/-!
# 文書の項目の値

文書（`Workflow.Document`）の項目は値の列を持つ。値は文字列・64 ビット整数・double・
真偽値・時刻・値の列・文字列キーの写像のどれかである。

## 読み替え

* 整数として（`toInt?`）：整数はそのまま。有限の double は 0 の方向に切り捨て、範囲外は端に
  張り付く。文字列は前後の空白を落として整数として読み、だめなら double として読んで切り捨てる
  （非数は 0）。ほかは読めない。
* double として（`toFloat?`）：整数は最も近い double。文字列は空白を落として読む。
* 真偽値として（`toBool?`）：文字列は空白を落として ASCII の大文字小文字を問わず `true` か。
  整数は 0 でないか。double・列・写像・時刻は読めない。

## JSON との行き来

JSON へは、有限でない double を `null` に、時刻を RFC 3339 の文字列にする。
JSON からは、`null` を捨て（列と写像の中でも）、64 ビット整数に収まる整数を整数に、
それ以外の数を double にする。

## 文字にする

文字列はそのまま、double は指数を使わない表記、時刻は RFC 3339、列と写像は詰めた JSON。
-/

namespace Workflow

open Workflow.Json
open Workflow.Time
open Workflow.Decimal

/-- 文書の項目の値。 -/
inductive ItemValue where
  | text (s : String)
  | int (i : Int)
  | float (f : Float)
  | bool (b : Bool)
  | time (t : Instant)
  | list (items : List ItemValue)
  | map (fields : List (String × ItemValue))

namespace ItemValue

/-- 整数としての値。 -/
def toInt? : ItemValue → Option Int
  | .int i => some i
  | .float f => if isFiniteFloat f then some (truncToInt f) else none
  | .text s =>
    let t := Text.trim s
    match readInt t with
    | some i => some i
    | none => (readFloat t).map truncToInt
  | _ => none

/-- double としての値。 -/
def toFloat? : ItemValue → Option Float
  | .int i => some (Decimal.intToFloat i)
  | .float f => some f
  | .text s => readFloat (Text.trim s)
  | _ => none

/-- 真偽値としての値。 -/
def toBool? : ItemValue → Option Bool
  | .bool b => some b
  | .text s => some (Text.eqIgnoreAsciiCase (Text.trim s) "true")
  | .int i => some (i != 0)
  | _ => none

mutual

/-- JSON の値にする。 -/
def toJson : ItemValue → Value
  | .text s => .string s
  | .int i => Value.int i
  | .float f => Value.float f
  | .bool b => .bool b
  | .time t => .string t.rfc3339
  | .list xs => .array (listToJson xs)
  | .map fs => .object (mapToJson fs)

/-- 値の列を JSON の配列の要素にする。 -/
def listToJson : List ItemValue → List Value
  | [] => []
  | x :: xs => toJson x :: listToJson xs

/-- 写像を JSON のオブジェクトのフィールドにする。 -/
def mapToJson : List (String × ItemValue) → List (String × Value)
  | [] => []
  | (k, x) :: fs => (k, toJson x) :: mapToJson fs

end

mutual

/-- JSON の値から作る。`null` は値にならない。 -/
def ofJson : Value → Option ItemValue
  | .null => none
  | .bool b => some (.bool b)
  | .number n =>
    match n.toInt? with
    | some i => some (.int i)
    | none => some (.float n.toFloat)
  | .string s => some (.text s)
  | .array xs => some (.list (listOfJson xs))
  | .object fs => some (.map (mapOfJson fs))

/-- 配列の要素のうち `null` でないもの。 -/
def listOfJson : List Value → List ItemValue
  | [] => []
  | x :: xs => match ofJson x with
    | some v => v :: listOfJson xs
    | none => listOfJson xs

/-- オブジェクトのフィールドのうち `null` でないもの。 -/
def mapOfJson : List (String × Value) → List (String × ItemValue)
  | [] => []
  | (k, x) :: fs => match ofJson x with
    | some v => (k, v) :: mapOfJson fs
    | none => mapOfJson fs

end

mutual

/-- 値が等しいか。double は数として比べる（非数は自分とも等しくない）。 -/
def same : ItemValue → ItemValue → Bool
  | .text a, .text b => a == b
  | .int a, .int b => a == b
  | .float a, .float b => a == b
  | .bool a, .bool b => a == b
  | .time a, .time b => a == b
  | .list a, .list b => sameList a b
  | .map a, .map b => sameMap a b
  | _, _ => false

/-- 値の列が等しいか。 -/
def sameList : List ItemValue → List ItemValue → Bool
  | [], [] => true
  | a :: as, b :: bs => same a b && sameList as bs
  | _, _ => false

/-- 写像が等しいか。 -/
def sameMap : List (String × ItemValue) → List (String × ItemValue) → Bool
  | [], [] => true
  | (k, a) :: as, (k', b) :: bs => k == k' && same a b && sameMap as bs
  | _, _ => false

end

/-- 値の文字表記。 -/
def display : ItemValue → String
  | .text s => s
  | .int i => toString i
  | .float f => Float.plainText f
  | .bool b => if b then "true" else "false"
  | .time t => t.rfc3339
  | v@(.list _) => (toJson v).compact
  | v@(.map _) => (toJson v).compact

end ItemValue

end Workflow
