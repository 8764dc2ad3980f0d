import Workflow.Condition.Syntax
import Workflow.Document.Json
import Workflow.Decimal.Text

/-!
# 条件式を評価する

## 項目の値の引き方（`fieldValue`）

項目名そのものが文書の項目なら、その最初の値の JSON。そうでなければ `.` で区切り、
長い接頭辞から順に項目を探す。見つかった項目の最初の値から、残りの区切りを写像のキーとして
たどる（キーは大文字小文字を区別する）。途中でキーがないか写像でない値に当たれば `null`。
短い接頭辞には戻らない。どの接頭辞も項目でなければ `null`。

## 真とみなす値

`null` は偽、真偽値はそのまま、数は 0 でなければ真、文字列は空でなく ASCII の大文字小文字を
問わず `false` でなければ真、配列とオブジェクトは空でなければ真。

## 等しさ

`null` どうし、真偽値どうし、文字列どうしはそのまま比べる。数どうしは差の絶対値が
`2^-52` 未満なら等しい。文字列と数は、文字列の前後の空白を落として double として読めて、
その差が同じく `2^-52` 未満なら等しい。ほかの組は等しくない。

## 大小

項目の値が数か、double として読める文字列なら比べ、そうでなければ偽。
-/

namespace Workflow.Condition

open Workflow.Json

/-- 機械イプシロン `2^-52`。 -/
def epsilon : Float := Float.ofBits 0x3CB0000000000000

/-- 二つの double がほぼ等しいか。 -/
def nearlyEqual (a b : Float) : Bool :=
  (a - b).abs < epsilon

/-- 写像のキーを順にたどる。 -/
def walkKeys : Value → List String → Value
  | v, [] => v
  | .object fs, k :: ks => walkKeys ((Value.lookup k fs).getD .null) ks
  | _, _ :: _ => .null

/-- 長い接頭辞から順に項目を探す。`n` は接頭辞の区切りの数。 -/
def prefixLookup (d : Document) (parts : List String) : Nat → Value
  | 0 => .null
  | n + 1 =>
    if n = 0 then .null
    else
      match d.first? (".".intercalate (parts.take n)) with
      | some v => walkKeys v.toJson (parts.drop n)
      | none => prefixLookup d parts n

/-- 項目の値。 -/
def fieldValue (d : Document) (field : String) : Value :=
  match d.first? field with
  | some v => v.toJson
  | none =>
    let parts := field.splitOn "."
    prefixLookup d parts parts.length

/-- JSON の数の double としての値。 -/
def numberValue (n : Number) : Float := n.toFloat

/-- 真とみなすか。 -/
def isTruthy : Value → Bool
  | .null => false
  | .bool b => b
  | .number n => numberValue n != 0.0
  | .string s => !s.isEmpty && !Text.eqIgnoreAsciiCase s "false"
  | .array xs => !xs.isEmpty
  | .object fs => !fs.isEmpty

/-- 項目の値と右辺が等しいか。 -/
def sameAs : Value → Operand → Bool
  | .null, .null => true
  | .bool a, .bool b => a == b
  | .number a, .number b => nearlyEqual (numberValue a) b
  | .string a, .text b => a == b
  | .string s, .number b =>
    match Decimal.readFloat (Text.trim s) with
    | some a => nearlyEqual a b
    | none => false
  | _, _ => false

/-- 数としての値。 -/
def asNumber : Value → Option Float
  | .number n => some (numberValue n)
  | .string s => Decimal.readFloat (Text.trim s)
  | _ => none

/-- 関係が成り立つか。 -/
def Relation.holds (r : Relation) (a b : Float) : Bool :=
  match r with
  | .gt => a > b
  | .ge => a ≥ b
  | .lt => a < b
  | .le => a ≤ b

/-- 条件式を文書について評価する。 -/
def Condition.eval (d : Document) : Condition → Bool
  | .const b => b
  | .truthy f => isTruthy (fieldValue d f)
  | .eq f v => sameAs (fieldValue d f) v
  | .ne f v => !sameAs (fieldValue d f) v
  | .compare r f n =>
    match asNumber (fieldValue d f) with
    | some a => r.holds a n
    | none => false
  | .and a b => a.eval d && b.eval d
  | .or a b => a.eval d || b.eval d
  | .not a => !a.eval d

end Workflow.Condition
