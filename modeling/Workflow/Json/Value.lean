import Workflow.Decimal.Text

/-!
# JSON の値

数は三種類に分けて持つ。負でない整数（`2^64` 未満）、負の整数（`-2^63` 以上）、
そしてそれ以外の有限の double である。`1.0` は double のままで、整数にはならない。

オブジェクトは組の列で持ち、書くときはその順に書く。読み取った JSON のオブジェクトは
キーの昇順に並び、同じキーは一つしかない（同じキーを二度入れると後の値が残る）。
-/

namespace Workflow.Json

/-- JSON の数。 -/
inductive Number where
  /-- 負でない整数。 -/
  | nat (n : Nat)
  /-- 負の整数。 -/
  | neg (i : Int)
  /-- 整数として読まれなかった数。有限である。 -/
  | float (f : Float)

/-- JSON の値。 -/
inductive Value where
  | null
  | bool (b : Bool)
  | number (n : Number)
  | string (s : String)
  | array (items : List Value)
  | object (fields : List (String × Value))

namespace Number

/-- 整数を数にする。 -/
def ofInt (i : Int) : Number :=
  if i < 0 then .neg i else .nat i.toNat

/-- 64 ビット符号つき整数として読めるなら、その値。 -/
def toInt? : Number → Option Int
  | .nat n => if n < Nat.pow 2 63 then some n else none
  | .neg i => some i
  | .float _ => none

/-- double としての値。 -/
def toFloat : Number → Float
  | .nat n => Workflow.Decimal.Decimal.natToFloat n
  | .neg i => Workflow.Decimal.Decimal.intToFloat i
  | .float f => f

/-- 数の表記。double は書式 `st` に従う。 -/
def textWith (st : Workflow.Decimal.FloatStyle) : Number → String
  | .nat n => toString n
  | .neg i => toString i
  | .float f => Workflow.Decimal.renderFloat st f

/-- 数の表記。 -/
def text (n : Number) : String :=
  n.textWith Workflow.Decimal.FloatStyle.json

end Number

namespace Value

/-- 整数の値。 -/
def int (i : Int) : Value :=
  .number (Number.ofInt i)

/-- double の値。有限でなければ `null`。 -/
def float (f : Float) : Value :=
  if Workflow.Decimal.isFiniteFloat f then .number (.float f) else .null

/-- キーの昇順を保ってフィールドを入れる。同じキーなら値を置き換える。 -/
def insertField (k : String) (v : Value) : List (String × Value) → List (String × Value)
  | [] => [(k, v)]
  | (k', v') :: rest =>
    if k < k' then (k, v) :: (k', v') :: rest
    else if k = k' then (k, v) :: rest
    else (k', v') :: insertField k v rest

mutual

/-- オブジェクトのキーを、入れ子の中まで昇順に並べ直す。 -/
def sortKeys : Value → Value
  | .array xs => .array (sortItems xs)
  | .object fs => .object (sortFields fs)
  | v => v

/-- 配列の各要素を並べ直す。 -/
def sortItems : List Value → List Value
  | [] => []
  | x :: xs => sortKeys x :: sortItems xs

/-- フィールドを並べ直しながら昇順に入れる。 -/
def sortFields : List (String × Value) → List (String × Value)
  | [] => []
  | (k, v) :: fs => insertField k (sortKeys v) (sortFields fs)

end

/-- 組の列から、後のものを優先してオブジェクトを作る。 -/
def ofFields (fs : List (String × Value)) : Value :=
  .object (fs.foldl (fun acc (k, v) => insertField k v acc) [])

/-- フィールドを引く。 -/
def lookup (k : String) : List (String × Value) → Option Value
  | [] => none
  | (k', v) :: rest => if k = k' then some v else lookup k rest

/-- オブジェクトのフィールドを引く。オブジェクトでなければ `none`。 -/
def field? (v : Value) (k : String) : Option Value :=
  match v with
  | .object fs => lookup k fs
  | _ => none

/-- 文字列の値。 -/
def str? : Value → Option String
  | .string s => some s
  | _ => none

/-- フィールドの値。なければ `null`。 -/
def get (v : Value) (k : String) : Value :=
  (v.field? k).getD .null

/-- 文字列のフィールド。なければ空文字列。 -/
def strField (v : Value) (k : String) : String :=
  ((v.get k).str?).getD ""

/-- 整数のフィールド。なければ `d`。 -/
def intField (v : Value) (k : String) (d : Int) : Int :=
  match v.get k with
  | .number n => n.toInt?.getD d
  | _ => d

/-- 配列のフィールドの要素。なければ空。 -/
def listField (v : Value) (k : String) : List Value :=
  match v.get k with
  | .array xs => xs
  | _ => []

end Value

end Workflow.Json
