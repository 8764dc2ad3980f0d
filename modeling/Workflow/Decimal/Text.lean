import Workflow.Decimal.Shortest
import Workflow.Decimal.Read

/-!
# double の文字表記と数の読み取り

## 書く

最短の桁列（`Workflow.Decimal.Shortest`）を、書式の決まり `FloatStyle` に従って並べる。
決まりは三つ使う。

* `FloatStyle.json` — 小数点の位置が -5 より右で 16 以下なら位取りで書き、整数でも `.0` を
  付ける。それ以外は `1.5e+16`、`1e-7` のように指数で書く。
* `FloatStyle.canonical` — 小数点の位置が -4 より右で 16 以下なら位取りで書き、指数は
  `1e+16`、`1e-05` のように 2 桁以上で書く。
* `FloatStyle.plain` — 指数を使わず、整数なら小数点を書かない（`1e20` は 21 桁の整数）。

## 読む

`readFloat` は符号、`inf`・`infinity`・`nan`（大文字小文字を問わない）、または
`digits [. digits] [e [+-] digits]`（整数部と小数部のどちらかに 1 桁以上）を受け付け、
最も近い double に丸める。`readInt` は符号と 1 桁以上の数字を受け、範囲外は失敗とする。
-/

namespace Workflow.Decimal

/-- double を文字にする書式の決まり。 -/
structure FloatStyle where
  /-- 位取りで書く小数点位置の下限（これより右なら位取り）。`none` なら常に位取り。 -/
  pointAbove : Option Int
  /-- 位取りで書く小数点位置の上限。`none` なら常に位取り。 -/
  pointAtMost : Option Int
  /-- 整数になる値の後ろに付ける文字列。 -/
  integerSuffix : String
  /-- 正の指数に `+` を付けるか。 -/
  plusExponent : Bool
  /-- 指数の最小の桁数。足りなければ前を 0 で埋める。 -/
  exponentDigits : Nat
  /-- 非数の表記。 -/
  nanText : String
  /-- 無限大の表記（符号は別）。 -/
  infText : String

/-- JSON の数として書く決まり。 -/
def FloatStyle.json : FloatStyle :=
  ⟨some (-5), some 16, ".0", true, 1, "NaN", "inf"⟩

/-- 正準形の文字列に使う決まり。小数点の位置が -4 より右で 16 以下なら位取りで書き、
指数は `1e+16`、`1e-05` のように符号と 2 桁以上で書く。 -/
def FloatStyle.canonical : FloatStyle :=
  ⟨some (-4), some 16, ".0", true, 2, "NaN", "Infinity"⟩

/-- 指数を使わない決まり。 -/
def FloatStyle.plain : FloatStyle :=
  ⟨none, none, "", false, 1, "NaN", "inf"⟩

/-- `n` 個の `0`。 -/
def zeros (n : Nat) : String :=
  String.ofList (List.replicate n '0')

/-- 桁列 `ds`（先頭は 0 でない）と指数 `k`、値は `ds · 10^k`、を書式に従って書く。 -/
def renderDigits (st : FloatStyle) (ds : String) (k : Int) : String :=
  let len : Int := ds.length
  let point := len + k
  let positional :=
    (match st.pointAbove with | some a => a < point | none => true) &&
    (match st.pointAtMost with | some b => point ≤ b | none => true)
  if positional then
    if 0 ≤ k then ds ++ zeros k.toNat ++ st.integerSuffix
    else if 0 < point then
      String.ofList (ds.toList.take point.toNat) ++ "." ++ String.ofList (ds.toList.drop point.toNat)
    else "0." ++ zeros (-point).toNat ++ ds
  else
    let e := point - 1
    let mant := match ds.toList with
      | [d] => String.singleton d
      | d :: rest => String.singleton d ++ "." ++ String.ofList rest
      | [] => "0"
    let sign := if e < 0 then "-" else if st.plusExponent then "+" else ""
    let digits := toString e.natAbs
    mant ++ "e" ++ sign ++ zeros (st.exponentDigits - digits.length) ++ digits

/-- double を書式に従って書く。 -/
def renderFloat (st : FloatStyle) (f : Float) : String :=
  match FloatParts.of f with
  | .nan => st.nanText
  | .infinite neg => (if neg then "-" else "") ++ st.infText
  | .finite neg m e =>
    let sign := if neg then "-" else ""
    if m == 0 then sign ++ "0" ++ st.integerSuffix
    else
      let (d, k) := shortestDigits m e
      sign ++ renderDigits st (toString d) k

/-- JSON の数としての表記。有限の値にだけ使う。 -/
def Float.jsonText (f : Float) : String :=
  renderFloat FloatStyle.json f

/-- 指数を使わない表記。 -/
def Float.plainText (f : Float) : String :=
  renderFloat FloatStyle.plain f

/-- 位取り表記に小数点がなければ `.0` を足した表記（型の不一致を伝える文で使う）。 -/
def Float.pointText (f : Float) : String :=
  let s := Float.plainText f
  if isFiniteFloat f && !s.toList.contains '.' then s ++ ".0" else s

/-! ## 読む -/

/-- 数字の列を値にする。 -/
def digitsValue (ds : List Char) : Nat :=
  ds.foldl (fun acc c => acc * 10 + (c.toNat - '0'.toNat)) 0

/-- ASCII の大文字を小文字にしたもの。 -/
def lowerAsciiChars (cs : List Char) : List Char :=
  cs.map fun c => if 'A' ≤ c ∧ c ≤ 'Z' then Char.ofNat (c.toNat + 32) else c

/-- 符号のあとの本体を読む。 -/
def readUnsignedFloat (neg : Bool) (cs : List Char) : Option Float :=
  let low := lowerAsciiChars cs
  if low == "inf".toList || low == "infinity".toList then some (infinityOf neg)
  else if low == "nan".toList then some notANumber
  else
    let intPart := cs.takeWhile Char.isDigit
    let rest := cs.dropWhile Char.isDigit
    let (fracPart, rest) := match rest with
      | '.' :: r => (r.takeWhile Char.isDigit, r.dropWhile Char.isDigit)
      | r => ([], r)
    if intPart.isEmpty && fracPart.isEmpty then none
    else
      let expPart : Option Int := match rest with
        | [] => some 0
        | c :: r =>
          if c = 'e' ∨ c = 'E' then
            let (eneg, ds) := match r with
              | '+' :: d => (false, d)
              | '-' :: d => (true, d)
              | d => (false, d)
            if !ds.isEmpty && ds.all Char.isDigit then
              let v : Int := digitsValue ds
              some (if eneg then -v else v)
            else none
          else none
      match expPart with
      | none => none
      | some x =>
        let digits := digitsValue (intPart ++ fracPart)
        some (Decimal.toFloat neg digits (x - fracPart.length))

/-- 浮動小数点数の表記を読む。前後の空白は受け付けない。 -/
def readFloat (s : String) : Option Float :=
  match s.toList with
  | '+' :: r => readUnsignedFloat false r
  | '-' :: r => readUnsignedFloat true r
  | r => readUnsignedFloat false r

/-- 符号つき整数を読み、`[lo, hi]` に入るときだけ返す。 -/
def readIntIn (lo hi : Int) (s : String) : Option Int :=
  let (neg, ds) := match s.toList with
    | '+' :: r => (false, r)
    | '-' :: r => (true, r)
    | r => (false, r)
  if ds.isEmpty || !ds.all Char.isDigit then none
  else
    let v : Int := if neg then -(digitsValue ds : Int) else digitsValue ds
    if lo ≤ v ∧ v ≤ hi then some v else none

/-- 64 ビット符号つき整数の範囲。 -/
def int64Min : Int := -(Int.pow 2 63)

/-- 64 ビット符号つき整数の最大値。 -/
def int64Max : Int := Int.pow 2 63 - 1

/-- 64 ビット符号つき整数として読む。 -/
def readInt (s : String) : Option Int :=
  readIntIn int64Min int64Max s

/-- 64 ビット符号なし整数として読む。負の符号は受け付けない。 -/
def readNat (s : String) : Option Nat :=
  match s.toList with
  | '-' :: _ => none
  | _ => (readIntIn 0 (Int.pow 2 64 - 1) s).map Int.toNat

/-- double を 0 の方向へ切り捨てた 64 ビット整数。範囲外は端に張り付き、非数は 0。 -/
def truncToInt (f : Float) : Int :=
  match FloatParts.of f with
  | .nan => 0
  | .infinite neg => if neg then int64Min else int64Max
  | .finite neg m e =>
    let mag : Nat := if e ≥ 0 then m * Nat.pow 2 e.toNat else m / Nat.pow 2 (-e).toNat
    let v : Int := if neg then -(mag : Int) else mag
    max int64Min (min int64Max v)

/-- 整数に最も近い double。 -/
def Decimal.intToFloat (i : Int) : Float :=
  Decimal.toFloat (i < 0) i.natAbs 0

end Workflow.Decimal
