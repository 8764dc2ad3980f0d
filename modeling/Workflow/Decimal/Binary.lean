/-!
# binary64 の分解と組み立て

double を符号・仮数・指数に分け、また逆に組み立てる。ここでは浮動小数点演算を使わず、
ビット列と `Nat` の算術だけで扱う。

有限の値は `m · 2^e` と書ける。正規数では `2^52 ≤ m < 2^53`、非正規数と 0 では
`m < 2^52` かつ `e = -1074` である。
-/

namespace Workflow.Decimal

/-- double の種類。有限の値は符号と `m · 2^e` の組で持つ。 -/
inductive FloatParts where
  /-- 非数。 -/
  | nan
  /-- 無限大。`neg` は負のとき。 -/
  | infinite (neg : Bool)
  /-- 有限の値 `(-1)^neg · mant · 2^exp`。 -/
  | finite (neg : Bool) (mant : Nat) (exp : Int)
  deriving Repr, BEq

/-- ビット列から種類を読む。 -/
def FloatParts.ofBits (bits : UInt64) : FloatParts :=
  let b : Nat := bits.toNat
  let neg := b / Nat.pow 2 63 % 2 == 1
  let biased : Nat := b / Nat.pow 2 52 % 2048
  let frac : Nat := b % Nat.pow 2 52
  if biased == 2047 then
    if frac == 0 then .infinite neg else .nan
  else if biased == 0 then .finite neg frac (-1074)
  else .finite neg (frac + Nat.pow 2 52) ((biased : Int) - 1075)

/-- double の種類。 -/
def FloatParts.of (f : Float) : FloatParts :=
  FloatParts.ofBits f.toBits

/-- 符号と、正規化済みの仮数・指数からビット列を作る。
`mant < 2^52` なら非正規数（`exp = -1074` を前提とする）、`2^52 ≤ mant < 2^53` なら正規数。
指数が大きすぎるときは無限大になる。 -/
def bitsOfParts (neg : Bool) (mant : Nat) (exp : Int) : UInt64 :=
  let sign := if neg then Nat.pow 2 63 else 0
  if mant < Nat.pow 2 52 then
    UInt64.ofNat (sign + mant)
  else
    let biased := exp + 1075
    if biased ≥ 2047 then UInt64.ofNat (sign + 2047 * Nat.pow 2 52)
    else UInt64.ofNat (sign + biased.toNat * Nat.pow 2 52 + (mant - Nat.pow 2 52))

/-- 符号つきの無限大。 -/
def infinityOf (neg : Bool) : Float :=
  Float.ofBits (bitsOfParts neg (Nat.pow 2 52) 1000)

/-- 符号つきの 0。 -/
def zeroOf (neg : Bool) : Float :=
  Float.ofBits (bitsOfParts neg 0 (-1074))

/-- 非数。 -/
def notANumber : Float :=
  Float.ofBits 0x7FF8000000000000

/-- 有限か。 -/
def isFiniteFloat (f : Float) : Bool :=
  match FloatParts.of f with
  | .finite .. => true
  | _ => false

/-- 負の符号をもつか（-0.0 も含む）。 -/
def signBit (f : Float) : Bool :=
  f.toBits.toNat / Nat.pow 2 63 % 2 == 1

end Workflow.Decimal
