import Workflow.Decimal.Binary

/-!
# 10 進数から double へ

`digits · 10^exp` を最も近い double に丸める。ちょうど中間なら仮数が偶数のほうをとる。
`Nat` の厳密な算術で 2 進の指数と 53 ビットの仮数を決めるので、丸めは 1 回だけである。

指数が極端な入力は先に片づける。値が `10^310` 以上なら無限大、`10^-330` 未満なら 0 になる。
-/

namespace Workflow.Decimal

/-- `⌊log₂ (num / den)⌋`。`num, den > 0` を前提とする。 -/
def floorLog2Ratio (num den : Nat) : Int :=
  let t : Int := (num.log2 : Int) - (den.log2 : Int)
  let atLeast : Bool :=
    if t ≥ 0 then num ≥ den * Nat.pow 2 t.toNat else num * Nat.pow 2 (-t).toNat ≥ den
  if atLeast then t else t - 1

/-- `num / den` を最近接偶数丸めで整数にする。 -/
def roundHalfEven (num den : Nat) : Nat :=
  let q := num / den
  let r := num % den
  if 2 * r > den then q + 1
  else if 2 * r < den then q
  else if q % 2 == 0 then q else q + 1

/-- 正の有理数 `num / den` に最も近い double のビット列（符号は `neg`）。 -/
def bitsOfRatio (neg : Bool) (num den : Nat) : UInt64 :=
  let lg := floorLog2Ratio num den
  -- 仮数が 53 ビットになる指数。ただし非正規数の下限 -1074 で止める。
  let e := max (lg - 52) (-1074)
  let q := roundHalfEven (num * Nat.pow 2 (-e).toNat) (den * Nat.pow 2 e.toNat)
  if q == Nat.pow 2 53 then bitsOfParts neg (Nat.pow 2 52) (e + 1)
  else bitsOfParts neg q e

/-- `(-1)^neg · digits · 10^exp` に最も近い double。 -/
def Decimal.toFloat (neg : Bool) (digits : Nat) (exp : Int) : Float :=
  if digits == 0 then zeroOf neg
  else
    let width : Int := (Nat.toDigits 10 digits).length
    if exp + width > 310 then infinityOf neg
    else if exp + width < -330 then zeroOf neg
    else Float.ofBits (bitsOfRatio neg (digits * Nat.pow 10 exp.toNat) (Nat.pow 10 (-exp).toNat))

/-- 自然数に最も近い double。 -/
def Decimal.natToFloat (n : Nat) : Float :=
  Decimal.toFloat false n 0

end Workflow.Decimal
