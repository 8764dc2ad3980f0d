import Workflow.Decimal.Binary

/-!
# 最短の 10 進表記

有限で正の double `v = m · 2^e` について、読み戻すと `v` になる 10 進数のうち桁数が最も少なく、
その中で `v` に最も近いものを求める。ちょうど中間なら末尾の桁が偶数のほうをとる。

読み戻して `v` になる実数は、`v` と隣の double との中点で挟まれた区間にある。`m` が偶数なら
端も含む（最近接偶数丸めのため）。`n = 1, 2, …, 17` 桁の格子それぞれで `v` の両隣だけを
調べればよい。区間に格子点があるなら、両隣のどちらかも区間にあるからである。
計算はすべて `Nat` の厳密な算術で行う。

## 停止性

桁数の候補は `List.range 17` を走るだけで、再帰はない。
-/

namespace Workflow.Decimal

/-- `c · 10^k` と `x · 2^q` を比べる。 -/
def compareScaled (c : Nat) (k : Int) (x : Nat) (q : Int) : Ordering :=
  let lhs := c * Nat.pow 10 k.toNat * Nat.pow 2 (-q).toNat
  let rhs := x * Nat.pow 2 q.toNat * Nat.pow 10 (-k).toNat
  compare lhs rhs

/-- `⌊m · 2^e / 10^k⌋` と、割り切れたかどうか。 -/
def floorScaled (m : Nat) (e k : Int) : Nat × Bool :=
  let num := m * Nat.pow 2 e.toNat * Nat.pow 10 (-k).toNat
  let den := Nat.pow 2 (-e).toNat * Nat.pow 10 k.toNat
  (num / den, num % den == 0)

/-- 10 進の桁数。0 は 1 桁とする。 -/
def digitCount (n : Nat) : Nat :=
  (Nat.toDigits 10 n).length

/-- `⌊log₁₀ (m · 2^e)⌋`。`m > 0` を前提とする。
double の最小値でも `10^350` 倍すれば 1 を超えるので、その桁数から求まる。 -/
def decimalExponent (m : Nat) (e : Int) : Int :=
  (digitCount (floorScaled m e (-350)).1 : Int) - 351

/-- 末尾の 0 を指数へ移す。 -/
def stripZeros (d : Nat) (k : Int) (fuel : Nat) : Nat × Int :=
  match fuel with
  | 0 => (d, k)
  | fuel + 1 => if d ≠ 0 ∧ d % 10 = 0 then stripZeros (d / 10) (k + 1) fuel else (d, k)

/-- 丸めの区間に入るか。区間は単位 `2^(e-2)` で `[lo4, hi4]`、`closed` なら端を含む。 -/
def inRoundingInterval (c : Nat) (k : Int) (lo4 hi4 : Nat) (e : Int) (closed : Bool) : Bool :=
  let lowOk := match compareScaled c k lo4 (e - 2) with
    | .lt => false
    | .eq => closed
    | .gt => true
  let highOk := match compareScaled c k hi4 (e - 2) with
    | .lt => true
    | .eq => closed
    | .gt => false
  lowOk && highOk

/-- `n` 桁の格子で、区間に入る `v` の隣のうち近いほう。なければ `none`。 -/
def candidateAt (m : Nat) (e : Int) (lo4 hi4 : Nat) (closed : Bool) (d : Int) (n : Nat) :
    Option (Nat × Int) :=
  let k := d - n + 1
  let (q, exact) := floorScaled m e k
  let okLow := inRoundingInterval q k lo4 hi4 e closed
  if exact then
    if okLow then some (q, k) else none
  else
    let okHigh := inRoundingInterval (q + 1) k lo4 hi4 e closed
    match okLow, okHigh with
    | true, true =>
      -- 2v と (2q+1)·10^k を比べて近いほうを選ぶ
      match compareScaled (2 * q + 1) k (8 * m) (e - 2) with
      | .gt => some (q, k)
      | .lt => some (q + 1, k)
      | .eq => if q % 2 == 0 then some (q, k) else some (q + 1, k)
    | true, false => some (q, k)
    | false, true => some (q + 1, k)
    | false, false => none

/-- 正の有限値 `m · 2^e` の最短表記 `(digits, k)`。値は `digits · 10^k` で、
`digits` の末尾は 0 でない。 -/
def shortestDigits (m : Nat) (e : Int) : Nat × Int :=
  let closed := m % 2 == 0
  let lo4 := if m == Nat.pow 2 52 && e > -1074 then 4 * m - 1 else 4 * m - 2
  let hi4 := 4 * m + 2
  let d := decimalExponent m e
  let found := (List.range 17).findSome? fun i => candidateAt m e lo4 hi4 closed d (i + 1)
  let (c, k) := found.getD ((floorScaled m e (d - 16)).1, d - 16)
  stripZeros c k 400

end Workflow.Decimal
