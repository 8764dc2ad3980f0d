/-!
# 似た名前

知らない引数やサブコマンドには、似た名前を候補として示す。似ている度合いは Jaro 類似度で、
0.7 を超えるものを候補にする。

二つの文字列 `a`（長さ `la`）と `b`（長さ `lb`）の Jaro 類似度は、

* 探す幅 `w = max(la, lb) / 2 - 1`（0 より小さければ 0）の中で、`a` の各文字に、まだ
  使っていない `b` の同じ文字を左から一つ対応させ、対応の数を `m` とする。
* 対応した文字を両方の順に並べたとき位置の合わない数の半分を `t` とする。
* 類似度は `(m / la + m / lb + (m - t) / m) / 3`（`m = 0` なら 0）。

比べるときは分数のまま比べ、浮動小数点数を使わない。
-/

namespace Workflow.Cli

/-- `a` の各文字に対応させた `b` の位置を探す。`used` は使った `b` の位置。 -/
def jaroMatches (a b : Array Char) (window : Nat) : List (Nat × Nat) :=
  let step := fun (acc : List (Nat × Nat) × List Nat) (i : Nat) =>
    let (pairs, used) := acc
    let lo := i - window
    let hi := min b.size (i + window + 1)
    match (List.range' lo (hi - lo)).find? fun j => b[j]? == a[i]? && !used.contains j with
    | some j => (pairs ++ [(i, j)], j :: used)
    | none => acc
  ((List.range a.size).foldl step ([], [])).1

/-- 対応の数と、位置の合わない数の半分。 -/
def jaroCounts (a b : String) : Nat × Nat :=
  let ca := a.toList.toArray
  let cb := b.toList.toArray
  let window := max ca.size cb.size / 2 - 1
  let pairs := jaroMatches ca cb window
  let fromA := pairs.map fun (i, _) => ca[i]?
  let fromB := ((pairs.map (·.2)).mergeSort fun x y => decide (x ≤ y)).map fun j => cb[j]?
  let misplaced := (fromA.zip fromB).countP fun (x, y) => x != y
  (pairs.length, misplaced / 2)

/-- Jaro 類似度を分数 `(分子, 分母)` で表す。 -/
def jaroRatio (a b : String) : Nat × Nat :=
  let la := a.length
  let lb := b.length
  if la == 0 && lb == 0 then (1, 1)
  else if la == 0 || lb == 0 then (0, 1)
  else
    let (m, t) := jaroCounts a b
    if m == 0 then (0, 1)
    else (m * lb * m + m * la * m + (m - t) * la * lb, 3 * la * lb * m)

/-- 類似度が 0.7 を超えるか。 -/
def isSimilar (a b : String) : Bool :=
  let (n, d) := jaroRatio a b
  10 * n > 7 * d

/-- 類似度が `x` の方が `y` より小さいか。 -/
def lessSimilar (x y : Nat × Nat) : Bool :=
  x.1 * y.2 < y.1 * x.2

/-- 似た候補を、似ている度合いの小さい順に（同じなら元の順に）並べる。 -/
def similarNames (name : String) (candidates : List String) : List String :=
  let scored := (candidates.filter (isSimilar name)).map fun c => (jaroRatio name c, c)
  (scored.mergeSort fun x y => !lessSimilar y.1 x.1).map (·.2)

/-- 最も似た候補（同じ度合いなら後ろのもの）。 -/
def mostSimilar? (name : String) (candidates : List String) : Option String :=
  (similarNames name candidates).getLast?

end Workflow.Cli
