/-!
# code point の区間表

Unicode の性質（Alphabetic、White_Space など）は、code point の閉区間を昇順に並べた表で持つ。
区間どうしは重ならず、隣り合いもしない。引くときは二分探索を使う。

## 停止性

`RangeTable.contains.go` は探す幅 `hi - lo` が毎回縮む。
-/

namespace Workflow.Text

/-- 16 進の数字の列の値。 -/
def hexDigitsValue (cs : List Char) : Nat :=
  cs.foldl (fun acc c =>
    let d := if '0' ≤ c ∧ c ≤ '9' then c.toNat - 48
      else if 'A' ≤ c ∧ c ≤ 'F' then c.toNat - 55
      else if 'a' ≤ c ∧ c ≤ 'f' then c.toNat - 87
      else 0
    acc * 16 + d) 0

/-- code point の閉区間 `[lo, hi]` を昇順に並べた表。 -/
structure RangeTable where
  /-- 区間の列。 -/
  ranges : Array (Nat × Nat)

namespace RangeTable

/-- `c` を含む区間が表にあるか。 -/
def contains (t : RangeTable) (c : Nat) : Bool :=
  go 0 t.ranges.size
where
  /-- 添字 `[lo, hi)` の中で探す。 -/
  go (lo hi : Nat) : Bool :=
    if _h : lo < hi then
      let mid := (lo + hi) / 2
      match t.ranges[mid]? with
      | none => false
      | some (a, b) =>
        if c < a then go lo mid
        else if b < c then go (mid + 1) hi
        else true
    else false
  termination_by hi - lo

/-- 文字が表に入るか。 -/
def containsChar (t : RangeTable) (c : Char) : Bool :=
  t.contains c.toNat

/-- 16 進 6 桁ずつの先頭と末尾を続けて書いた文字列を、区間の列に戻す。 -/
def decodeHexRanges : List Char → List (Nat × Nat)
  | a1 :: a2 :: a3 :: a4 :: a5 :: a6 :: b1 :: b2 :: b3 :: b4 :: b5 :: b6 :: rest =>
    (hexDigitsValue [a1, a2, a3, a4, a5, a6], hexDigitsValue [b1, b2, b3, b4, b5, b6]) ::
      decodeHexRanges rest
  | _ => []

/-- 16 進で書いた区間の文字列から表を作る。 -/
def ofHex (s : String) : RangeTable := ⟨(decodeHexRanges s.toList).toArray⟩

/-- 表を区間ごとに素朴に調べた結果。二分探索の仕様にあたる。 -/
def containsSpec (t : RangeTable) (c : Nat) : Bool :=
  t.ranges.any fun (a, b) => a ≤ c && c ≤ b

end RangeTable

end Workflow.Text
