import Workflow.Text.Fold

/-!
# 正規表現の木

モデルの版は正規表現でも探せる（`^1\.` は `1.` で始まる版すべて）。ここでは読み取った
正規表現の形を定める。照合に要るのは「どこかで当たるか」だけなので、貪欲か最短か、
捕獲するかしないかは木に残さない。

* `ClassExpr` は 1 文字の集合である。区間、一般カテゴリ、Unicode の性質と文字体系、和・積・差・
  対称差、補集合、そして大文字小文字の同一視（`fold`：集合の要素と同一視される文字も入れる）
  で組み立てる。
* `Look` は幅のない位置の条件（行頭、語の境目など）。
* `Node` は正規表現そのもの。連接・選択・回数つきの繰り返しを持つ。
-/

namespace Workflow.Pattern

open Workflow.Text

/-- 1 文字の集合。 -/
inductive ClassExpr where
  /-- code point の閉区間。 -/
  | range (lo hi : Nat)
  /-- 一般カテゴリのどれかに入る文字。 -/
  | category (ks : List Category)
  /-- Alphabetic の文字。 -/
  | alphabetic
  /-- White_Space の文字。 -/
  | whiteSpace
  /-- 区間表（文字体系や二値の性質）に入る文字。 -/
  | table (t : RangeTable)
  /-- 語の文字（`\w`）。 -/
  | word
  /-- 和集合。 -/
  | union (a b : ClassExpr)
  /-- 積集合。 -/
  | inter (a b : ClassExpr)
  /-- 差集合。 -/
  | diff (a b : ClassExpr)
  /-- 対称差。 -/
  | symDiff (a b : ClassExpr)
  /-- 補集合。 -/
  | complement (a : ClassExpr)
  /-- 大文字小文字を同一視して広げた集合。 -/
  | fold (a : ClassExpr)

namespace ClassExpr

/-- 空集合。 -/
def nothing : ClassExpr := .range 1 0

/-- 1 文字だけの集合。 -/
def single (c : Char) : ClassExpr := .range c.toNat c.toNat

/-- 区間の和集合。 -/
def ranges : List (Nat × Nat) → ClassExpr
  | [] => nothing
  | [(a, b)] => .range a b
  | (a, b) :: rest => .union (.range a b) (ranges rest)

/-- 文字が集合に入るか。 -/
def contains : ClassExpr → Char → Bool
  | .range lo hi, c => lo ≤ c.toNat && c.toNat ≤ hi
  | .category ks, c => ks.contains (categoryOf c)
  | .alphabetic, c => isAlphabetic c
  | .whiteSpace, c => isBlank c
  | .table t, c => t.containsChar c
  | .word, c => isWordChar c
  | .union a b, c => a.contains c || b.contains c
  | .inter a b, c => a.contains c && b.contains c
  | .diff a b, c => a.contains c && !b.contains c
  | .symDiff a b, c => a.contains c != b.contains c
  | .complement a, c => !a.contains c
  | .fold a, c => (foldOrbit c).any fun d => a.contains d

end ClassExpr

/-- 幅のない位置の条件。`unicode` が偽なら語の文字は ASCII の英数字と `_` に限る。 -/
inductive Look where
  /-- 文字列の先頭。 -/
  | textStart
  /-- 文字列の末尾。 -/
  | textEnd
  /-- 行頭：先頭か、改行の直後。 -/
  | lineStart
  /-- 行末：末尾か、改行の直前。 -/
  | lineEnd
  /-- 語の境目。 -/
  | wordBoundary (unicode : Bool)
  /-- 語の境目でない。 -/
  | notWordBoundary (unicode : Bool)
  /-- 語の始まり：前が語の文字でなく、後が語の文字。 -/
  | wordStart (unicode : Bool)
  /-- 語の終わり：前が語の文字で、後が語の文字でない。 -/
  | wordEnd (unicode : Bool)
  /-- 語の始まりの半分：前が語の文字でない。 -/
  | wordStartHalf (unicode : Bool)
  /-- 語の終わりの半分：後が語の文字でない。 -/
  | wordEndHalf (unicode : Bool)

/-- 正規表現。 -/
inductive Node where
  /-- 空文字列に当たる。 -/
  | empty
  /-- 集合に入る 1 文字に当たる。 -/
  | chars (c : ClassExpr)
  /-- 位置の条件。 -/
  | look (l : Look)
  /-- 連接。 -/
  | cat (a b : Node)
  /-- 選択。 -/
  | alt (a b : Node)
  /-- `min` 回以上 `max` 回以下の繰り返し（`max` がなければ上限なし）。 -/
  | rep (a : Node) (min : Nat) (max : Option Nat)

namespace Node

/-- 並びを連接にする。 -/
def seq : List Node → Node
  | [] => .empty
  | [n] => n
  | n :: ns => .cat n (seq ns)

/-- 選択肢の並びを選択にする。 -/
def choice : List Node → Node
  | [] => .empty
  | [n] => n
  | n :: ns => .alt n (choice ns)

end Node

end Workflow.Pattern
