import Workflow.Pattern.Parse

/-!
# 正規表現の照合

照合は「文字列のどこかに当たる部分があるか」だけを答える。そのため、正規表現を位置の集合の
上の関数として読む：`ends text r i` は、位置 `i` から `r` が当たるときの終わりの位置すべて
である。位置は文字の添字で、`0` から `text.size` まで。

* 連接は終わりの位置から続きを当てる。選択は二つの集合の和である。
* 繰り返しは、まず下限の回数だけちょうど進め、そのあと上限まで（上限がなければ新しい位置が
  出なくなるまで）幅優先に広げる。ある位置に最初に届いた回数が最小なので、新しく届いた位置
  だけを次の出発点にしてよい。

位置の集合は昇順で重複のない列で持つ。

## 停止性

`ends` は木の構造で再帰する。繰り返しの広げは、位置が `text.size + 1` 通りしかないので、
その回数の燃料で足りる。
-/

namespace Workflow.Pattern

open Workflow.Text

/-- 昇順で重複のない位置の列に 1 つ入れる。 -/
def insertPos (p : Nat) : List Nat → List Nat
  | [] => [p]
  | q :: qs => if p < q then p :: q :: qs else if p == q then q :: qs else q :: insertPos p qs

/-- 位置の集合の和。 -/
def unionPos (a b : List Nat) : List Nat :=
  b.foldl (fun acc p => insertPos p acc) a

/-- 集合の各位置から `step` で進んだ位置すべて。 -/
def advance (step : Nat → List Nat) (ps : List Nat) : List Nat :=
  ps.foldl (fun acc p => unionPos acc (step p)) []

/-- ちょうど `n` 回進める。 -/
def advanceN (step : Nat → List Nat) : Nat → List Nat → List Nat
  | 0, ps => ps
  | n + 1, ps => advanceN step n (advance step ps)

/-- `acc` に、`frontier` から進んで新しく届く位置を足していく。燃料は進める回数の上限。 -/
def widen (step : Nat → List Nat) : Nat → List Nat → List Nat → List Nat
  | 0, _, acc => acc
  | n + 1, frontier, acc =>
    let fresh := (advance step frontier).filter fun p => !acc.contains p
    if fresh.isEmpty then acc else widen step n fresh (unionPos acc fresh)

/-- 繰り返しの終わりの位置。`size` は文字列の長さ。 -/
def repeatEnds (step : Nat → List Nat) (lo : Nat) (hi : Option Nat) (size : Nat)
    (ps : List Nat) : List Nat :=
  let base := advanceN step lo ps
  let rounds := match hi with
    | some h => min (h - lo) (size + 1)
    | none => size + 1
  widen step rounds base base

/-- 位置 `i` の文字が語の文字か。 -/
def wordAt (unicode : Bool) (text : Array Char) (i : Nat) : Bool :=
  match text[i]? with
  | some c => if unicode then isWordChar c else c.isAlphanum || c == '_'
  | none => false

/-- 位置 `i` の直前の文字が語の文字か。 -/
def wordBefore (unicode : Bool) (text : Array Char) (i : Nat) : Bool :=
  match i with
  | 0 => false
  | j + 1 => wordAt unicode text j

/-- 位置の条件が成り立つか。 -/
def Look.holds (text : Array Char) (i : Nat) : Look → Bool
  | .textStart => i == 0
  | .textEnd => i == text.size
  | .lineStart => i == 0 || (i > 0 && text[i - 1]? == some '\n')
  | .lineEnd => i == text.size || text[i]? == some '\n'
  | .wordBoundary u => wordBefore u text i != wordAt u text i
  | .notWordBoundary u => wordBefore u text i == wordAt u text i
  | .wordStart u => !wordBefore u text i && wordAt u text i
  | .wordEnd u => wordBefore u text i && !wordAt u text i
  | .wordStartHalf u => !wordBefore u text i
  | .wordEndHalf u => !wordAt u text i

/-- 位置 `i` から当てたときの終わりの位置すべて。 -/
def ends (text : Array Char) : Node → Nat → List Nat
  | .empty, i => [i]
  | .chars c, i =>
    match text[i]? with
    | some ch => if c.contains ch then [i + 1] else []
    | none => []
  | .look l, i => if l.holds text i then [i] else []
  | .cat a b, i => (ends text a i).foldl (fun acc j => unionPos acc (ends text b j)) []
  | .alt a b, i => unionPos (ends text a i) (ends text b i)
  | .rep a lo hi, i => repeatEnds (fun j => ends text a j) lo hi text.size [i]

/-- 文字列のどこかに当たる部分があるか。 -/
def Node.isMatch (n : Node) (s : String) : Bool :=
  let text := s.toList.toArray
  (List.range (text.size + 1)).any fun i => !(ends text n i).isEmpty

/-- 正規表現 `pattern` が文字列のどこかに当たるか。読めない正規表現はどれにも当たらない。 -/
def matchesSomewhere (pattern : String) (s : String) : Bool :=
  match parse pattern with
  | .ok n => n.isMatch s
  | .error _ => false

end Workflow.Pattern
