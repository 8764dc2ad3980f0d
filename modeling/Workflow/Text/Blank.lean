import Workflow.Text.Ranges

/-!
# 空白（Unicode の White_Space 性質）

文字列の前後を刈る `trim` は、この性質をもつ文字を落とす。
ASCII の空白のほかに NEL（U+0085）、NBSP（U+00A0）、全角空白（U+3000）なども入る。
-/

namespace Workflow.Text

/-- White_Space 性質をもつ code point の区間。 -/
def blankTable : RangeTable := ⟨#[
  (0x9, 0xD), (0x20, 0x20), (0x85, 0x85), (0xA0, 0xA0), (0x1680, 0x1680), (0x2000, 0x200A),
  (0x2028, 0x2029), (0x202F, 0x202F), (0x205F, 0x205F), (0x3000, 0x3000)]⟩

/-- 空白文字か。 -/
def isBlank (c : Char) : Bool :=
  blankTable.containsChar c

/-- 先頭の空白を落とす。 -/
def trimStartList (cs : List Char) : List Char :=
  cs.dropWhile isBlank

/-- 末尾の空白を落とす。 -/
def trimEndList (cs : List Char) : List Char :=
  (cs.reverse.dropWhile isBlank).reverse

/-- 前後の空白を落とす。 -/
def trimList (cs : List Char) : List Char :=
  trimEndList (trimStartList cs)

/-- 前後の空白を落とした文字列。 -/
def trim (s : String) : String :=
  String.ofList (trimList s.toList)

/-- 末尾の空白だけを落とした文字列。 -/
def trimEnd (s : String) : String :=
  String.ofList (trimEndList s.toList)

/-- 空白だけからなる（空も含む）文字列か。 -/
def isBlankText (s : String) : Bool :=
  s.toList.all isBlank

end Workflow.Text
