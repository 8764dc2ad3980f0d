import Workflow.Yaml.Node

/-!
# YAML の字句

YAML の文字列は、字句（トークン）の並びとして読む。字句は、ブロックの列と写像の始まりと
終わり、フローの括弧、`-` `?` `:` `,`、名前 `&a` と参照 `*a`、タグ `!t`、スカラー、文書の
区切り、指令（`%YAML` `%TAG`）である。どの字句も、始まりと終わりの位置を持つ。

ここには字句と位置の型、そして字句を分ける文字の種類を置く。文字列を字句に分ける読み手は
`Workflow.Yaml.Token.Lexer` にある。
-/

namespace Workflow.Yaml

/-- 読み手の位置：文字の番号、行、桁（どれも 0 から）。 -/
structure Pos where
  index : Nat := 0
  line : Nat := 0
  column : Nat := 0
  deriving BEq, Repr

/-- 誤りの文に使う位置。 -/
def Pos.mark (p : Pos) : Mark := ⟨p.line, p.column⟩

/-! ## 文字の種類 -/

/-- 改行の文字か（CR、LF、NEL、LS、PS）。 -/
def isBreakChar (c : Char) : Bool :=
  c == '\r' || c == '\n' || c == '\x85' || c == '\u2028' || c == '\u2029'

/-- 空白の文字か（空白とタブ）。 -/
def isBlankChar (c : Char) : Bool := c == ' ' || c == '\t'

/-- 名前に使える文字か（ASCII の英数字、`_`、`-`）。 -/
def isWordChar (c : Char) : Bool := c.isAlphanum || c == '_' || c == '-'

/-- 16 進の数字の値。 -/
def hexValue? (c : Char) : Option Nat :=
  if '0' ≤ c ∧ c ≤ '9' then some (c.toNat - 48)
  else if 'a' ≤ c ∧ c ≤ 'f' then some (c.toNat - 87)
  else if 'A' ≤ c ∧ c ≤ 'F' then some (c.toNat - 55)
  else none

/-- タグの URI に使える記号。 -/
def uriMarks : List Char :=
  [';', '/', '?', ':', '@', '&', '=', '+', '$', '.', '%', '!', '~', '*', '\'', '(', ')']

/-- 素のスカラーを始められない記号。 -/
def indicatorChars : List Char :=
  ['-', '?', ':', ',', '[', ']', '{', '}', '#', '&', '*', '!', '|', '>', '\'', '"', '%', '@',
    '\x60']

/-! ## 字句 -/

/-- 字句の種類。 -/
inductive TokenKind where
  | streamStart
  | streamEnd
  | versionDirective (major minor : Nat)
  | tagDirective (handle pfx : String)
  | documentStart
  | documentEnd
  | blockSequenceStart
  | blockMappingStart
  | blockEnd
  | flowSequenceStart
  | flowSequenceEnd
  | flowMappingStart
  | flowMappingEnd
  | blockEntry
  | flowEntry
  | key
  | value
  | alias (name : String)
  | anchor (name : String)
  /-- タグ：ハンドル（`!!` など、なければ空）と残り。 -/
  | tag (handle suffix : String)
  | scalar (text : String) (style : Style)

/-- 字句：種類と、始まりと終わりの位置。 -/
structure Token where
  kind : TokenKind
  start : Pos
  stop : Pos

/-- 種類の番号。中身を見ずに種類だけを比べるのに使う。 -/
def TokenKind.ordinal : TokenKind → Nat
  | .streamStart => 0
  | .streamEnd => 1
  | .versionDirective .. => 2
  | .tagDirective .. => 3
  | .documentStart => 4
  | .documentEnd => 5
  | .blockSequenceStart => 6
  | .blockMappingStart => 7
  | .blockEnd => 8
  | .flowSequenceStart => 9
  | .flowSequenceEnd => 10
  | .flowMappingStart => 11
  | .flowMappingEnd => 12
  | .blockEntry => 13
  | .flowEntry => 14
  | .key => 15
  | .value => 16
  | .alias _ => 17
  | .anchor _ => 18
  | .tag .. => 19
  | .scalar .. => 20

/-- 字句が `kinds` のどれかと同じ種類か。 -/
def Token.isAny (t : Token) (kinds : List TokenKind) : Bool :=
  kinds.any fun k => k.ordinal == t.kind.ordinal

end Workflow.Yaml
