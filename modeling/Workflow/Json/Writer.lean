import Workflow.Json.Value

/-!
# JSON を書く

詰めた書式（空白なし）と、字下げ 2 の整形書式の二つを持つ。

文字列の中では `"` と `\` と制御文字だけを書き換える。`\n`、`\r`、`\t`、`\b`、`\f` は
その短い形に、残りの制御文字は小文字 16 進の `\u00XX` にする。`/` や ASCII 以外の文字は
そのまま書く。double の表記は書式 `FloatStyle` で選ぶ。正準形 `Value.canonicalText` は
キーを並べ直し、`FloatStyle.canonical` で書く。
-/

namespace Workflow.Json

open Workflow.Decimal

/-- 4 ビットの値を小文字 16 進の 1 桁にする。 -/
def hexDigit (n : Nat) : Char :=
  if n < 10 then Char.ofNat (48 + n) else Char.ofNat (87 + n)

/-- 文字列の中の 1 文字の書き方。 -/
def escapeChar (c : Char) : String :=
  if c = '"' then "\\\""
  else if c = '\\' then "\\\\"
  else if c = '\n' then "\\n"
  else if c = '\r' then "\\r"
  else if c = '\t' then "\\t"
  else if c.toNat = 8 then "\\b"
  else if c.toNat = 12 then "\\f"
  else if c.toNat < 32 then
    "\\u00" ++ String.singleton (hexDigit (c.toNat / 16)) ++ String.singleton (hexDigit (c.toNat % 16))
  else String.singleton c

/-- 引用符で囲んだ文字列。 -/
def quote (s : String) : String :=
  "\"" ++ s.toList.foldl (fun acc c => acc ++ escapeChar c) "" ++ "\""

/-- 配列でもオブジェクトでもない値の表記。double は書式 `st` に従う。 -/
def Value.leafWith (st : FloatStyle) : Value → String
  | .null => "null"
  | .bool b => if b then "true" else "false"
  | .number n => n.textWith st
  | .string s => quote s
  | .array _ => "[]"
  | .object _ => "\x7b\x7d"

/-- 配列でもオブジェクトでもない値の表記。 -/
def Value.compactLeaf (v : Value) : String :=
  v.leafWith FloatStyle.json

mutual

/-- 詰めた書式。double は書式 `st` に従う。 -/
def Value.compactWith (st : FloatStyle) : Value → String
  | .array xs => "[" ++ compactItemsWith st xs ++ "]"
  | .object fs => "\x7b" ++ compactFieldsWith st fs ++ "\x7d"
  | v => v.leafWith st

/-- 配列の要素をコンマで区切って並べる。 -/
def compactItemsWith (st : FloatStyle) : List Value → String
  | [] => ""
  | [x] => x.compactWith st
  | x :: xs => x.compactWith st ++ "," ++ compactItemsWith st xs

/-- オブジェクトのフィールドをコンマで区切って並べる。 -/
def compactFieldsWith (st : FloatStyle) : List (String × Value) → String
  | [] => ""
  | [(k, v)] => quote k ++ ":" ++ v.compactWith st
  | (k, v) :: fs => quote k ++ ":" ++ v.compactWith st ++ "," ++ compactFieldsWith st fs

end

/-- 詰めた書式。 -/
def Value.compact (v : Value) : String :=
  v.compactWith FloatStyle.json

/-- 正準形：キーを入れ子の中まで昇順に並べ、double を `FloatStyle.canonical` で書いた
詰めた書式。 -/
def Value.canonicalText (v : Value) : String :=
  v.sortKeys.compactWith FloatStyle.canonical

/-- 字下げの空白。 -/
def indent (depth : Nat) : String :=
  String.ofList (List.replicate (2 * depth) ' ')

mutual

/-- 整形書式。`depth` はこの値が置かれる字下げの深さ。 -/
def Value.pretty (depth : Nat) : Value → String
  | .array [] => "[]"
  | .object [] => "\x7b\x7d"
  | .array xs => "[\n" ++ prettyItems (depth + 1) xs ++ "\n" ++ indent depth ++ "]"
  | .object fs => "\x7b\n" ++ prettyFields (depth + 1) fs ++ "\n" ++ indent depth ++ "\x7d"
  | v => Value.compactLeaf v

/-- 配列の要素を 1 行ずつ並べる。 -/
def prettyItems (depth : Nat) : List Value → String
  | [] => ""
  | [x] => indent depth ++ x.pretty depth
  | x :: xs => indent depth ++ x.pretty depth ++ ",\n" ++ prettyItems depth xs

/-- オブジェクトのフィールドを 1 行ずつ並べる。 -/
def prettyFields (depth : Nat) : List (String × Value) → String
  | [] => ""
  | [(k, v)] => indent depth ++ quote k ++ ": " ++ v.pretty depth
  | (k, v) :: fs => indent depth ++ quote k ++ ": " ++ v.pretty depth ++ ",\n" ++ prettyFields depth fs

end

/-- 整形書式で書く。 -/
def Value.prettyText (v : Value) : String :=
  v.pretty 0

end Workflow.Json
