import Workflow.Yaml.Document
import Workflow.Json.Decode
import Workflow.Decimal.Text

/-!
# YAML の節点から型つきの値を取り出す

## 素のスカラーの解釈

素のまま書いたスカラーだけが解釈される。順に、空か `~` `null` `Null` `NULL` なら null、
`true` `True` `TRUE` `false` `False` `FALSE` なら真偽、次に整数（64 ビットの符号なし、
64 ビットの負、128 ビットの符号なし、128 ビットの負の順）、次に有限の浮動小数点数、
それ以外は文字列である。

整数は `+` を一つ前に置いてよく、`0x` `0o` `0b` で 16・8・2 進を表す。`0` で始まり数字だけが
続くもの（`007`）は数ではなく文字列である。

## 取り出し

文字列はどのスカラーからも取り出せる。真偽と符号なし整数は、素のスカラーか、`!!bool` や
`!!int` のタグで型を示したスカラーから取り出せる。
列は列からと、空の素のスカラーから（空の列）取り出せる。構造体は写像からと、空の素の
スカラーから（すべて既定値）取り出せる。構造体は知らない鍵を読み飛ばし、同じ鍵が二度
あれば誤りにする。

誤りの文は「`道筋: 理由 at line L column C`」の形をとる。道筋は根なら書かず、写像の値は
`親.鍵`、列の要素は `親[番号]` である。位置は誤りの起きた節点のもので、文書の先頭なら書かない。
-/

namespace Workflow.Yaml

open Workflow.Json
open Workflow.Decimal

/-! ## 素のスカラー -/

/-- null を表す語か。 -/
def isNullWord (s : String) : Bool :=
  s == "~" || s == "null" || s == "Null" || s == "NULL"

/-- 真偽を表す語。 -/
def boolWord? (s : String) : Option Bool :=
  if s == "true" || s == "True" || s == "TRUE" then some true
  else if s == "false" || s == "False" || s == "FALSE" then some false
  else none

/-- 符号で始まるか。 -/
def startsWithSign (cs : List Char) : Bool :=
  match cs with
  | '+' :: _ | '-' :: _ => true
  | _ => false

/-- `radix` 進の数字の値。 -/
def radixDigit? (radix : Nat) (c : Char) : Option Nat :=
  let v := if '0' ≤ c ∧ c ≤ '9' then some (c.toNat - 48)
    else if 'a' ≤ c ∧ c ≤ 'z' then some (c.toNat - 87)
    else if 'A' ≤ c ∧ c ≤ 'Z' then some (c.toNat - 55)
    else none
  v.filter (· < radix)

/-- 空でない `radix` 進の数字の列の値。 -/
def radixValue (radix : Nat) (cs : List Char) : Option Nat :=
  if cs.isEmpty then none
  else cs.foldlM (fun acc c => (radixDigit? radix c).map fun d => acc * radix + d) 0

/-- 符号を一つ許した `radix` 進の整数の値。 -/
def signedRadixValue (radix : Nat) (cs : List Char) : Option Int :=
  match cs with
  | '+' :: r => (radixValue radix r).map Int.ofNat
  | '-' :: r => (radixValue radix r).map fun v => -(v : Int)
  | r => (radixValue radix r).map Int.ofNat

/-- `0` で始まり数字だけが続くもの（符号を一つ許す）。数ではなく文字列として扱う。 -/
def digitsButNotNumber (s : String) : Bool :=
  let cs := match s.toList with
    | '+' :: r | '-' :: r => r
    | r => r
  match cs with
  | '0' :: rest => !rest.isEmpty && rest.all Char.isDigit
  | _ => false

/-- 接頭辞 `0` と `mark` のついた `radix` 進の数を試す。`some r` なら答えが `r` に決まり、
`none` なら次を試す。 -/
def radixStep (bound : Nat) (u : List Char) (mark : Char) (radix : Nat) : Option (Option Nat) :=
  match u with
  | '0' :: c :: rest =>
    if c == mark then
      if startsWithSign rest then some none
      else match radixValue radix rest with
        | some v => if v < bound then some (some v) else none
        | none => none
    else none
  | _ => none

/-- `bound` 未満の符号なし整数として読む。 -/
def readUnsigned (bound : Nat) (s : String) : Option Nat :=
  let u := match s.toList with
    | '+' :: r => r
    | r => r
  match radixStep bound u 'x' 16 <|> radixStep bound u 'o' 8 <|> radixStep bound u 'b' 2 with
  | some r => r
  | none =>
    if startsWithSign u || digitsButNotNumber s then none
    else (radixValue 10 u).filter (· < bound)

/-- 接頭辞 `-0` と `mark` のついた負の数を試す。 -/
def negativeStep (lo hi : Int) (cs : List Char) (mark : Char) (radix : Nat) : Option Int :=
  match cs with
  | '-' :: '0' :: c :: rest =>
    if c == mark then (signedRadixValue radix ('-' :: rest)).filter fun v => lo ≤ v && v ≤ hi
    else none
  | _ => none

/-- `[lo, hi]` に入る符号つき整数として読む（負の数を読むのに使う）。 -/
def readNegative (lo hi : Int) (s : String) : Option Int :=
  let cs := s.toList
  match negativeStep lo hi cs 'x' 16 <|> negativeStep lo hi cs 'o' 8 <|> negativeStep lo hi cs 'b' 2 with
  | some v => some v
  | none =>
    if digitsButNotNumber s then none
    else (signedRadixValue 10 cs).filter fun v => lo ≤ v && v ≤ hi

/-- 有限の浮動小数点数として読む。`.inf` `.nan` の形も受ける。 -/
def readYamlFloat (s : String) : Option Float :=
  let (plus, u) := match s.toList with
    | '+' :: r => (true, r)
    | r => (false, r)
  if plus && startsWithSign u then none
  else
    let ustr := String.ofList u
    if ustr == ".inf" || ustr == ".Inf" || ustr == ".INF" then some (infinityOf false)
    else if s == "-.inf" || s == "-.Inf" || s == "-.INF" then some (infinityOf true)
    else if s == ".nan" || s == ".NaN" || s == ".NAN" then some notANumber
    else (readFloat ustr).filter isFiniteFloat

/-- 整数として読んだときの種類：64 ビットの符号なし、64 ビットの負、128 ビットの符号なし、
128 ビットの負の順に試す。 -/
def intUnexpected? (s : String) : Option Unexpected :=
  match readUnsigned (Nat.pow 2 64) s with
  | some n => some (.unsigned n)
  | none =>
    match readNegative (-(Int.pow 2 63)) (Int.pow 2 63 - 1) s with
    | some i => some (.signed i)
    | none =>
      match readUnsigned (Nat.pow 2 128) s with
      | some n => some (.other s!"integer `{n}` as u128")
      | none => (readNegative (-(Int.pow 2 127)) (Int.pow 2 127 - 1) s).map fun i => .other s!"integer `{i}` as i128"

/-- 素のスカラーを解釈したときの種類（型の不一致を伝える文に使う）。 -/
def plainUnexpected (s : String) : Unexpected :=
  if s.isEmpty || isNullWord s then .unit
  else match boolWord? s with
  | some b => .bool b
  | none =>
    match intUnexpected? s with
    | some u => u
    | none =>
      match (if digitsButNotNumber s then none else readYamlFloat s) with
      | some f => .float f
      | none => .str s

/-! ## タグ -/

/-- YAML の標準のタグ（`!!名前` を展開したもの）。 -/
def coreTag (name : String) : String := "tag:yaml.org,2002:" ++ name

/-- スカラーを、タグと書き方に従って読んだときの種類。

`!!bool` `!!int` `!!float` `!!null` のタグは値をその型として読み、読めなければ値の誤りに
なる。`!` で始まるタグの素のスカラーと、タグのない素のスカラーは素のまま解釈する。
それ以外（引用符のスカラーや、ほかのタグ）は文字列である。 -/
def scalarUnexpected (s : String) (style : Style) : Option String → Except DecodeError Unexpected
  | some t =>
    if t == coreTag "bool" then
      match boolWord? s with
      | some b => .ok (.bool b)
      | none => .error (.invalidValue (.str s) "a boolean")
    else if t == coreTag "int" then
      match intUnexpected? s with
      | some u => .ok u
      | none => .error (.invalidValue (.str s) "an integer")
    else if t == coreTag "float" then
      match readYamlFloat s with
      | some f => .ok (.float f)
      | none => .error (.invalidValue (.str s) "a float")
    else if t == coreTag "null" then
      if isNullWord s then .ok .unit else .error (.invalidValue (.str s) "null")
    else if t.startsWith "!" && style == .plain then .ok (plainUnexpected s)
    else .ok (.str s)
  | none => if style == .plain then .ok (plainUnexpected s) else .ok (.str s)

/-- 節点の種類（型の不一致を伝える文に使う）。タグつきのスカラーが読めなければ値の誤り。 -/
def Node.unexpected : Node → Except DecodeError Unexpected
  | .scalar s style tag _ => scalarUnexpected s style tag
  | .seq .. => .ok .seq
  | .map .. => .ok .map
  | .cut _ => .ok .unit

/-- 列挙として読まれる節点か：`!` で始まるタグ（`!!` は展開されて `!` で始まらない）を
持つ。真偽や整数を求めるところでは、列挙は型が合わない。 -/
def Node.enumTagged : Node → Bool
  | .scalar _ _ (some t) _ | .seq _ (some t) _ | .map _ (some t) _ => t.startsWith "!"
  | _ => false

/-- 空の素のスカラー（値を書かなかったところ）か。 -/
def Node.isEmptyPlain : Node → Bool
  | .scalar s .plain _ _ => s.isEmpty
  | _ => false

/-! ## 道筋と誤り -/

/-- 根から節点までの道筋。 -/
inductive Path where
  | root
  | key (parent : Path) (name : String)
  | index (parent : Path) (i : Nat)

/-- 道筋の表示。根は `.`。 -/
def Path.text : Path → String
  | .root => "."
  | .key .root name => name
  | .key p name => p.text ++ "." ++ name
  | .index p i => p.text ++ "[" ++ toString i ++ "]"

/-- 取り出しの誤り。 -/
inductive Failure where
  /-- 値の誤り：道筋、位置、理由。 -/
  | decode (path : Path) (mark : Mark) (reason : DecodeError)
  /-- 値を読む途中で、文書の読み取りの誤りに行き当たった。 -/
  | stream (err : ParseError)

/-- 誤りの文。 -/
def Failure.message : Failure → String
  | .decode path mark reason =>
    let head := match path with
      | .root => ""
      | p => p.text ++ ": "
    let tail := if mark.isStart then "" else " at " ++ mark.text
    head ++ reason.message .plain ++ tail
  | .stream e => e.message

/-- 取り出す関数。 -/
abbrev Decoder (α : Type) := Path → Node → Except Failure α

/-- 型の不一致の誤り。途切れたところなら、読み取りの誤り。 -/
def mismatch {α : Type} (path : Path) (n : Node) (expected : String) : Except Failure α :=
  match n, n.unexpected with
  | .cut e, _ => .error (.stream e)
  | _, .ok u => .error (.decode path n.mark (.invalidType u expected))
  | _, .error reason => .error (.decode path n.mark reason)

/-- 列挙が来たときの型の不一致。 -/
def enumMismatch {α : Type} (path : Path) (n : Node) (expected : String) : Except Failure α :=
  .error (.decode path n.mark (.invalidType (.other "enum") expected))

mutual

/-- 節点の中の、最初の途切れたところの誤り。 -/
def Node.cutError? : Node → Option ParseError
  | .cut e => some e
  | .scalar .. => none
  | .seq items _ _ => cutErrorItems items
  | .map entries _ _ => cutErrorEntries entries

/-- 列の要素の中の、最初の途切れたところの誤り。 -/
def cutErrorItems : List Node → Option ParseError
  | [] => none
  | x :: xs => x.cutError? <|> cutErrorItems xs

/-- 写像の組の中の、最初の途切れたところの誤り。 -/
def cutErrorEntries : List (Node × Node) → Option ParseError
  | [] => none
  | (k, v) :: es => k.cutError? <|> v.cutError? <|> cutErrorEntries es

end

/-! ## 取り出す関数 -/

/-- 文字列。どのスカラーからも取り出せる（タグは見ない）。 -/
def decodeText (expected : String) : Decoder String := fun path n =>
  match n with
  | .scalar s _ _ _ => .ok s
  | _ => mismatch path n expected

/-- 真偽。 -/
def decodeFlag : Decoder Bool := fun path n =>
  if n.enumTagged then enumMismatch path n "a boolean"
  else match n, n.unexpected with
    | .scalar .., .ok (.bool b) => .ok b
    | _, _ => mismatch path n "a boolean"

/-- 64 ビットの符号なし整数。64 ビットに収まる負の数は型は合うが値が範囲の外なので、
型の不一致ではなく値の誤りになる。 -/
def decodeSize : Decoder Nat := fun path n =>
  if n.enumTagged then enumMismatch path n "usize"
  else match n, n.unexpected with
    | .scalar .., .ok (.unsigned v) => .ok v
    | .scalar .., .ok (.signed i) => .error (.decode path n.mark (.invalidValue (.signed i) "usize"))
    | _, _ => mismatch path n "usize"

/-- 列。 -/
def decodeList {α : Type} (item : Decoder α) : Decoder (List α) := fun path n =>
  match n with
  | .seq items _ _ =>
    (items.zipIdx.mapM fun (x, i) => item (.index path i) x)
  | _ => if n.isEmptyPlain then .ok [] else mismatch path n "a sequence"

/-- 構造体のフィールド：名前と、値を読んで今の値を更新する関数。 -/
abbrev FieldDecoder (σ : Type) := String × (Path → Node → σ → Except Failure σ)

/-- 構造体のフィールドを読む。`seen` は読んだフィールドの名前。 -/
def readFields {σ : Type} (fields : List (FieldDecoder σ)) (path : Path) (m : Mark) :
    List (Node × Node) → σ → List String → Except Failure σ
  | [], st, _ => .ok st
  | (k, v) :: rest, st, seen =>
    match k with
    | .scalar name _ _ _ =>
      match fields.lookup name with
      | some f =>
        if seen.contains name then .error (.decode path m (.custom s!"duplicate field `{name}`"))
        else match f (.key path name) v st with
          | .ok st => readFields fields path m rest st (name :: seen)
          | .error e => .error e
      | none =>
        match v.cutError? with
        | some e => .error (.stream e)
        | none => readFields fields path m rest st seen
    | _ => mismatch path k "field identifier"

/-- 既定値を持つ構造体。写像か空の素のスカラーから取り出す。 -/
def decodeStruct {σ : Type} (name : String) (fields : List (FieldDecoder σ)) (init : σ) : Decoder σ :=
  fun path n =>
    match n with
    | .map entries _ m => readFields fields path m entries init []
    | _ => if n.isEmptyPlain then .ok init else mismatch path n ("struct " ++ name)

end Workflow.Yaml
