import Workflow.Json.Value
import Workflow.Decimal.Read

/-!
# JSON を読む

バイト列から `Value` を読む。誤りには種類と位置（行と、行頭からのバイト数）が付く。

* 空白は空白・改行・タブ・復帰の 4 種だけ。
* 数：先頭の `0` の後に数字は続けられない。`-` の後には数字が要る。小数点の後と `e` の後にも
  1 桁以上の数字が要る。小数点も指数もない数は、`2^64` 未満なら負でない整数、`-2^63` 以上なら
  負の整数になる。それ以外は double になる。`-0` は double の `-0.0` である。
* double は、仮数を 64 ビットに収まるだけ整数として集め（あふれた桁は指数へ回す）、
  `10^k` の表の値を掛けるか割るかして作る。掛けて無限大になれば「範囲外」である。
  この作り方は最近接丸めと 1 ulp ずれることがある。
* 文字列の中の制御文字は誤り。`\u` の後は 4 桁の 16 進で、サロゲートは対でなければならない。
* 入れ子は 127 段まで。
* 値の後ろには空白しか残ってはならない。

誤りの位置は二通りある。その場の位置と、次の 1 バイトを見た後の位置である。
読み手には二つの型がある。文字列を読む `Source.text` と、バイトの流れを読む `Source.stream` で、
後者は先読みした 1 バイトも位置に数え、文字列の中身が UTF-8 として正しいかも調べる。

## 停止性

文字列・数・空白のループは残りのバイト列についての構造的再帰である。値の入れ子と配列・
オブジェクトの要素のループは `fuel` で止める。`fuel` は入力の長さの 2 倍あれば尽きない。
呼び出しが 2 段進むごとに少なくとも 1 バイト読むからである。
-/

namespace Workflow.Json

/-- 読み取りの誤りの種類。 -/
inductive SyntaxCode where
  | eofWhileParsingList
  | eofWhileParsingObject
  | eofWhileParsingString
  | eofWhileParsingValue
  | expectedColon
  | expectedListCommaOrEnd
  | expectedObjectCommaOrEnd
  | expectedSomeIdent
  | expectedSomeValue
  | invalidEscape
  | invalidNumber
  | numberOutOfRange
  | invalidUnicodeCodePoint
  | controlCharacterWhileParsingString
  | keyMustBeAString
  | loneLeadingSurrogateInHexEscape
  | trailingComma
  | trailingCharacters
  | unexpectedEndOfHexEscape
  | recursionLimitExceeded
  deriving Repr, BEq

/-- 誤りの種類の文。 -/
def SyntaxCode.message : SyntaxCode → String
  | .eofWhileParsingList => "EOF while parsing a list"
  | .eofWhileParsingObject => "EOF while parsing an object"
  | .eofWhileParsingString => "EOF while parsing a string"
  | .eofWhileParsingValue => "EOF while parsing a value"
  | .expectedColon => "expected `:`"
  | .expectedListCommaOrEnd => "expected `,` or `]`"
  | .expectedObjectCommaOrEnd => "expected `,` or `\x7d`"
  | .expectedSomeIdent => "expected ident"
  | .expectedSomeValue => "expected value"
  | .invalidEscape => "invalid escape"
  | .invalidNumber => "invalid number"
  | .numberOutOfRange => "number out of range"
  | .invalidUnicodeCodePoint => "invalid unicode code point"
  | .controlCharacterWhileParsingString => "control character (\\u0000-\\u001F) found while parsing a string"
  | .keyMustBeAString => "key must be a string"
  | .loneLeadingSurrogateInHexEscape => "lone leading surrogate in hex escape"
  | .trailingComma => "trailing comma"
  | .trailingCharacters => "trailing characters"
  | .unexpectedEndOfHexEscape => "unexpected end of hex escape"
  | .recursionLimitExceeded => "recursion limit exceeded"

/-- 入力の中の位置。行は 1 から、列は行頭からのバイト数。 -/
structure Position where
  line : Nat := 1
  column : Nat := 0
  deriving Repr, BEq

/-- 1 バイト進んだ位置。 -/
def Position.advance (p : Position) (b : UInt8) : Position :=
  if b == 10 then { line := p.line + 1, column := 0 } else { p with column := p.column + 1 }

/-- 読み取りの誤り。 -/
structure SyntaxError where
  code : SyntaxCode
  pos : Position
  deriving Repr, BEq

/-- 誤りの文。 -/
def SyntaxError.message (e : SyntaxError) : String :=
  e.code.message ++ " at line " ++ toString e.pos.line ++ " column " ++ toString e.pos.column

/-- 読み手の型。 -/
inductive Source where
  /-- 正しい UTF-8 の文字列を読む。 -/
  | text
  /-- バイトの流れを読む。先読みした 1 バイトも位置に数える。 -/
  | stream
  deriving BEq

/-- 読みかけの状態。残りのバイト列と今の位置。 -/
structure Cursor where
  rest : List UInt8
  pos : Position

namespace Cursor

/-- 1 バイト読み進める。 -/
def eat (c : Cursor) : Cursor :=
  match c.rest with
  | [] => c
  | b :: r => ⟨r, c.pos.advance b⟩

/-- 次の 1 バイトを見た後の位置。 -/
def peekPos (c : Cursor) : Position :=
  match c.rest with
  | [] => c.pos
  | b :: _ => c.pos.advance b

/-- 次のバイト。 -/
def peek (c : Cursor) : Option UInt8 :=
  c.rest.head?

/-- その場の位置での誤り。 -/
def fail {α : Type} (c : Cursor) (code : SyntaxCode) : Except SyntaxError α :=
  .error ⟨code, c.pos⟩

/-- 次の 1 バイトを見た後の位置での誤り。 -/
def failPeek {α : Type} (c : Cursor) (code : SyntaxCode) : Except SyntaxError α :=
  .error ⟨code, c.peekPos⟩

end Cursor

/-- 空白を読み飛ばす。 -/
def skipWs : List UInt8 → Position → Cursor
  | b :: r, p => if b == 32 || b == 10 || b == 9 || b == 13 then skipWs r (p.advance b) else ⟨b :: r, p⟩
  | [], p => ⟨[], p⟩

/-- 空白を読み飛ばした状態。 -/
def Cursor.skip (c : Cursor) : Cursor :=
  skipWs c.rest c.pos

/-- ASCII の数字か。 -/
def isDigitByte (b : UInt8) : Bool :=
  48 ≤ b && b ≤ 57

/-- `10^k` の表（`k ≤ 308`）。 -/
def pow10Table : Array Float :=
  ((List.range 309).map fun (k : Nat) => Workflow.Decimal.Decimal.toFloat false 1 (Int.ofNat k)).toArray

/-- `a · 10 + d` が `limit` を超えるか。 -/
def overflows (a d limit : Nat) : Bool :=
  a ≥ limit / 10 && (a > limit / 10 || d > limit % 10)

/-- 64 ビット符号なしの最大値。 -/
def u64Max : Nat := Nat.pow 2 64 - 1

/-- 32 ビット符号つきの最大値。 -/
def i32Max : Int := Int.pow 2 31 - 1

/-- 32 ビット符号つきの最小値。 -/
def i32Min : Int := -(Int.pow 2 31)

/-- 符号なし 64 ビット整数と 10 の冪の指数から double を作る。`10^k` の表の値で掛けるか割る。
表にない指数では 1e308 で割って指数を 308 ずつ戻す。 -/
def floatFromParts (positive : Bool) (sig : Nat) (exp : Int) : Option Float :=
  let rec go (f : Float) (exp : Int) : Nat → Option Float
    | 0 => some f
    | fuel + 1 =>
      match pow10Table[exp.natAbs]? with
      | some pow =>
        if exp ≥ 0 then
          let g := f * pow
          if g.isInf then none else some g
        else some (f / pow)
      | none =>
        if f == 0 then some f
        else if exp ≥ 0 then none
        else go (f / 1e308) (exp + 308) fuel
  (go (Workflow.Decimal.Decimal.natToFloat sig) exp 8).map fun f => if positive then f else -f

/-- 数の末尾で double を作る。範囲外の誤りの位置は読み手の型による。 -/
def finishFloat (src : Source) (positive : Bool) (sig : Nat) (exp : Int) (c : Cursor) : Except SyntaxError (Number × Cursor) :=
  match floatFromParts positive sig exp with
  | some f => .ok (.float f, c)
  | none => if src == .stream then c.failPeek .numberOutOfRange else c.fail .numberOutOfRange

/-- 32 ビットで飽和する足し算。 -/
def saturate32 (x : Int) : Int :=
  max i32Min (min i32Max x)

/-- 指数のあふれ。仮数が 0 でなく指数が正なら範囲外、そうでなければ残りの数字を読み捨てて 0。 -/
def exponentOverflow (positive zeroSig positiveExp : Bool) (c : Cursor) : Except SyntaxError (Number × Cursor) :=
  if !zeroSig && positiveExp then c.fail .numberOutOfRange
  else
    let rest := c.rest.dropWhile isDigitByte
    let n := c.rest.length - rest.length
    let c' : Cursor := ⟨rest, { c.pos with column := c.pos.column + n }⟩
    .ok (.float (if positive then 0.0 else -0.0), c')

/-- 指数の数字を読む。 -/
def exponentDigits (src : Source) (positive : Bool) (sig : Nat) (start : Int) (positiveExp : Bool)
    (acc : Nat) : List UInt8 → Position → Except SyntaxError (Number × Cursor)
  | b :: r, p =>
    if isDigitByte b then
      let d := (b - 48).toNat
      let c' : Cursor := ⟨r, p.advance b⟩
      if overflows acc d i32Max.toNat then exponentOverflow positive (sig == 0) positiveExp c'
      else exponentDigits src positive sig start positiveExp (acc * 10 + d) r (p.advance b)
    else
      let e := if positiveExp then saturate32 (start + acc) else saturate32 (start - acc)
      finishFloat src positive sig e ⟨b :: r, p⟩
  | [], p =>
    let e := if positiveExp then saturate32 (start + acc) else saturate32 (start - acc)
    finishFloat src positive sig e ⟨[], p⟩

/-- `e` の位置から指数を読む。 -/
def parseExponent (src : Source) (positive : Bool) (sig : Nat) (start : Int) (c : Cursor) : Except SyntaxError (Number × Cursor) :=
  let c := c.eat
  let (positiveExp, c) := match c.peek with
    | some 43 => (true, c.eat)
    | some 45 => (false, c.eat)
    | _ => (true, c)
  match c.rest with
  | [] => c.fail .eofWhileParsingValue
  | b :: r =>
    let c1 : Cursor := ⟨r, c.pos.advance b⟩
    if isDigitByte b then exponentDigits src positive sig start positiveExp (b - 48).toNat c1.rest c1.pos
    else c1.fail .invalidNumber

/-- 仮数があふれた後の数字を読み捨てる。 -/
def decimalOverflow (src : Source) (positive : Bool) (sig : Nat) (exp : Int) (c : Cursor) : Except SyntaxError (Number × Cursor) :=
  let rest := c.rest.dropWhile isDigitByte
  let n := c.rest.length - rest.length
  let c' : Cursor := ⟨rest, { c.pos with column := c.pos.column + n }⟩
  match c'.peek with
  | some 101 | some 69 => parseExponent src positive sig exp c'
  | _ => finishFloat src positive sig exp c'

/-- 小数点の後の数字を読む。`after` は小数点以下の桁数を負にした指数。 -/
def decimalDigits (src : Source) (positive : Bool) (before : Int) (sig : Nat) (after : Int) :
    List UInt8 → Position → Except SyntaxError (Number × Cursor)
  | b :: r, p =>
    if isDigitByte b then
      let d := (b - 48).toNat
      if overflows sig d u64Max then decimalOverflow src positive sig (before + after) ⟨b :: r, p⟩
      else decimalDigits src positive before (sig * 10 + d) (after - 1) r (p.advance b)
    else if after == 0 then Cursor.failPeek ⟨b :: r, p⟩ .invalidNumber
    else if b == 101 || b == 69 then parseExponent src positive sig (before + after) ⟨b :: r, p⟩
    else finishFloat src positive sig (before + after) ⟨b :: r, p⟩
  | [], p =>
    if after == 0 then Cursor.failPeek ⟨[], p⟩ .eofWhileParsingValue
    else finishFloat src positive sig (before + after) ⟨[], p⟩

/-- 64 ビットに収まらない整数部の残りを読む。あふれた桁は指数に回す。 -/
def longIntegerDigits (src : Source) (positive : Bool) (sig : Nat) (exp : Int) :
    List UInt8 → Position → Except SyntaxError (Number × Cursor)
  | b :: r, p =>
    if isDigitByte b then longIntegerDigits src positive sig (exp + 1) r (p.advance b)
    else if b == 46 then decimalDigits src positive exp sig 0 r (p.advance b)
    else if b == 101 || b == 69 then parseExponent src positive sig exp ⟨b :: r, p⟩
    else finishFloat src positive sig exp ⟨b :: r, p⟩
  | [], p => finishFloat src positive sig exp ⟨[], p⟩

/-- 整数部の後ろ。小数点か指数が続かなければ整数になる。 -/
def numberTail (src : Source) (positive : Bool) (sig : Nat) (c : Cursor) : Except SyntaxError (Number × Cursor) :=
  match c.peek with
  | some 46 => decimalDigits src positive 0 sig 0 c.eat.rest c.eat.pos
  | some 101 | some 69 => parseExponent src positive sig 0 c
  | _ =>
    if positive then .ok (.nat sig, c)
    else if sig == 0 then .ok (.float (-0.0), c)
    else if sig ≤ Nat.pow 2 63 then .ok (.neg (-(sig : Int)), c)
    else .ok (.float (-(Workflow.Decimal.Decimal.natToFloat sig)), c)

/-- 整数部の数字を読む。 -/
def integerDigits (src : Source) (positive : Bool) (sig : Nat) : List UInt8 → Position → Except SyntaxError (Number × Cursor)
  | b :: r, p =>
    if isDigitByte b then
      let d := (b - 48).toNat
      if overflows sig d u64Max then longIntegerDigits src positive sig 0 (b :: r) p
      else integerDigits src positive (sig * 10 + d) r (p.advance b)
    else numberTail src positive sig ⟨b :: r, p⟩
  | [], p => numberTail src positive sig ⟨[], p⟩

/-- 数を読む。符号はすでに読んである。 -/
def parseNumber (src : Source) (positive : Bool) (c : Cursor) : Except SyntaxError (Number × Cursor) :=
  match c.rest with
  | [] => c.fail .eofWhileParsingValue
  | b :: r =>
    let c1 : Cursor := ⟨r, c.pos.advance b⟩
    if b == 48 then
      match c1.peek with
      | some d => if isDigitByte d then c1.failPeek .invalidNumber else numberTail src positive 0 c1
      | none => numberTail src positive 0 c1
    else if isDigitByte b then integerDigits src positive (b - 48).toNat c1.rest c1.pos
    else c1.fail .invalidNumber

/-! ## 文字列 -/

/-- 16 進の 1 桁の値。 -/
def hexValue (b : UInt8) : Option Nat :=
  if 48 ≤ b && b ≤ 57 then some (b - 48).toNat
  else if 97 ≤ b && b ≤ 102 then some (b - 87).toNat
  else if 65 ≤ b && b ≤ 70 then some (b - 55).toNat
  else none

/-- `n` バイト読み進める。 -/
def Cursor.eatN (c : Cursor) : Nat → Cursor
  | 0 => c
  | n + 1 => (c.eat).eatN n

/-- `\u` の後の 16 進 4 桁を読む。 -/
def decodeHex (src : Source) (c : Cursor) : Except SyntaxError (Nat × Cursor) :=
  match src with
  | .text =>
    match c.rest with
    | a :: b :: d :: e :: _ =>
      let c' := c.eatN 4
      match hexValue a, hexValue b, hexValue d, hexValue e with
      | some x, some y, some z, some w => .ok (((x * 16 + y) * 16 + z) * 16 + w, c')
      | _, _, _, _ => c'.fail .invalidEscape
    | _ => (c.eatN c.rest.length).fail .eofWhileParsingString
  | .stream =>
    let rec go (acc : Nat) (c : Cursor) : Nat → Except SyntaxError (Nat × Cursor)
      | 0 => .ok (acc, c)
      | k + 1 =>
        match c.rest with
        | [] => c.fail .eofWhileParsingString
        | b :: _ =>
          let c' := c.eat
          match hexValue b with
          | some v => go (acc * 16 + v) c' k
          | none => c'.fail .invalidEscape
    go 0 c 4

/-- code point の UTF-8 のバイト列。 -/
def utf8Bytes (n : Nat) : List UInt8 :=
  (String.singleton (Char.ofNat n)).toUTF8.toList

/-- `\u` に続く部分を読み、UTF-8 にして返す。 -/
def unicodeEscape (src : Source) (c : Cursor) : Except SyntaxError ((List UInt8) × Cursor) := do
  let (n, c) ← decodeHex src c
  if 0xDC00 ≤ n ∧ n ≤ 0xDFFF then c.fail .loneLeadingSurrogateInHexEscape
  else if n < 0xD800 ∨ n > 0xDBFF then pure (utf8Bytes n, c)
  else
    match c.peek with
    | none => c.fail .eofWhileParsingString
    | some 92 =>
      let c := c.eat
      match c.peek with
      | none => c.fail .eofWhileParsingString
      | some 117 =>
        let (n2, c) ← decodeHex src c.eat
        if n2 < 0xDC00 ∨ n2 > 0xDFFF then c.fail .loneLeadingSurrogateInHexEscape
        else pure (utf8Bytes (((n - 0xD800) * 1024 + (n2 - 0xDC00)) + 0x10000), c)
      | some _ => c.eat.fail .unexpectedEndOfHexEscape
    | some _ => c.eat.fail .unexpectedEndOfHexEscape

/-- `\` の後の 1 文字を読む。 -/
def parseEscape (src : Source) (c : Cursor) : Except SyntaxError ((List UInt8) × Cursor) :=
  match c.rest with
  | [] => c.fail .eofWhileParsingString
  | b :: _ =>
    let c' := c.eat
    if b == 34 || b == 92 || b == 47 then .ok ([b], c')
    else if b == 98 then .ok ([8], c')
    else if b == 102 then .ok ([12], c')
    else if b == 110 then .ok ([10], c')
    else if b == 114 then .ok ([13], c')
    else if b == 116 then .ok ([9], c')
    else if b == 117 then unicodeEscape src c'
    else c'.fail .invalidEscape

/-- 文字列の中身を読む。`acc` は読んだバイトを逆順に持つ。 -/
def stringBody (src : Source) (acc : List UInt8) (c : Cursor) (fuel : Nat) : Except SyntaxError ((List UInt8) × Cursor) :=
  match fuel with
  | 0 => c.fail .eofWhileParsingString
  | fuel + 1 =>
    match c.rest with
    | [] => c.fail .eofWhileParsingString
    | b :: _ =>
      let c' := c.eat
      if b == 34 then .ok (acc.reverse, c')
      else if b == 92 then
        match parseEscape src c' with
        | .ok (bs, c'') => stringBody src (bs.reverse ++ acc) c'' fuel
        | .error e => .error e
      else if b < 32 then c'.fail .controlCharacterWhileParsingString
      else stringBody src (b :: acc) c' fuel

/-- 開き引用符の後から文字列を読む。 -/
def parseString (src : Source) (c : Cursor) : Except SyntaxError (String × Cursor) := do
  let (bs, c') ← stringBody src [] c (c.rest.length + 1)
  match String.fromUTF8? (ByteArray.mk bs.toArray) with
  | some s => pure (s, c')
  | none => c'.fail .invalidUnicodeCodePoint

/-- `null`・`true`・`false` の残りの綴りを読む。 -/
def parseIdent (c : Cursor) : List UInt8 → Except SyntaxError Cursor
  | [] => .ok c
  | x :: xs =>
    match c.rest with
    | [] => c.fail .eofWhileParsingValue
    | b :: _ => if b == x then parseIdent c.eat xs else c.eat.fail .expectedSomeIdent

/-! ## 値 -/

mutual

/-- 値を一つ読む。`depth` は残りの入れ子の段数。 -/
def parseValue (src : Source) (depth : Nat) (c : Cursor) : Nat → Except SyntaxError (Value × Cursor)
  | 0 => c.fail .recursionLimitExceeded
  | fuel + 1 =>
    let c := c.skip
    match c.rest with
    | [] => c.failPeek .eofWhileParsingValue
    | b :: _ =>
      if b == 110 then (parseIdent c.eat [117, 108, 108]).map fun c => (.null, c)
      else if b == 116 then (parseIdent c.eat [114, 117, 101]).map fun c => (.bool true, c)
      else if b == 102 then (parseIdent c.eat [97, 108, 115, 101]).map fun c => (.bool false, c)
      else if b == 45 then (parseNumber src false c.eat).map fun (n, c) => (.number n, c)
      else if isDigitByte b then (parseNumber src true c).map fun (n, c) => (.number n, c)
      else if b == 34 then (parseString src c.eat).map fun (s, c) => (.string s, c)
      else if b == 91 then
        if depth ≤ 1 then c.failPeek .recursionLimitExceeded
        else do
          let (items, c) ← parseItems src (depth - 1) true [] c.eat fuel
          pure (.array items, c.eat)
      else if b == 123 then
        if depth ≤ 1 then c.failPeek .recursionLimitExceeded
        else do
          let (fields, c) ← parseFields src (depth - 1) true [] c.eat fuel
          pure (.object fields, c.eat)
      else c.failPeek .expectedSomeValue

/-- 配列の要素を `]` の手前まで読む。`acc` は読んだ要素を逆順に持つ。 -/
def parseItems (src : Source) (depth : Nat) (first : Bool) (acc : List Value) (c : Cursor) :
    Nat → Except SyntaxError ((List Value) × Cursor)
  | 0 => c.fail .recursionLimitExceeded
  | fuel + 1 =>
    let c := c.skip
    let next : Except SyntaxError Cursor :=
      match c.rest with
      | [] => c.failPeek .eofWhileParsingList
      | b :: _ =>
        if b == 93 then .ok c
        else if b == 44 && !first then .ok c.eat.skip
        else if first then .ok c
        else c.failPeek .expectedListCommaOrEnd
    match next with
    | .error e => .error e
    | .ok c' =>
      match c.rest, c'.rest with
      | 93 :: _, _ => .ok (acc.reverse, c)
      | _, [] => c'.failPeek .eofWhileParsingValue
      | _, 93 :: _ => c'.failPeek .trailingComma
      | _, _ => do
        let (v, c'') ← parseValue src depth c' fuel
        parseItems src depth false (v :: acc) c'' fuel

/-- オブジェクトのフィールドを `}` の手前まで読む。同じキーは後のものが残る。 -/
def parseFields (src : Source) (depth : Nat) (first : Bool) (acc : List (String × Value))
    (c : Cursor) : Nat → Except SyntaxError ((List (String × Value)) × Cursor)
  | 0 => c.fail .recursionLimitExceeded
  | fuel + 1 =>
    let c := c.skip
    let next : Except SyntaxError Cursor :=
      match c.rest with
      | [] => c.failPeek .eofWhileParsingObject
      | b :: _ =>
        if b == 125 then .ok c
        else if b == 44 && !first then .ok c.eat.skip
        else if first then .ok c
        else c.failPeek .expectedObjectCommaOrEnd
    match next with
    | .error e => .error e
    | .ok c' =>
      match c.rest, c'.rest with
      | 125 :: _, _ => .ok (acc, c)
      | _, [] => c'.failPeek .eofWhileParsingValue
      | _, 125 :: _ => c'.failPeek .trailingComma
      | _, 34 :: _ => do
        let (k, c1) ← parseString src c'.eat
        let c2 := c1.skip
        let c3 ← match c2.rest with
          | 58 :: _ => pure c2.eat
          | [] => c2.failPeek .eofWhileParsingObject
          | _ => c2.failPeek .expectedColon
        let (v, c4) ← parseValue src depth c3 fuel
        parseFields src depth false (Value.insertField k v acc) c4 fuel
      | _, _ => c'.failPeek .keyMustBeAString

end

/-- バイト列全体を一つの値として読む。値の後ろには空白しか許さない。 -/
def parseBytes (src : Source) (bytes : List UInt8) : Except SyntaxError Value := do
  let (v, c) ← parseValue src 128 ⟨bytes, {}⟩ (2 * bytes.length + 4)
  let c := c.skip
  match c.rest with
  | [] => pure v
  | _ => c.failPeek .trailingCharacters

/-- 文字列を一つの値として読む。 -/
def parseText (s : String) : Except SyntaxError Value :=
  parseBytes .text s.toUTF8.toList

end Workflow.Json
