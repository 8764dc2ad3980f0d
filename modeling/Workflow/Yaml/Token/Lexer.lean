import Workflow.Yaml.Token

/-!
# YAML の字句を読む

文字の並びを字句の並びに分ける読み手。

## 字下げ

ブロックの入れ子は字下げで表す。読み手は字下げの段を積み重ねて持ち、行がより深い桁で
列か写像を始めれば段を積み、浅い桁に戻れば段ごとに終わりの字句を出す。フローの中
（括弧の中）では字下げを見ない。

## 鍵の候補

`key: value` の鍵は、`:` を見るまで鍵だとわからない。鍵になりうる字句を読んだら、その位置と
字句の番号を「鍵の候補」として覚えておき、`:` が来たら、候補の字句の前に鍵の字句
（ブロックの中なら写像の始まりも）を差し込む。候補は行が変わるか 1024 文字を超えると消える。
ブロックの中で字下げと同じ桁から始まる候補は必ず鍵でなければならず、消えるときに誤りになる。

字句は求められるたびに必要な分だけ読む。候補になっている字句は、その後ろを読んで鍵か
どうかが決まるまで渡さない。読み取りの誤りは読んだところで起きるので、後ろにある誤りは、
前の字句を渡し終えるまで現れない。

## 停止性

文字を読むどの繰り返しも、1 文字以上進むか、そこで終わる。繰り返しには残りの文字数より
多い燃料を渡す。字句を足す繰り返しは、1 回ごとに 1 文字以上読むか流れを閉じるので、
残りの文字数の 2 倍より多い燃料で足りる。
-/

namespace Workflow.Yaml

/-- 鍵の候補。`tokenNumber` は候補の字句の通し番号。 -/
structure KeyCandidate where
  possible : Bool := false
  required : Bool := false
  tokenNumber : Nat := 0
  mark : Pos := {}

/-- 字句を読む者の状態。

`indents` と `keyCandidates` は先頭が一番上の段である。`tokens` は読んだがまだ渡していない
字句の列、`tokensTaken` は渡し終えた字句の数。 -/
structure Lexer where
  input : Array Char
  pos : Pos := {}
  streamStarted : Bool := false
  streamEnded : Bool := false
  flowLevel : Nat := 0
  indent : Int := -1
  indents : List Int := []
  keyAllowed : Bool := false
  keyCandidates : List KeyCandidate := []
  tokens : List Token := []
  tokensTaken : Nat := 0
  headReady : Bool := false

namespace Lexer

/-- 今の位置から `k` 文字先の文字。 -/
def at? (s : Lexer) (k : Nat) : Option Char := s.input[s.pos.index + k]?

/-- `k` 文字先が `c` か。 -/
def check (s : Lexer) (c : Char) (k : Nat := 0) : Bool := s.at? k == some c

/-- `k` 文字先が終わりか。 -/
def isEnd (s : Lexer) (k : Nat := 0) : Bool := (s.at? k).isNone

/-- `k` 文字先が改行か。 -/
def isBreak (s : Lexer) (k : Nat := 0) : Bool :=
  match s.at? k with
  | some c => isBreakChar c
  | none => false

/-- `k` 文字先が改行か終わりか。 -/
def isBreakOrEnd (s : Lexer) (k : Nat := 0) : Bool := s.isBreak k || s.isEnd k

/-- `k` 文字先が空白か。 -/
def isBlank (s : Lexer) (k : Nat := 0) : Bool :=
  match s.at? k with
  | some c => isBlankChar c
  | none => false

/-- `k` 文字先が空白か改行か終わりか。 -/
def isSpaceOrEnd (s : Lexer) (k : Nat := 0) : Bool := s.isBlank k || s.isBreakOrEnd k

/-- `k` 文字先が名前の文字か。 -/
def isWord (s : Lexer) (k : Nat := 0) : Bool :=
  match s.at? k with
  | some c => isWordChar c
  | none => false

/-- `k` 文字先が 10 進の数字か。 -/
def isDigit (s : Lexer) (k : Nat := 0) : Bool :=
  match s.at? k with
  | some c => c.isDigit
  | none => false

/-- `k` 文字先が `cs` のどれかか。 -/
def isOneOf (s : Lexer) (cs : List Char) (k : Nat := 0) : Bool :=
  match s.at? k with
  | some c => cs.contains c
  | none => false

/-- 残りの文字数。 -/
def remaining (s : Lexer) : Nat := s.input.size - s.pos.index

/-- 文書の区切り（`---` か `...` のあとに空白か改行か終わり）か。 -/
def isDocumentIndicator (s : Lexer) (c : Char) : Bool :=
  s.check c && s.check c 1 && s.check c 2 && s.isSpaceOrEnd 3

/-- 1 文字進む。改行でない文字の上で使う。 -/
def skip (s : Lexer) : Lexer :=
  if s.pos.index < s.input.size then
    { s with pos := { s.pos with index := s.pos.index + 1, column := s.pos.column + 1 } }
  else s

/-- 改行を一つ読み飛ばす。CR LF で一つの改行である。 -/
def skipLine (s : Lexer) : Lexer :=
  if s.check '\r' && s.check '\n' 1 then
    { s with pos := { index := s.pos.index + 2, line := s.pos.line + 1, column := 0 } }
  else if s.isBreak then
    { s with pos := { index := s.pos.index + 1, line := s.pos.line + 1, column := 0 } }
  else s

/-- 改行を一つ読み、値に足す文字列を返す。CR、LF、CR LF、NEL は LF になり、LS と PS は
そのまま残る。改行でなければ何も読まない。 -/
def readLine (s : Lexer) : String × Lexer :=
  if !s.isBreak then ("", s)
  else
    let text := match s.at? 0 with
      | some '\u2028' => "\u2028"
      | some '\u2029' => "\u2029"
      | _ => "\n"
    (text, s.skipLine)

/-- 空白を読み飛ばす。 -/
def skipBlanks : Nat → Lexer → Lexer
  | 0, s => s
  | n + 1, s => if s.isBlank then skipBlanks n s.skip else s

/-- 改行か終わりの手前まで読み飛ばす。 -/
def skipToBreak : Nat → Lexer → Lexer
  | 0, s => s
  | n + 1, s => if s.isBreakOrEnd then s else skipToBreak n s.skip

/-- コメントがあれば行の終わりの手前まで読み飛ばす。 -/
def skipComment (fuel : Nat) (s : Lexer) : Lexer :=
  if s.check '#' then skipToBreak fuel s else s

/-- 字句の間の空白を読み飛ばす。タブは、フローの中か鍵を置けないところでだけ
区切りになる（行頭のタブは字下げにならない）。 -/
def skipSeparators : Nat → Lexer → Lexer
  | 0, s => s
  | n + 1, s =>
    if s.check ' ' || ((s.flowLevel > 0 || !s.keyAllowed) && s.check '\t') then
      skipSeparators n s.skip
    else s

/-- 名前の文字を読む。 -/
def readWord : Nat → String → Lexer → String × Lexer
  | 0, acc, s => (acc, s)
  | n + 1, acc, s =>
    match s.at? 0 with
    | some c => if isWordChar c then readWord n (acc.push c) s.skip else (acc, s)
    | none => (acc, s)

/-- 改行か終わりの手前までの文字を読む。 -/
def readToBreak : Nat → String → Lexer → String × Lexer
  | 0, acc, s => (acc, s)
  | n + 1, acc, s =>
    match s.at? 0 with
    | some c => if isBreakChar c then (acc, s) else readToBreak n (acc.push c) s.skip
    | none => (acc, s)

/-- 素のスカラーを始められる文字か。`-` `?` `:` は、後ろが空白でなければ始められる
（`?` と `:` はブロックの中でだけ）。 -/
def startsPlain (s : Lexer) : Bool :=
  !(s.isSpaceOrEnd || s.isOneOf indicatorChars) ||
    (s.check '-' && !s.isBlank 1) ||
    (s.flowLevel == 0 && (s.check '?' || s.check ':') && !s.isSpaceOrEnd 1)

end Lexer

/-- 字句を読む計算。誤りで止まる。 -/
abbrev LexM := StateT Lexer (Except ParseError)

/-- 字句を読む誤り。問題の位置は今の位置。 -/
def lexError {α : Type} (context : Option String) (contextMark : Pos) (problem : String) :
    LexM α := do
  let s ← get
  throw { problem, problemMark := s.pos.mark, context := context.map fun c => (c, contextMark.mark) }

/-- 燃料：残りの文字数より多い数。 -/
def charFuel : LexM Nat := do
  pure ((← get).remaining + 2)

/-! ## 字句の列と鍵 -/

/-- 字句を列の最後に足す。 -/
def enqueue (t : Token) : LexM Unit :=
  modify fun s => { s with tokens := s.tokens ++ [t] }

/-- 字句を列の `i` 番目に差し込む。 -/
def insertToken (i : Nat) (t : Token) : LexM Unit :=
  modify fun s => { s with tokens := s.tokens.take i ++ t :: s.tokens.drop i }

/-- 今の位置から始まる、種類 `kind` の 1 文字の字句を読む。 -/
def singleCharToken (kind : TokenKind) : LexM Unit := do
  let start := (← get).pos
  modify Lexer.skip
  enqueue ⟨kind, start, (← get).pos⟩

/-- 古くなった候補を消す。行が変わったか 1024 文字を超えた候補は鍵になれない。
必ず鍵であるべき候補が古くなれば誤り。 -/
def dropStaleCandidates : LexM Unit := do
  let s ← get
  let stale (k : KeyCandidate) : Bool :=
    k.possible && (k.mark.line < s.pos.line || k.mark.index + 1024 < s.pos.index)
  match s.keyCandidates.reverse.find? fun k => stale k && k.required with
  | some k => lexError (some "while scanning a simple key") k.mark "could not find expected ':'"
  | none =>
    set { s with keyCandidates := s.keyCandidates.map fun k => if stale k then { k with possible := false } else k }

/-- 今の段の候補を消す。必ず鍵であるべき候補なら誤り。 -/
def dropCandidate : LexM Unit := do
  let s ← get
  match s.keyCandidates with
  | k :: rest =>
    if k.possible && k.required then
      lexError (some "while scanning a simple key") k.mark "could not find expected ':'"
    else set { s with keyCandidates := { k with possible := false } :: rest }
  | [] => pure ()

/-- 今の位置を、次に読む字句の候補として覚える。ブロックの中で字下げと同じ桁なら必ず鍵。 -/
def markCandidate : LexM Unit := do
  let s ← get
  if s.keyAllowed then
    let key : KeyCandidate :=
      { possible := true
        required := s.flowLevel == 0 && s.indent == (s.pos.column : Int)
        tokenNumber := s.tokensTaken + s.tokens.length
        mark := s.pos }
    dropCandidate
    modify fun s => { s with keyCandidates := key :: s.keyCandidates.drop 1 }

/-- 字下げの段を積む。ブロックの中で桁が今の段より深ければ、始まりの字句を出す
（`number` があれば、その番号の字句の前に差し込む）。 -/
def pushIndent (column : Nat) (number : Option Nat) (kind : TokenKind) (mark : Pos) :
    LexM Unit := do
  let s ← get
  if s.flowLevel == 0 && s.indent < (column : Int) then
    set { s with indents := s.indent :: s.indents, indent := column }
    let t : Token := ⟨kind, mark, mark⟩
    match number with
    | none => enqueue t
    | some n => insertToken (n - s.tokensTaken) t

/-- 桁 `column` より深い段を閉じ、段ごとにブロックの終わりの字句を出す。 -/
def popIndents (column : Int) : LexM Unit := do
  if (← get).flowLevel == 0 then go (← get).indents.length
where
  go : Nat → LexM Unit
    | 0 => pure ()
    | n + 1 => do
      let s ← get
      if s.indent > column then
        enqueue ⟨.blockEnd, s.pos, s.pos⟩
        modify fun s => match s.indents with
          | i :: rest => { s with indent := i, indents := rest }
          | [] => { s with indent := -1 }
        go n

/-! ## 字句の読み取り -/

/-- 次の字句の手前まで、空白とコメントと改行を読み飛ばす。ブロックの中では改行のあとに
鍵を置ける。 -/
def skipToToken : Nat → LexM Unit
  | 0 => pure ()
  | fuel + 1 => do
    let s ← get
    if s.pos.column == 0 && s.check '\uFEFF' then set s.skip
    modify (Lexer.skipSeparators fuel)
    modify (Lexer.skipComment fuel)
    let s ← get
    if s.isBreak then
      set (if s.flowLevel == 0 then { s.skipLine with keyAllowed := true } else s.skipLine)
      skipToToken fuel

/-- 流れの始まり。 -/
def startStream : LexM Unit := do
  modify fun s =>
    { s with indent := -1, keyCandidates := [{}], keyAllowed := true, streamStarted := true }
  let p := (← get).pos
  enqueue ⟨.streamStart, p, p⟩

/-- 流れの終わり。行の途中なら次の行の頭に移ってから、開いた段をすべて閉じる。 -/
def endStream : LexM Unit := do
  modify fun s =>
    if s.pos.column != 0 then { s with pos := { s.pos with column := 0, line := s.pos.line + 1 } }
    else s
  popIndents (-1)
  dropCandidate
  modify fun s => { s with keyAllowed := false }
  let p := (← get).pos
  enqueue ⟨.streamEnd, p, p⟩

/-- 版の数（9 桁まで）。 -/
def versionNumber (start : Pos) : Nat → Nat → Nat → LexM Nat
  | 0, _, value => pure value
  | fuel + 1, length, value => do
    let s ← get
    match s.at? 0 with
    | some c =>
      if c.isDigit then
        if length + 1 > 9 then
          lexError (some "while scanning a %YAML directive") start "found extremely long version number"
        else
          set s.skip
          versionNumber start fuel (length + 1) (value * 10 + (c.toNat - 48))
      else if length == 0 then
        lexError (some "while scanning a %YAML directive") start "did not find expected version number"
      else pure value
    | none =>
      if length == 0 then
        lexError (some "while scanning a %YAML directive") start "did not find expected version number"
      else pure value

/-- `%YAML` 指令の値 `主.副`。 -/
def versionValue (start : Pos) : LexM (Nat × Nat) := do
  let fuel ← charFuel
  modify (Lexer.skipBlanks fuel)
  let major ← versionNumber start fuel 0 0
  if !(← get).check '.' then
    lexError (some "while scanning a %YAML directive") start
      "did not find expected digit or '.' character"
  else
    modify Lexer.skip
    let minor ← versionNumber start fuel 0 0
    pure (major, minor)

/-- URI の `%` で書いた UTF-8 の 1 文字を読み、そのバイト列を返す。 -/
def uriEscape (directive : Bool) (start : Pos) : Nat → Nat → List UInt8 → LexM (List UInt8)
  | 0, _, acc => pure acc
  | fuel + 1, width, acc => do
    let s ← get
    let ctx := if directive then "while parsing a %TAG directive" else "while parsing a tag"
    match s.check '%', (s.at? 1).bind hexValue?, (s.at? 2).bind hexValue? with
    | true, some hi, some lo =>
      let octet := hi * 16 + lo
      let width' :=
        if width == 0 then
          if octet / 128 == 0 then 1
          else if octet / 32 == 6 then 2
          else if octet / 16 == 14 then 3
          else if octet / 8 == 30 then 4
          else 0
        else width
      if width == 0 && width' == 0 then
        lexError (some ctx) start "found an incorrect leading UTF-8 octet"
      else if width != 0 && octet / 64 != 2 then
        lexError (some ctx) start "found an incorrect trailing UTF-8 octet"
      else
        let acc := acc ++ [octet.toUInt8]
        set s.skip.skip.skip
        if width' == 1 then pure acc
        else uriEscape directive start fuel (width' - 1) acc
    | _, _, _ => lexError (some ctx) start "did not find URI escaped octet"

/-- タグの URI の文字を読む。`count` はこれまでに読んだ長さ。 -/
def uriChars (uriChar directive : Bool) (start : Pos) : Nat → Nat → String → LexM (Nat × String)
  | 0, count, acc => pure (count, acc)
  | fuel + 1, count, acc => do
    let s ← get
    if s.isWord || s.isOneOf uriMarks || (uriChar && s.isOneOf [',', '[', ']']) then
      if s.check '%' then
        let bytes ← uriEscape directive start fuel 0 []
        let text := (String.fromUTF8? (ByteArray.mk bytes.toArray)).getD ""
        uriChars uriChar directive start fuel (count + 1) (acc ++ text)
      else
        set s.skip
        uriChars uriChar directive start fuel (count + 1) (acc.push ((s.at? 0).getD ' '))
    else pure (count, acc)

/-- タグの URI。`head` は先に読んだハンドル（先頭の `!` を除いて URI に含める）。 -/
def tagUri (uriChar directive : Bool) (head : String) (start : Pos) : LexM String := do
  let fuel ← charFuel
  let (count, text) ← uriChars uriChar directive start fuel head.length (head.drop 1).toString
  if count == 0 then
    lexError (some (if directive then "while parsing a %TAG directive" else "while parsing a tag"))
      start "did not find expected tag URI"
  else pure text

/-- タグのハンドル `!`、`!!`、`!名前!`。指令の中では `!` で終わらなければ誤り。 -/
def tagHandle (directive : Bool) (start : Pos) : LexM String := do
  let s ← get
  if !s.check '!' then
    lexError (some (if directive then "while scanning a tag directive" else "while scanning a tag"))
      start "did not find expected '!'"
  else
    let fuel ← charFuel
    let (name, s') := Lexer.readWord fuel "!" s.skip
    if s'.check '!' then
      set s'.skip
      pure (name.push '!')
    else if directive && name != "!" then
      set s'
      lexError (some "while parsing a tag directive") start "did not find expected '!'"
    else
      set s'
      pure name

/-- `%TAG` 指令の値：ハンドルと接頭辞。 -/
def tagDirectiveValue (start : Pos) : LexM (String × String) := do
  let fuel ← charFuel
  modify (Lexer.skipBlanks fuel)
  let handle ← tagHandle true start
  if !(← get).isBlank then
    lexError (some "while scanning a %TAG directive") start "did not find expected whitespace"
  else
    modify (Lexer.skipBlanks fuel)
    let pfx ← tagUri true true "" start
    if !(← get).isSpaceOrEnd then
      lexError (some "while scanning a %TAG directive") start
        "did not find expected whitespace or line break"
    else pure (handle, pfx)

/-- 指令 `%名前 ...` を読む。行の残り（コメント）と改行も読む。 -/
def directiveToken : LexM Token := do
  let start := (← get).pos
  let fuel ← charFuel
  let (name, s) := Lexer.readWord fuel "" (← get).skip
  set s
  if name.isEmpty then
    lexError (some "while scanning a directive") start "could not find expected directive name"
  else if !s.isSpaceOrEnd then
    lexError (some "while scanning a directive") start "found unexpected non-alphabetical character"
  else
    let kind ←
      if name == "YAML" then do
        let (major, minor) ← versionValue start
        pure (TokenKind.versionDirective major minor)
      else if name == "TAG" then do
        let (handle, pfx) ← tagDirectiveValue start
        pure (TokenKind.tagDirective handle pfx)
      else lexError (some "while scanning a directive") start "found unknown directive name"
    let stop := (← get).pos
    modify (Lexer.skipBlanks fuel)
    modify (Lexer.skipComment fuel)
    let s ← get
    if !s.isBreakOrEnd then
      lexError (some "while scanning a directive") start "did not find expected comment or line break"
    else
      set s.skipLine
      pure ⟨kind, start, stop⟩

/-- 指令。行の頭で読み、開いた段をすべて閉じる。 -/
def directive : LexM Unit := do
  popIndents (-1)
  dropCandidate
  modify fun s => { s with keyAllowed := false }
  enqueue (← directiveToken)

/-- 文書の区切り `---` と `...`。 -/
def documentIndicator (kind : TokenKind) : LexM Unit := do
  popIndents (-1)
  dropCandidate
  modify fun s => { s with keyAllowed := false }
  let start := (← get).pos
  modify fun s => s.skip.skip.skip
  enqueue ⟨kind, start, (← get).pos⟩

/-- フローの始まり `[` `{`。括弧そのものが鍵になりうる。 -/
def openFlow (kind : TokenKind) : LexM Unit := do
  markCandidate
  modify fun s =>
    { s with keyCandidates := {} :: s.keyCandidates, flowLevel := s.flowLevel + 1, keyAllowed := true }
  singleCharToken kind

/-- フローの終わり `]` `}`。 -/
def closeFlow (kind : TokenKind) : LexM Unit := do
  dropCandidate
  modify fun s =>
    if s.flowLevel > 0 then { s with flowLevel := s.flowLevel - 1, keyCandidates := s.keyCandidates.drop 1 }
    else s
  modify fun s => { s with keyAllowed := false }
  singleCharToken kind

/-- フローの区切り `,`。 -/
def flowSeparator : LexM Unit := do
  dropCandidate
  modify fun s => { s with keyAllowed := true }
  singleCharToken .flowEntry

/-- ブロックの列の要素 `-`。ブロックの中では、置けるところでだけ置け、列を始めうる。 -/
def blockEntryIndicator : LexM Unit := do
  let s ← get
  if s.flowLevel == 0 then
    if !s.keyAllowed then
      lexError none s.pos "block sequence entries are not allowed in this context"
    pushIndent s.pos.column none .blockSequenceStart s.pos
  dropCandidate
  modify fun s => { s with keyAllowed := true }
  singleCharToken .blockEntry

/-- 明示した鍵 `?`。 -/
def keyIndicator : LexM Unit := do
  let s ← get
  if s.flowLevel == 0 then
    if !s.keyAllowed then
      lexError none s.pos "mapping keys are not allowed in this context"
    pushIndent s.pos.column none .blockMappingStart s.pos
  dropCandidate
  modify fun s => { s with keyAllowed := s.flowLevel == 0 }
  singleCharToken .key

/-- 値 `:`。今の段に候補があれば、その前に鍵の字句を差し込む。なければ、鍵のない値
（ブロックの中では、置けるところでだけ）。 -/
def valueIndicator : LexM Unit := do
  let s ← get
  match s.keyCandidates with
  | k :: rest =>
    if k.possible then
      insertToken (k.tokenNumber - s.tokensTaken) ⟨.key, k.mark, k.mark⟩
      pushIndent k.mark.column (some k.tokenNumber) .blockMappingStart k.mark
      modify fun s => { s with keyCandidates := { k with possible := false } :: rest, keyAllowed := false }
    else withoutKey
  | [] => withoutKey
  singleCharToken .value
where
  withoutKey : LexM Unit := do
    let s ← get
    if s.flowLevel == 0 then
      if !s.keyAllowed then
        lexError none s.pos "mapping values are not allowed in this context"
      pushIndent s.pos.column none .blockMappingStart s.pos
    modify fun s => { s with keyAllowed := s.flowLevel == 0 }

/-- 名前 `&a` と参照 `*a`。名前は 1 文字以上で、区切りの文字が続かなければならない。 -/
def anchorOrAlias (isAlias : Bool) : LexM Unit := do
  markCandidate
  modify fun s => { s with keyAllowed := false }
  let start := (← get).pos
  let fuel ← charFuel
  let (name, s) := Lexer.readWord fuel "" (← get).skip
  set s
  let ended := s.isSpaceOrEnd || s.isOneOf ['?', ':', ',', ']', '}', '%', '@', '\x60']
  if name.isEmpty || !ended then
    lexError (some (if isAlias then "while scanning an alias" else "while scanning an anchor")) start
      "did not find expected alphabetic or numeric character"
  else
    enqueue ⟨if isAlias then .alias name else .anchor name, start, s.pos⟩

/-- タグ `!<URI>`、`!!残り`、`!名前!残り`、`!残り`、`!`。 -/
def tagProperty : LexM Unit := do
  markCandidate
  modify fun s => { s with keyAllowed := false }
  let start := (← get).pos
  let s ← get
  let (handle, suffix) ←
    if s.check '<' 1 then do
      set s.skip.skip
      let suffix ← tagUri true false "" start
      if !(← get).check '>' then
        lexError (some "while scanning a tag") start "did not find the expected '>'"
      modify Lexer.skip
      pure ("", suffix)
    else do
      let handle ← tagHandle false start
      if handle.length > 1 && handle.endsWith "!" then
        let suffix ← tagUri false false "" start
        pure (handle, suffix)
      else
        let suffix ← tagUri false false handle start
        if suffix.isEmpty then pure ("", "!") else pure ("!", suffix)
  let s ← get
  if !s.isSpaceOrEnd && (s.flowLevel == 0 || !s.check ',') then
    lexError (some "while scanning a tag") start "did not find expected whitespace or line break"
  else enqueue ⟨.tag handle suffix, start, s.pos⟩

/-! ### ブロックのスカラー -/

/-- ブロックのスカラーの字下げの空白を読み飛ばす。字下げが決まっていなければ（0）すべて。 -/
def skipIndentSpaces (indent : Nat) : Nat → Lexer → Lexer
  | 0, s => s
  | n + 1, s =>
    if (indent == 0 || s.pos.column < indent) && s.check ' ' then skipIndentSpaces indent n s.skip
    else s

/-- ブロックのスカラーの、内容の前の空行を読む。字下げが決まっていなければ、空行の最も深い
桁と親の段の次の桁と 1 のうちの最大に決める。返すのは字下げ、空行の改行、終わりの位置。 -/
def blockScalarBreaks (parentIndent : Int) (start : Pos) :
    Nat → Nat → Nat → String → Pos → LexM (Nat × String × Pos)
  | 0, indent, _, breaks, stop => pure (indent, breaks, stop)
  | fuel + 1, indent, maxIndent, breaks, stop => do
    modify (skipIndentSpaces indent fuel)
    let s ← get
    let maxIndent := max maxIndent s.pos.column
    if (indent == 0 || s.pos.column < indent) && s.check '\t' then
      lexError (some "while scanning a block scalar") start
        "found a tab character where an indentation space is expected"
    else if !s.isBreak then
      let indent :=
        if indent == 0 then max (max maxIndent ((parentIndent + 1).toNat)) 1 else indent
      pure (indent, breaks, stop)
    else
      let (b, s') := s.readLine
      set s'
      blockScalarBreaks parentIndent start fuel indent maxIndent (breaks ++ b) s'.pos

/-- ブロックのスカラーの行を読む。折りたたみ（`>`）では、空白で始まらない行どうしの改行を
空白に変える。返すのは値、最後の改行、後ろの空行の改行、終わりの位置。 -/
def blockScalarLines (literal : Bool) (parentIndent : Int) (start : Pos) (indent : Nat) :
    Nat → String → String → String → Bool → Pos → LexM (String × String × String × Pos)
  | 0, text, leading, trailing, _, stop => pure (text, leading, trailing, stop)
  | fuel + 1, text, leading, trailing, leadingBlank, stop => do
    let s ← get
    if !(s.pos.column == indent && !s.isEnd) then pure (text, leading, trailing, stop)
    else
      let trailingBlank := s.isBlank
      let text :=
        if !literal && leading == "\n" && !leadingBlank && !trailingBlank then
          if trailing.isEmpty then text.push ' ' else text
        else text ++ leading
      let text := text ++ trailing
      let (line, s') := Lexer.readToBreak fuel "" s
      let (lb, s'') := s'.readLine
      set s''
      let (_, breaks, stop) ← blockScalarBreaks parentIndent start fuel indent 0 "" s''.pos
      blockScalarLines literal parentIndent start indent fuel (text ++ line) lb breaks trailingBlank stop

/-- 字下げの指示の数字。`0` は誤り。 -/
def indentIndicator (start : Pos) : LexM Nat := do
  let s ← get
  match s.at? 0 with
  | some c =>
    if c == '0' then
      lexError (some "while scanning a block scalar") start "found an indentation indicator equal to 0"
    else
      set s.skip
      pure (c.toNat - 48)
  | none => pure 0

/-- ブロックのスカラー `|` `>`。見出しの行には、切り詰めの指示（`+` `-`）と字下げの数字を
どちらの順でも置ける。 -/
def blockScalar (literal : Bool) : LexM Unit := do
  dropCandidate
  modify fun s => { s with keyAllowed := true }
  let start := (← get).pos
  modify Lexer.skip
  let s ← get
  let (chomping, increment) ←
    if s.check '+' || s.check '-' then do
      let chomping : Int := if s.check '+' then 1 else -1
      set s.skip
      let increment ← if (← get).isDigit then indentIndicator start else pure 0
      pure (chomping, increment)
    else if s.isDigit then do
      let increment ← indentIndicator start
      let s ← get
      if s.check '+' || s.check '-' then
        set s.skip
        pure ((if s.check '+' then 1 else -1 : Int), increment)
      else pure (0, increment)
    else pure (0, 0)
  let fuel ← charFuel
  modify (Lexer.skipBlanks fuel)
  modify (Lexer.skipComment fuel)
  let s ← get
  if !s.isBreakOrEnd then
    lexError (some "while scanning a block scalar") start "did not find expected comment or line break"
  else
    set s.skipLine
    let parent := s.indent
    let indent :=
      if increment > 0 then
        if parent >= 0 then parent.toNat + increment else increment
      else 0
    let (indent, breaks, stop) ← blockScalarBreaks parent start fuel indent 0 "" (← get).pos
    let (text, leading, trailing, stop) ←
      blockScalarLines literal parent start indent fuel "" "" breaks false stop
    let text := if chomping != -1 then text ++ leading else text
    let text := if chomping == 1 then text ++ trailing else text
    enqueue ⟨.scalar text (if literal then .literal else .folded), start, stop⟩

/-! ### 引用符のスカラー -/

/-- `\` のあとの 1 文字の書き換え。 -/
def simpleEscape? (c : Char) : Option Char :=
  match c with
  | '0' => some '\x00'
  | 'a' => some '\x07'
  | 'b' => some '\x08'
  | 't' | '\t' => some '\t'
  | 'n' => some '\n'
  | 'v' => some '\x0b'
  | 'f' => some '\x0c'
  | 'r' => some '\r'
  | 'e' => some '\x1b'
  | ' ' => some ' '
  | '"' => some '"'
  | '/' => some '/'
  | '\'' => some '\''
  | '\\' => some '\\'
  | 'N' => some '\x85'
  | '_' => some '\xa0'
  | 'L' => some '\u2028'
  | 'P' => some '\u2029'
  | _ => none

/-- `\x` `\u` `\U` のあとの桁数。 -/
def codeLength? (c : Char) : Option Nat :=
  match c with
  | 'x' => some 2
  | 'u' => some 4
  | 'U' => some 8
  | _ => none

/-- 16 進の数字 `n` 桁の値。`k` 文字先から読む。 -/
def hexDigits (s : Lexer) : Nat → Nat → Option Nat
  | 0, _ => some 0
  | n + 1, k => do
    let d ← (s.at? k).bind hexValue?
    let rest ← hexDigits s n (k + 1)
    pure (d * 16 ^ n + rest)

/-- 引用符の中の、空白でない文字を読む。`''` は `'` に、`\` の書き換えを行う。
`\` と改行が続けば、その改行を消して（`true`）止まる。 -/
def quotedChars (single : Bool) (start : Pos) : Nat → String → LexM (String × Bool)
  | 0, text => pure (text, false)
  | fuel + 1, text => do
    let s ← get
    let quote := if single then '\'' else '"'
    if s.isSpaceOrEnd then pure (text, false)
    else if single && s.check '\'' && s.check '\'' 1 then
      set s.skip.skip
      quotedChars single start fuel (text.push '\'')
    else if s.check quote then pure (text, false)
    else if !single && s.check '\\' && s.isBreak 1 then
      set s.skip.skipLine
      pure (text, true)
    else if !single && s.check '\\' then
      match (s.at? 1).bind simpleEscape?, (s.at? 1).bind codeLength? with
      | some e, _ =>
        set s.skip.skip
        quotedChars single start fuel (text.push e)
      | none, some n =>
        set s.skip.skip
        let s ← get
        match hexDigits s n 0 with
        | none =>
          lexError (some "while parsing a quoted scalar") start "did not find expected hexdecimal number"
        | some v =>
          if (0xD800 ≤ v ∧ v ≤ 0xDFFF) ∨ v > 0x10FFFF then
            lexError (some "while parsing a quoted scalar") start
              "found invalid Unicode character escape code"
          else
            set ((List.range n).foldl (fun s _ => s.skip) s)
            quotedChars single start fuel (text.push (Char.ofNat v))
      | none, none =>
        lexError (some "while parsing a quoted scalar") start "found unknown escape character"
    else
      set s.skip
      quotedChars single start fuel (text.push ((s.at? 0).getD ' '))

/-- 引用符の中の空白と改行を読む。最初の改行までの空白は `spaces` に、最初の改行は
`leading` に、続く改行は `trailing` にためる。 -/
def quotedBlanks : Nat → Bool → String → String → String → LexM (Bool × String × String × String)
  | 0, blanks, spaces, leading, trailing => pure (blanks, spaces, leading, trailing)
  | fuel + 1, blanks, spaces, leading, trailing => do
    let s ← get
    if s.isBlank then
      set s.skip
      if blanks then quotedBlanks fuel blanks spaces leading trailing
      else quotedBlanks fuel blanks (spaces.push ((s.at? 0).getD ' ')) leading trailing
    else if s.isBreak then
      let (b, s') := s.readLine
      set s'
      if blanks then quotedBlanks fuel blanks spaces leading (trailing ++ b)
      else quotedBlanks fuel true "" b trailing
    else pure (blanks, spaces, leading, trailing)

/-- 行をまたぐ空白をつなぐ。改行が一つなら空白に、二つ以上なら一つ目を除いた改行にする。
改行がなければ空白をそのまま残す。 -/
def joinFolded (text : String) (blanks : Bool) (spaces leading trailing : String) : String :=
  if blanks then
    if leading == "\n" then
      if trailing.isEmpty then text.push ' ' else text ++ trailing
    else text ++ leading ++ trailing
  else text ++ spaces

/-- 引用符のスカラーの中身を、閉じる引用符の手前まで読む。 -/
def quotedBody (single : Bool) (start : Pos) : Nat → String → LexM String
  | 0, text => pure text
  | fuel + 1, text => do
    let s ← get
    if s.pos.column == 0 && (s.isDocumentIndicator '-' || s.isDocumentIndicator '.') then
      lexError (some "while scanning a quoted scalar") start "found unexpected document indicator"
    else if s.isEnd then
      lexError (some "while scanning a quoted scalar") start "found unexpected end of stream"
    else
      let (text, blanks) ← quotedChars single start fuel text
      if (← get).check (if single then '\'' else '"') then pure text
      else
        let (blanks, spaces, leading, trailing) ← quotedBlanks fuel blanks "" "" ""
        quotedBody single start fuel (joinFolded text blanks spaces leading trailing)

/-- 引用符のスカラー `'...'` `"..."`。 -/
def quotedScalar (single : Bool) : LexM Unit := do
  markCandidate
  modify fun s => { s with keyAllowed := false }
  let start := (← get).pos
  modify Lexer.skip
  let text ← quotedBody single start (← charFuel) ""
  modify Lexer.skip
  enqueue ⟨.scalar text (if single then .singleQuoted else .doubleQuoted), start, (← get).pos⟩

/-! ### 素のスカラー -/

/-- 素のスカラーの空白でない文字を読む。`: ` の前、フローの中では `,[]{}` の前で止まる。
ためた空白と改行は、次の文字を読む前につなぐ。 -/
def plainChars (start : Pos) :
    Nat → String → Pos → Bool → String → String → String →
      LexM (String × Pos × Bool × String × String × String)
  | 0, text, stop, blanks, spaces, leading, trailing =>
    pure (text, stop, blanks, spaces, leading, trailing)
  | fuel + 1, text, stop, blanks, spaces, leading, trailing => do
    let s ← get
    let flow := s.flowLevel > 0
    if s.isSpaceOrEnd then pure (text, stop, blanks, spaces, leading, trailing)
    else if flow && s.check ':' && s.isOneOf [',', '?', '[', ']', '{', '}'] 1 then
      lexError (some "while scanning a plain scalar") start "found unexpected ':'"
    else if (s.check ':' && s.isSpaceOrEnd 1) || (flow && s.isOneOf [',', '[', ']', '{', '}']) then
      pure (text, stop, blanks, spaces, leading, trailing)
    else
      let text := if blanks || !spaces.isEmpty then joinFolded text blanks spaces leading trailing else text
      let text := text.push ((s.at? 0).getD ' ')
      set s.skip
      plainChars start fuel text s.skip.pos false "" "" ""

/-- 素のスカラーの空白と改行を読む。改行のあとの字下げの中のタブは誤り。 -/
def plainBlanks (start : Pos) (indent : Int) :
    Nat → Bool → String → String → String → LexM (Bool × String × String × String)
  | 0, blanks, spaces, leading, trailing => pure (blanks, spaces, leading, trailing)
  | fuel + 1, blanks, spaces, leading, trailing => do
    let s ← get
    if s.isBlank then
      if blanks && (s.pos.column : Int) < indent && s.check '\t' then
        lexError (some "while scanning a plain scalar") start "found a tab character that violates indentation"
      else
        set s.skip
        if blanks then plainBlanks start indent fuel blanks spaces leading trailing
        else plainBlanks start indent fuel blanks (spaces.push ((s.at? 0).getD ' ')) leading trailing
    else if s.isBreak then
      let (b, s') := s.readLine
      set s'
      if blanks then plainBlanks start indent fuel blanks spaces leading (trailing ++ b)
      else plainBlanks start indent fuel true "" b trailing
    else pure (blanks, spaces, leading, trailing)

/-- 素のスカラーを行ごとに読む。文書の区切り、コメント、ブロックの中で字下げより浅い行で
止まる。 -/
def plainBody (start : Pos) (indent : Int) :
    Nat → String → Pos → Bool → String → String → String → LexM (String × Pos × Bool)
  | 0, text, stop, blanks, _, _, _ => pure (text, stop, blanks)
  | fuel + 1, text, stop, blanks, spaces, leading, trailing => do
    let s ← get
    if s.pos.column == 0 && (s.isDocumentIndicator '-' || s.isDocumentIndicator '.') then
      pure (text, stop, blanks)
    else if s.check '#' then pure (text, stop, blanks)
    else
      let (text, stop, blanks, spaces, leading, trailing) ←
        plainChars start fuel text stop blanks spaces leading trailing
      let s ← get
      if !(s.isBlank || s.isBreak) then pure (text, stop, blanks)
      else
        let (blanks, spaces, leading, trailing) ←
          plainBlanks start indent fuel blanks spaces leading trailing
        let s ← get
        if s.flowLevel == 0 && (s.pos.column : Int) < indent then pure (text, stop, blanks)
        else plainBody start indent fuel text stop blanks spaces leading trailing

/-- 素のスカラー。改行をまたいだなら、次に鍵を置ける。 -/
def plainScalar : LexM Unit := do
  markCandidate
  modify fun s => { s with keyAllowed := false }
  let s ← get
  let start := s.pos
  let (text, stop, blanks) ← plainBody start (s.indent + 1) (← charFuel) "" start false "" "" ""
  if blanks then modify fun s => { s with keyAllowed := true }
  enqueue ⟨.scalar text .plain, start, stop⟩

/-! ## 字句を渡す -/

/-- 次の字句を一つ読んで列に足す。 -/
def readToken : LexM Unit := do
  if !(← get).streamStarted then startStream
  else
    skipToToken (← charFuel)
    dropStaleCandidates
    popIndents (← get).pos.column
    let s ← get
    if s.isEnd then endStream
    else if s.pos.column == 0 && s.check '%' then directive
    else if s.pos.column == 0 && s.isDocumentIndicator '-' then documentIndicator .documentStart
    else if s.pos.column == 0 && s.isDocumentIndicator '.' then documentIndicator .documentEnd
    else if s.check '[' then openFlow .flowSequenceStart
    else if s.check '{' then openFlow .flowMappingStart
    else if s.check ']' then closeFlow .flowSequenceEnd
    else if s.check '}' then closeFlow .flowMappingEnd
    else if s.check ',' then flowSeparator
    else if s.check '-' && s.isSpaceOrEnd 1 then blockEntryIndicator
    else if s.check '?' && (s.flowLevel > 0 || s.isSpaceOrEnd 1) then keyIndicator
    else if s.check ':' && (s.flowLevel > 0 || s.isSpaceOrEnd 1) then valueIndicator
    else if s.check '*' then anchorOrAlias true
    else if s.check '&' then anchorOrAlias false
    else if s.check '!' then tagProperty
    else if s.check '|' && s.flowLevel == 0 then blockScalar true
    else if s.check '>' && s.flowLevel == 0 then blockScalar false
    else if s.check '\'' then quotedScalar true
    else if s.check '"' then quotedScalar false
    else if s.startsPlain then plainScalar
    else
      lexError (some "while scanning for the next token") s.pos
        "found character that cannot start any token"

/-- 先頭の字句を渡せるまで読む。先頭の字句が鍵の候補なら、鍵かどうかが決まるまで
読み進める。 -/
def fillTokens : Nat → LexM Unit
  | 0 => modify fun s => { s with headReady := true }
  | fuel + 1 => do
    let need ←
      if (← get).tokens.isEmpty then pure true
      else do
        dropStaleCandidates
        let s ← get
        pure (s.keyCandidates.any fun k => k.possible && k.tokenNumber == s.tokensTaken)
    if need then
      readToken
      fillTokens fuel
    else modify fun s => { s with headReady := true }

/-- 先頭の字句を見る（取り除かない）。 -/
def peekToken : LexM Token := do
  if !(← get).headReady then
    let s ← get
    fillTokens (2 * s.remaining + 8)
  let s ← get
  match s.tokens with
  | t :: _ => pure t
  | [] => pure ⟨.streamEnd, s.pos, s.pos⟩

/-- 先頭の字句を取り除く。 -/
def skipToken : LexM Unit :=
  modify fun s =>
    match s.tokens with
    | t :: rest =>
      { s with headReady := false, tokensTaken := s.tokensTaken + 1, tokens := rest,
               streamEnded := t.kind matches .streamEnd }
    | [] => { s with headReady := false }

end Workflow.Yaml
