import Workflow.Yaml.Token.Lexer

/-!
# YAML の事象

字句の並びを、文書・列・写像の始まりと終わり、スカラー、参照という事象の並びに変える。
読み手は「次に何を待っているか」の状態と、入れ子の外側で戻る先の状態の積み重ねを持つ。
一つの事象を求めるごとに、今の状態に応じて字句を見て、事象を一つ返し、状態を進める。

値を書かなかったところ（`key:` の後ろや `- ` の後ろ）には空のスカラーを置く。名前かタグだけの
節点も空のスカラーになる。タグのハンドルは `!` と `!!` と `%TAG` で宣言したものだけが使える。

## 停止性

状態の遷移はどれも字句を一つ以上進めるか、入れ子を一段閉じる。事象を求める繰り返しは
呼ぶ側が燃料で止める。
-/

namespace Workflow.Yaml

/-- 事象の種類。 -/
inductive EventKind where
  | streamStart
  | streamEnd
  | documentStart
  | documentEnd
  | alias (name : String)
  /-- スカラー：名前、タグ（ハンドルを展開したもの）、値、書き方。 -/
  | scalar (anchor tag : Option String) (value : String) (style : Style)
  | sequenceStart (anchor tag : Option String)
  | sequenceEnd
  | mappingStart (anchor tag : Option String)
  | mappingEnd

/-- 事象：種類と、始まりの位置。 -/
structure Event where
  kind : EventKind
  start : Pos

/-- 読み手が次に待っているもの。 -/
inductive ParseState where
  | streamStart
  | implicitDocumentStart
  | documentStart
  | documentContent
  | documentEnd
  | blockNode
  | blockNodeOrIndentlessSequence
  | flowNode
  | blockSequenceFirstEntry
  | blockSequenceEntry
  | indentlessSequenceEntry
  | blockMappingFirstKey
  | blockMappingKey
  | blockMappingValue
  | flowSequenceFirstEntry
  | flowSequenceEntry
  | flowSequenceEntryMappingKey
  | flowSequenceEntryMappingValue
  | flowSequenceEntryMappingEnd
  | flowMappingFirstKey
  | flowMappingKey
  | flowMappingValue
  | flowMappingEmptyValue
  | finished
  deriving BEq

/-- 事象を読む者の状態。`states` は入れ子を閉じたあとに戻る状態、`marks` は開いている
入れ子の始まりの位置（どちらも先頭が内側）。 -/
structure Parser where
  lexer : Lexer
  state : ParseState := .streamStart
  states : List ParseState := []
  marks : List Pos := []
  tagDirectives : List (String × String) := []

/-- 文字列を読む者を作る。 -/
def Parser.ofChars (input : Array Char) : Parser := { lexer := { input } }

/-- 事象を読む計算。誤りで止まる。 -/
abbrev ParseM := StateT Parser (Except ParseError)

namespace ParseM

/-- 字句を読む計算を事象を読む計算の中で行う。 -/
def lex {α : Type} (m : LexM α) : ParseM α := fun p => do
  let (a, s) ← m.run p.lexer
  pure (a, { p with lexer := s })

/-- 先頭の字句。 -/
def peek : ParseM Token := lex peekToken

/-- 先頭の字句を取り除く。 -/
def skip : ParseM Unit := lex skipToken

/-- 文脈のない誤り。 -/
def fail {α : Type} (problem : String) (mark : Pos) : ParseM α :=
  throw { problem, problemMark := mark.mark }

/-- 文脈のある誤り。 -/
def failIn {α : Type} (context : String) (contextMark : Pos) (problem : String) (mark : Pos) :
    ParseM α :=
  throw { problem, problemMark := mark.mark, context := some (context, contextMark.mark) }

/-- 次の状態を決める。 -/
def goto (st : ParseState) : ParseM Unit := modify fun p => { p with state := st }

/-- 戻る先の状態を積む。 -/
def pushState (st : ParseState) : ParseM Unit := modify fun p => { p with states := st :: p.states }

/-- 積んだ状態に戻る。 -/
def popState : ParseM Unit :=
  modify fun p => match p.states with
    | st :: rest => { p with state := st, states := rest }
    | [] => { p with state := .finished }

/-- 入れ子の始まりの位置を積む。 -/
def pushMark (m : Pos) : ParseM Unit := modify fun p => { p with marks := m :: p.marks }

/-- 入れ子の始まりの位置を取り出す。 -/
def popMark : ParseM Pos := do
  let p ← get
  match p.marks with
  | m :: rest =>
    set { p with marks := rest }
    pure m
  | [] => pure {}

end ParseM

open ParseM

/-- 値を書かなかったところの空のスカラー。 -/
def emptyScalar (mark : Pos) : Event := ⟨.scalar none none "" .plain, mark⟩

/-- タグのハンドルを宣言に加える。既にあれば、既定のものは黙って残し、そうでなければ誤り。 -/
def addTagDirective (handle pfx : String) (allowDuplicate : Bool) (mark : Pos) : ParseM Unit := do
  let p ← get
  if (p.tagDirectives.lookup handle).isSome then
    if allowDuplicate then pure () else fail "found duplicate %TAG directive" mark
  else set { p with tagDirectives := p.tagDirectives ++ [(handle, pfx)] }

/-- 文書の前の指令を読む。`%YAML` は一度だけ、版は 1.1 か 1.2。 -/
def processDirectives : Nat → Bool → ParseM Unit
  | 0, _ => pure ()
  | fuel + 1, seenVersion => do
    let t ← peek
    match t.kind with
    | .versionDirective major minor =>
      if seenVersion then fail "found duplicate %YAML directive" t.start
      else if major != 1 || (minor != 1 && minor != 2) then
        fail "found incompatible YAML document" t.start
      else
        skip
        processDirectives fuel true
    | .tagDirective handle pfx =>
      addTagDirective handle pfx false t.start
      skip
      processDirectives fuel seenVersion
    | _ =>
      addTagDirective "!" "!" true t.start
      addTagDirective "!!" "tag:yaml.org,2002:" true t.start

/-- 文書の区切り `...` を読み飛ばす。 -/
def skipDocumentEnds : Nat → ParseM Token
  | 0 => peek
  | fuel + 1 => do
    let t ← peek
    if t.isAny [.documentEnd] then
      skip
      skipDocumentEnds fuel
    else pure t

/-- 流れの始まり。 -/
def parseStreamStart : ParseM Event := do
  let t ← peek
  if t.isAny [.streamStart] then
    goto .implicitDocumentStart
    skip
    pure ⟨.streamStart, t.start⟩
  else fail "did not find expected <stream-start>" t.start

/-- 文書の始まり。最初の文書は `---` なしで始められる。流れが終われば流れの終わり。 -/
def parseDocumentStart (implicit : Bool) : ParseM Event := do
  let fuel := (← get).lexer.remaining + 2
  let t ← if implicit then peek else skipDocumentEnds fuel
  if implicit && !t.isAny [.versionDirective 0 0, .tagDirective "" "", .documentStart, .streamEnd] then
    processDirectives fuel false
    pushState .documentEnd
    goto .blockNode
    pure ⟨.documentStart, t.start⟩
  else if !t.isAny [.streamEnd] then
    processDirectives fuel false
    let t' ← peek
    if !t'.isAny [.documentStart] then
      fail "did not find expected <document start>" t'.start
    else
      pushState .documentEnd
      goto .documentContent
      skip
      pure ⟨.documentStart, t.start⟩
  else
    goto .finished
    skip
    pure ⟨.streamEnd, t.start⟩

/-- `---` の直後。中身がなければ空のスカラー。 -/
def parseDocumentContent (node : ParseM Event) : ParseM Event := do
  let t ← peek
  if t.isAny [.versionDirective 0 0, .tagDirective "" "", .documentStart, .documentEnd, .streamEnd] then
    popState
    pure (emptyScalar t.start)
  else node

/-- 文書の終わり。`...` があれば読む。 -/
def parseDocumentEnd : ParseM Event := do
  let t ← peek
  if t.isAny [.documentEnd] then skip
  modify fun p => { p with tagDirectives := [], state := .documentStart }
  pure ⟨.documentEnd, t.start⟩

/-- 名前とタグ（どちらの順でも、どちらもなくてよい）を読む。 -/
def parseProperties : ParseM (Option String × Option (String × String × Pos) × Token) := do
  let t ← peek
  match t.kind with
  | .anchor name =>
    skip
    let t ← peek
    match t.kind with
    | .tag h s =>
      skip
      pure (some name, some (h, s, t.start), ← peek)
    | _ => pure (some name, none, t)
  | .tag h s =>
    skip
    let t' ← peek
    match t'.kind with
    | .anchor name =>
      skip
      pure (some name, some (h, s, t.start), ← peek)
    | _ => pure (none, some (h, s, t.start), t')
  | _ => pure (none, none, t)

/-- 節点を一つ読む。`block` ならブロックの列と写像を、`indentless` なら字下げのない列
（写像の値の位置で `-` が鍵と同じ桁にあるもの）を受ける。 -/
def parseNode (block indentless : Bool) : ParseM Event := do
  let t ← peek
  match t.kind with
  | .alias name =>
    popState
    skip
    pure ⟨.alias name, t.start⟩
  | _ =>
    let start := t.start
    let (anchor, tag, t) ← parseProperties
    let tag ← match tag with
      | some (h, suffix, tagMark) =>
        if h.isEmpty then pure (some suffix)
        else match (← get).tagDirectives.lookup h with
          | some pfx => pure (some (pfx ++ suffix))
          | none => failIn "while parsing a node" start "found undefined tag handle" tagMark
      | none => pure none
    if indentless && t.isAny [.blockEntry] then
      goto .indentlessSequenceEntry
      pure ⟨.sequenceStart anchor tag, start⟩
    else
      match t.kind with
      | .scalar value style =>
        popState
        skip
        pure ⟨.scalar anchor tag value style, start⟩
      | .flowSequenceStart =>
        goto .flowSequenceFirstEntry
        pure ⟨.sequenceStart anchor tag, start⟩
      | .flowMappingStart =>
        goto .flowMappingFirstKey
        pure ⟨.mappingStart anchor tag, start⟩
      | .blockSequenceStart =>
        if block then
          goto .blockSequenceFirstEntry
          pure ⟨.sequenceStart anchor tag, start⟩
        else noContent anchor tag start t
      | .blockMappingStart =>
        if block then
          goto .blockMappingFirstKey
          pure ⟨.mappingStart anchor tag, start⟩
        else noContent anchor tag start t
      | _ => noContent anchor tag start t
where
  /-- 中身のない節点。名前かタグがあれば空のスカラー、なければ誤り。 -/
  noContent (anchor tag : Option String) (start : Pos) (t : Token) : ParseM Event := do
    if anchor.isSome || tag.isSome then
      popState
      pure ⟨.scalar anchor tag "" .plain, start⟩
    else
      failIn (if block then "while parsing a block node" else "while parsing a flow node") start
        "did not find expected node content" t.start

/-- 入れ子の最初の字句を読み、その位置を積む。 -/
def openCollection (first : Bool) : ParseM Unit := do
  if first then
    let t ← peek
    pushMark t.start
    skip

/-- ブロックの列の要素。 -/
def parseBlockSequenceEntry (first : Bool) : ParseM Event := do
  openCollection first
  let t ← peek
  match t.kind with
  | .blockEntry =>
    skip
    let t' ← peek
    if !t'.isAny [.blockEntry, .blockEnd] then
      pushState .blockSequenceEntry
      parseNode true false
    else
      goto .blockSequenceEntry
      pure (emptyScalar t.stop)
  | .blockEnd =>
    popState
    let _ ← popMark
    skip
    pure ⟨.sequenceEnd, t.start⟩
  | _ =>
    let m ← popMark
    failIn "while parsing a block collection" m "did not find expected '-' indicator" t.start

/-- 字下げのない列の要素。`-` でなければ列が終わる。 -/
def parseIndentlessSequenceEntry : ParseM Event := do
  let t ← peek
  match t.kind with
  | .blockEntry =>
    skip
    let t' ← peek
    if !t'.isAny [.blockEntry, .key, .value, .blockEnd] then
      pushState .indentlessSequenceEntry
      parseNode true false
    else
      goto .indentlessSequenceEntry
      pure (emptyScalar t.stop)
  | _ =>
    popState
    pure ⟨.sequenceEnd, t.start⟩

/-- ブロックの写像の鍵。 -/
def parseBlockMappingKey (first : Bool) : ParseM Event := do
  openCollection first
  let t ← peek
  match t.kind with
  | .key =>
    skip
    let t' ← peek
    if !t'.isAny [.key, .value, .blockEnd] then
      pushState .blockMappingValue
      parseNode true true
    else
      goto .blockMappingValue
      pure (emptyScalar t.stop)
  | .blockEnd =>
    popState
    let _ ← popMark
    skip
    pure ⟨.mappingEnd, t.start⟩
  | _ =>
    let m ← popMark
    failIn "while parsing a block mapping" m "did not find expected key" t.start

/-- ブロックの写像の値。`:` がなければ空のスカラー。 -/
def parseBlockMappingValue : ParseM Event := do
  let t ← peek
  match t.kind with
  | .value =>
    skip
    let t' ← peek
    if !t'.isAny [.key, .value, .blockEnd] then
      pushState .blockMappingKey
      parseNode true true
    else
      goto .blockMappingKey
      pure (emptyScalar t.stop)
  | _ =>
    goto .blockMappingKey
    pure (emptyScalar t.start)

/-- フローの列の要素。要素の間には `,` が要る。`?` や `a: b` の要素は一組の写像になる。 -/
def parseFlowSequenceEntry (first : Bool) : ParseM Event := do
  openCollection first
  let t ← peek
  let t ←
    if !t.isAny [.flowSequenceEnd] && !first then
      if t.isAny [.flowEntry] then
        skip
        peek
      else
        let m ← popMark
        failIn "while parsing a flow sequence" m "did not find expected ',' or ']'" t.start
    else pure t
  if t.isAny [.key] then
    goto .flowSequenceEntryMappingKey
    skip
    pure ⟨.mappingStart none none, t.start⟩
  else if !t.isAny [.flowSequenceEnd] then
    pushState .flowSequenceEntry
    parseNode false false
  else
    popState
    let _ ← popMark
    skip
    pure ⟨.sequenceEnd, t.start⟩

/-- フローの列の中の一組の写像の鍵。 -/
def parseFlowSequenceEntryMappingKey : ParseM Event := do
  let t ← peek
  if !t.isAny [.value, .flowEntry, .flowSequenceEnd] then
    pushState .flowSequenceEntryMappingValue
    parseNode false false
  else
    goto .flowSequenceEntryMappingValue
    pure (emptyScalar t.start)

/-- フローの列の中の一組の写像の値。 -/
def parseFlowSequenceEntryMappingValue : ParseM Event := do
  let t ← peek
  if t.isAny [.value] then
    skip
    let t ← peek
    if !t.isAny [.flowEntry, .flowSequenceEnd] then
      pushState .flowSequenceEntryMappingEnd
      parseNode false false
    else
      goto .flowSequenceEntryMappingEnd
      pure (emptyScalar t.start)
  else
    goto .flowSequenceEntryMappingEnd
    pure (emptyScalar t.start)

/-- フローの列の中の一組の写像の終わり。 -/
def parseFlowSequenceEntryMappingEnd : ParseM Event := do
  let t ← peek
  goto .flowSequenceEntry
  pure ⟨.mappingEnd, t.start⟩

/-- フローの写像の鍵。組の間には `,` が要る。 -/
def parseFlowMappingKey (first : Bool) : ParseM Event := do
  openCollection first
  let t ← peek
  let t ←
    if !t.isAny [.flowMappingEnd] && !first then
      if t.isAny [.flowEntry] then
        skip
        peek
      else
        let m ← popMark
        failIn "while parsing a flow mapping" m "did not find expected ',' or '\x7d'" t.start
    else pure t
  if t.isAny [.key] then
    skip
    let t' ← peek
    if !t'.isAny [.value, .flowEntry, .flowMappingEnd] then
      pushState .flowMappingValue
      parseNode false false
    else
      goto .flowMappingValue
      pure (emptyScalar t'.start)
  else if !t.isAny [.flowMappingEnd] then
    pushState .flowMappingEmptyValue
    parseNode false false
  else
    popState
    let _ ← popMark
    skip
    pure ⟨.mappingEnd, t.start⟩

/-- フローの写像の値。`empty` なら鍵だけの組で、値は空のスカラー。 -/
def parseFlowMappingValue (empty : Bool) : ParseM Event := do
  let t ← peek
  if empty then
    goto .flowMappingKey
    pure (emptyScalar t.start)
  else if t.isAny [.value] then
    skip
    let t ← peek
    if !t.isAny [.flowEntry, .flowMappingEnd] then
      pushState .flowMappingKey
      parseNode false false
    else
      goto .flowMappingKey
      pure (emptyScalar t.start)
  else
    goto .flowMappingKey
    pure (emptyScalar t.start)

/-- 次の事象。流れが終わったあとは `none`。 -/
def nextEvent : ParseM (Option Event) := do
  let p ← get
  if p.lexer.streamEnded || p.state == .finished then pure none
  else some <$> match p.state with
    | .streamStart => parseStreamStart
    | .implicitDocumentStart => parseDocumentStart true
    | .documentStart => parseDocumentStart false
    | .documentContent => parseDocumentContent (parseNode true false)
    | .documentEnd => parseDocumentEnd
    | .blockNode => parseNode true false
    | .blockNodeOrIndentlessSequence => parseNode true true
    | .flowNode => parseNode false false
    | .blockSequenceFirstEntry => parseBlockSequenceEntry true
    | .blockSequenceEntry => parseBlockSequenceEntry false
    | .indentlessSequenceEntry => parseIndentlessSequenceEntry
    | .blockMappingFirstKey => parseBlockMappingKey true
    | .blockMappingKey => parseBlockMappingKey false
    | .blockMappingValue => parseBlockMappingValue
    | .flowSequenceFirstEntry => parseFlowSequenceEntry true
    | .flowSequenceEntry => parseFlowSequenceEntry false
    | .flowSequenceEntryMappingKey => parseFlowSequenceEntryMappingKey
    | .flowSequenceEntryMappingValue => parseFlowSequenceEntryMappingValue
    | .flowSequenceEntryMappingEnd => parseFlowSequenceEntryMappingEnd
    | .flowMappingFirstKey => parseFlowMappingKey true
    | .flowMappingKey => parseFlowMappingKey false
    | .flowMappingValue => parseFlowMappingValue false
    | .flowMappingEmptyValue => parseFlowMappingValue true
    | .finished => parseStreamStart

end Workflow.Yaml
