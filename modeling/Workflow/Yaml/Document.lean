import Workflow.Yaml.Event

/-!
# YAML の文書を読む

文字列の最初の文書を、事象を集めてから節点の木にする。

## 文字の検査

読み始める前に、すべての文字を調べる。タブ、改行、印字できる文字のほかは許さず、誤りは
先頭からのバイト数で示す。先頭のバイト順マークは読み飛ばす（バイト数には数える）。

## 事象を集める

最初の文書の事象を、文書の終わりまで集める。途中で読み取りの誤りが起きれば、そこまでの
事象と誤りを残す。名前の参照（`*a`）は、それより前に出た名前でなければ誤りである。名前には、
出た順に、その時点で知っている名前の数を番号として振る。同じ名前をもう一度使えば番号は
振り直され、番号が重なったときは後の節点が勝つ。参照は、集め終えたときの番号の表で引く。

## 木にする

事象の並びを木にする。参照のところには、名前をつけた節点を作り直して置く。事象が途中で
途切れていれば、途切れたところに誤りを置く。

最初の文書を誤りなく読み終えたら、後ろにもう一つ文書があるか（流れの終わりでない事象が
続くか、読み取りの誤りになるか）を調べる。

## 停止性

事象を集める繰り返しは、文字数に比例する燃料で止める。木を作る関数は燃料を一つずつ
減らして呼び合う。燃料は事象の数と参照の数の積より多く与える。
-/

namespace Workflow.Yaml

/-! ## 文字の検査 -/

/-- 文書に書いてよい文字か：タブ、LF、CR、印字できる ASCII、NEL、そして制御文字と
サロゲートと U+FFFE U+FFFF を除くすべて。 -/
def isAllowedChar (c : Char) : Bool :=
  let n := c.toNat
  n == 0x9 || n == 0xA || n == 0xD || (0x20 ≤ n && n ≤ 0x7E) || n == 0x85 ||
    (0xA0 ≤ n && n ≤ 0xD7FF) || (0xE000 ≤ n && n ≤ 0xFFFD) || 0x10000 ≤ n

/-- 書いてはいけない文字を探す。`offset` は `cs` の先頭のバイト数。 -/
def findDisallowed : List Char → Nat → Option ParseError
  | [], _ => none
  | c :: rest, offset =>
    if isAllowedChar c then findDisallowed rest (offset + c.utf8Size)
    else some { problem := "control characters are not allowed", offset }

/-! ## 事象を集める -/

/-- 集めた事象。名前は取り除き、参照は番号にしてある。 -/
inductive Item where
  | scalar (value : String) (style : Style) (tag : Option String) (mark : Mark)
  | seqStart (tag : Option String) (mark : Mark)
  | seqEnd
  | mapStart (tag : Option String) (mark : Mark)
  | mapEnd
  | alias (id : Nat)

/-- 名前の表：名前から番号へ、番号から事象の位置へ。 -/
structure Anchors where
  names : List (String × Nat) := []
  targets : List (Nat × Nat) := []

/-- 位置 `pos` の事象に名前をつける。番号は、その時点で知っている名前の数。 -/
def Anchors.add (a : Anchors) (anchor : Option String) (pos : Nat) : Anchors :=
  match anchor with
  | none => a
  | some name =>
    let id := a.names.length
    { names := (name, id) :: a.names.filter (·.1 != name)
      targets := (id, pos) :: a.targets.filter (·.1 != id) }

/-- 最初の文書の事象を集めた結果。 -/
structure Collected where
  items : Array Item
  /-- 読み取りの誤り。あれば事象はそこで途切れている。 -/
  error : Option ParseError
  /-- 番号から事象の位置へ。 -/
  targets : List (Nat × Nat)
  /-- 文書を読み終えたあとの読み手。流れが終わったか誤りなら、ない。 -/
  rest : Option Parser

/-- 最初の文書の事象を、文書の終わりか流れの終わりか誤りまで集める。 -/
def collectEvents : Nat → Parser → Array Item → Anchors → Collected
  | 0, p, items, anchors => ⟨items, none, anchors.targets, some p⟩
  | fuel + 1, p, items, anchors =>
    match nextEvent.run p with
    | .error e => ⟨items, some e, anchors.targets, none⟩
    | .ok (none, _) => ⟨items, none, anchors.targets, none⟩
    | .ok (some ev, p) =>
      let pos := items.size
      let mark := ev.start.mark
      match ev.kind with
      | .streamStart | .documentStart => collectEvents fuel p items anchors
      | .streamEnd => ⟨items, none, anchors.targets, none⟩
      | .documentEnd => ⟨items, none, anchors.targets, some p⟩
      | .alias name =>
        match anchors.names.lookup name with
        | some id => collectEvents fuel p (items.push (.alias id)) anchors
        | none => ⟨items, some { problem := "unknown anchor", problemMark := mark }, anchors.targets, none⟩
      | .scalar anchor tag value style =>
        collectEvents fuel p (items.push (.scalar value style tag mark)) (anchors.add anchor pos)
      | .sequenceStart anchor tag =>
        collectEvents fuel p (items.push (.seqStart tag mark)) (anchors.add anchor pos)
      | .sequenceEnd => collectEvents fuel p (items.push .seqEnd) anchors
      | .mappingStart anchor tag =>
        collectEvents fuel p (items.push (.mapStart tag mark)) (anchors.add anchor pos)
      | .mappingEnd => collectEvents fuel p (items.push .mapEnd) anchors

/-! ## 木にする -/

/-- 燃料が尽きたとき（自分を参照する名前など）の誤り。 -/
def recursionLimit : ParseError := { problem := "recursion limit exceeded" }

mutual

/-- 位置 `i` の事象から節点を一つ作り、次の位置を返す。 -/
def buildNode (items : Array Item) (targets : List (Nat × Nat)) (err : ParseError) :
    Nat → Nat → Node × Nat
  | 0, i => (.cut recursionLimit, i)
  | fuel + 1, i =>
    match items[i]? with
    | none => (.cut err, i)
    | some (.scalar value style tag mark) => (.scalar value style tag mark, i + 1)
    | some (.alias id) =>
      match targets.lookup id with
      | some t => ((buildNode items targets err fuel t).1, i + 1)
      | none => (.cut err, i + 1)
    | some (.seqStart tag mark) =>
      let (xs, j) := buildItems items targets err fuel (i + 1)
      (.seq xs tag mark, j)
    | some (.mapStart tag mark) =>
      let (es, j) := buildEntries items targets err fuel (i + 1)
      (.map es tag mark, j)
    | some .seqEnd | some .mapEnd => (.cut err, i + 1)

/-- 列の要素を、列の終わりまで作る。 -/
def buildItems (items : Array Item) (targets : List (Nat × Nat)) (err : ParseError) :
    Nat → Nat → List Node × Nat
  | 0, i => ([.cut recursionLimit], i)
  | fuel + 1, i =>
    match items[i]? with
    | none => ([.cut err], i)
    | some .seqEnd => ([], i + 1)
    | some _ =>
      let (x, j) := buildNode items targets err fuel i
      let (xs, k) := buildItems items targets err fuel j
      (x :: xs, k)

/-- 写像の組を、写像の終わりまで作る。 -/
def buildEntries (items : Array Item) (targets : List (Nat × Nat)) (err : ParseError) :
    Nat → Nat → List (Node × Node) × Nat
  | 0, i => ([(.cut recursionLimit, .cut recursionLimit)], i)
  | fuel + 1, i =>
    match items[i]? with
    | none => ([(.cut err, .cut err)], i)
    | some .mapEnd => ([], i + 1)
    | some _ =>
      let (k, j) := buildNode items targets err fuel i
      match items[j]? with
      | none => ([(k, .cut err)], j)
      | some _ =>
        let (v, j') := buildNode items targets err fuel j
        let (es, e) := buildEntries items targets err fuel j'
        ((k, v) :: es, e)

end

/-! ## 最初の文書 -/

/-- 最初の文書。 -/
structure FirstDocument where
  /-- 文書の根。文書がなければ、ない。 -/
  root : Option Node
  /-- 読み取りの誤り。あれば根の中の途切れたところにも置いてある。 -/
  error : Option ParseError
  /-- 最初の文書を誤りなく読み終えたとき、後ろにもう一つ文書があるか。 -/
  more : Bool

/-- 後ろにもう一つ文書があるか：次の事象が流れの終わりでないか、読み取りの誤りになるか。 -/
def hasMoreDocuments (p : Parser) : Bool :=
  match nextEvent.run p with
  | .error _ => true
  | .ok (some ⟨.streamEnd, _⟩, _) => false
  | .ok (none, _) => false
  | .ok (some _, _) => true

/-- 文字列の最初の文書を読む。 -/
def FirstDocument.read (text : String) : FirstDocument :=
  let (chars, offset) := match text.toList with
    | '\uFEFF' :: rest => (rest, 3)
    | cs => (cs, 0)
  match findDisallowed chars offset with
  | some e => ⟨some (.cut e), some e, false⟩
  | none =>
    let input := chars.toArray
    let c := collectEvents (4 * input.size + 16) (Parser.ofChars input) #[] {}
    let root :=
      if c.items.isEmpty && c.error.isNone then none
      else
        let err := c.error.getD { problem := "EOF while parsing a value" }
        let fuel := (c.items.size + 2) * (c.targets.length + 1)
        some (buildNode c.items c.targets err fuel 0).1
    let more := match c.error, c.rest with
      | none, some p => hasMoreDocuments p
      | _, _ => false
    ⟨root, c.error, more⟩

end Workflow.Yaml
