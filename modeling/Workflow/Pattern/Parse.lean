import Workflow.Pattern.Syntax
import Workflow.Text.Script
import Workflow.Text.Property

/-!
# 正規表現を読む

文法は広く使われる正規表現の方言に合わせる。

* 選択 `|`、連接、グループ `( )`、捕獲しないグループ `(?: )`、名前つきグループ
  `(?P<name> )` と `(?<name> )`。
* 繰り返し `*`、`+`、`?`、`{n}`、`{n,}`、`{n,m}`、それぞれのあとに最短一致の `?`。
* 文字クラス `[...]`：否定 `^`、区間、入れ子、ASCII クラス `[:alpha:]`、集合演算 `&&`、`--`、`~~`。
* エスケープ：メタ文字と、英数字と `<` `>` を除く ASCII 記号はその文字。`\d` `\s` `\w` と大文字の否定、
  `\p{..}` と `\P{..}`（一般カテゴリ、文字体系、二値の性質）、`\x7F` `\x{..}` `\u` `\U`、`\a` `\f` `\t` `\n` `\r` `\v`、位置の条件
  `\A` `\z` `\b` `\B` `\<` `\>` `\b{start}` など。
* フラグ `i`（大文字小文字を同一視）、`m`（行単位の `^` `$`）、`s`（`.` が改行にも当たる）、
  `u`（Unicode の語・数字・空白）、`x`（空白と `#` からのコメントを読み飛ばす）、`U`、`R`。
  `(?flags)` はグループの終わりまで、`(?flags: )` はその中だけに効く。

次のものは誤りである：先読み・後読み、後方参照（`\1` など）、閉じていないか開いていない
グループ、繰り返す対象のない繰り返し、`{2,1}` のような逆の範囲、閉じていない `{`、
閉じていない文字クラス、逆の区間、知らないエスケープ、知らないフラグや重複したフラグ、
不正な名前や重複した名前、知らない Unicode の性質。

## 停止性

`parseSeq` と `parseBracket` は燃料を一つずつ減らし、呼ぶたびに 1 文字以上を読む。燃料は
残りの文字数より多く与えるので、誤り `tooDeep` にはならない。
-/

namespace Workflow.Pattern

open Workflow.Text

/-- 正規表現の読み取りの誤り。 -/
inductive ParseError where
  | unclosedGroup
  | unopenedGroup
  | lookAround
  | backreference
  | incompleteEscape
  | unrecognizedEscape
  | missingRepetition
  | invalidRepetition
  | unclosedRepetition
  | unclosedClass
  | invalidClassRange
  | classRangeLiteral
  | classEscape
  | invalidFlag
  | invalidGroupName
  | duplicateGroupName
  | invalidHex
  | unknownProperty
  | tooDeep
  deriving Repr, BEq

/-- 読み取りのフラグ。 -/
structure Flags where
  /-- 大文字小文字を同一視する（`i`）。 -/
  caseless : Bool := false
  /-- `^` と `$` が行の端に当たる（`m`）。 -/
  multiLine : Bool := false
  /-- `.` が改行にも当たる（`s`）。 -/
  dotAll : Bool := false
  /-- 語・数字・空白を Unicode で判定する（`u`）。 -/
  unicode : Bool := true
  /-- 空白とコメントを読み飛ばす（`x`）。 -/
  verbose : Bool := false

/-! ## 字句 -/

mutual

/-- `x` フラグのとき、空白と `#` から行末までのコメントを読み飛ばす。 -/
def skipSpace (verbose : Bool) : List Char → List Char
  | [] => []
  | c :: rest =>
    if verbose && isBlank c then skipSpace verbose rest
    else if verbose && c == '#' then skipComment verbose rest
    else c :: rest

/-- コメントを行末まで読み飛ばす。 -/
def skipComment (verbose : Bool) : List Char → List Char
  | [] => []
  | c :: rest => if c == '\n' then skipSpace verbose rest else skipComment verbose rest

end

/-- メタ文字か。エスケープするとその文字になる。 -/
def isMeta (c : Char) : Bool :=
  "\\.+*?()|[]{}^$#&-~".toList.contains c

/-- エスケープしてもその文字になるか：メタ文字と、英数字と `<` `>` を除く ASCII。 -/
def isEscapable (c : Char) : Bool :=
  isMeta c || (c.toNat < 128 && !c.isAlphanum && c != '<' && c != '>')

/-- 16 進の数字の値。 -/
def hexValue? (c : Char) : Option Nat :=
  if '0' ≤ c ∧ c ≤ '9' then some (c.toNat - 48)
  else if 'a' ≤ c ∧ c ≤ 'f' then some (c.toNat - 87)
  else if 'A' ≤ c ∧ c ≤ 'F' then some (c.toNat - 55)
  else none

/-- 16 進の数字の列の値。数字でないものがあれば `none`。 -/
def hexNumber? (cs : List Char) : Option Nat :=
  cs.foldlM (fun acc c => (hexValue? c).map (acc * 16 + ·)) 0

/-- code point が文字（スカラー値）として正しいか。 -/
def validScalar (n : Nat) : Bool :=
  n < 0xD800 || (0xDFFF < n && n ≤ 0x10FFFF)

/-- 文字 1 つの集合。`i` フラグなら同一視する文字も入れる。 -/
def literalClass (flags : Flags) (c : Char) : ClassExpr :=
  if flags.caseless then .fold (.single c) else .single c

/-! ## エスケープ -/

/-- エスケープの読み取り結果。 -/
inductive Escape where
  /-- 1 文字。 -/
  | literal (c : Char)
  /-- 文字クラス。 -/
  | chars (c : ClassExpr)
  /-- 位置の条件。 -/
  | look (l : Look)

/-- `\x` `\u` `\U` のあとの 16 進。`width` は括弧なしのときの桁数。 -/
def parseHexEscape (width : Nat) : List Char → Except ParseError (Char × List Char)
  | '{' :: rest =>
    let digits := rest.takeWhile (· != '}')
    match rest.dropWhile (· != '}') with
    | '}' :: after =>
      if digits.isEmpty then .error .invalidHex
      else match hexNumber? digits with
        | some n => if validScalar n then .ok (Char.ofNat n, after) else .error .invalidHex
        | none => .error .invalidHex
    | _ => .error .incompleteEscape
  | cs =>
    let digits := cs.take width
    if digits.length < width then .error .incompleteEscape
    else match hexNumber? digits with
      | some n => if validScalar n then .ok (Char.ofNat n, cs.drop width) else .error .invalidHex
      | none => .error .invalidHex

/-- 性質の名前を緩くそろえる：先頭の `is`（大文字小文字を問わない）を除き、空白・`_`・`-` と
ASCII でない文字を除き、大文字を小文字にする。`isc` だけは `c` にせず残す（`c` は一般
カテゴリの名前で、`isc` は別の性質の略称である）。 -/
def looseName (s : String) : String :=
  let cs := s.toList
  let (marked, body) := match cs with
    | a :: b :: rest =>
      if (a == 'i' || a == 'I') && (b == 's' || b == 'S') then (true, rest) else (false, cs)
    | _ => (false, cs)
  let kept := (body.filter fun c => c != ' ' && c != '_' && c != '-' && c.toNat < 128).map Char.toLower
  if marked && kept == ['c'] then "isc" else String.ofList kept

/-- 一般カテゴリの名前（緩くそろえたもの）と、それが表すカテゴリ。 -/
def categoryNames : List (String × List Category) :=
  (Category.all.map fun k => [(looseName k.shortName, [k]), (looseName k.longName, [k])]).flatten ++
  [("l", [.Lu, .Ll, .Lt, .Lm, .Lo]), ("letter", [.Lu, .Ll, .Lt, .Lm, .Lo]),
   ("lc", [.Lu, .Ll, .Lt]), ("casedletter", [.Lu, .Ll, .Lt]),
   ("m", [.Mn, .Mc, .Me]), ("mark", [.Mn, .Mc, .Me]), ("combiningmark", [.Mn, .Mc, .Me]),
   ("n", [.Nd, .Nl, .No]), ("number", [.Nd, .Nl, .No]), ("digit", [.Nd]),
   ("p", [.Pc, .Pd, .Ps, .Pe, .Pi, .Pf, .Po]), ("punctuation", [.Pc, .Pd, .Ps, .Pe, .Pi, .Pf, .Po]),
   ("punct", [.Pc, .Pd, .Ps, .Pe, .Pi, .Pf, .Po]),
   ("s", [.Sm, .Sc, .Sk, .So]), ("symbol", [.Sm, .Sc, .Sk, .So]),
   ("z", [.Zs, .Zl, .Zp]), ("separator", [.Zs, .Zl, .Zp]),
   ("c", [.Cc, .Cf, .Cs, .Co, .Cn]), ("other", [.Cc, .Cf, .Cs, .Co, .Cn]), ("cntrl", [.Cc])]

/-- 一般カテゴリの名前（緩くそろえたもの）の集合。すべての文字 `any`、割り当て済みの文字
`assigned`、ASCII `ascii` もここで受ける。 -/
def categoryClass? (name : String) : Option ClassExpr :=
  match name with
  | "any" => some (.range 0 0x10FFFF)
  | "assigned" => some (.complement (.category [.Cn]))
  | "ascii" => some (.range 0 0x7F)
  | _ => (categoryNames.lookup name).map .category

/-- 二値の性質の名前（緩くそろえたもの）の集合。 -/
def binaryClass? (name : String) : Option ClassExpr :=
  (PropertyEntry.find? name).map fun e => .table (RangeTable.ofHex e.ranges)

/-- 文字体系の名前（緩くそろえたもの）の集合。`extended` なら Script_Extensions、
そうでなければ Script で引く。 -/
def scriptClass? (extended : Bool) (name : String) : Option ClassExpr :=
  (ScriptEntry.find? name).map fun e =>
    .table (RangeTable.ofHex (if extended then e.extensions else e.script))

/-- 名前だけの性質（`\p{Greek}`、`\pL`）の集合。二値の性質、一般カテゴリ、文字体系
（Script）の順に探す。`cf` `sc` `lc` はほかの性質の略称でもあるが、一般カテゴリとして読む。 -/
def namedClass? (name : String) : Option ClassExpr :=
  let n := looseName name
  let binary := if n == "cf" || n == "sc" || n == "lc" then none else binaryClass? n
  binary <|> categoryClass? n <|> scriptClass? false n

/-- `名前=値` の形の性質の集合。名前は一般カテゴリ（`gc`）、文字体系（`sc`）、
文字体系の拡張（`scx`）を受ける。 -/
def valueClass? (key value : List Char) : Option ClassExpr :=
  let k := looseName (String.ofList key)
  let v := looseName (String.ofList value)
  if k == "gc" || k == "generalcategory" then categoryClass? v
  else if k == "sc" || k == "script" then scriptClass? false v
  else if k == "scx" || k == "scriptextensions" then scriptClass? true v
  else none

/-- `sep` が最初に現れるところで、前と後ろに分ける。 -/
def splitFirst? (sep : List Char) : List Char → Option (List Char × List Char)
  | [] => none
  | c :: rest =>
    if sep.isPrefixOf (c :: rest) then some ([], (c :: rest).drop sep.length)
    else (splitFirst? sep rest).map fun (a, b) => (c :: a, b)

/-- `\p{..}` の中身の集合と、否定するか。`名前!=値` は否定、`名前:値` と `名前=値` は
そのまま、ほかは名前だけの性質である。 -/
def propertyClass? (spec : List Char) : Option (ClassExpr × Bool) :=
  match splitFirst? ['!', '='] spec with
  | some (key, value) => (valueClass? key value).map (·, true)
  | none =>
    match splitFirst? [':'] spec with
    | some (key, value) => (valueClass? key value).map (·, false)
    | none =>
      match splitFirst? ['='] spec with
      | some (key, value) => (valueClass? key value).map (·, false)
      | none => (namedClass? (String.ofList spec)).map (·, false)

/-- 性質の集合を仕上げる：`i` フラグなら同一視する文字を入れてから、否定する。 -/
def finishProperty (flags : Flags) (negated : Bool) (cls : ClassExpr) : ClassExpr :=
  let cls := if flags.caseless then .fold cls else cls
  if negated then .complement cls else cls

/-- `\p` `\P` のあと。Unicode の扱い（`u` フラグ）を切ったところでは使えない。 -/
def parseProperty (flags : Flags) (negated : Bool) : List Char →
    Except ParseError (ClassExpr × List Char)
  | [] => .error .incompleteEscape
  | '{' :: rest =>
    match rest.dropWhile (· != '}') with
    | '}' :: after =>
      match propertyClass? (rest.takeWhile (· != '}')), flags.unicode with
      | some (cls, neg), true => .ok (finishProperty flags (negated != neg) cls, after)
      | _, _ => .error .unknownProperty
    | _ => .error .incompleteEscape
  | c :: rest =>
    match propertyClass? [c], flags.unicode with
    | some (cls, neg), true => .ok (finishProperty flags (negated != neg) cls, rest)
    | _, _ => .error .unknownProperty

/-- `\d` `\s` `\w` の集合。 -/
def perlClass (unicode : Bool) : Char → ClassExpr
  | 'd' => if unicode then .category [.Nd] else .range 48 57
  | 's' => if unicode then .whiteSpace else ClassExpr.ranges [(9, 13), (32, 32)]
  | _ => if unicode then .word else ClassExpr.ranges [(48, 57), (65, 90), (95, 95), (97, 122)]

/-- `\b{..}` の名前の位置の条件。 -/
def boundaryNamed (unicode : Bool) : String → Option Look
  | "start" => some (.wordStart unicode)
  | "end" => some (.wordEnd unicode)
  | "start-half" => some (.wordStartHalf unicode)
  | "end-half" => some (.wordEndHalf unicode)
  | _ => none

/-- `\` のあとを読む。 -/
def parseEscape (flags : Flags) : List Char → Except ParseError (Escape × List Char)
  | [] => .error .incompleteEscape
  | c :: rest =>
    if c.isDigit then .error .backreference
    else if c == 'x' then (parseHexEscape 2 rest).map fun (ch, r) => (.literal ch, r)
    else if c == 'u' then (parseHexEscape 4 rest).map fun (ch, r) => (.literal ch, r)
    else if c == 'U' then (parseHexEscape 8 rest).map fun (ch, r) => (.literal ch, r)
    else if c == 'p' || c == 'P' then
      (parseProperty flags (c == 'P') rest).map fun (cls, r) => (.chars cls, r)
    else if "dswDSW".toList.contains c then
      let cls := perlClass flags.unicode c.toLower
      .ok (.chars (if c.isUpper then .complement cls else cls), rest)
    else if isEscapable c then .ok (.literal c, rest)
    else match c with
      | 'a' => .ok (.literal (Char.ofNat 7), rest)
      | 'f' => .ok (.literal (Char.ofNat 12), rest)
      | 't' => .ok (.literal '\t', rest)
      | 'n' => .ok (.literal '\n', rest)
      | 'r' => .ok (.literal '\r', rest)
      | 'v' => .ok (.literal (Char.ofNat 11), rest)
      | 'A' => .ok (.look .textStart, rest)
      | 'z' => .ok (.look .textEnd, rest)
      | 'B' => .ok (.look (.notWordBoundary flags.unicode), rest)
      | '<' => .ok (.look (.wordStart flags.unicode), rest)
      | '>' => .ok (.look (.wordEnd flags.unicode), rest)
      | 'b' =>
        match rest with
        | '{' :: more =>
          let name := String.ofList (more.takeWhile (· != '}'))
          match boundaryNamed flags.unicode name, more.dropWhile (· != '}') with
          | some l, '}' :: after => .ok (.look l, after)
          | _, _ => .ok (.look (.wordBoundary flags.unicode), rest)
        | _ => .ok (.look (.wordBoundary flags.unicode), rest)
      | _ => .error .unrecognizedEscape

/-! ## 文字クラス -/

/-- ASCII クラスの名前の集合。 -/
def asciiClass? : String → Option ClassExpr
  | "alnum" => some (ClassExpr.ranges [(48, 57), (65, 90), (97, 122)])
  | "alpha" => some (ClassExpr.ranges [(65, 90), (97, 122)])
  | "ascii" => some (.range 0 127)
  | "blank" => some (ClassExpr.ranges [(9, 9), (32, 32)])
  | "cntrl" => some (ClassExpr.ranges [(0, 31), (127, 127)])
  | "digit" => some (.range 48 57)
  | "graph" => some (.range 33 126)
  | "lower" => some (.range 97 122)
  | "print" => some (.range 32 126)
  | "punct" => some (ClassExpr.ranges [(33, 47), (58, 64), (91, 96), (123, 126)])
  | "space" => some (ClassExpr.ranges [(9, 13), (32, 32)])
  | "upper" => some (.range 65 90)
  | "word" => some (ClassExpr.ranges [(48, 57), (65, 90), (95, 95), (97, 122)])
  | "xdigit" => some (ClassExpr.ranges [(48, 57), (65, 70), (97, 102)])
  | _ => none

/-- `[` のあとが `:name:]` なら ASCII クラス。そうでなければ `none`（入れ子のクラスになる）。 -/
def asciiBracket? : List Char → Option (ClassExpr × List Char)
  | ':' :: rest =>
    let (negated, rest) := match rest with
      | '^' :: r => (true, r)
      | r => (false, r)
    match rest.dropWhile (· != ':') with
    | ':' :: ']' :: after =>
      (asciiClass? (String.ofList (rest.takeWhile (· != ':')))).map fun cls =>
        (if negated then .complement cls else cls, after)
    | _ => none
  | _ => none

/-- クラスの中の 1 項目の始まり：文字か、エスケープしたクラス。 -/
inductive ClassAtom where
  | literal (c : Char)
  | chars (c : ClassExpr)

/-- クラスの中の 1 項目の始まりを読む。 -/
def parseClassAtom (flags : Flags) : List Char → Except ParseError (ClassAtom × List Char)
  | [] => .error .unclosedClass
  | '\\' :: rest => do
    let (e, rest) ← parseEscape flags rest
    match e with
    | .literal c => pure (.literal c, rest)
    | .chars c => pure (.chars c, rest)
    | .look _ => throw .classEscape
  | c :: rest => .ok (.literal c, rest)

/-- 項目の集合。 -/
def ClassAtom.toClass : ClassAtom → ClassExpr
  | .literal c => .single c
  | .chars c => c

/-- クラスの中の 1 項目を読む：1 文字、区間、エスケープしたクラス。 -/
def parseClassItem (flags : Flags) (cs : List Char) : Except ParseError (ClassExpr × List Char) := do
  let (first, rest) ← parseClassAtom flags cs
  let rest := skipSpace flags.verbose rest
  match rest with
  | [] => throw .unclosedClass
  | '-' :: more =>
    match skipSpace flags.verbose more with
    | [] => throw .unclosedClass
    | ']' :: _ => pure (first.toClass, rest)
    | '-' :: _ => pure (first.toClass, rest)
    | more => do
      let (second, after) ← parseClassAtom flags more
      match first, second with
      | .literal a, .literal b =>
        if a.toNat ≤ b.toNat then pure (.range a.toNat b.toNat, after) else throw .invalidClassRange
      | _, _ => throw .classRangeLiteral
  | _ => pure (first.toClass, rest)

/-- クラスの集合演算。 -/
inductive SetOp where
  | inter | diff | symDiff

/-- 集合演算を施す。 -/
def SetOp.apply : SetOp → ClassExpr → ClassExpr → ClassExpr
  | .inter, a, b => .inter a b
  | .diff, a, b => .diff a b
  | .symDiff, a, b => .symDiff a b

/-- 項目の和集合。 -/
def unionAll : List ClassExpr → ClassExpr
  | [] => ClassExpr.nothing
  | [c] => c
  | c :: cs => .union c (unionAll cs)

/-- 演算の左辺と、いま読んでいる和集合の項目から集合を作る。 -/
def combineSets (lhs : Option (SetOp × ClassExpr)) (items : List ClassExpr) : ClassExpr :=
  match lhs with
  | none => unionAll items.reverse
  | some (op, l) => op.apply l (unionAll items.reverse)

mutual

/-- `[` と、あれば `^` のあとからクラスを読む。先頭の `-` と、先頭の `]` は文字である。 -/
def parseBracket (fuel : Nat) (flags : Flags) (cs : List Char) :
    Except ParseError (ClassExpr × List Char) :=
  match fuel with
  | 0 => .error .tooDeep
  | fuel + 1 =>
    let cs := skipSpace flags.verbose cs
    let (negated, cs) := match cs with
      | '^' :: r => (true, skipSpace flags.verbose r)
      | r => (false, r)
    let dashes := cs.takeWhile (· == '-')
    let cs := skipSpace flags.verbose (cs.dropWhile (· == '-'))
    let items : List ClassExpr := dashes.map fun _ => ClassExpr.single '-'
    let (items, cs) := match items, cs with
      | [], ']' :: r => ([ClassExpr.single ']'], r)
      | items, r => (items, r)
    match classLoop fuel flags none items cs with
    | .ok (cls, rest) =>
      let cls := if flags.caseless then .fold cls else cls
      .ok (if negated then .complement cls else cls, rest)
    | .error e => .error e

/-- クラスの中身を `]` まで読む。`lhs` は集合演算の左辺、`items` はいま読んでいる和集合の
項目（新しいものが先頭）。 -/
def classLoop (fuel : Nat) (flags : Flags) (lhs : Option (SetOp × ClassExpr))
    (items : List ClassExpr) (cs : List Char) : Except ParseError (ClassExpr × List Char) :=
  match fuel with
  | 0 => .error .tooDeep
  | fuel + 1 =>
    match skipSpace flags.verbose cs with
    | [] => .error .unclosedClass
    | ']' :: rest => .ok (combineSets lhs items, rest)
    | '[' :: rest =>
      match asciiBracket? rest with
      | some (cls, after) => classLoop fuel flags lhs (cls :: items) after
      | none =>
        match parseBracket fuel flags rest with
        | .ok (cls, after) => classLoop fuel flags lhs (cls :: items) after
        | .error e => .error e
    | '&' :: '&' :: rest => classLoop fuel flags (some (.inter, combineSets lhs items)) [] rest
    | '-' :: '-' :: rest => classLoop fuel flags (some (.diff, combineSets lhs items)) [] rest
    | '~' :: '~' :: rest => classLoop fuel flags (some (.symDiff, combineSets lhs items)) [] rest
    | other =>
      match parseClassItem flags other with
      | .ok (cls, after) => classLoop fuel flags lhs (cls :: items) after
      | .error e => .error e

end

/-! ## 繰り返しとフラグ -/

/-- 十進の数字の列を読む。 -/
def parseDecimal (cs : List Char) : Option (Nat × List Char) :=
  let digits := cs.takeWhile Char.isDigit
  if digits.isEmpty then none
  else
    let n := digits.foldl (fun acc c => acc * 10 + (c.toNat - 48)) 0
    if n < Nat.pow 2 32 then some (n, cs.dropWhile Char.isDigit) else none

/-- `{` のあとの回数 `n`、`n,`、`n,m` と `}` を読む。 -/
def parseCounted (verbose : Bool) (cs : List Char) :
    Except ParseError (Nat × Option Nat × List Char) := do
  let cs := skipSpace verbose cs
  if cs.isEmpty then throw .unclosedRepetition
  let some (lo, cs) := parseDecimal cs | throw .invalidRepetition
  let cs := skipSpace verbose cs
  let (hi, cs) ← match cs with
    | ',' :: rest =>
      let rest := skipSpace verbose rest
      match parseDecimal rest with
      | some (hi, after) => pure (some hi, skipSpace verbose after)
      | none =>
        if rest.isEmpty then throw .unclosedRepetition else pure (none, rest)
    | rest => pure (some lo, rest)
  match cs with
  | '}' :: rest =>
    match hi with
    | some h => if h < lo then throw .invalidRepetition else pure (lo, hi, rest)
    | none => pure (lo, hi, rest)
  | _ => throw .unclosedRepetition

/-- `(?` のあとのフラグを `:` か `)` まで読む。終わりの文字と残りを返す。 -/
def parseFlags (flags : Flags) : List Char → Bool → List Char → Bool →
    Except ParseError (Flags × Char × List Char)
  | [], _, _, _ => .error .invalidFlag
  | c :: rest, negated, seen, sawAny =>
    if c == ':' || c == ')' then
      if negated && (seen.getLast? == some '-') then .error .invalidFlag
      else if c == ')' && !sawAny then .error .missingRepetition
      else .ok (flags, c, rest)
    else if c == '-' then
      if negated then .error .invalidFlag else parseFlags flags rest true (seen ++ [c]) sawAny
    else if seen.contains c then .error .invalidFlag
    else
      let on := !negated
      let flags? : Option Flags := match c with
        | 'i' => some { flags with caseless := on }
        | 'm' => some { flags with multiLine := on }
        | 's' => some { flags with dotAll := on }
        | 'u' => some { flags with unicode := on }
        | 'x' => some { flags with verbose := on }
        | 'U' | 'R' => some flags
        | _ => none
      match flags? with
      | some f => parseFlags f rest negated (seen ++ [c]) true
      | none => .error .invalidFlag

/-- 名前つきグループの名前が正しいか。 -/
def validGroupName (name : List Char) : Bool :=
  match name with
  | [] => false
  | c :: rest =>
    (c == '_' || isAlphabetic c) &&
      rest.all fun d => d == '_' || d == '.' || d == '[' || d == ']' || isAlphanumeric d

/-- 繰り返しを連接の最後の要素に付ける。最後が無いかフラグ指定なら誤り。 -/
def applyRepetition (items : List (Option Node)) (lo : Nat) (hi : Option Nat) :
    Except ParseError (List (Option Node)) :=
  match items with
  | some n :: rest => .ok (some (.rep n lo hi) :: rest)
  | _ => .error .missingRepetition

/-- 繰り返しのあとの最短一致の `?` を読み飛ばす。 -/
def dropLazy : List Char → List Char
  | '?' :: rest => rest
  | cs => cs

/-- 連接の要素を正規表現にする。 -/
def itemsNode (items : List (Option Node)) : Node :=
  Node.seq (items.reverse.filterMap id)

/-! ## 本体 -/

/-- グループの中身（深さ `depth`、最上位は 0）を閉じ括弧か終わりまで読む。`branches` は
読み終えた選択肢、`items` はいま読んでいる連接の要素（新しいものが先頭、`none` はフラグ指定）。
読んだ正規表現、残り、使った名前を返す。 -/
def parseSeq (fuel : Nat) (flags : Flags) (names : List String) (depth : Nat)
    (branches : List Node) (items : List (Option Node)) (cs : List Char) :
    Except ParseError (Node × List Char × List String) :=
  match fuel with
  | 0 => .error .tooDeep
  | fuel + 1 =>
    let finish := Node.choice (branches ++ [itemsNode items])
    match skipSpace flags.verbose cs with
    | [] => if depth > 0 then .error .unclosedGroup else .ok (finish, [], names)
    | ')' :: rest => if depth == 0 then .error .unopenedGroup else .ok (finish, rest, names)
    | '|' :: rest => parseSeq fuel flags names depth (branches ++ [itemsNode items]) [] rest
    | '(' :: rest =>
      match rest with
      | '?' :: '=' :: _ | '?' :: '!' :: _ | '?' :: '<' :: '=' :: _ | '?' :: '<' :: '!' :: _ =>
        .error .lookAround
      | '?' :: 'P' :: '<' :: more | '?' :: '<' :: more =>
        let name := more.takeWhile (· != '>')
        match more.dropWhile (· != '>') with
        | '>' :: body =>
          if !validGroupName name then .error .invalidGroupName
          else if names.contains (String.ofList name) then .error .duplicateGroupName
          else
            match parseSeq fuel flags (String.ofList name :: names) (depth + 1) [] [] body with
            | .ok (node, after, names) => parseSeq fuel flags names depth branches (some node :: items) after
            | .error e => .error e
        | _ => .error .invalidGroupName
      | '?' :: more =>
        match parseFlags flags more false [] false with
        | .ok (newFlags, ')', after) => parseSeq fuel newFlags names depth branches (none :: items) after
        | .ok (newFlags, _, body) =>
          match parseSeq fuel newFlags names (depth + 1) [] [] body with
          | .ok (node, after, names) => parseSeq fuel flags names depth branches (some node :: items) after
          | .error e => .error e
        | .error e => .error e
      | body =>
        match parseSeq fuel flags names (depth + 1) [] [] body with
        | .ok (node, after, names) => parseSeq fuel flags names depth branches (some node :: items) after
        | .error e => .error e
    | '[' :: rest =>
      match parseBracket fuel flags rest with
      | .ok (cls, after) => parseSeq fuel flags names depth branches (some (.chars cls) :: items) after
      | .error e => .error e
    | '?' :: rest =>
      match applyRepetition items 0 (some 1) with
      | .ok items => parseSeq fuel flags names depth branches items (dropLazy rest)
      | .error e => .error e
    | '*' :: rest =>
      match applyRepetition items 0 none with
      | .ok items => parseSeq fuel flags names depth branches items (dropLazy rest)
      | .error e => .error e
    | '+' :: rest =>
      match applyRepetition items 1 none with
      | .ok items => parseSeq fuel flags names depth branches items (dropLazy rest)
      | .error e => .error e
    | '{' :: rest =>
      match items with
      | some _ :: _ =>
        match parseCounted flags.verbose rest with
        | .ok (lo, hi, after) =>
          match applyRepetition items lo hi with
          | .ok items => parseSeq fuel flags names depth branches items (dropLazy after)
          | .error e => .error e
        | .error e => .error e
      | _ => .error .missingRepetition
    | '\\' :: rest =>
      match parseEscape flags rest with
      | .ok (.literal c, after) =>
        parseSeq fuel flags names depth branches (some (.chars (literalClass flags c)) :: items) after
      | .ok (.chars cls, after) =>
        parseSeq fuel flags names depth branches (some (.chars cls) :: items) after
      | .ok (.look l, after) =>
        parseSeq fuel flags names depth branches (some (.look l) :: items) after
      | .error e => .error e
    | '.' :: rest =>
      let dot := if flags.dotAll then ClassExpr.range 0 0x10FFFF else .complement (.single '\n')
      parseSeq fuel flags names depth branches (some (.chars dot) :: items) rest
    | '^' :: rest =>
      let l := if flags.multiLine then Look.lineStart else .textStart
      parseSeq fuel flags names depth branches (some (.look l) :: items) rest
    | '$' :: rest =>
      let l := if flags.multiLine then Look.lineEnd else .textEnd
      parseSeq fuel flags names depth branches (some (.look l) :: items) rest
    | c :: rest =>
      parseSeq fuel flags names depth branches (some (.chars (literalClass flags c)) :: items) rest

/-- 正規表現を読む。 -/
def parse (pattern : String) : Except ParseError Node :=
  let cs := pattern.toList
  (parseSeq (cs.length + 1) {} [] 0 [] [] cs).map (·.1)

end Workflow.Pattern
