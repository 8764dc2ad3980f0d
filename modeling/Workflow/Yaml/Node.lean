/-!
# YAML の木

設定ファイルは YAML で書く。読んだ結果は、スカラー・列・写像の木で、どの節点も文書の中の
位置（`Mark`、0 から数える行と桁）を持つ。スカラーは書き方（素のまま、引用符、ブロック）も
持つ。素のままのスカラーだけが `null`、真偽、数として解釈される。

節点はタグ（`!!int` や `!名前`）も持つ。タグのハンドルは展開してあり、`!!int` は
`tag:yaml.org,2002:int` になる。

名前をつけた節点（`&名前`）を名前で指すところ（`*名前`）には、指された節点をそのまま置く。

文書の途中で読み取りの誤りが起きれば、そこまでに読めた木の、読めなかった場所に誤りを置く
（`cut`）。値を取り出す側は、その場所まで来たときに初めて誤りを伝える。だから、誤りより前に
型の合わない値があれば、そちらが先に伝わる。

読み取りの誤りは、問題とその位置、そして何を読んでいたか（文脈）とその位置からなる。
位置が文書の先頭（0 行 0 桁）なら文に出さない。文脈の位置が問題の位置と同じときも出さない。
位置のない誤りは、代わりに先頭からのバイト数を持つことがある。
-/

namespace Workflow.Yaml

/-- 文書の中の位置。行と桁は 0 から数える。 -/
structure Mark where
  line : Nat := 0
  column : Nat := 0
  deriving BEq, Repr

/-- 位置の表示 `line L column C`（1 から数える）。 -/
def Mark.text (m : Mark) : String :=
  s!"line {m.line + 1} column {m.column + 1}"

/-- 位置が文書の先頭か。 -/
def Mark.isStart (m : Mark) : Bool :=
  m.line == 0 && m.column == 0

/-- 読み取りの誤り。 -/
structure ParseError where
  problem : String
  problemMark : Mark := {}
  /-- 位置を持たない誤り（文字の検査）の、先頭からのバイト数。 -/
  offset : Nat := 0
  context : Option (String × Mark) := none

/-- 誤りの文：問題、位置（なければバイト数）、文脈とその位置。 -/
def ParseError.message (e : ParseError) : String :=
  let head :=
    if !e.problemMark.isStart then e.problem ++ " at " ++ e.problemMark.text
    else if e.offset != 0 then e.problem ++ " at position " ++ toString e.offset
    else e.problem
  match e.context with
  | none => head
  | some (ctx, m) =>
    if m.isStart || m == e.problemMark then head ++ ", " ++ ctx
    else head ++ ", " ++ ctx ++ " at " ++ m.text

/-- スカラーの書き方。 -/
inductive Style where
  | plain
  | singleQuoted
  | doubleQuoted
  | literal
  | folded
  deriving BEq, Repr

/-- YAML の節点。 -/
inductive Node where
  /-- スカラー：値の文字列、書き方、タグ、位置。 -/
  | scalar (value : String) (style : Style) (tag : Option String) (mark : Mark)
  /-- 列。 -/
  | seq (items : List Node) (tag : Option String) (mark : Mark)
  /-- 写像。鍵と値の組を書いた順に持つ。 -/
  | map (entries : List (Node × Node)) (tag : Option String) (mark : Mark)
  /-- 読み取りがここで誤りになった。 -/
  | cut (err : ParseError)

/-- 節点の位置。 -/
def Node.mark : Node → Mark
  | .scalar _ _ _ m => m
  | .seq _ _ m => m
  | .map _ _ m => m
  | .cut e => e.problemMark

end Workflow.Yaml
