/-!
# ファイルの木

設定ファイルやモデルのファイルを読むところは、ファイルの木を値として受け取る。木は
「道筋（名前の並び）とその中身」の一覧で、中身はバイト列かディレクトリである。一覧に
書いた道筋の親はディレクトリとしてある。

道筋の文字列は `/` で区切り、空の部分と `.` を捨てる。`..` は一つ上に戻る。絶対の道筋は
木の外を指し、見つからない。

読み書きの誤りは四つで、それぞれ OS の誤り番号の文を持つ。

* 見つからない（2）
* ディレクトリを読もうとした、またはディレクトリに書こうとした（21）
* 途中にファイルがあって先へ進めない、またはファイルを一覧しようとした（20）
* 文字列として読んだが UTF-8 として正しくない

実際のファイルを扱うときは、ほかの誤りも起こりうる。
-/

namespace Workflow.Files

/-- ファイルの中身かディレクトリ。 -/
inductive Entry where
  | file (bytes : List UInt8)
  | dir
  deriving BEq

/-- 読み書きの誤り。 -/
inductive IoError where
  | notFound
  | isDirectory
  | notDirectory
  | invalidUtf8
  /-- ほかの誤り（実際のファイルを扱うときだけ起きる）。 -/
  | other (text : String)
  deriving BEq, Repr

namespace IoError

/-- 誤りの文。 -/
def message : IoError → String
  | .notFound => "No such file or directory (os error 2)"
  | .isDirectory => "Is a directory (os error 21)"
  | .notDirectory => "Not a directory (os error 20)"
  | .invalidUtf8 => "stream did not contain valid UTF-8"
  | .other text => text

/-- 誤りの内部の形の表示。 -/
def debugText : IoError → String
  | .notFound => "Os \x7b code: 2, kind: NotFound, message: \"No such file or directory\" \x7d"
  | .isDirectory => "Os \x7b code: 21, kind: IsADirectory, message: \"Is a directory\" \x7d"
  | .notDirectory => "Os \x7b code: 20, kind: NotADirectory, message: \"Not a directory\" \x7d"
  | .invalidUtf8 => "Error \x7b kind: InvalidData, message: \"stream did not contain valid UTF-8\" \x7d"
  | .other text => text

end IoError

/-- ファイルの木。 -/
structure Tree where
  /-- 道筋と中身。同じ道筋は先に書いたものが効く。 -/
  entries : List (List String × Entry) := []

/-- 道筋の文字列を名前の並びにする。木の外を指せば `none`。 -/
def components (path : String) : Option (List String) :=
  if path.startsWith "/" then none
  else ((path.splitOn "/").foldl step (some [])).map List.reverse
where
  /-- 一つの部分を足す（並びは逆順）。 -/
  step : Option (List String) → String → Option (List String)
    | none, _ => none
    | some acc, part =>
      if part.isEmpty || part == "." then some acc
      else if part == ".." then
        match acc with
        | [] => none
        | _ :: rest => some rest
      else some (part :: acc)

namespace Tree

/-- 道筋にあるもの。 -/
def entry? (t : Tree) (ps : List String) : Option Entry :=
  if ps.isEmpty then some .dir
  else match t.entries.lookup ps with
    | some e => some e
    | none => if t.entries.any fun (q, _) => ps.isPrefixOf q && ps.length < q.length then some .dir else none

/-- 道筋をたどる。途中がファイルなら先へ進めず、途中か最後がなければ見つからない。 -/
def resolve (t : Tree) (ps : List String) : Except IoError Entry :=
  let rec walk : List String → List String → Except IoError Entry
    | done, [] => match t.entry? done with
      | some e => .ok e
      | none => .error .notFound
    | done, p :: rest =>
      if done.isEmpty then walk [p] rest
      else match t.entry? done with
        | some .dir => walk (done ++ [p]) rest
        | some (.file _) => .error .notDirectory
        | none => .error .notFound
  match ps with
  | [] => .ok .dir
  | p :: rest => walk [p] rest

/-- 道筋の文字列をたどる。空の道筋は何も指さない。 -/
def find (t : Tree) (path : String) : Except IoError Entry :=
  if path.isEmpty then .error .notFound
  else match components path with
  | some ps => t.resolve ps
  | none => .error .notFound

/-- あるか。 -/
def exists? (t : Tree) (path : String) : Bool :=
  match t.find path with
  | .ok _ => true
  | .error _ => false

/-- ファイルのバイト列を読む。 -/
def readBytes (t : Tree) (path : String) : Except IoError (List UInt8) :=
  match t.find path with
  | .ok (.file bytes) => .ok bytes
  | .ok .dir => .error .isDirectory
  | .error e => .error e

/-- ファイルを UTF-8 の文字列として読む。 -/
def readText (t : Tree) (path : String) : Except IoError String :=
  match t.readBytes path with
  | .ok bytes =>
    match String.fromUTF8? (ByteArray.mk bytes.toArray) with
    | some s => .ok s
    | none => .error .invalidUtf8
  | .error e => .error e

/-- ディレクトリの中の名前（重なりなし、一覧に出た順）。 -/
def list (t : Tree) (path : String) : Except IoError (List String) :=
  match components path with
  | none => .error .notFound
  | some ps =>
    match t.resolve ps with
    | .ok .dir =>
      .ok ((t.entries.filterMap fun (q, _) =>
        if ps.isPrefixOf q && ps.length < q.length then q[ps.length]? else none).foldl
          (fun acc n => if acc.contains n then acc else acc ++ [n]) [])
    | .ok (.file _) => .error .notDirectory
    | .error e => .error e

/-- ファイルを書く。親はディレクトリでなければならず、道筋がディレクトリなら書けない。 -/
def write (t : Tree) (path : String) (bytes : List UInt8) : Except IoError Tree :=
  match components path with
  | none | some [] => .error .isDirectory
  | some ps =>
    match t.resolve ps.dropLast with
    | .ok .dir =>
      match t.entry? ps with
      | some .dir => .error .isDirectory
      | _ => .ok ⟨(ps, .file bytes) :: t.entries.filter fun (q, _) => q != ps⟩
    | .ok (.file _) => .error .notDirectory
    | .error e => .error e

end Tree

end Workflow.Files
