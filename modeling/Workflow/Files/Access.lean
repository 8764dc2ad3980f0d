import Workflow.Files.Tree

/-!
# ファイルへの手段

設定やモデルを読むところは、ファイルの木そのものではなく、ファイルを読み書きする手段を
通してファイルに触れる。手段はモナドに対する型クラス `FileAccess` で、ファイルの木を状態に
持つ `StateM Tree` が純粋な実装である。

文字列として読むときは UTF-8 として正しいことを確かめる。
-/

namespace Workflow.Files

/-- ファイルを読み書きする手段。 -/
class FileAccess (m : Type → Type) where
  /-- ファイルのバイト列を読む。 -/
  readBytes : String → m (Except IoError (List UInt8))
  /-- ディレクトリの中の名前。 -/
  listDir : String → m (Except IoError (List String))
  /-- 道筋に何かあるか。 -/
  pathExists : String → m Bool
  /-- ファイルを書く。 -/
  writeBytes : String → List UInt8 → m (Except IoError Unit)

/-- ファイルの木を状態に持つ実装。 -/
instance : FileAccess (StateM Tree) where
  readBytes path := do return (← get).readBytes path
  listDir path := do return (← get).list path
  pathExists path := do return (← get).exists? path
  writeBytes path bytes := do
    match (← get).write path bytes with
    | .ok t =>
      set t
      return .ok ()
    | .error e => return .error e

/-- バイト列を UTF-8 の文字列にする。 -/
def decodeUtf8 (bytes : List UInt8) : Except IoError String :=
  match String.fromUTF8? (ByteArray.mk bytes.toArray) with
  | some s => .ok s
  | none => .error .invalidUtf8

/-- ファイルを UTF-8 の文字列として読む。 -/
def readText {m : Type → Type} [Monad m] [FileAccess m] (path : String) : m (Except IoError String) := do
  return (← FileAccess.readBytes path) >>= decodeUtf8

/-- 文字列を UTF-8 で書く。 -/
def writeText {m : Type → Type} [Monad m] [FileAccess m] (path text : String) : m (Except IoError Unit) :=
  FileAccess.writeBytes path text.toUTF8.toList

end Workflow.Files
