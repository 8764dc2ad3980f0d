import Workflow.Kernel.Config
import Workflow.Kernel.Error
import Workflow.Model.Registry
import Workflow.Json.Reader
import Workflow.Files.Access

/-!
# モデルのファイルを読み込む

設定のディレクトリにある、拡張子がちょうど `json` のファイルを、名前の順に読んで登録する。
拡張子は名前の最後の `.` より後ろで、その `.` が名前の先頭なら拡張子はない（`.json` は
対象外、`a..json` は対象）。下のディレクトリは探さないが、`x.json` という名前の
ディレクトリは対象になり、読めずに飛ばされる。

ファイルはバイトの流れとして JSON を読み、モデルを検査して登録する。登録は、新しい版か
内容の変わった版なら「読み込んだ」、同じ内容なら「変わらず」になる。

読めないファイルは理由とともに飛ばす。`failOnInvalid` なら最初の読めないファイルで止まり、
それまでに登録したモデルは残る。ディレクトリがなければ何もしない。ディレクトリを一覧
できなければ誤りである。
-/

namespace Workflow.Kernel

open Workflow.Model
open Workflow.Files

/-- 読み込みの結果。 -/
structure LoadReport where
  /-- 登録した（置き換えた）版。 -/
  loaded : List String := []
  /-- 同じ内容がすでに登録されていた版。 -/
  unchanged : List String := []
  /-- 読めなかったファイルと理由。 -/
  skipped : List (String × String) := []

/-- 登録した版と変わらなかった版の数。 -/
def LoadReport.total (r : LoadReport) : Nat := r.loaded.length + r.unchanged.length

/-- 名前の拡張子。最後の `.` が先頭なら拡張子はない。 -/
def extension? (name : String) : Option String :=
  match (name.splitOn ".").reverse with
  | ext :: before :: rest => if rest.isEmpty && before.isEmpty then none else some ext
  | _ => none

/-- ディレクトリと名前をつなぐ。 -/
def joinPath (dir name : String) : String :=
  if dir.isEmpty || dir.endsWith "/" then dir ++ name else dir ++ "/" ++ name

/-- 読んだファイルの中身を JSON として読み、モデルを検査して登録する。版と、登録したか
（変わらなかったか）を返す。 -/
def registerBytes (bytes : List UInt8) (reg : Registry) : Except String (String × Bool × Registry) :=
  match Json.parseBytes .stream bytes with
  | .error e => .error e.message
  | .ok v =>
    match Graph.ofJson v with
    | .error e => .error e.message
    | .ok g =>
      match reg.add g with
      | .error e => .error e.message
      | .ok (changed, reg) => .ok (g.version, changed, reg)

section

variable {m : Type → Type} [Monad m] [FileAccess m]

/-- 一つのファイルを読んで登録する。 -/
def loadFile (path : String) (reg : Registry) : m (Except String (String × Bool × Registry)) := do
  match ← FileAccess.readBytes path with
  | .error e => return .error e.message
  | .ok bytes => return registerBytes bytes reg

/-- ファイルを順に読む。 -/
def loadFiles (failOnInvalid : Bool) :
    List String → LoadReport → Registry → m (Except KernelError LoadReport × Registry)
  | [], report, reg => return (.ok report, reg)
  | path :: rest, report, reg => do
    match ← loadFile path reg with
    | .ok (v, true, reg) => loadFiles failOnInvalid rest { report with loaded := report.loaded ++ [v] } reg
    | .ok (v, false, reg) =>
      loadFiles failOnInvalid rest { report with unchanged := report.unchanged ++ [v] } reg
    | .error reason =>
      if failOnInvalid then return (.error (.modelFile path reason), reg)
      else loadFiles failOnInvalid rest { report with skipped := report.skipped ++ [(path, reason)] } reg

/-- 設定のディレクトリのモデルを読み込む。誤りでも、それまでに登録したモデルは残る。 -/
def loadModels (config : ModelsConfig) (reg : Registry) : m (Except KernelError LoadReport × Registry) := do
  if !(← FileAccess.pathExists config.dir) then return (.ok {}, reg)
  match ← FileAccess.listDir config.dir with
  | .error e => return (.error (.modelFile config.dir e.message), reg)
  | .ok names =>
    let chosen := (names.filter fun n => extension? n == some "json").mergeSort fun a b => decide (a ≤ b)
    loadFiles config.failOnInvalid (chosen.map (joinPath config.dir)) {} reg

end

end Workflow.Kernel
