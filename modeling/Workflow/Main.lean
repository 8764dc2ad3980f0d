import Workflow.Cli.Run
import Std.Time

/-!
# 入口

コマンドラインの引数と環境変数を読み、実際のファイルに対して `runCommandLine` を動かし、
標準出力と標準エラーに書いて、その終了状態で終わる。時計は現在時刻、乱数の種は OS の
乱数から得る。
-/

namespace Workflow.Entry

open Workflow.Files

/-- 読み書きの誤りを OS の誤り番号で分ける。 -/
def ioErrorOf (e : IO.Error) : IoError :=
  match e with
  | .noFileOrDirectory .. => .notFound
  | .inappropriateType _ 21 _ => .isDirectory
  | .inappropriateType _ 20 _ => .notDirectory
  | other => .other (toString other)

/-- 誤りを値にして返す。 -/
def attempt {α : Type} (act : IO α) : IO (Except IoError α) := do
  try
    return .ok (← act)
  catch e =>
    return .error (ioErrorOf e)

/-- 実際のファイルを読み書きする。 -/
instance : FileAccess IO where
  readBytes path := do
    return (← attempt (IO.FS.readBinFile path)).map fun bytes => bytes.toList
  listDir path := do
    match ← attempt (IO.FS.realPath path) with
    | .error e => return .error e
    | .ok dir => return (← attempt dir.readDir).map fun entries => (entries.map (·.fileName)).toList
  pathExists path := do
    match ← attempt (IO.FS.realPath path) with
    | .ok dir => dir.pathExists
    | .error _ => return false
  writeBytes path bytes := attempt (IO.FS.writeBinFile path (ByteArray.mk bytes.toArray))

/-- プログラムが読む環境変数。 -/
def environmentNames : List String :=
  ["BPMNFLOW_CONFIG", "BPMNFLOW_MODELS_DIR", "BPMNFLOW_MAX_LOG_ENTRIES", "BPMNFLOW_PLUGINS",
   "BPMNFLOW_FAIL_ON_INVALID_MODEL"]

end Workflow.Entry

open Workflow

/-- コマンドラインのプログラム。 -/
def main (args : List String) : IO UInt32 := do
  let values ← Entry.environmentNames.mapM fun n => do return (n, ← IO.getEnv n)
  let env := fun n => (values.lookup n).bind fun v => v
  let nanos := (← Std.Time.Timestamp.now).toNanosecondsSinceUnixEpoch.val
  let clock : Time.Instant := ⟨nanos / 1000000000, (nanos % 1000000000).toNat⟩
  let seed := (← IO.getRandomBytes 8).foldl (fun acc b => acc * 256 + b.toNat) 0
  let out ← Cli.runCommandLine args env { clock, seed }
  IO.print out.stdout
  IO.eprint out.stderr
  return out.status.toUInt32
