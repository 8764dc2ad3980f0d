import Workflow.Model.Registry
import Workflow.Condition.Cache
import Workflow.Kernel.Error

/-!
# 核を動かす環境

核の処理は純粋な関数だが、外の世界に頼むことが四つある。

* 流れの条件の評価（`Judge`）。条件式を読んで評価し、読んだ式を控えておくものと、式ごとに
  決めた答えを返す表がある。表は評価するたびに `eval:式` を記録する。
* 記録（`journal`）。拡張（アダプタとプラグイン）や表の評価器が、何をしたかを一行ずつ書く。
* 業務グループによる版の移し替えの通知。有効なら `migrated:元->先:グループ` を記録する。
* 時計と乱数。遷移の時刻と、文書の識別子を作るのに使う。

これらを状態 `Runtime` にまとめ、核は状態モナド `Run` の中で書く。
-/

namespace Workflow.Kernel

open Workflow.Model

/-- 表の評価器の答え：真偽か、評価の失敗の理由。 -/
inductive TableAnswer where
  | value (b : Bool)
  | failure (reason : String)

/-- 流れの条件を評価する手段。 -/
inductive Judge where
  /-- 条件式を読んで評価する。読んだ式は控える。 -/
  | conditions (ev : Condition.Evaluator)
  /-- 式ごとに決めた答えを返す。表にない式は `fallback`。 -/
  | table (answers : List (String × TableAnswer)) (fallback : Bool)

/-- 核を動かす環境。 -/
structure Runtime where
  /-- 条件の評価器。 -/
  judge : Judge := .conditions {}
  /-- 版の移し替えを記録するか。 -/
  recordMigrations : Bool := false
  /-- 記録。 -/
  journal : Array String := #[]
  /-- 現在時刻。 -/
  clock : Time.Instant := ⟨0, 0⟩
  /-- 乱数の種。引くたびに進める。 -/
  seed : Nat := 0

/-- 核の処理のモナド。 -/
abbrev Run := StateM Runtime

namespace Runtime

/-- 記録に一行書く。 -/
def note (line : String) : Run Unit :=
  modify fun r => { r with journal := r.journal.push line }

/-- 条件式を文書について評価する。 -/
def evaluate (expr : String) (d : Document) : Run (Except Error Bool) := do
  let r ← get
  match r.judge with
  | .conditions ev =>
    let (result, ev) := ev.evaluate expr d
    set { r with judge := .conditions ev }
    pure result
  | .table answers fallback =>
    note ("eval:" ++ expr)
    pure <| match answers.lookup expr with
      | some (.value b) => .ok b
      | some (.failure reason) => .error (.invalidExpression expr reason)
      | none => .ok fallback

/-- 版の移し替えを知らせる。 -/
def migrated (m : Migration) : Run Unit := do
  if (← get).recordMigrations then
    note s!"migrated:{m.source}->{m.target}:{m.group}"

/-- 移し替えがあれば知らせる。 -/
def migratedIf : Option Migration → Run Unit
  | some m => migrated m
  | none => pure ()

/-- 現在時刻。 -/
def now : Run Time.Instant := do
  pure (← get).clock

/-- 64 ビットの乱数を引く。種は線形合同法で進める。 -/
def draw : Run Nat := do
  let r ← get
  let next := (r.seed * 6364136223846793005 + 1442695040888963407) % Nat.pow 2 64
  set { r with seed := next }
  pure next

end Runtime

/-- 小文字 16 進で、`width` 桁に満たなければ前を 0 で埋める。 -/
def hexPadded (width n : Nat) : String :=
  let digits := Nat.toDigits 16 n
  String.ofList (List.replicate (width - digits.length) '0' ++ digits)

/-- 文書の識別子を作る：時刻のミリ秒を 16 進で、`-`、乱数 8 桁。 -/
def newUniqueId : Run String := do
  let t ← Runtime.now
  let millis := t.secs * 1000 + (t.nanos / 1000000 : Nat)
  let r ← Runtime.draw
  let stamp := if millis < 0 then "-" ++ hexPadded 1 millis.natAbs else hexPadded 1 millis.toNat
  pure (stamp ++ "-" ++ hexPadded 8 (r % Nat.pow 2 32))

/-- 処理の識別子を作る：乱数 16 桁。 -/
def newTransactionId : Run String := do
  pure (hexPadded 16 (← Runtime.draw))

end Workflow.Kernel
