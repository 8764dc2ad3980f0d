import Mathlib
import Workflow.Proofs.NextElement
import Workflow.Proofs.Termination

/-!
# 並行ゲートウェイの主流

条件の評価を文書ごとの関数 `E` で与えたとき（評価は誤りを返してよい。`exceptJudge`）、並行
ゲートウェイの主流（`mainFlow`）が何を選ぶかと、ゲートウェイを越えた先で探索がどう続くか
（`settle`）を述べる。

主流はゲートウェイから出るフローを宣言順に見る。行き先のないフローと、行き先がタスクでなく条件が
偽と評価されるフロー（`Skips`）は読み飛ばす。読み飛ばさない最初のフロー `f` が主流を決める
（`parallel_gateway_main_flow`）。

* `f` の行き先がタスクなら、そのタスク。
* `f` の条件の評価が誤れば、`f` を名指すモデルの誤り。後ろにタスクへ向かうフローがあっても
  誤りになる（`condition_error_hides_task`）。
* `f` の条件がないか成り立てば、後ろのフローの条件はもう評価せず、後ろで最初にタスクへ向かう
  フローの行き先、なければ `f` の行き先。

したがって、タスクへ向かう最初のフローより前で条件の評価が一つも誤らなければ、主流はそのタスク
である。

ゲートウェイを越えた先（`settle_eq`）：主流の行き先が訪問済みなら答えはなく、止まる要素なら
そこで決め直し（並行ゲートウェイでなければそれが答え）、ほかの要素ならそこから探索を続ける。
燃料はまだ訪ねていない要素の数より多ければ足りるので（`crossParallel_fuel_congr`）、この等式に
燃料は現れない。
-/

namespace Workflow.Model

namespace Graph

variable (g : Graph) (E : String → Except Error Bool)

/-- 文書について条件を評価する関数 `E` による判定。評価は誤りを返してよい。 -/
def exceptJudge : String → Id (Except Error Bool) := fun c => pure (E c)

/-- フローの列で、行き先がタスクである最初のフローの行き先。 -/
def firstTaskTarget (flows : List FlowDecl) : Option ElementDecl :=
  flows.findSome? fun f => (g.element? f.target).filter (·.kind == .task)

/-- 主流を探すとき、行き先 `t` のフロー `f` を読み飛ばすか：行き先がタスクでなく、条件が偽と
評価される。 -/
def Skips (f : FlowDecl) (t : ElementDecl) : Prop :=
  t.kind ≠ .task ∧ ∃ c, f.activeCondition = some c ∧ E c = .ok false

/-! ## 主流の選び方 -/

section Scan

variable {g E}

theorem conditionHolds_exceptJudge_ok {f : FlowDecl} {c : String} {b : Bool} (h : E c = .ok b) :
    conditionHolds (exceptJudge E) g f c = pure b := by
  simp [conditionHolds, exceptJudge, h, ExceptT.lift_pure]

theorem conditionHolds_exceptJudge_error {f : FlowDecl} {c : String} {e : Error}
    (h : E c = .error e) :
    conditionHolds (exceptJudge E) g f c =
      throw (.invalidModel g.version
        s!"invalid condition on sequence flow '{f.id}': {e.message}") := by
  simp [conditionHolds, exceptJudge, h, ExceptT.lift_pure]

@[simp] theorem firstTaskTarget_nil : g.firstTaskTarget [] = none := rfl

theorem firstTaskTarget_cons_of_none {f : FlowDecl} (fs : List FlowDecl)
    (h : g.element? f.target = none) : g.firstTaskTarget (f :: fs) = g.firstTaskTarget fs := by
  simp [firstTaskTarget, h]

theorem firstTaskTarget_cons_of_task {f : FlowDecl} (fs : List FlowDecl) {t : ElementDecl}
    (h : g.element? f.target = some t) (ht : t.kind = .task) :
    g.firstTaskTarget (f :: fs) = some t := by
  simp [firstTaskTarget, h, ht]

theorem firstTaskTarget_cons_of_not_task {f : FlowDecl} (fs : List FlowDecl) {t : ElementDecl}
    (h : g.element? f.target = some t) (ht : t.kind ≠ .task) :
    g.firstTaskTarget (f :: fs) = g.firstTaskTarget fs := by
  simp [firstTaskTarget, h, ht]

theorem firstTaskTarget_append (pre rest : List FlowDecl) :
    g.firstTaskTarget (pre ++ rest) = (g.firstTaskTarget pre).or (g.firstTaskTarget rest) := by
  simp [firstTaskTarget, List.findSome?_append]

theorem firstTaskTarget_append_of_task {pre : List FlowDecl} {f : FlowDecl} (post : List FlowDecl)
    {t : ElementDecl} (hpre : g.firstTaskTarget pre = none) (ht : g.element? f.target = some t)
    (hk : t.kind = .task) : g.firstTaskTarget (pre ++ f :: post) = some t := by
  rw [firstTaskTarget_append, hpre, firstTaskTarget_cons_of_task post ht hk]
  rfl

section Go

variable {m : Type → Type} [Monad m] (judge : String → m (Except Error Bool))

/-- 主流の候補がすでにあれば、残りのフローではタスクへ向かう最初のフローだけを見る。条件は
評価しない。 -/
theorem mainFlow_go_some (x : ElementDecl) : ∀ flows : List FlowDecl,
    mainFlow.go judge g flows (some x) = pure (some ((g.firstTaskTarget flows).getD x))
  | [] => rfl
  | f :: fs => by
    rw [mainFlow.go]
    cases ht : g.element? f.target with
    | none => rw [firstTaskTarget_cons_of_none fs ht]; exact mainFlow_go_some x fs
    | some t =>
      by_cases hk : t.kind = .task
      · simp [hk, firstTaskTarget_cons_of_task fs ht hk]
      · simp [hk, firstTaskTarget_cons_of_not_task fs ht hk, mainFlow_go_some x fs]

/-- 行き先がタスクのフローに着けば、それまでの候補によらず、そのタスクが主流である。 -/
theorem mainFlow_go_task {f : FlowDecl} {t : ElementDecl} (post : List FlowDecl)
    (first : Option ElementDecl) (ht : g.element? f.target = some t) (hk : t.kind = .task) :
    mainFlow.go judge g (f :: post) first = pure (some t) := by
  simp [mainFlow.go, ht, hk]

end Go

/-- 読み飛ばすフローは、主流の探索に何も残さない。 -/
theorem mainFlow_go_skip (rest : List FlowDecl) : ∀ pre : List FlowDecl,
    (∀ f ∈ pre, ∀ t, g.element? f.target = some t → Skips E f t) →
    mainFlow.go (exceptJudge E) g (pre ++ rest) none = mainFlow.go (exceptJudge E) g rest none
  | [], _ => rfl
  | f :: pre, h => by
    have hpre := fun f' hf' => h f' (List.mem_cons_of_mem f hf')
    rw [List.cons_append, mainFlow.go]
    cases ht : g.element? f.target with
    | none => exact mainFlow_go_skip rest pre hpre
    | some t =>
      obtain ⟨hk, c, hc, hE⟩ := h f List.mem_cons_self t ht
      simp [hk, hc, conditionHolds_exceptJudge_ok hE, mainFlow_go_skip rest pre hpre]

theorem mainFlow_go_error {f : FlowDecl} {t : ElementDecl} {c : String} {e : Error}
    (post : List FlowDecl) (ht : g.element? f.target = some t) (hk : t.kind ≠ .task)
    (hc : f.activeCondition = some c) (hE : E c = .error e) :
    mainFlow.go (exceptJudge E) g (f :: post) none =
      throw (.invalidModel g.version
        s!"invalid condition on sequence flow '{f.id}': {e.message}") := by
  simp [mainFlow.go, ht, hk, hc, conditionHolds_exceptJudge_error hE]

theorem mainFlow_go_qualifies {f : FlowDecl} {t : ElementDecl} (post : List FlowDecl)
    (ht : g.element? f.target = some t) (hk : t.kind ≠ .task)
    (hq : ∀ c ∈ f.activeCondition, E c = .ok true) :
    mainFlow.go (exceptJudge E) g (f :: post) none =
      pure (some ((g.firstTaskTarget post).getD t)) := by
  cases hc : f.activeCondition with
  | none => simp [mainFlow.go, ht, hk, hc, mainFlow_go_some]
  | some c =>
    simp [mainFlow.go, ht, hk, hc, conditionHolds_exceptJudge_ok (hq c hc), mainFlow_go_some]

/-- タスクへ向かう最初のフローより前で条件の評価が誤らなければ、主流はそのタスクである。
前のフローで候補が決まっても、後ろのタスクが勝つ。 -/
theorem mainFlow_go_first_task {f : FlowDecl} {t : ElementDecl} (post : List FlowDecl)
    (ht : g.element? f.target = some t) (hk : t.kind = .task) :
    ∀ pre : List FlowDecl, g.firstTaskTarget pre = none →
      (∀ f' ∈ pre, ∀ c e, f'.activeCondition = some c → E c ≠ .error e) →
      mainFlow.go (exceptJudge E) g (pre ++ f :: post) none = pure (some t)
  | [], _, _ => mainFlow_go_task _ post none ht hk
  | f' :: pre, hpre, hok => by
    have hok' := fun f'' hf'' => hok f'' (List.mem_cons_of_mem f' hf'')
    rw [List.cons_append, mainFlow.go]
    cases ht' : g.element? f'.target with
    | none =>
      rw [firstTaskTarget_cons_of_none pre ht'] at hpre
      exact mainFlow_go_first_task post ht hk pre hpre hok'
    | some t' =>
      -- 前のフローの行き先はタスクでない。それが候補になっても、後ろのタスクが勝つ。
      have hk' : t'.kind ≠ .task := fun h => by
        rw [firstTaskTarget_cons_of_task pre ht' h] at hpre
        cases hpre
      rw [firstTaskTarget_cons_of_not_task pre ht' hk'] at hpre
      have hwin : ∀ x, mainFlow.go (exceptJudge E) g (pre ++ f :: post) (some x) =
          pure (some t) := fun x => by
        rw [mainFlow_go_some, firstTaskTarget_append_of_task post hpre ht hk]
        rfl
      cases hc : f'.activeCondition with
      | none => simp [hk', hwin]
      | some c =>
        cases hE : E c with
        | error e => exact absurd hE (hok f' List.mem_cons_self c e hc)
        | ok b =>
          cases b with
          | false =>
            simp [hk', conditionHolds_exceptJudge_ok hE,
              mainFlow_go_first_task post ht hk pre hpre hok']
          | true => simp [hk', conditionHolds_exceptJudge_ok hE, hwin]

/-- どのフローも読み飛ばせば、主流はない。 -/
theorem mainFlow_go_none {flows : List FlowDecl}
    (h : ∀ f ∈ flows, ∀ t, g.element? f.target = some t → Skips E f t) :
    mainFlow.go (exceptJudge E) g flows none = pure none := by
  simpa [mainFlow.go] using mainFlow_go_skip [] flows h

/-! ## 並行ゲートウェイを越える -/

/-- 誤りを返しうる計算の続きは、計算が返しうる値の上でだけ比べればよい。 -/
theorem bind_congr_of_pure {α β : Type} {x : ExceptT Error Id α} {k k' : α → ExceptT Error Id β}
    (h : ∀ a, x = pure a → k a = k' a) : x >>= k = x >>= k' := by
  cases x with
  | error e => rfl
  | ok a => exact h a rfl

/-- 主流の行き先はモデルの要素である。 -/
theorem mainFlow_mem {gw t : ElementDecl} (h : g.mainFlow (exceptJudge E) gw = pure (some t)) :
    t ∈ g.decl.elements := by
  have hsat := mainFlow_go_sat (exceptJudge E) g (· ∈ g.decl.elements) (g.outgoing gw.id) none
    (fun _ _ _ ht => (element?_spec ht).1) (by simp)
  change SatisfiesM _ (g.mainFlow (exceptJudge E) gw) at hsat
  rw [h] at hsat
  exact SatisfiesM_Id_eq.mp (SatisfiesM_ExceptT_eq.mp hsat) (some t) rfl t rfl

/-- **並行ゲートウェイを越えた先。** 止まる要素 `s` がただ一つ見つかったあと：並行ゲートウェイで
なければそれが答えである。並行ゲートウェイなら主流の行き先 `t` へ進む。`t` が訪問済みなら答えは
なく、止まる要素なら `t` で決め直し、ほかの要素なら `t` から探索を続ける。 -/
theorem settle_eq (resume : String → List String → ExceptT Error Id (Option ElementDecl))
    (s : ElementDecl) (V : List String) :
    g.settle (exceptJudge E) resume s V =
      if s.isParallelGateway then
        g.mainFlow (exceptJudge E) s >>= fun
          | none => pure none
          | some t =>
            if V.contains t.id then pure none
            else if t.isStop then g.settle (exceptJudge E) resume t (t.id :: V)
            else resume t.id (t.id :: V)
      else pure (some s) := by
  rw [settle, searchFuel, crossParallel]
  by_cases hs : s.isParallelGateway
  · simp only [hs, Bool.not_true, Bool.false_eq_true, if_false, if_true, bind_assoc]
    refine bind_congr_of_pure fun r hr => ?_
    rcases r with _ | t
    · rfl
    · simp only
      by_cases hV : V.contains t.id
      · simp only [hV, if_true, pure_bind]
      · have hlt := unvisited_cons_lt (mainFlow_mem hr) (by simpa using hV)
        have hfuel := unvisited_lt_searchFuel (g := g) V
        by_cases hst : t.isStop
        · -- 止まる要素で決め直す歩みは、燃料を一つ減らしても足りる。
          simp only [hV, hst, Bool.false_eq_true, if_false, if_true, settle]
          rw [crossParallel_fuel_congr (exceptJudge E) _ g.searchFuel t _
            (by simp only [searchFuel] at hfuel; omega)
            (hlt.trans hfuel)]
        · simp only [hV, hst, Bool.false_eq_true, if_false, pure_bind]
  · simp [hs]

/-- **並行ゲートウェイの主流と、その先。** ゲートウェイから出るフローを宣言順に見て、読み飛ばさない
最初のフロー `f`（行き先 `t`）が主流を決める。

* タスクへ向かう最初のフローより前で条件の評価が一つも誤らなければ、そのタスクが主流である。
* `t` がタスクでなく `f` の条件の評価が誤れば、`f` を名指すモデルの誤りになる。後ろにタスクへ
  向かうフローがあっても同じである。
* `t` がタスクでなく `f` の条件がないか成り立てば、後ろのフローの条件は評価せず、後ろで最初に
  タスクへ向かうフローの行き先、なければ `t` が主流である。
* どのフローも読み飛ばせば、主流はない。
* ゲートウェイを越えた先は、主流の行き先から燃料なしの等式で決まる。 -/
theorem parallel_gateway_main_flow (gw : ElementDecl) :
    (∀ pre f post t, g.outgoing gw.id = pre ++ f :: post → g.firstTaskTarget pre = none →
      g.element? f.target = some t → t.kind = .task →
      (∀ f' ∈ pre, ∀ c e, f'.activeCondition = some c → E c ≠ .error e) →
      g.mainFlow (exceptJudge E) gw = pure (some t)) ∧
    (∀ pre f post t c e, g.outgoing gw.id = pre ++ f :: post →
      (∀ f' ∈ pre, ∀ t', g.element? f'.target = some t' → Skips E f' t') →
      g.element? f.target = some t → t.kind ≠ .task → f.activeCondition = some c →
      E c = .error e →
      g.mainFlow (exceptJudge E) gw =
        throw (.invalidModel g.version
          s!"invalid condition on sequence flow '{f.id}': {e.message}")) ∧
    (∀ pre f post t, g.outgoing gw.id = pre ++ f :: post →
      (∀ f' ∈ pre, ∀ t', g.element? f'.target = some t' → Skips E f' t') →
      g.element? f.target = some t → t.kind ≠ .task → (∀ c ∈ f.activeCondition, E c = .ok true) →
      g.mainFlow (exceptJudge E) gw = pure (some ((g.firstTaskTarget post).getD t))) ∧
    ((∀ f ∈ g.outgoing gw.id, ∀ t, g.element? f.target = some t → Skips E f t) →
      g.mainFlow (exceptJudge E) gw = pure none) ∧
    (∀ resume V, g.settle (exceptJudge E) resume gw V =
      if gw.isParallelGateway then
        g.mainFlow (exceptJudge E) gw >>= fun
          | none => pure none
          | some t =>
            if V.contains t.id then pure none
            else if t.isStop then g.settle (exceptJudge E) resume t (t.id :: V)
            else resume t.id (t.id :: V)
      else pure (some gw)) := by
  refine ⟨?_, ?_, ?_, ?_, fun resume V => settle_eq resume gw V⟩
  · intro pre f post t hflows hpre ht hk hok
    rw [mainFlow, hflows]
    exact mainFlow_go_first_task post ht hk pre hpre hok
  · intro pre f post t c e hflows hpre ht hk hc hE
    rw [mainFlow, hflows, mainFlow_go_skip _ pre hpre]
    exact mainFlow_go_error post ht hk hc hE
  · intro pre f post t hflows hpre ht hk hq
    rw [mainFlow, hflows, mainFlow_go_skip _ pre hpre]
    exact mainFlow_go_qualifies post ht hk hq
  · intro h
    rw [mainFlow]
    exact mainFlow_go_none h

end Scan

end Graph

/-! ## 前のフローの条件の評価の誤りは、後ろのタスクへの主流を妨げる -/

/-- タスク `t1`。 -/
def oneTask : ElementDecl :=
  { id := "t1", kind := .task, name := "One", process := some "p", task := some { id := 1 } }

/-- タスク `t1` のあとのイベント `e10`。 -/
def goEvent : ElementDecl :=
  { id := "e10", kind := .event, name := "go", process := some "p", event := some { id := 10 } }

/-- 並行ゲートウェイ `gw`。 -/
def splitGateway : ElementDecl :=
  { id := "gw", kind := .gateway, process := some "p", gateway := some .parallel }

/-- 終了イベント `end`。 -/
def closingEvent : ElementDecl :=
  { id := "end", kind := .endEvent, name := "End", process := some "p" }

/-- タスク `t2`。 -/
def twoTask : ElementDecl :=
  { id := "t2", kind := .task, name := "Two", process := some "p", task := some { id := 2 } }

/-- ゲートウェイから終了イベントへ、読めない条件つきで向かうフロー。 -/
def guardedFlow : FlowDecl :=
  { id := "f3", source := "gw", target := "end", condition := some "amount >" }

/-- ゲートウェイからタスク `t2` へ向かうフロー。 -/
def taskFlow : FlowDecl :=
  { id := "f4", source := "gw", target := "t2" }

/-- イベント `e10` のあと、ゲートウェイ `gw` で終了イベントとタスク `t2` に分かれるモデル。 -/
def splitModel : ModelDecl where
  version := "c"
  processes := [{ id := "p", name := "P" }]
  elements := [oneTask, goEvent, splitGateway, closingEvent, twoTask]
  flows := [{ id := "f1", source := "t1", target := "e10" },
    { id := "f2", source := "e10", target := "gw" }, guardedFlow, taskFlow]

/-- `splitModel` を検査したモデル。 -/
def splitGraph : Graph :=
  { decl := splitModel, checksum := splitModel.checksum,
    definition := itemsDocument splitModel.definition }

/-- どの条件も読めない評価。 -/
def unreadable : String → Except Error Bool :=
  fun c => .error (.invalidExpression c "invalid number: ''")

/-- 検査を通るモデルで、ゲートウェイの後ろのフローがタスクへ向かっていても、前のフローの条件が
読めなければ、主流は誤りになる。 -/
theorem condition_error_hides_task :
    Graph.ofDecl splitModel = .ok splitGraph ∧
      splitGraph.firstTaskTarget (splitGraph.outgoing splitGateway.id) = some twoTask ∧
      splitGraph.mainFlow (Graph.exceptJudge unreadable) splitGateway =
        throw (.invalidModel "c" ("invalid condition on sequence flow 'f3': " ++
          "invalid expression 'amount >': invalid number: ''")) := by
  have hversion : Text.isBlankText "c" = false := by decide +kernel
  have hg : Graph.ofDecl splitModel = .ok splitGraph := by
    simp [Graph.ofDecl, splitModel, hversion, checkElements, checkFlows, firstDuplicate, oneTask,
      goEvent, splitGateway, closingEvent, twoTask, guardedFlow, taskFlow]
    rfl
  have hc : guardedFlow.activeCondition = some "amount >" := by decide +kernel
  refine ⟨hg, rfl, ?_⟩
  rw [Graph.mainFlow, show splitGraph.outgoing splitGateway.id = guardedFlow :: [taskFlow] from rfl,
    Graph.mainFlow_go_error [taskFlow] rfl (by decide) hc rfl]
  congr 2

/-- 同じゲートウェイで、条件が偽と評価されれば、主流は後ろのタスク `t2` である。 -/
theorem split_gateway_takes_task :
    splitGraph.outgoing splitGateway.id = [guardedFlow] ++ taskFlow :: [] ∧
      splitGraph.element? taskFlow.target = some twoTask ∧
      splitGraph.mainFlow (Graph.exceptJudge fun _ => .ok false) splitGateway =
        pure (some twoTask) := by
  have hflows : splitGraph.outgoing splitGateway.id = [guardedFlow] ++ taskFlow :: [] := rfl
  have ht : splitGraph.element? taskFlow.target = some twoTask := rfl
  refine ⟨hflows, ht, (Graph.parallel_gateway_main_flow (g := splitGraph)
    (E := fun _ => .ok false) splitGateway).1 _ _ _ _ hflows rfl ht rfl ?_⟩
  simp

end Workflow.Model
