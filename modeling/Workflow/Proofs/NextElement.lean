import Mathlib
import Workflow.Proofs.Search

/-!
# 次の要素は届く止まる要素で決まる

条件の評価が純粋で誤らないとき（判定 `P`）、検査済みのモデルで、イベント `ev` のあとに文書が
進む先（`nextElement`）を、イベントの要素 `e` から届く止まる要素の集まり `S`
（`ReachableStop`）で言い表す。`S` は、`e` を訪問済みとして `e` の行き先から出会う止まる要素で
ある（`Search` の `Enc`）。

* `S` が二つ以上なら、`S` を一度ずつ挙げたあいまいなシーケンスフローの誤りになる。
* `S` が空なら、進む先はない。
* `S` がタスクかイベント一つなら、その実体に進む。
* `S` が一つなら、`e` と出会ったすべての要素を訪問済みとして、その要素から `settle` で決める。
  並行ゲートウェイなら主流に沿って越えて探索を続けるので、続きの探索があいまいなら、`S` が
  一つでも誤りになる（`ambiguous_after_parallel_gateway`）。

探索の正しさ（`collect_searchFuel`）は、要素の id が重複しないことに拠る。検査済みのモデルは
そうである（`ofDecl_ids_nodup`）。
-/

namespace Workflow.Model

/-! ## 検査済みのモデルの要素の id -/

/-- 要素の検査が通れば、先頭の要素の id はそれまでに見た id になく、残りの要素の検査も、
その id を加えて通る。 -/
theorem checkElements_cons_ok {v : String} {ps ids : List String} {tasks : List Int}
    {links : List String} {el : ElementDecl} {rest : List ElementDecl}
    (h : checkElements v ps ids tasks links (el :: rest) = .ok ()) :
    el.id ∉ ids ∧ ∃ tasks' links', checkElements v ps (el.id :: ids) tasks' links' rest = .ok () := by
  unfold checkElements at h
  simp only [bind, Except.bind, throw, throwThe, MonadExceptOf.throw] at h
  split at h
  · cases h
  · next hid =>
    refine ⟨by simpa using hid, ?_⟩
    -- 要素の種類ごとの検査は、誤りで終わるか、`el.id` を加えて残りの検査へ進む。
    repeat' split at h
    all_goals first | exact ⟨_, _, h⟩ | cases h

theorem checkElements_ids {v : String} {ps : List String} :
    ∀ {ids : List String} {tasks : List Int} {links : List String} {els : List ElementDecl},
      checkElements v ps ids tasks links els = .ok () →
        (els.map (·.id)).Nodup ∧ ∀ el ∈ els, el.id ∉ ids
  | _, _, _, [], _ => by simp
  | ids, _, _, el :: rest, h => by
    obtain ⟨hid, _, _, hrest⟩ := checkElements_cons_ok h
    obtain ⟨hnodup, hfresh⟩ := checkElements_ids hrest
    refine ⟨List.nodup_cons.mpr ⟨fun hm => ?_, hnodup⟩, fun r hr => ?_⟩
    · obtain ⟨r, hr, hrid⟩ := List.mem_map.mp hm
      exact hfresh r hr (hrid ▸ List.mem_cons_self)
    · rcases List.mem_cons.mp hr with rfl | hr
      · exact hid
      · exact fun h => hfresh r hr (List.mem_cons_of_mem _ h)

/-- **検査済みのモデルの要素の id は重複しない。** -/
theorem ofDecl_ids_nodup {m : ModelDecl} {g : Graph} (h : Graph.ofDecl m = .ok g) :
    (g.decl.elements.map (·.id)).Nodup := by
  unfold Graph.ofDecl at h
  simp only [bind, Except.bind, throw, throwThe, MonadExceptOf.throw] at h
  -- 検査のどれかが誤りなら `h` は成り立たない。通れば `g` の宣言は `m` である。
  repeat' split at h
  all_goals try cases h
  rename_i hc _ _ _
  exact (checkElements_ids hc).1

namespace Graph

variable (g : Graph) (P : String → Bool)

/-- 要素 `start` から届く止まる要素：`start` を訪問済みとして、その行き先から出会う止まる要素。 -/
def ReachableStop (start : String) (z : ElementDecl) : Prop :=
  z.isStop = true ∧ ∃ u ∈ g.targets P start, g.Enc P [start] u z

/-- 要素 `start` からの探索が訪ねる id：`start` と、その行き先から出会う要素の id。 -/
def Visited (start id : String) : Prop :=
  id = start ∨ ∃ u ∈ g.targets P start, ∃ z, g.Enc P [start] u z ∧ z.id = id

/-! ## 最初の探索 -/

section FirstSearch

variable {g P}

/-! 要素 `start` からの解決の最初の段。最初の探索で止まる要素が見つからなければ進む先はなく、
一つなら `settle` で決め、二つ以上ならあいまいなシーケンスフローの誤りである。 -/

theorem resolveFrom_of_none {start : String} {visited : List String}
    (h : collect (pureJudge P) g g.searchFuel start ([], [start]) = pure ([], visited)) :
    resolveFrom (pureJudge P) g start = pure none := by
  show resolveFrom.loop (pureJudge P) g start (g.decl.elements.length + 1) start [start] = _
  rw [resolveFrom.loop, h, pure_bind]

theorem resolveFrom_of_single {start : String} {s : ElementDecl} {visited : List String}
    (h : collect (pureJudge P) g g.searchFuel start ([], [start]) = pure ([s], visited)) :
    resolveFrom (pureJudge P) g start =
      g.settle (pureJudge P) (resolveFrom.loop (pureJudge P) g start g.decl.elements.length) s
        visited := by
  show resolveFrom.loop (pureJudge P) g start (g.decl.elements.length + 1) start [start] = _
  rw [resolveFrom.loop, h, pure_bind]

theorem resolveFrom_of_many {start : String} {a b : ElementDecl} {rest : List ElementDecl}
    {visited : List String}
    (h : collect (pureJudge P) g g.searchFuel start ([], [start]) = pure (a :: b :: rest, visited)) :
    resolveFrom (pureJudge P) g start = throw (g.ambiguousFlow start (a :: b :: rest)) := by
  show resolveFrom.loop (pureJudge P) g start (g.decl.elements.length + 1) start [start] = _
  rw [resolveFrom.loop, h, pure_bind]

/-- 並行ゲートウェイでない止まる要素がただ一つ見つかれば、それが進む先である。 -/
theorem settle_of_not_parallel
    {resume : String → List String → ExceptT Error Id (Option ElementDecl)} {s : ElementDecl}
    (visited : List String) (hs : s.isParallelGateway = false) :
    g.settle (pureJudge P) resume s visited = pure (some s) := by
  simp [settle, searchFuel, crossParallel, hs]

/-- 要素がモデルにあるイベントのあとに進む先は、その要素からの解決の答えの実体である。 -/
theorem nextElement_eq {e : ElementDecl} (he : e ∈ g.decl.elements) {ev : Event}
    (hev : ev.elementId = e.id) :
    g.nextElement (pureJudge P) ev =
      resolveFrom (pureJudge P) g e.id >>= fun r => pure (r.bind (g.nextEntity? ev)) := by
  have hfound : (g.element? e.id).isNone = false := by
    simpa [element?, List.find?_isSome] using ⟨e, he, rfl⟩
  simp only [nextElement, hev, hfound, Bool.false_eq_true, if_false]

variable (hnd : (g.decl.elements.map (·.id)).Nodup)
include hnd

/-- 要素 `start` からの最初の探索は、届く止まる要素を一度ずつ見つけ、訪ねた id を訪問済みにする。 -/
theorem collect_start_spec {start : String} {found : List ElementDecl} {visited : List String}
    (h : collect (pureJudge P) g g.searchFuel start ([], [start]) = pure (found, visited)) :
    found.Nodup ∧ (∀ z, z ∈ found ↔ g.ReachableStop P start z) ∧
      ∀ id, id ∈ visited ↔ g.Visited P start id := by
  obtain ⟨E, hr, hnodup, -, hmem⟩ := collect_searchFuel hnd (P := P) start (F := []) (V := [start])
    (by simp)
  rw [hr] at h
  obtain ⟨hfound, hvisited⟩ : E.filter (·.isStop) = found ∧
      (E.map (·.id)).reverse ++ [start] = visited := by
    simpa using congrArg (fun r => Id.run (ExceptT.run r)) h
  subst hfound hvisited
  refine ⟨hnodup.filter _, fun z => ?_, fun id => ?_⟩
  · simp [ReachableStop, hmem, and_comm]
  · simp only [List.mem_append, List.mem_reverse, List.mem_map, List.mem_singleton, Visited, hmem]
    constructor
    · rintro (⟨z, ⟨u, hu, huz⟩, rfl⟩ | rfl)
      · exact .inr ⟨u, hu, z, huz, rfl⟩
      · exact .inl rfl
    · rintro (rfl | ⟨u, hu, z, huz, rfl⟩)
      · exact .inr rfl
      · exact .inl ⟨z, ⟨u, hu, huz⟩, rfl⟩

/-- 最初の探索は燃料が尽きずに終わる。 -/
theorem collect_start (start : String) :
    ∃ found visited, collect (pureJudge P) g g.searchFuel start ([], [start]) = pure (found, visited) ∧
      found.Nodup ∧ (∀ z, z ∈ found ↔ g.ReachableStop P start z) ∧
      ∀ id, id ∈ visited ↔ g.Visited P start id := by
  obtain ⟨E, hr, -⟩ := collect_searchFuel hnd (P := P) start (F := []) (V := [start]) (by simp)
  exact ⟨_, _, hr, collect_start_spec hnd hr⟩

end FirstSearch

/-! ## イベントのあとに進む先 -/

section NextElement

variable {g P} (hnd : (g.decl.elements.map (·.id)).Nodup) {e : ElementDecl}
  (he : e ∈ g.decl.elements) {ev : Event} (hev : ev.elementId = e.id)
include hnd he hev

/-- 届く止まる要素が二つ以上なら、それを一度ずつ挙げたあいまいなシーケンスフローの誤りになる。 -/
theorem nextElement_of_ambiguous {a b : ElementDecl} (hab : a ≠ b)
    (ha : g.ReachableStop P e.id a) (hb : g.ReachableStop P e.id b) :
    ∃ l : List ElementDecl, l.Nodup ∧ (∀ z, z ∈ l ↔ g.ReachableStop P e.id z) ∧
      g.nextElement (pureJudge P) ev = throw (g.ambiguousFlow e.id l) := by
  obtain ⟨found, visited, hc, hnodup, hmem, -⟩ := collect_start hnd (P := P) e.id
  refine ⟨found, hnodup, hmem, ?_⟩
  rw [nextElement_eq he hev]
  -- 二つの異なる要素を含むので、見つけた要素は二つ以上である。
  rcases found with _ | ⟨x, _ | ⟨y, rest⟩⟩
  · simpa using (hmem a).mpr ha
  · have hax : a = x := by simpa using (hmem a).mpr ha
    have hbx : b = x := by simpa using (hmem b).mpr hb
    exact absurd (hax.trans hbx.symm) hab
  · rw [resolveFrom_of_many hc]
    rfl

/-- 届く止まる要素がなければ、進む先はない。 -/
theorem nextElement_of_unreachable (h : ∀ z, ¬ g.ReachableStop P e.id z) :
    g.nextElement (pureJudge P) ev = pure none := by
  obtain ⟨found, visited, hc, -, hmem, -⟩ := collect_start hnd (P := P) e.id
  have hfound : found = [] := List.eq_nil_iff_forall_not_mem.mpr fun z hz => h z ((hmem z).mp hz)
  subst hfound
  rw [nextElement_eq he hev, resolveFrom_of_none hc, pure_bind]
  rfl

/-- 届く止まる要素がただ一つなら、`e` と出会ったすべての要素を訪問済みとして、その要素から
`settle` で決める。 -/
theorem nextElement_of_single {s : ElementDecl} (h : ∀ z, g.ReachableStop P e.id z ↔ z = s) :
    ∃ visited, (∀ id, id ∈ visited ↔ g.Visited P e.id id) ∧
      g.nextElement (pureJudge P) ev =
        g.settle (pureJudge P) (resolveFrom.loop (pureJudge P) g e.id g.decl.elements.length) s
          visited >>= fun r => pure (r.bind (g.nextEntity? ev)) := by
  obtain ⟨found, visited, hc, hnodup, hmem, hvisited⟩ := collect_start hnd (P := P) e.id
  have hfound : found = [s] := List.perm_singleton.mp
    ((List.perm_ext_iff_of_nodup hnodup (List.nodup_singleton s)).mpr fun z => by simp [hmem, h])
  subst hfound
  exact ⟨visited, hvisited, by rw [nextElement_eq he hev, resolveFrom_of_single hc]⟩

/-- 届く止まる要素が並行ゲートウェイでないただ一つなら、その実体に進む。 -/
theorem nextElement_of_single_stop {s : ElementDecl} (h : ∀ z, g.ReachableStop P e.id z ↔ z = s)
    (hs : s.isParallelGateway = false) :
    g.nextElement (pureJudge P) ev = pure (g.nextEntity? ev s) := by
  obtain ⟨visited, -, hnext⟩ := nextElement_of_single hnd he hev h
  rw [hnext, settle_of_not_parallel visited hs, pure_bind, Option.bind_some]

end NextElement

/-- **次の要素は届く止まる要素で決まる。** 検査済みのモデルで、条件の評価が純粋で誤らなければ、
要素 `e` のイベント `ev` のあとに進む先は、`e` から届く止まる要素の集まり `S` で決まる。
`S` が二つ以上ならそれを一度ずつ挙げたあいまいなシーケンスフローの誤り、空なら進む先はなく、
タスクかイベント一つならその実体である。`S` が一つなら、いつも `e` と出会ったすべての要素を
訪問済みとして、その要素から `settle` で決める。 -/
theorem nextElement_by_reachable_stops {m : ModelDecl} {g : Graph} (hg : Graph.ofDecl m = .ok g)
    (P : String → Bool) {e : ElementDecl} (he : e ∈ g.decl.elements) {ev : Event}
    (hev : ev.elementId = e.id) :
    ((∃ a b, a ≠ b ∧ g.ReachableStop P e.id a ∧ g.ReachableStop P e.id b) →
      ∃ l : List ElementDecl, l.Nodup ∧ (∀ z, z ∈ l ↔ g.ReachableStop P e.id z) ∧
        g.nextElement (pureJudge P) ev = throw (g.ambiguousFlow e.id l)) ∧
    ((∀ z, ¬ g.ReachableStop P e.id z) → g.nextElement (pureJudge P) ev = pure none) ∧
    ∀ s, (∀ z, g.ReachableStop P e.id z ↔ z = s) →
      (s.kind = .task → g.nextElement (pureJudge P) ev = pure ((g.taskEntity? s).map .task)) ∧
      (s.kind = .event →
        g.nextElement (pureJudge P) ev = pure ((s.eventEntity? ev.taskId).map .event)) ∧
      ∃ visited, (∀ id, id ∈ visited ↔ g.Visited P e.id id) ∧
        g.nextElement (pureJudge P) ev =
          g.settle (pureJudge P) (resolveFrom.loop (pureJudge P) g e.id g.decl.elements.length) s
            visited >>= fun r => pure (r.bind (g.nextEntity? ev)) := by
  have hnd := ofDecl_ids_nodup hg
  refine ⟨fun ⟨a, b, hab, ha, hb⟩ => nextElement_of_ambiguous hnd he hev hab ha hb,
    nextElement_of_unreachable hnd he hev, fun s h => ⟨fun hk => ?_, fun hk => ?_,
      nextElement_of_single hnd he hev h⟩⟩
  -- タスクやイベントは並行ゲートウェイではない。
  · rw [nextElement_of_single_stop hnd he hev h (by simp [ElementDecl.isParallelGateway, hk])]
    simp [nextEntity?, hk]
  · rw [nextElement_of_single_stop hnd he hev h (by simp [ElementDecl.isParallelGateway, hk])]
    simp [nextEntity?, hk]

/-- タスク `t1`。 -/
def taskOne : ElementDecl :=
  { id := "t1", kind := .task, name := "One", process := some "p", task := some { id := 1 } }

/-- イベント `e10`。 -/
def eventGo : ElementDecl :=
  { id := "e10", kind := .event, name := "go", process := some "p", event := some { id := 10 } }

/-- タスク `t2`。 -/
def taskTwo : ElementDecl :=
  { id := "t2", kind := .task, name := "Two", process := some "p", task := some { id := 2 } }

/-- タスク `t1` で引いたイベント `e10` の実体。 -/
def goEvent : Event :=
  { id := 10, taskId := 1, elementId := "e10", name := "go", workflowResult := "",
    followUp := false, nextEvent := 0, signalAdapter := none, timer := none, modelSwitch := none,
    items := itemsDocument [] }

/-- タスク `t1` のイベント `e10` からタスク `t2` へ進むモデル。 -/
def directModel : ModelDecl where
  version := "d"
  processes := [{ id := "p", name := "P" }]
  elements := [taskOne, eventGo, taskTwo]
  flows := [{ id := "f1", source := "t1", target := "e10" },
    { id := "f2", source := "e10", target := "t2" }]

/-- `directModel` を検査したグラフ。 -/
def directGraph : Graph :=
  { decl := directModel, checksum := directModel.checksum,
    definition := itemsDocument directModel.definition }

/-- `directModel` ではイベント `e10` から届く止まる要素はタスク `t2` だけなので、その実体に進む。 -/
theorem nextElement_direct_task :
    directGraph.nextElement (pureJudge fun _ => false) goEvent =
      pure ((directGraph.taskEntity? taskTwo).map .task) := by
  have hb : Text.isBlankText "d" = false := by decide +kernel
  have hg : Graph.ofDecl directModel = .ok directGraph := by
    simp only [Graph.ofDecl, directModel, hb]
    rfl
  have hc : collect (pureJudge fun _ => false) directGraph directGraph.searchFuel eventGo.id
      ([], [eventGo.id]) = pure ([taskTwo], ["t2", "e10"]) := rfl
  have hS := (collect_start_spec (ofDecl_ids_nodup hg) hc).2.1
  refine ((nextElement_by_reachable_stops hg (fun _ => false) (e := eventGo)
    (by simp [directGraph, directModel]) rfl).2.2 taskTwo fun z => ?_).1 rfl
  rw [← hS z, List.mem_singleton]

/-- 並行ゲートウェイ `gw`。 -/
def parallelGateway : ElementDecl :=
  { id := "gw", kind := .gateway, process := some "p", gateway := some .parallel }

/-- 排他ゲートウェイ `x`。 -/
def exclusiveGateway : ElementDecl :=
  { id := "x", kind := .gateway, process := some "p", gateway := some .exclusive }

/-- タスク `t3`。 -/
def taskThree : ElementDecl :=
  { id := "t3", kind := .task, name := "Three", process := some "p", task := some { id := 3 } }

/-- タスク `t1` のイベント `e10` から並行ゲートウェイ `gw` へ進み、その主流の先の排他ゲートウェイ
`x` から条件なしにタスク `t2` と `t3` へ分かれるモデル。 -/
def gatewayModel : ModelDecl where
  version := "c"
  processes := [{ id := "p", name := "P" }]
  elements := [taskOne, eventGo, parallelGateway, exclusiveGateway, taskTwo, taskThree]
  flows := [{ id := "f1", source := "t1", target := "e10" },
    { id := "f2", source := "e10", target := "gw" }, { id := "f3", source := "gw", target := "x" },
    { id := "f4", source := "x", target := "t2" }, { id := "f5", source := "x", target := "t3" }]

/-- `gatewayModel` を検査したグラフ。 -/
def gatewayGraph : Graph :=
  { decl := gatewayModel, checksum := gatewayModel.checksum,
    definition := itemsDocument gatewayModel.definition }

/-- 届く止まる要素が一つでも、あいまいなシーケンスフローの誤りになることがある。`e10` から届く
止まる要素は並行ゲートウェイ `gw` だけだが、その先の続きの探索が `t2` と `t3` を見つける。 -/
theorem ambiguous_after_parallel_gateway :
    Graph.ofDecl gatewayModel = .ok gatewayGraph ∧
      (∀ z, gatewayGraph.ReachableStop (fun _ => false) "e10" z ↔ z = parallelGateway) ∧
      gatewayGraph.nextElement (pureJudge fun _ => false) goEvent =
        throw (gatewayGraph.ambiguousFlow "e10" [taskTwo, taskThree]) := by
  have hb : Text.isBlankText "c" = false := by decide +kernel
  have hg : Graph.ofDecl gatewayModel = .ok gatewayGraph := by
    simp only [Graph.ofDecl, gatewayModel, hb]
    rfl
  have hc : collect (pureJudge fun _ => false) gatewayGraph gatewayGraph.searchFuel "e10"
      ([], ["e10"]) = pure ([parallelGateway], ["gw", "e10"]) := rfl
  refine ⟨hg, fun z => ?_, rfl⟩
  rw [← (collect_start_spec (ofDecl_ids_nodup hg) hc).2.1 z, List.mem_singleton]

end Graph

end Workflow.Model
