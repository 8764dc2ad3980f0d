import Mathlib
import Workflow.Model.Navigation

/-!
# 引いた実体はモデルの要素から来る

タスクで起こせるイベントの一覧（`eventsOfTask`）と次の要素の探索（`nextElement`）が返す実体が、
どのモデルの要素のものかを述べる。

* `taskIds` と `eventIds` — タスク要素のタスク id と、イベント要素のイベント id。
* `eventsOfTask_ids` — 一覧が引けたタスク id はタスク要素のもので、一覧のどのイベントの id も
  イベント要素のものである。要素の id に重複がないこと（検査を通ったモデル）を仮定する。
* `EventEntity` — モデルのイベント要素から、イベントを引いたタスク id で作った実体。一覧の
  イベントはどれもそうである（`eventsOfTask_entities`）。
* `nextElement_eventEntity` — 探索が次の要素としてイベントを返せば、それはイベント要素の実体で、
  遷移のイベントのタスク id を持つ。条件の評価が何をしても成り立つので、任意のモナドの事後条件
  （`SatisfiesM`）で述べる。

一覧は、タスクから出るフローをたどって届くイベント（`walkEvents`）と、入るフローをさかのぼって
届く初期イベント（`collectInit`）からなる。どちらも、集めた要素がモデルのイベント要素であること
を保ったまま進む。
-/

namespace Workflow.Model

instance : LawfulBEq ElementKind where
  eq_of_beq {a b} h := by cases a <;> cases b <;> first | rfl | exact absurd h (by decide)
  rfl {a} := by cases a <;> decide

/-- 事後条件を満たす計算に続けるなら、事後条件を満たす値で一致する二つの続きは同じ計算になる。 -/
theorem bind_congr_of_satisfiesM {m : Type → Type} [Monad m] [LawfulMonad m] {α β : Type}
    {p : α → Prop} {x : m α} {f f' : α → m β} (hx : SatisfiesM p x) (h : ∀ a, p a → f a = f' a) :
    x >>= f = x >>= f' := by
  obtain ⟨y, rfl⟩ := hx
  simp only [bind_map_left]
  exact congrArg (y >>= ·) (funext fun a => h a.1 a.2)

namespace Graph

/-! ## タスク要素とイベント要素の id -/

/-- タスク要素のタスク id（宣言順）。 -/
def taskIds (g : Graph) : List Int :=
  g.decl.elements.filterMap fun el => if el.kind == .task then el.task.map (·.id) else none

/-- イベント要素のイベント id（宣言順）。 -/
def eventIds (g : Graph) : List Int :=
  g.decl.elements.filterMap fun el => if el.kind == .event then el.event.map (·.id) else none

/-- 要素の集まりがどれもモデルのイベント要素である。 -/
def EventElements (g : Graph) (els : List ElementDecl) : Prop :=
  ∀ x ∈ els, x ∈ g.decl.elements ∧ x.kind = .event

variable {g : Graph}

theorem mem_eventIds {el : ElementDecl} {e : EventDecl} (hel : el ∈ g.decl.elements)
    (hk : el.kind = .event) (he : el.event = some e) : e.id ∈ g.eventIds :=
  List.mem_filterMap.mpr ⟨el, hel, by simp [hk, he]⟩

theorem mem_taskIds_of_taskElement? {t : Int} {el : ElementDecl} (h : g.taskElement? t = some el) :
    t ∈ g.taskIds := by
  have hel := List.mem_of_find?_eq_some h
  have hp := List.find?_some h
  simp only [Bool.and_eq_true, beq_iff_eq] at hp
  obtain ⟨hk, ht⟩ := hp
  exact List.mem_filterMap.mpr ⟨el, hel, by simp [hk, ht]⟩

/-- id で引いた要素はモデルの要素で、その id を持つ。 -/
theorem element?_spec {id : String} {el : ElementDecl} (h : g.element? id = some el) :
    el ∈ g.decl.elements ∧ el.id = id :=
  ⟨List.mem_of_find?_eq_some h, by simpa using List.find?_some h⟩

theorem EventElements.nil : g.EventElements [] := by simp [EventElements]

theorem EventElements.append_single {els : List ElementDecl} {x : ElementDecl}
    (h : g.EventElements els) (hx : x ∈ g.decl.elements) (hk : x.kind = .event) :
    g.EventElements (els ++ [x]) := by
  intro y hy
  rcases List.mem_append.mp hy with hy | hy
  · exact h y hy
  · rw [List.mem_singleton.mp hy]
    exact ⟨hx, hk⟩

/-! ## タスクから出るフローで届くイベント -/

/-- 出るフローをたどる一歩は、イベント要素だけを集める。 -/
theorem walkEvents_eventElements :
    ∀ (fuel : Nat) (stack visited : List String) (found : List ElementDecl),
      g.EventElements found → g.EventElements (g.walkEvents fuel stack visited found)
  | 0, _, _, _, h => by simpa [walkEvents] using h
  | _ + 1, [], _, _, h => by simpa [walkEvents] using h
  | fuel + 1, node :: stack, visited, found, h => by
    simp only [walkEvents]
    apply walkEvents_eventElements fuel
    -- フローごとの一歩で、足すのはイベント種別の行き先だけである。
    refine List.foldlRecOn
      (motive := fun acc : List String × List String × List ElementDecl => g.EventElements acc.2.2)
      _ _ h ?_
    intro acc hacc f _
    obtain ⟨stack, visited, found⟩ := acc
    unfold visitEvent
    cases ht : g.element? f.target with
    | none => exact hacc
    | some t =>
      have ht' := (element?_spec ht).1
      simp only
      -- 訪問済み・イベント・タスク・リンクスロー・その他。集めるのはイベントだけ。
      split
      · exact hacc
      · split
        · next hk => exact hacc.append_single ht' hk
        · exact hacc
        · split
          · split <;> exact hacc
          · exact hacc
        · exact hacc

/-- 出ていくイベントは、要素の id に重複がなければ、どれもイベント要素である。探索が集めた要素と
同じ id の要素を宣言順に選び直すので、id の重複がないことが要る。 -/
theorem outgoingEvents_eventElements (hnd : (g.decl.elements.map (·.id)).Nodup)
    (task : ElementDecl) : g.EventElements (g.outgoingEvents task) := by
  have hfound := walkEvents_eventElements (g := g) g.searchFuel [task.id] [task.id] [] .nil
  intro el hel
  simp only [outgoingEvents, List.mem_filter, List.any_eq_true, beq_iff_eq] at hel
  obtain ⟨hmem, x, hx, hid⟩ := hel
  obtain ⟨hxmem, hk⟩ := hfound x hx
  have hxel : x = el := List.inj_on_of_nodup_map hnd hxmem hmem hid
  exact hxel ▸ ⟨hxmem, hk⟩

/-! ## 入るフローをさかのぼって届く初期イベント -/

theorem kind_of_isInitEvent {el : ElementDecl} (h : g.isInitEvent el = true) :
    el.kind = .event := by
  simp only [isInitEvent, Bool.and_eq_true, beq_iff_eq] at h
  exact h.1

/-- さかのぼる探索は、初期イベントだけを集める。 -/
theorem collectInit_eventElements :
    ∀ (fuel : Nat) (node : String) (path : List String) (found : List ElementDecl),
      g.EventElements found → SatisfiesM g.EventElements (g.collectInit fuel node path found)
  | 0, _, _, _, h => by simpa [collectInit] using h
  | fuel + 1, node, path, found, h => by
    simp only [collectInit]
    refine List.satisfiesM_foldlM h ?_
    intro acc hacc f _
    unfold visitInit
    cases hs : g.element? f.source with
    | none => exact SatisfiesM.pure hacc
    | some s =>
      have hs' := (element?_spec hs).1
      simp only
      split
      · next hinit =>
        refine SatisfiesM.pure ?_
        split
        · exact hacc
        · exact hacc.append_single hs' (kind_of_isInitEvent hinit)
      · split
        · split
          · exact SatisfiesM_Except_eq.mpr fun _ h => by cases h
          · exact collectInit_eventElements fuel s.id (s.id :: path) acc hacc
        · exact SatisfiesM.pure hacc

theorem initEvents_eventElements {node : ElementDecl} {init : List ElementDecl}
    (h : g.initEvents node = .ok init) : g.EventElements init :=
  SatisfiesM_Except_eq.mp (collectInit_eventElements _ _ _ _ .nil) init h

/-! ## タスクで起こせるイベント -/

theorem mem_of_mem_distinctById {x : ElementDecl} :
    ∀ {els : List ElementDecl} {seen : List String}, x ∈ distinctById els seen → x ∈ els
  | [], _, h => by simp [distinctById] at h
  | el :: rest, seen, h => by
    simp only [distinctById] at h
    split at h
    · exact List.mem_cons_of_mem el (mem_of_mem_distinctById h)
    · rcases List.mem_cons.mp h with rfl | h
      · exact List.mem_cons_self
      · exact List.mem_cons_of_mem el (mem_of_mem_distinctById h)

theorem ElementDecl.id_of_eventEntity? {el : ElementDecl} {t : Int} {ev : Event}
    (h : el.eventEntity? t = some ev) : ∃ e, el.event = some e ∧ ev.id = e.id := by
  simp only [ElementDecl.eventEntity?, Option.map_eq_some_iff] at h
  obtain ⟨e, he, rfl⟩ := h
  exact ⟨e, he, rfl⟩

theorem ElementDecl.taskId_of_eventEntity? {el : ElementDecl} {t : Int} {ev : Event}
    (h : el.eventEntity? t = some ev) : ev.taskId = t := by
  simp only [ElementDecl.eventEntity?, Option.map_eq_some_iff] at h
  obtain ⟨e, -, rfl⟩ := h
  rfl

/-- モデル `g` のイベント要素の実体：イベントを引いたタスク id で、その要素から作ったもの。 -/
def EventEntity (g : Graph) (ev : Event) : Prop :=
  ∃ el ∈ g.decl.elements, el.kind = .event ∧ el.eventEntity? ev.taskId = some ev

theorem EventEntity.id_mem {ev : Event} (h : g.EventEntity ev) : ev.id ∈ g.eventIds := by
  obtain ⟨el, hel, hk, hent⟩ := h
  obtain ⟨e, he, hid⟩ := ElementDecl.id_of_eventEntity? hent
  exact hid ▸ mem_eventIds hel hk he

/-- イベント要素からタスク id `t` で作った実体は、`t` を持つイベント要素の実体である。 -/
theorem eventEntity_of_eventEntity? {el : ElementDecl} (hel : el ∈ g.decl.elements)
    (hk : el.kind = .event) {t : Int} {ev : Event} (h : el.eventEntity? t = some ev) :
    g.EventEntity ev ∧ ev.taskId = t := by
  have ht := ElementDecl.taskId_of_eventEntity? h
  refine ⟨⟨el, hel, hk, ?_⟩, ht⟩
  rw [ht]
  exact h

/-- **起こせるイベントの出どころ。** 要素の id に重複のないモデルで一覧が引ければ、引いたタスク
id はタスク要素のもので、一覧のどのイベントも、そのタスク id で引いたイベント要素の実体である。 -/
theorem eventsOfTask_entities (hnd : (g.decl.elements.map (·.id)).Nodup) {t : Int}
    {evs : List Event} (h : g.eventsOfTask t = .ok evs) :
    ∀ ev ∈ evs, t ∈ g.taskIds ∧ g.EventEntity ev ∧ ev.taskId = t := by
  intro ev hev
  unfold eventsOfTask at h
  cases ht : g.taskElement? t with
  | none =>
    rw [ht] at h
    cases h
    simp at hev
  | some task =>
    cases hinit : g.initEvents task with
    | error e =>
      simp only [ht, hinit] at h
      cases h
    | ok init =>
      simp only [ht, hinit] at h
      cases h
      obtain ⟨el, hel, hent⟩ := List.mem_filterMap.mp hev
      have hsrc : g.EventElements (g.outgoingEvents task ++ init) := by
        intro x hx
        rcases List.mem_append.mp hx with hx | hx
        · exact outgoingEvents_eventElements hnd task x hx
        · exact initEvents_eventElements hinit x hx
      obtain ⟨hmem, hk⟩ := hsrc el (mem_of_mem_distinctById hel)
      exact ⟨mem_taskIds_of_taskElement? ht, eventEntity_of_eventEntity? hmem hk hent⟩

/-- 一覧のどのイベントについても、引いたタスク id はタスク要素のもの、イベントの id はイベント
要素のものである。 -/
theorem eventsOfTask_ids (hnd : (g.decl.elements.map (·.id)).Nodup) {t : Int} {evs : List Event}
    (h : g.eventsOfTask t = .ok evs) : ∀ ev ∈ evs, t ∈ g.taskIds ∧ ev.id ∈ g.eventIds := by
  intro ev hev
  obtain ⟨ht, hent, -⟩ := eventsOfTask_entities hnd h ev hev
  exact ⟨ht, hent.id_mem⟩

/-- タスク id とイベント id で引けたイベントなら、その組はタスク要素とイベント要素のものである。 -/
theorem eventOf?_ids (hnd : (g.decl.elements.map (·.id)).Nodup) {t e : Int} {ev : Event}
    (h : g.eventOf? t e = .ok (some ev)) : t ∈ g.taskIds ∧ e ∈ g.eventIds := by
  unfold eventOf? at h
  cases hevs : g.eventsOfTask t with
  | error err =>
    simp only [hevs] at h
    cases h
  | ok evs =>
    simp only [hevs] at h
    have hfind : evs.find? (·.id == e) = some ev := by
      simpa [bind, Except.bind, pure, Except.pure] using h
    have hid : ev.id = e := by simpa using List.find?_some hfind
    obtain ⟨ht, hev⟩ := eventsOfTask_ids hnd hevs ev (List.mem_of_find?_eq_some hfind)
    exact ⟨ht, hid ▸ hev⟩

/-! ## 次の要素の探索が返す要素 -/

section Navigation

variable {m : Type → Type} [Monad m] [LawfulMonad m] (judge : String → m (Except Error Bool))

/-- 誤りを投げる計算は、どの事後条件も満たす。 -/
theorem satisfiesM_throw {α : Type} {p : α → Prop} (e : Error) :
    SatisfiesM (m := ExceptT Error m) p (throw e) := by
  refine SatisfiesM_ExceptT_eq.mpr ?_
  rw [ExceptT.run_throw]
  exact SatisfiesM.pure fun _ h => by cases h

/-- 止まる要素を集める探索は、モデルの要素だけを集める。リンクの先も `element?` と
`catchOf?` で引いた要素である。 -/
theorem collect_found_subset :
    ∀ (fuel : Nat) (node : String) (acc : List ElementDecl × List String),
      acc.1 ⊆ g.decl.elements →
        SatisfiesM (fun acc' : List ElementDecl × List String => acc'.1 ⊆ g.decl.elements)
          (g.collect judge fuel node acc)
  | 0, _, _, h => by
    simp only [collect]
    exact SatisfiesM.pure h
  | fuel + 1, node, acc, h => by
    simp only [collect]
    refine SatisfiesM.bind SatisfiesM.trivial fun flows _ => ?_
    refine List.satisfiesM_foldlM h ?_
    intro acc hacc f _
    obtain ⟨found, visited⟩ := acc
    unfold visitTarget
    cases ht : g.element? f.target with
    | none => exact SatisfiesM.pure hacc
    | some t =>
      have ht' := (element?_spec ht).1
      simp only
      -- 訪問済み・止まる要素・リンクスロー・その他。探索を続ける枝は帰納法の仮定に任せる。
      split
      · exact SatisfiesM.pure hacc
      · split
        · refine SatisfiesM.pure ?_
          split
          · exact hacc
          · exact List.append_subset.mpr ⟨hacc, List.cons_subset.mpr ⟨ht', List.nil_subset _⟩⟩
        · split
          · split
            · split
              · exact SatisfiesM.pure hacc
              · exact collect_found_subset fuel _ _ hacc
            · exact SatisfiesM.pure hacc
          · exact collect_found_subset fuel _ _ hacc

/-- 並行ゲートウェイの主流の行き先は、調べたフローの行き先の要素である。どの行き先の要素も
`P` を満たせば、答えも `P` を満たす。 -/
theorem mainFlow_go_sat (g : Graph) (P : ElementDecl → Prop) :
    ∀ (flows : List FlowDecl) (first : Option ElementDecl),
      (∀ f ∈ flows, ∀ t, g.element? f.target = some t → P t) → (∀ x ∈ first, P x) →
      SatisfiesM (fun r : Option ElementDecl => ∀ x ∈ r, P x) (mainFlow.go judge g flows first)
  | [], _, _, h => by simpa [mainFlow.go] using SatisfiesM.pure h
  | f :: fs, first, hflows, h => by
    have hfs : ∀ f ∈ fs, ∀ t, g.element? f.target = some t → P t := fun f' hf' =>
      hflows f' (List.mem_cons_of_mem f hf')
    simp only [mainFlow.go]
    cases ht : g.element? f.target with
    | none => exact mainFlow_go_sat g P fs first hfs h
    | some t =>
      have ht' : P t := hflows f List.mem_cons_self t ht
      simp only
      split
      · exact SatisfiesM.pure fun x hx => (Option.mem_some_iff.mp hx) ▸ ht'
      · have hq : ∀ q : Bool, ∀ x ∈ (if q then some t else none), P x := by
          intro q x hx
          split at hx
          · exact (Option.mem_some_iff.mp hx) ▸ ht'
          · cases hx
        split
        · exact mainFlow_go_sat g P fs first hfs h
        · -- 条件がなければ成り立つとし、あれば評価する。どちらも行き先の候補は `t` である。
          split
          · simp only [pure_bind]
            exact mainFlow_go_sat g P fs _ hfs (hq true)
          · exact SatisfiesM.bind SatisfiesM.trivial fun q _ => mainFlow_go_sat g P fs _ hfs (hq q)

/-- 並行ゲートウェイを越えて答える要素はモデルの要素である。 -/
theorem crossParallel_mem :
    ∀ (fuel : Nat) (next : ElementDecl) (visited : List String), next ∈ g.decl.elements →
      SatisfiesM (fun r : Option ElementDecl ⊕ (String × List String) =>
          ∀ x, r = .inl (some x) → x ∈ g.decl.elements)
        (g.crossParallel judge fuel next visited)
  | 0, _, _, _ => by simpa [crossParallel] using SatisfiesM.pure (by simp)
  | fuel + 1, next, visited, h => by
    simp only [crossParallel]
    split
    · exact SatisfiesM.pure fun x hx => by cases hx; exact h
    · refine SatisfiesM.bind (mainFlow_go_sat judge g (· ∈ g.decl.elements) _ none
        (fun _ _ _ ht => (element?_spec ht).1) (by simp)) fun r hr => ?_
      split
      · exact SatisfiesM.pure (by simp)
      · next t =>
        have ht : t ∈ g.decl.elements := hr t rfl
        split
        · exact SatisfiesM.pure (by simp)
        · split
          · exact crossParallel_mem fuel t _ ht
          · exact SatisfiesM.pure (by simp)

/-- 止まる要素から並行ゲートウェイを越えて進む先は、モデルの要素である。 -/
theorem resolveFrom_loop_mem (start : String) :
    ∀ (fuel : Nat) (current : String) (visited : List String),
      SatisfiesM (fun r : Option ElementDecl => ∀ x ∈ r, x ∈ g.decl.elements)
        (resolveFrom.loop judge g start fuel current visited)
  | 0, _, _ => by simpa [resolveFrom.loop] using SatisfiesM.pure (by simp)
  | fuel + 1, current, visited => by
    simp only [resolveFrom.loop]
    refine SatisfiesM.bind (collect_found_subset judge _ _ ([], visited) (by simp)) ?_
    rintro ⟨found, visited⟩ hfound
    simp only at hfound ⊢
    split
    · exact SatisfiesM.pure (by simp)
    · next single =>
      have hs : single ∈ g.decl.elements := hfound List.mem_cons_self
      unfold settle
      refine SatisfiesM.bind (crossParallel_mem judge _ single visited hs) ?_
      rintro (r | ⟨next, visited⟩) hr
      · exact SatisfiesM.pure fun y hy => hr y (by rw [Option.mem_def.mp hy])
      · exact resolveFrom_loop_mem start fuel _ _
    · exact satisfiesM_throw _

/-- モデルの要素の実体がイベントなら、それはイベント要素の実体で、遷移のイベントのタスク id を
持つ。 -/
theorem nextEntity?_eventEntity {ev : Event} {next : ElementDecl} (hnext : next ∈ g.decl.elements)
    {f : Event} (hf : g.nextEntity? ev next = some (.event f)) :
    g.EventEntity f ∧ f.taskId = ev.taskId := by
  unfold nextEntity? at hf
  -- 次の要素の種類で分ける。イベントの実体を返すのはイベント要素のときだけである。
  split at hf
  · obtain ⟨_, _, h⟩ := Option.map_eq_some_iff.mp hf
    cases h
  · next hk =>
    obtain ⟨f', hf', h⟩ := Option.map_eq_some_iff.mp hf
    cases h
    exact eventEntity_of_eventEntity? hnext hk hf'
  · cases hf

/-- **次のイベントの出どころ。** 探索が次の要素としてイベントを返せば、それはモデルのイベント
要素の実体で、遷移のイベントのタスク id を持つ。条件の評価が何を返しても成り立つ。 -/
theorem nextElement_eventEntity (ev : Event) :
    SatisfiesM (fun r : Option NextElement =>
        ∀ f, r = some (.event f) → g.EventEntity f ∧ f.taskId = ev.taskId)
      (g.nextElement judge ev) := by
  simp only [nextElement, resolveFrom]
  -- 要素がなければ投げて、その先へは進まない。
  split
  · exact SatisfiesM.bind (satisfiesM_throw (p := fun _ => False) _) fun _ h => h.elim
  refine SatisfiesM.bind (resolveFrom_loop_mem (g := g) judge ev.elementId _ _ _) fun r hr => ?_
  refine SatisfiesM.pure fun f hf => ?_
  obtain ⟨next, hr', hnext⟩ := Option.bind_eq_some_iff.mp hf
  exact nextEntity?_eventEntity (hr next hr') hnext

/-- 探索が次の要素としてイベントを返せば、その id はモデルのイベント要素のものである。 -/
theorem nextElement_event_id (ev : Event) :
    SatisfiesM (fun r : Option NextElement => ∀ f, r = some (.event f) → f.id ∈ g.eventIds)
      (g.nextElement judge ev) :=
  (nextElement_eventEntity judge ev).imp fun h f hf => (h f hf).1.id_mem

end Navigation

end Graph

end Workflow.Model
