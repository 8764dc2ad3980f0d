import Mathlib
import Workflow.Proofs.Items
import Workflow.Proofs.Transitions

/-!
# 遷移の繰り返しの道筋

遷移の繰り返しが一つの遷移で何をするかを、記録 `Executed`（遷移のタスク、解決したモデル、
引いたイベント、拡張に渡した文書と返った文書、探索が答えた次の要素）で言い表す。

* `Advances` — 続ける遷移の前後の状態は、記録でこう結ばれる：遷移のイベントは文書が次に行う
  イベント（`Document.upcoming`）で、タスクで起こせるイベントの一覧にその id があればそれ、
  なければ連鎖の表でその鍵に覚えたものである。記録に遷移の名前が一つ足され、連鎖の表は次の
  イベントを覚える。待ち行列は、拡張が返した文書の待ち行列に次のイベントと後続イベントを
  足したものになり、イベントの項目はモデルの切り替えのイベントか 0 になる。
* `transitionStep_advances` — 続ける遷移はどれも、そう結ばれる記録を持つ。拡張が何をしても
  成り立つ。
* `Runs` — 遷移を一つずつ実際に行って状態が進み、その記録が順に並ぶ。繰り返しは、始めの状態
  からそう進んだあと、終わるか誤りで止まるか燃料が尽きる（`transitionLoop_runs`）。
* `Runs.lookup_chained` — 連鎖の表は、鍵ごとに最後に覚えたイベントを持つ。
-/

namespace Workflow.Document

/-- 核が次に行うイベントと、そのあとの待ち行列：イベント id が正ならそれと待ち行列、でなければ
待ち行列の先頭と残り。 -/
def upcoming (d : Document) : Option Int × List Int :=
  if d.eventId > 0 then (some d.eventId, d.pendingEvents)
  else (d.pendingEvents.head?, d.pendingEvents.tail)

section Slots

variable {d : Document}

theorem eventId_setEventId (e : Int) : (d.setEventId e).eventId = e := by
  simp [Document.eventId, Document.getInt, Document.first?, Document.setEventId, get_setItem_self,
    ItemValue.toInt?]

theorem get_setEventId_eventId (e : Int) : (d.setEventId e).get ItemName.eventId = [.int e] :=
  get_setItem_self _

theorem get_setEventId_pendingEvents (e : Int) :
    (d.setEventId e).get ItemName.pendingEvents = d.get ItemName.pendingEvents :=
  get_setItem_of_ne (by decide +kernel) _

theorem pendingEvents_setEventId (e : Int) : (d.setEventId e).pendingEvents = d.pendingEvents := by
  unfold Document.pendingEvents
  rw [get_setEventId_pendingEvents]

theorem taskId_setEventId (e : Int) : (d.setEventId e).taskId = d.taskId :=
  getInt_setItems_of_ne (by decide +kernel)

theorem popPendingEvent_fst : d.popPendingEvent.1 = d.pendingEvents.head? := by
  unfold Document.popPendingEvent
  split <;> simp_all

theorem get_popPendingEvent_of_ne {n : String} (h : normalize n ≠ ItemName.pendingEvents) :
    d.popPendingEvent.2.get n = d.get n := by
  unfold Document.popPendingEvent
  split
  · exact get_removeItem_of_ne (by simpa using Ne.symm h)
  · exact get_setItems_of_ne (by simpa using Ne.symm h)

end Slots

end Workflow.Document

namespace Workflow.Kernel

open Workflow.Model Workflow.Document

/-! ## 状態の計算の事後条件 -/

section Posts

variable {α : Type}

/-- 計算の値は、ある環境で実際に走らせて得た値である。 -/
theorem satisfiesM_run (x : Run α) : SatisfiesM (fun a => ∃ r, (x.run r).1 = a) x :=
  SatisfiesM_StateT_eq.mpr fun r => SatisfiesM_Id_eq.mpr ⟨r, rfl⟩

/-- 事後条件は、どの環境で走らせた値についても成り立つ。 -/
theorem SatisfiesM.run_fst {p : α → Prop} {x : Run α} (h : SatisfiesM p x) (r : Runtime) :
    p (x.run r).1 :=
  (SatisfiesM_Id_eq (p := fun a : α × Runtime => p a.1)).mp (SatisfiesM_StateT_eq.mp h r)

theorem SatisfiesM.of_run {p : α → Prop} {x : Run α} (h : SatisfiesM p x) {r r' : Runtime} {a : α}
    (hx : x.run r = (a, r')) : p a := by
  have := SatisfiesM.run_fst h r
  rwa [hx] at this

theorem satisfiesM_and {p q : α → Prop} {x : Run α} (hp : SatisfiesM p x) (hq : SatisfiesM q x) :
    SatisfiesM (fun a => p a ∧ q a) x :=
  SatisfiesM_StateT_eq.mpr fun r => SatisfiesM_Id_eq.mpr
    ⟨SatisfiesM.run_fst hp r, SatisfiesM.run_fst hq r⟩

end Posts

/-! ## 遷移の記録 -/

/-- 探索の答えがイベントなら、そのイベント。 -/
def nextEventOf : Option NextElement → Option Event
  | some (.event y) => some y
  | _ => none

/-- 行った遷移の記録。 -/
structure Executed where
  /-- 遷移のタスク。 -/
  task : Int
  /-- 文書のモデルとして解決したモデル。 -/
  graph : Graph
  /-- 引いたイベント。 -/
  event : Event
  /-- 拡張に渡した文書。 -/
  input : Document
  /-- 拡張が返した文書。 -/
  output : Document
  /-- イベントのあとに探索が答えた次の要素。 -/
  next : Option NextElement

namespace Executed

/-- 遷移の名前 `タスク.イベント`。 -/
def name (x : Executed) : String := transitionName x.task x.event.id

/-- 探索が次の要素として答えたイベント。 -/
def nextEvent? (x : Executed) : Option Event := nextEventOf x.next

/-- 遷移のあとの連鎖の表：次の要素がイベントなら、（版、遷移のタスク、その id）を鍵に覚える。 -/
def chainedAfter (x : Executed) (chained : Chained) : Chained :=
  match x.nextEvent? with
  | some y => rememberChained chained (x.graph.version, x.task, y.id) y
  | none => chained

/-- 遷移が鍵 `key` に覚えるイベント。 -/
def chainedUnder (x : Executed) (key : String × Int × Int) : Option Event :=
  x.nextEvent?.filter fun y => (x.graph.version, x.task, y.id) == key

/-- 遷移が待ち行列の末尾に足す id：連鎖した次のイベント、続いて後続イベント。 -/
def enqueued (x : Executed) : List Int :=
  (x.nextEvent?.map (·.id)).toList ++ x.event.followUpEvent.toList

/-- 遷移のモデルの切り替えが置くイベント。 -/
def switchTo (x : Executed) : Option Int :=
  x.event.modelSwitch.map (·.event)

end Executed

/-- 探索の答え：ある文書とある環境で、モデル `g` がイベント `ev` のあとに答える次の要素。 -/
def Navigates (g : Graph) (ev : Event) (next : Option NextElement) : Prop :=
  ∃ (d : Document) (r : Runtime),
    ((g.nextElement (fun c => Runtime.evaluate c d) ev).run.run r).1 = .ok next

/-- 記録が本物の遷移のものであること。 -/
structure Executed.Genuine (reg : Registry) (x : Executed) : Prop where
  /-- モデルはその版で登録されたもの。 -/
  registered : reg.find? x.graph.version = some x.graph
  /-- イベントはモデルのイベント要素の実体。 -/
  event : x.graph.EventEntity x.event
  /-- イベントは遷移のタスクで引いたもの。 -/
  taskId : x.event.taskId = x.task
  /-- 次の要素は探索の答え。 -/
  navigates : Navigates x.graph x.event x.next

/-- 連鎖の表の中身はどれも、鍵の版で登録されたモデルのイベント要素の実体で、鍵のタスク id と
イベント id を持つ。 -/
def ChainedEntities (reg : Registry) (chained : Chained) : Prop :=
  ∀ c ∈ chained, ∃ g, reg.find? c.1.1 = some g ∧ g.EventEntity c.2 ∧ c.2.taskId = c.1.2.1 ∧
    c.2.id = c.1.2.2

/-- 探索がイベントを答えれば、それはモデルのイベント要素の実体で、遷移のイベントのタスク id を
持つ。 -/
theorem Navigates.eventEntity {g : Graph} {ev : Event} {next : Option NextElement}
    (h : Navigates g ev next) {y : Event} (hy : nextEventOf next = some y) :
    g.EventEntity y ∧ y.taskId = ev.taskId := by
  obtain ⟨d, r, hr⟩ := h
  have hpost := SatisfiesM.of_run (SatisfiesM_ExceptT_eq.mp
    (Graph.nextElement_eventEntity (g := g) (fun c => Runtime.evaluate c d) ev))
    (r := r) (Prod.ext hr rfl)
  rcases next with _ | (task | y')
  · cases hy
  · cases hy
  · cases hy
    exact hpost _ rfl y rfl

theorem ChainedEntities.chainedAfter {reg : Registry} {chained : Chained}
    (hch : ChainedEntities reg chained) {x : Executed} (hx : x.Genuine reg) :
    ChainedEntities reg (x.chainedAfter chained) := by
  unfold Executed.chainedAfter
  split
  · next y hy =>
    obtain ⟨hent, htid⟩ := hx.navigates.eventEntity hy
    intro c hc
    rcases List.mem_cons.mp hc with rfl | hc
    · exact ⟨x.graph, hx.registered, hent, htid.trans hx.taskId, rfl⟩
    · exact hch c (List.mem_of_mem_filter hc)
  · exact hch

/-! ## 文書を進める操作と待ち行列 -/

section Documents

variable {d d₁ : Document}

/-- 遷移するイベントを決めて続けるなら、それは文書が次に行うイベントで、タスクは変わらず、
待ち行列はそのあとの待ち行列になる。 -/
theorem takeEvent_inr (h : takeEvent d = .inr d₁) :
    d.upcoming.1 = some d₁.eventId ∧ d₁.taskId = d.taskId ∧
      (d.WellFormed → d₁.WellFormed ∧ d₁.pendingEvents = d.upcoming.2) := by
  unfold takeEvent at h
  split at h
  · next hle =>
    have hup : d.upcoming = (d.pendingEvents.head?, d.pendingEvents.tail) := if_neg (by omega)
    split at h
    · next p rest hpop =>
      cases h
      have hp : d.pendingEvents.head? = some p := by rw [← popPendingEvent_fst, hpop]
      have hrest : d.popPendingEvent.2 = rest := by rw [hpop]
      subst hrest
      refine ⟨by rw [hup, hp, eventId_setEventId], ?_, fun hd => ⟨?_, ?_⟩⟩
      · rw [taskId_setEventId]
        unfold Document.taskId Document.getInt Document.first?
        rw [get_popPendingEvent_of_ne (by decide +kernel)]
      · exact hd.popPendingEvent.setItem _ _
      · rw [hup, pendingEvents_setEventId, pendingEvents_popPendingEvent hd]
    · cases h
  · next hgt =>
    cases h
    have hup : d.upcoming = (some d.eventId, d.pendingEvents) := if_pos (by omega)
    exact ⟨by rw [hup], rfl, fun hd => ⟨hd, by rw [hup]⟩⟩

/-- 保留中のイベントがなく終わるなら、文書は次に行うイベントを持たず、保留中の項目を除いた
ものになる。 -/
theorem takeEvent_inl (h : takeEvent d = .inl d₁) :
    d.upcoming = (none, []) ∧ d₁ = (d.removeItem ItemName.pendingEvents).2 := by
  unfold takeEvent at h
  split at h
  · next hle =>
    split at h
    · cases h
    · next hpop =>
      cases h
      have hnil : d.pendingEvents = [] := by
        have := popPendingEvent_fst (d := d)
        rw [hpop] at this
        exact List.head?_eq_none_iff.mp this.symm
      have hup : d.upcoming = (d.pendingEvents.head?, d.pendingEvents.tail) := if_neg (by omega)
      refine ⟨by rw [hup, hnil]; rfl, ?_⟩
      have hrest : d.popPendingEvent.2 = d₁ := by rw [hpop]
      rw [← hrest]
      unfold Document.popPendingEvent
      rw [hnil]
  · cases h

/-- 文書のモデルを解決して書き直すのは、版の項目だけである。 -/
theorem resolve_doc_eq (r : Registry) (d : Document) :
    (r.resolve d).doc = d ∨ ∃ v, (r.resolve d).doc = d.setModelVersion v := by
  unfold Registry.resolve
  dsimp only
  -- 版で見つかれば文書はそのままか版を書き直したもの、業務グループで見つかれば版を書き直したもの。
  split
  · next g d' hby =>
    split at hby
    · cases hby
    · split at hby
      · cases hby
        exact Or.inl rfl
      · split at hby
        · obtain ⟨g', -, h⟩ := Option.map_eq_some_iff.mp hby
          cases h
          exact Or.inr ⟨_, rfl⟩
        · cases hby
  · split
    · exact Or.inr ⟨_, rfl⟩
    · exact Or.inl rfl

/-- 文書のモデルを解決しても、タスクと待ち行列の項目は変わらない。 -/
theorem resolve_doc (r : Registry) (d : Document) :
    QueueKept d (r.resolve d).doc ∧ (r.resolve d).doc.taskId = d.taskId := by
  rcases resolve_doc_eq r d with h | ⟨v, h⟩ <;> rw [h]
  · exact ⟨QueueKept.refl d, rfl⟩
  · exact ⟨queueKept_setItem (by decide +kernel) _, getInt_setItems_of_ne (by decide +kernel)⟩

theorem resolveModel_doc (r : Registry) (d : Document) :
    SatisfiesM (fun res : Except Error Graph × Document × Registry =>
        QueueKept d res.2.1 ∧ res.2.1.taskId = d.taskId) (resolveModel r d) := by
  unfold resolveModel
  exact SatisfiesM.bind (SatisfiesM.trivial (m := Run)) fun _ _ => SatisfiesM.pure (resolve_doc r d)

theorem queueKept_enterTask (d : Document) (t : Task) : QueueKept d (enterTask d t) := by
  have h₁ : QueueKept d ((d.setTaskId t.id).setItem ItemName.workflowStatus (.text t.name)) :=
    (queueKept_setItem (n := ItemName.taskId) (by decide +kernel) _).trans
      (queueKept_setItem (n := ItemName.workflowStatus) (by decide +kernel) _)
  have hgroup : ∀ d' : Document, QueueKept d' (d'.setItem ItemName.workflowGroup (.text t.group)) :=
    fun _ => queueKept_setItem (by decide +kernel) _
  have htype : ∀ (d' : Document) (ty : String), QueueKept d' (d'.setItem ItemName.docType (.text ty)) :=
    fun _ _ => queueKept_setItem (by decide +kernel) _
  unfold enterTask
  dsimp only
  -- 業務グループと文書の型は、あるときだけ書く。
  split
  · split
    · exact h₁.trans (htype _ _)
    · exact (h₁.trans (hgroup _)).trans (htype _ _)
  · split
    · exact h₁
    · exact h₁.trans (hgroup _)

/-- イベントを置けば、イベントの項目はその id になり、保留中の項目は変わらない。 -/
theorem setEventId_queue {d' : Document} (hq : QueueKept d d') (e : Int) :
    (d'.setEventId e).get ItemName.pendingEvents = d.get ItemName.pendingEvents ∧
      (d'.setEventId e).get ItemName.eventId = [.int e] ∧
      (d.WellFormed → (d'.setEventId e).WellFormed) :=
  ⟨(get_setEventId_pendingEvents e).trans hq.pending, get_setEventId_eventId e,
    fun hd => (hq.wellFormed hd).setItem _ _⟩

/-- モデルの切り替えが成功すれば、イベントの項目は切り替えのイベントになり、保留中の項目は
変わらない。 -/
theorem switchModel_doc (r : Registry) (d : Document) (sw : ModelSwitch) :
    SatisfiesM (fun res : Document × Registry × Option KernelError => res.2.2 = none →
        res.1.get ItemName.pendingEvents = d.get ItemName.pendingEvents ∧
        res.1.get ItemName.eventId = [.int sw.event] ∧ (d.WellFormed → res.1.WellFormed))
      (switchModel r d sw) := by
  unfold switchModel
  refine SatisfiesM.bind (resolveModel_doc r _) ?_
  rintro ⟨found, d', r'⟩ ⟨hd', -⟩
  have hq : QueueKept d d' := (queueKept_setItem (by decide +kernel) _).trans hd'
  cases found with
  | error e => exact SatisfiesM.pure fun h => by cases h
  | ok g =>
    simp only
    split
    · split
      · exact SatisfiesM.pure fun _ => setEventId_queue (hq.trans (queueKept_enterTask _ _)) _
      · exact SatisfiesM.pure fun h => by cases h
    · exact SatisfiesM.pure fun _ => setEventId_queue hq _

theorem applySwitch_doc (r : Registry) (d : Document) (sw : Option ModelSwitch) :
    SatisfiesM (fun res : Document × Registry × Option KernelError => res.2.2 = none →
        res.1.get ItemName.pendingEvents = d.get ItemName.pendingEvents ∧
        res.1.get ItemName.eventId =
          ((sw.map (·.event)).map fun e => [ItemValue.int e]).getD (d.get ItemName.eventId) ∧
        (d.WellFormed → res.1.WellFormed))
      (applySwitch r d sw) := by
  cases sw with
  | some sw => exact switchModel_doc r d sw
  | none => exact SatisfiesM.pure fun _ => ⟨rfl, rfl, id⟩

/-- 記録に一行足しても項目の並びは崩れず、注釈の項目が待ち行列の項目でなければ待ち行列の項目は
変わらない。 -/
theorem appendLogEntry_doc (config : KernelConfig) (d : Document) (version transition : String)
    (nextTask : Int) :
    SatisfiesM (fun d' : Document => (d.WellFormed → d'.WellFormed) ∧
        (¬ QueueItem config.logCommentItem → QueueKept d d'))
      (appendLogEntry config d version transition nextTask) := by
  unfold appendLogEntry
  refine SatisfiesM.bind (SatisfiesM.trivial (m := Run)) fun _ _ => ?_
  exact SatisfiesM.pure ⟨fun hd => (hd.removeItem _).setItems _ _,
    fun h => (queueKept_removeItem h).trans (queueKept_setItems (by decide +kernel) _)⟩

/-- 次の要素へ進む：連鎖の表は記録の表になり、文書はイベントの項目が変わらず、次のイベントの
id が正なら待ち行列がそれで一つ伸びる。 -/
theorem applyNext_chained (x : Executed) (d : Document) (chained : Chained) :
    (applyNext x.graph.version x.task d chained x.next).2 = x.chainedAfter chained := by
  unfold Executed.chainedAfter Executed.nextEvent?
  rcases x.next with _ | (task | y) <;> rfl

theorem applyNext_doc (hd : d.WellFormed) (version : String) (t : Int) (chained : Chained)
    (next : Option NextElement) :
    (applyNext version t d chained next).1.WellFormed ∧
      (applyNext version t d chained next).1.get ItemName.eventId = d.get ItemName.eventId ∧
      (applyNext version t d chained next).1.pendingEvents =
        d.pendingEvents ++ ((nextEventOf next).map (·.id)).toList.filter (· > 0) := by
  rcases next with _ | (task | y)
  · exact ⟨hd, rfl, by simp [applyNext, nextEventOf]⟩
  · have hq := queueKept_enterTask d task
    exact ⟨hq.wellFormed hd, hq.eventId, by simp [applyNext, nextEventOf, hq.pendingEvents_eq]⟩
  · refine ⟨hd.appendPendingEvent _, get_appendPendingEvent_eventId _, ?_⟩
    simp only [applyNext, nextEventOf, Option.map_some, Option.toList_some]
    exact pendingEvents_appendPendingEvent hd _

/-- 切り替えと記録の一行のあとの文書：項目の並びは崩れず、注釈の項目が待ち行列の項目でなければ、
待ち行列は切り替えの前のままで、イベントの項目は切り替えのイベントか前のままである。 -/
theorem switch_log_queue {config : KernelConfig} {d₂ d₃ d₄ : Document} {sw : Option ModelSwitch}
    (hsw : d₃.get ItemName.pendingEvents = d₂.get ItemName.pendingEvents ∧
      d₃.get ItemName.eventId =
        ((sw.map (·.event)).map fun e => [ItemValue.int e]).getD (d₂.get ItemName.eventId) ∧
      (d₂.WellFormed → d₃.WellFormed))
    (hlog : (d₃.WellFormed → d₄.WellFormed) ∧ (¬ QueueItem config.logCommentItem → QueueKept d₃ d₄))
    (hd₂ : d₂.WellFormed) :
    d₄.WellFormed ∧ (¬ QueueItem config.logCommentItem → d₄.pendingEvents = d₂.pendingEvents ∧
      d₄.get ItemName.eventId =
        ((sw.map (·.event)).map fun e => [ItemValue.int e]).getD (d₂.get ItemName.eventId)) := by
  obtain ⟨hsp, hse, hswf⟩ := hsw
  refine ⟨hlog.1 (hswf hd₂), fun hc => ?_⟩
  have hq := hlog.2 hc
  exact ⟨by rw [hq.pendingEvents_eq, pendingEvents_eq_of_get hsp], by rw [hq.eventId, hse]⟩

end Documents

/-! ## 一つの遷移 -/

/-- 遷移の結末が「続ける」かは決められる。具体的な文書で繰り返しを走らせて確かめるのに使う。 -/
instance (o : StepOutcome) : Decidable (o = .next) :=
  match o with
  | .next => isTrue rfl
  | .done => isFalse fun h => StepOutcome.noConfusion h
  | .failed _ => isFalse fun h => StepOutcome.noConfusion h

/-- 続ける遷移の前後の状態 `st`・`st'` と、その遷移の記録 `x` の関係。 -/
structure Advances (reg : Registry) (config : KernelConfig)
    (execute : String → Document → Event → Run (Document × Option KernelError))
    (st : LoopState) (x : Executed) (st' : LoopState) : Prop where
  /-- 記録は本物の遷移のもの。 -/
  genuine : x.Genuine reg
  /-- 遷移のタスクは文書のタスク。 -/
  task : x.task = st.doc.taskId
  /-- 遷移のイベントは、文書が次に行うイベント。 -/
  event : st.doc.upcoming.1 = some x.event.id
  /-- イベントは、タスクで起こせるイベントの一覧にその id があればそれ、なければ連鎖の表で
  その鍵に覚えたもの。 -/
  found : ∃ evs, x.graph.eventsOfTask x.task = .ok evs ∧
    (evs.find? (·.id == x.event.id) = some x.event ∨
      evs.find? (·.id == x.event.id) = none ∧
        st.chained.lookup (x.graph.version, x.task, x.event.id) = some x.event)
  /-- 遷移の名前が記録に一つ足される。 -/
  history : st'.history = st.history ++ [x.name]
  /-- 連鎖の表は次のイベントを覚える。 -/
  chained : st'.chained = x.chainedAfter st.chained
  /-- 拡張に渡した文書の待ち行列は、次に行うイベントのあとの待ち行列。 -/
  entered : st.doc.WellFormed → x.input.WellFormed ∧ x.input.pendingEvents = st.doc.upcoming.2
  /-- 拡張は誤りなく文書を返した。 -/
  extension : ∃ r, ((execute x.graph.version x.input x.event).run r).1 = (x.output, none)
  /-- 遷移のあとの待ち行列は、拡張が返した文書の待ち行列に足した id を加えたもので、イベントの
  項目は切り替えのイベントか 0 になる（注釈の項目が待ち行列の項目でなければ）。 -/
  left : x.output.WellFormed → st'.doc.WellFormed ∧ (¬ QueueItem config.logCommentItem →
    st'.doc.pendingEvents = x.output.pendingEvents ++ x.enqueued.filter (· > 0) ∧
      st'.doc.get ItemName.eventId = [.int (x.switchTo.getD 0)])

section Steps

variable {reg : Registry} (config : KernelConfig)
  (execute : String → Document → Event → Run (Document × Option KernelError))

/-- 拡張のあとの遷移の残り：続けるなら、探索の答えへ進み、記録は変わらず、連鎖の表は次の
イベントを覚え、待ち行列は次のイベントと後続イベントで伸び、イベントの項目は切り替えのイベント
か、もとのままになる。 -/
theorem finishTransition_advances (g : Graph) (ev : Event) (t : Int) (transition : String)
    (st : LoopState) :
    SatisfiesM (fun res : LoopState × StepOutcome => res.2 = .next → ∃ next,
        (∃ r, ((g.nextElement (fun c => Runtime.evaluate c st.doc) ev).run.run r).1 = .ok next) ∧
        res.1.history = st.history ∧
        res.1.chained = (applyNext g.version t st.doc st.chained next).2 ∧
        (st.doc.WellFormed → res.1.doc.WellFormed ∧ (¬ QueueItem config.logCommentItem →
          res.1.doc.pendingEvents = st.doc.pendingEvents ++
            (((nextEventOf next).map (·.id)).toList ++ ev.followUpEvent.toList).filter (· > 0) ∧
          res.1.doc.get ItemName.eventId =
            ((ev.modelSwitch.map (·.event)).map fun e => [ItemValue.int e]).getD
              (st.doc.get ItemName.eventId))))
      (finishTransition config g ev t transition st) := by
  unfold finishTransition
  refine SatisfiesM.bind (satisfiesM_run _) ?_
  rintro (err | next) hnav
  · exact SatisfiesM.pure fun h => by cases h
  · obtain ⟨r, hr⟩ := hnav
    simp only
    refine SatisfiesM.bind (applySwitch_doc _ _ _) ?_
    rintro ⟨d₃, registry, err⟩ hsw
    cases err with
    | some e => exact SatisfiesM.pure fun h => by cases h
    | none =>
      refine SatisfiesM.bind (appendLogEntry_doc config _ _ _ _) fun d₄ hlog => ?_
      refine SatisfiesM.pure fun _ => ⟨next, ⟨r, hr⟩, rfl, rfl, fun hd => ?_⟩
      obtain ⟨hwf₁, he₁, hp₁⟩ := applyNext_doc hd g.version t st.chained next
      -- 後続イベントがあれば足した文書から、切り替えと記録の一行へ進む。
      split at hsw
      · next f heq =>
        have hwf₂ := hwf₁.appendPendingEvent f
        obtain ⟨hwf₄, hq⟩ := switch_log_queue (hsw rfl) hlog hwf₂
        refine ⟨hwf₄, fun hc => ?_⟩
        obtain ⟨hp, he⟩ := hq hc
        rw [hp, he, heq, pendingEvents_appendPendingEvent hwf₁, hp₁, List.filter_append,
          List.append_assoc, get_appendPendingEvent_eventId, he₁]
        exact ⟨rfl, rfl⟩
      · next heq =>
        obtain ⟨hwf₄, hq⟩ := switch_log_queue (hsw rfl) hlog hwf₁
        refine ⟨hwf₄, fun hc => ?_⟩
        obtain ⟨hp, he⟩ := hq hc
        rw [hp, he, heq, hp₁, he₁]
        simp

/-- 引いたイベントは、一覧から引けばその一覧のイベント、連鎖の表で見つければ表に覚えた実体で、
どちらもモデルのイベント要素の実体で、鍵のタスク id とイベント id を持つ。 -/
theorem found_entity {g : Graph} (hnd : (g.decl.elements.map (·.id)).Nodup)
    (hg : reg.find? g.version = some g) {chained : Chained} (hch : ChainedEntities reg chained)
    {t e : Int} {ev : Event} {evs : List Event} (hevs : g.eventsOfTask t = .ok evs)
    (hfound : evs.find? (·.id == e) = some ev ∨
      evs.find? (·.id == e) = none ∧ chained.lookup (g.version, t, e) = some ev) :
    g.EventEntity ev ∧ ev.taskId = t ∧ ev.id = e := by
  rcases hfound with hf | ⟨-, hc⟩
  · obtain ⟨-, hent, htid⟩ := Graph.eventsOfTask_entities hnd hevs ev (List.mem_of_find?_eq_some hf)
    exact ⟨hent, htid, by simpa using List.find?_some hf⟩
  · obtain ⟨g', hg', hent, htid, hid⟩ := hch _ (mem_of_lookup_eq_some hc)
    rw [hg] at hg'
    cases hg'
    exact ⟨hent, htid, hid⟩

/-- イベントを引く：控えが登録されたモデルと合っていれば、引けるのは、タスクで起こせるイベントの
一覧にその id のイベントがあればそれ、なければ連鎖の表でその鍵に覚えたイベントである。 -/
theorem lookupEvent_eq_ok {r : Registry} (hinv : r.CacheInv) {g : Graph} (hcur : r.Current g)
    (chained : Chained) (t e : Int) (ev : Event) :
    (lookupEvent r g chained t e).1 = .ok ev ↔ ∃ evs, g.eventsOfTask t = .ok evs ∧
      (evs.find? (·.id == e) = some ev ∨
        evs.find? (·.id == e) = none ∧ chained.lookup (g.version, t, e) = some ev) := by
  obtain ⟨hres, -, -⟩ := Registry.findEvent_spec t e hinv hcur
  unfold lookupEvent
  generalize r.findEvent g t e = fe at hres
  obtain ⟨res, r'⟩ := fe
  simp only at hres ⊢
  rw [Graph.eventOf?_eq] at hres
  cases hevs : g.eventsOfTask t with
  | error err =>
    rw [hevs] at hres
    subst hres
    simp [Except.map]
  | ok evs =>
    rw [hevs] at hres
    subst hres
    simp only [Except.map]
    cases hf : evs.find? (·.id == e) with
    | some ev' => simp [hf, -List.find?_eq_none]
    | none => cases chained.lookup (g.version, t, e) <;> simp [hf, -List.find?_eq_none]

/-- **解決したモデルでの遷移。** `st₀` から保留中のイベントを取り出しモデルを解決した状態 `st` で
遷移を行い、続けるなら、`st₀` から結果の状態へ進む記録がある。 -/
theorem runTransition_advances (hwf : reg.WellFormed) {g : Graph}
    (hg : reg.find? g.version = some g) {st₀ st : LoopState} (hinv : LoopInv reg st)
    (hch : ChainedEntities reg st.chained) (hup : st₀.doc.upcoming.1 = some st.doc.eventId)
    (htask : st.doc.taskId = st₀.doc.taskId)
    (hwd : st₀.doc.WellFormed → st.doc.WellFormed ∧ st.doc.pendingEvents = st₀.doc.upcoming.2)
    (hh : st.history = st₀.history) (hc : st.chained = st₀.chained) :
    SatisfiesM (fun res : LoopState × StepOutcome =>
        res.2 = .next → ∃ x, Advances reg config execute st₀ x res.1)
      (runTransition config execute g st) := by
  unfold runTransition
  simp only
  split
  · exact SatisfiesM.pure fun h => by cases h
  · have hcur : st.registry.Current g :=
      Registry.current_of_find? (by rw [Registry.find?_eq_of_models_eq hinv.models]; exact hg)
    have hlk := lookupEvent_eq_ok hinv.caches hcur st.chained st.doc.taskId st.doc.eventId
    generalize lookupEvent st.registry g st.chained st.doc.taskId st.doc.eventId = lk at hlk
    obtain ⟨res, r'⟩ := lk
    cases res with
    | error err => exact SatisfiesM.pure fun h => by cases h
    | ok ev =>
      obtain ⟨evs, hevs, hfound⟩ := (hlk ev).mp rfl
      obtain ⟨hent, htid, hid⟩ :=
        found_entity (hwf.distinctIds _ (mem_of_lookup_eq_some hg)) hg hch hevs hfound
      simp only
      refine SatisfiesM.bind (SatisfiesM.trivial (m := Run)) fun now _ => ?_
      refine SatisfiesM.bind (satisfiesM_run _) ?_
      rintro ⟨d, err⟩ ⟨r, hr⟩
      cases err with
      | some e => exact SatisfiesM.pure fun h => by cases h
      | none =>
        refine (finishTransition_advances config g ev _ _ _).imp ?_
        rintro ⟨st', o⟩ h hnext
        obtain ⟨next, ⟨r₁, hnav⟩, hh', hc', hdoc⟩ := h hnext
        -- 拡張に渡した文書は、引いたイベントとその時刻を書いただけである。
        have hin : QueueKept st.doc ((st.doc.setItem ItemName.lastEvent (.int ev.id)).setItem
            ItemName.lastEventDate (.time now)) :=
          (queueKept_setItem (by decide +kernel) _).trans (queueKept_setItem (by decide +kernel) _)
        refine ⟨⟨st.doc.taskId, g, ev, (st.doc.setItem ItemName.lastEvent (.int ev.id)).setItem
          ItemName.lastEventDate (.time now), d, next⟩, ⟨⟨hg, hent, htid, ⟨_, r₁, hnav⟩⟩, htask, ?_,
          ?_, ?_, ?_, ?_, ⟨r, hr⟩, ?_⟩⟩
        · rw [hup, hid]
        · refine ⟨evs, hevs, ?_⟩
          rw [hid, ← hc]
          exact hfound
        · rw [hh', hh]
          simp only [Executed.name, hid]
        · rw [hc', ← hc]
          exact applyNext_chained ⟨st.doc.taskId, g, ev, _, _, next⟩ _ _
        · intro hd
          obtain ⟨hwf', hq⟩ := hwd hd
          exact ⟨hin.wellFormed hwf', by rw [hin.pendingEvents_eq, hq]⟩
        · intro hd
          obtain ⟨hwf', hq⟩ := hdoc (hd.setItem _ _)
          refine ⟨hwf', fun hlog => ?_⟩
          obtain ⟨hp, he⟩ := hq hlog
          refine ⟨by rw [hp, pendingEvents_setEventId]; rfl, ?_⟩
          rw [he, get_setEventId_eventId]
          unfold Executed.switchTo
          cases ev.modelSwitch <;> rfl

/-- **一つの遷移。** 不変条件を満たす状態から続ける遷移を行えば、その前後の状態を結ぶ記録が
ある。拡張が何をしても成り立つ。 -/
theorem transitionStep_advances (hwf : reg.WellFormed) {st : LoopState} (hinv : LoopInv reg st)
    (hch : ChainedEntities reg st.chained) :
    SatisfiesM (fun res : LoopState × StepOutcome =>
        res.2 = .next → ∃ x, Advances reg config execute st x res.1)
      (transitionStep config execute st) := by
  unfold transitionStep
  split
  · exact SatisfiesM.pure fun h => by cases h
  · next d₁ htake =>
    obtain ⟨hup, htask, hwd⟩ := takeEvent_inr htake
    refine SatisfiesM.bind (satisfiesM_and
      (resolveModel_spec (hwf.of_models_eq hinv.models) hinv.caches d₁) (resolveModel_doc _ d₁)) ?_
    rintro ⟨found, d₂, r'⟩ ⟨⟨hm, hc, hfound⟩, hq, htask₂⟩
    simp only at hm hc hfound hq htask₂ ⊢
    cases found with
    | error e => exact SatisfiesM.pure fun h => by cases h
    | ok g =>
      have hg : reg.find? g.version = some g := by
        rw [← Registry.find?_eq_of_models_eq hinv.models]
        exact hfound g rfl
      refine runTransition_advances config execute hwf hg ?_ hch ?_ (htask₂.trans htask) ?_ rfl rfl
      · exact hinv.of_history_eq rfl (hm.trans hinv.models) hc hinv.chained
      · rw [hq.eventId_eq]
        exact hup
      · intro hd
        obtain ⟨hwf₁, hp⟩ := hwd hd
        exact ⟨hq.wellFormed hwf₁, by rw [hq.pendingEvents_eq, hp]⟩

end Steps

/-! ## 遷移を一つずつ進める -/

/-- 状態 `st`・環境 `r` から遷移を一つずつ実際に行って状態 `st'`・環境 `r'` に至り、その記録が
`xs` に順に並ぶ。 -/
inductive Runs (reg : Registry) (config : KernelConfig)
    (execute : String → Document → Event → Run (Document × Option KernelError)) :
    LoopState → Runtime → List Executed → LoopState → Runtime → Prop
  | nil (st : LoopState) (r : Runtime) : Runs reg config execute st r [] st r
  | cons {st st₁ st₂ : LoopState} {r r₁ r₂ : Runtime} {x : Executed} {xs : List Executed} :
      (transitionStep config execute st).run r = ((st₁, .next), r₁) →
      Advances reg config execute st x st₁ →
      Runs reg config execute st₁ r₁ xs st₂ r₂ → Runs reg config execute st r (x :: xs) st₂ r₂

/-- 繰り返しの終わり方：状態 `st`・環境 `r` での遷移が、終わる（`.done`）か誤りで止まる
（`.failed`）かして、繰り返しの答え `out` になる。 -/
def Ends (config : KernelConfig)
    (execute : String → Document → Event → Run (Document × Option KernelError))
    (st : LoopState) (r : Runtime) (out : (LoopState × Option KernelError) × Runtime) : Prop :=
  (∃ st', (transitionStep config execute st).run r = ((st', .done), out.2) ∧ out.1 = (st', none)) ∨
    ∃ st' e, (transitionStep config execute st).run r = ((st', .failed e), out.2) ∧
      out.1 = (st', some e)

namespace Runs

variable {reg : Registry} {config : KernelConfig}
  {execute : String → Document → Event → Run (Document × Option KernelError)}
  {st st' : LoopState} {r r' : Runtime} {xs : List Executed}

theorem append {st₁ : LoopState} {r₁ : Runtime} {ys : List Executed}
    (h₁ : Runs reg config execute st r xs st₁ r₁) (h₂ : Runs reg config execute st₁ r₁ ys st' r') :
    Runs reg config execute st r (xs ++ ys) st' r' := by
  induction h₁ with
  | nil => exact h₂
  | cons hstep hadv _ ih => exact .cons hstep hadv (ih h₂)

/-- 道筋は、記録の列の切れ目で二つの道筋に分かれる。 -/
theorem split {ys : List Executed} (h : Runs reg config execute st r (xs ++ ys) st' r') :
    ∃ st₁ r₁, Runs reg config execute st r xs st₁ r₁ ∧ Runs reg config execute st₁ r₁ ys st' r' := by
  induction xs generalizing st r with
  | nil => exact ⟨st, r, .nil st r, h⟩
  | cons x xs ih =>
    cases h with
    | cons hstep hadv hrest =>
      obtain ⟨st₁, r₁, h₁, h₂⟩ := ih hrest
      exact ⟨st₁, r₁, .cons hstep hadv h₁, h₂⟩

/-- 記録には、行った遷移の名前が順に足される。 -/
theorem history_eq (h : Runs reg config execute st r xs st' r') :
    st'.history = st.history ++ xs.map (·.name) := by
  induction h with
  | nil => simp
  | cons _ hadv _ ih => rw [ih, hadv.history, List.map_cons, List.append_assoc, List.singleton_append]

theorem loopInv (hwf : reg.WellFormed) (h : Runs reg config execute st r xs st' r')
    (hinv : LoopInv reg st) : LoopInv reg st' := by
  induction h with
  | nil => exact hinv
  | cons hstep _ _ ih => exact ih (SatisfiesM.of_run (transitionStep_spec hwf config execute hinv) hstep).1

theorem chainedEntities (h : Runs reg config execute st r xs st' r')
    (hch : ChainedEntities reg st.chained) : ChainedEntities reg st'.chained := by
  induction h with
  | nil => exact hch
  | cons _ hadv _ ih =>
    apply ih
    rw [hadv.chained]
    exact hch.chainedAfter hadv.genuine

end Runs

theorem lookup_cons_of_ne {κ α : Type} [BEq κ] [LawfulBEq κ] {key k : κ} {v : α}
    {l : List (κ × α)} (h : key ≠ k) : ((k, v) :: l).lookup key = l.lookup key := by
  rw [List.lookup_cons, beq_false_of_ne h]

/-- 連鎖で見つけたイベントを覚えれば、その鍵で引けるのはそのイベントで、ほかの鍵は変わらない。 -/
theorem lookup_rememberChained (chained : Chained) (key k : String × Int × Int) (ev : Event) :
    (rememberChained chained k ev).lookup key = if key = k then some ev else chained.lookup key := by
  unfold rememberChained
  by_cases hk : key = k
  · subst hk
    simp [List.lookup_cons_self]
  · rw [if_neg hk, lookup_cons_of_ne hk]
    -- 覚え直す鍵の古い組は除かれ、ほかの組はそのまま残る。
    induction chained with
    | nil => rfl
    | cons c rest ih =>
      obtain ⟨k', v⟩ := c
      by_cases hk' : k' = k
      · subst hk'
        rw [List.filter_cons, if_neg (by simp), lookup_cons_of_ne hk]
        exact ih
      · rw [List.filter_cons, if_pos (by simpa using hk')]
        by_cases hkey : key = k'
        · subst hkey
          rw [List.lookup_cons_self, List.lookup_cons_self]
        · rw [lookup_cons_of_ne hkey, lookup_cons_of_ne hkey]
          exact ih

theorem lookup_chainedAfter (x : Executed) (chained : Chained) (key : String × Int × Int) :
    (x.chainedAfter chained).lookup key = (x.chainedUnder key).or (chained.lookup key) := by
  unfold Executed.chainedAfter Executed.chainedUnder
  cases x.nextEvent? with
  | none => rfl
  | some y =>
    simp only [lookup_rememberChained, Option.filter]
    by_cases hk : key = (x.graph.version, x.task, y.id)
    · simp [hk]
    · simp [hk, Ne.symm hk]

/-- 記録の列で、最後に鍵 `key` に覚えたイベント。 -/
def latestChained (xs : List Executed) (key : String × Int × Int) : Option Event :=
  xs.reverse.findSome? (·.chainedUnder key)

theorem latestChained_cons (x : Executed) (xs : List Executed) (key : String × Int × Int) :
    latestChained (x :: xs) key = (latestChained xs key).or (x.chainedUnder key) := by
  simp [latestChained, List.findSome?_append]

/-- **連鎖の表は鍵ごとに最後に覚えたイベントを持つ。** 道筋のあとの表でその鍵に引けるのは、
道筋で最後にその鍵に覚えたイベント、なければ始めの表のもの。 -/
theorem Runs.lookup_chained {reg : Registry} {config : KernelConfig}
    {execute : String → Document → Event → Run (Document × Option KernelError)}
    {st st' : LoopState} {r r' : Runtime} {xs : List Executed}
    (h : Runs reg config execute st r xs st' r') (key : String × Int × Int) :
    st'.chained.lookup key = (latestChained xs key).or (st.chained.lookup key) := by
  induction h with
  | nil => simp [latestChained]
  | cons _ hadv _ ih =>
    rw [ih, hadv.chained, lookup_chainedAfter, latestChained_cons, Option.or_assoc]

section Loop

variable {reg : Registry} (config : KernelConfig)
  (execute : String → Document → Event → Run (Document × Option KernelError))

/-- **繰り返しの道筋。** 不変条件を満たす状態から遷移を繰り返せば、始めの状態から遷移を一つずつ
行って進んだあと、終わるか誤りで止まるか、燃料を使い切ってその状態のまま答える。 -/
theorem transitionLoop_runs (hwf : reg.WellFormed) :
    ∀ (fuel : Nat) (st : LoopState) (r : Runtime), LoopInv reg st → ChainedEntities reg st.chained →
      ∃ xs st₁ r₁, Runs reg config execute st r xs st₁ r₁ ∧
        (Ends config execute st₁ r₁ ((transitionLoop config execute fuel st).run r) ∨
          (transitionLoop config execute fuel st).run r = ((st₁, none), r₁) ∧ xs.length = fuel)
  | 0, st, r, _, _ => ⟨[], st, r, .nil st r, .inr ⟨rfl, rfl⟩⟩
  | fuel + 1, st, r, hinv, hch => by
    have hadv := SatisfiesM.run_fst (transitionStep_advances config execute hwf hinv hch) r
    have hpost := SatisfiesM.run_fst (transitionStep_spec hwf config execute hinv) r
    unfold transitionLoop
    rw [StateT.run_bind]
    generalize hs : (transitionStep config execute st).run r = s at hadv hpost
    obtain ⟨⟨st', o⟩, r'⟩ := s
    cases o with
    | done => exact ⟨[], st, r, .nil st r, .inl (.inl ⟨st', hs, rfl⟩)⟩
    | failed e => exact ⟨[], st, r, .nil st r, .inl (.inr ⟨st', e, hs, rfl⟩)⟩
    | next =>
      -- 続けるなら、記録を一つ足して残りの燃料で繰り返す。
      obtain ⟨x, hx⟩ := hadv rfl
      have hch' : ChainedEntities reg st'.chained := by
        rw [hx.chained]
        exact hch.chainedAfter hx.genuine
      obtain ⟨xs, st₁, r₁, hrun, hend⟩ := transitionLoop_runs hwf fuel st' r' hpost.1 hch'
      refine ⟨x :: xs, st₁, r₁, .cons hs hx hrun, ?_⟩
      rcases hend with hend | ⟨hout, hlen⟩
      · exact .inl hend
      · exact .inr ⟨hout, by rw [List.length_cons, hlen]⟩

end Loop

end Workflow.Kernel
