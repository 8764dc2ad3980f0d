import Mathlib
import Workflow.Proofs.Queue
import Workflow.Proofs.Termination

/-!
# タスクで起こせるイベント

検査済みのモデルで、タスク id `t` のタスクで起こせるイベントの一覧（`eventsOfTask`）と、それを
登録簿の控えを通して引くこと（`Registry.findEvents`、`Registry.findEvent`）を述べる。

* `ReachedEvent task x` — タスクからフローを条件を見ずにたどり、タスクでもイベントでもない要素を
  通って（リンクスローからはリンクキャッチへ飛んで）着くイベント。歩み（`walkEvents`）は次に
  調べる要素の列と訪問済みの id を持つ。一歩ごとに不変条件 `WalkInv` を保ち
  （`WalkInv.visitEvent`）、列が空になったとき、見つけたイベントはちょうど届くイベントである
  （`walkEvents_spec`、`WalkInv.found_iff`）。
* `InitFeeds task s` — 初期イベントでないイベントの連なりを通ってタスクへ届く初期イベント。
  さかのぼる探索（`collectInit`）は、さかのぼってきた道筋のイベントに戻ると誤る（`Revisits`）。
  探索は訪ねた要素を覚えないので、どの道筋をたどっても、さかのぼって届く循環があれば
  （`EventCycle`）誤る（`revisits_iff_eventCycle`）。
* `EventsAnswer` — 一覧として正しい答え。検査済みのモデルの `eventsOfTask` はそうであり
  （`eventsOfTask_answer`）、控えを通して引いても同じである（`Registry.findEvents_answer`）。

控えは版とタスク id で引き、使ってよいかは版と指紋で決める。指紋が同じで中身の違う古いモデルで
引くと、控えは登録済みのモデルの答えと食い違う。`findEvents_answer` が `Current` を仮定するのは
そのためである。
-/

namespace Workflow.Model

/-! ## 検査済みのモデルのイベント要素 -/

/-- 要素の検査が通れば、先頭のイベント要素はイベントの中身を持つ。 -/
theorem checkElements_head_event_isSome {v : String} {ps ids : List String} {tasks : List Int}
    {links : List String} {el : ElementDecl} {rest : List ElementDecl}
    (h : checkElements v ps ids tasks links (el :: rest) = .ok ()) (hk : el.kind = .event) :
    el.event.isSome := by
  cases he : el.event with
  | some _ => rfl
  | none =>
    -- 中身がなければイベント id は 0 とみなされ、正でないので検査は通らない。
    unfold checkElements at h
    simp only [bind, Except.bind, throw, throwThe, MonadExceptOf.throw, he, Option.map_none,
      Option.getD_none] at h
    repeat' split at h
    all_goals first | cases h | simp_all

/-- 検査済みのモデルのイベント要素は、イベントの中身を持つ。 -/
theorem ofDecl_event_isSome {m : ModelDecl} {g : Graph} (h : Graph.ofDecl m = .ok g) :
    ∀ el ∈ g.decl.elements, el.kind = .event → el.event.isSome := by
  unfold Graph.ofDecl at h
  simp only [bind, Except.bind, throw, throwThe, MonadExceptOf.throw] at h
  repeat' split at h
  all_goals try cases h
  rename_i hc _ _ _
  exact checkElements_forall (fun h hk => checkElements_head_event_isSome h hk) hc

/-! ## 誤りで止まる畳み込み -/

section FoldExcept

variable {α β ε : Type} {step : β → α → Except ε β}

/-- 誤りで止まる畳み込みは、どこかの一歩が誤るときに限って誤る。一歩が誤るかは、それまでに
積み上げた値によらないとする。 -/
theorem foldlM_error_iff {B : α → Prop} (hstep : ∀ a acc, (∃ e, step acc a = .error e) ↔ B a) :
    ∀ (fs : List α) (acc : β), (∃ e, fs.foldlM step acc = .error e) ↔ ∃ a ∈ fs, B a
  | [], acc => by simp [pure, Except.pure]
  | a :: fs, acc => by
    rw [List.foldlM_cons]
    cases hs : step acc a with
    | error e =>
      exact ⟨fun _ => ⟨a, List.mem_cons_self, (hstep a acc).mp ⟨e, hs⟩⟩, fun _ => ⟨e, rfl⟩⟩
    | ok b =>
      have hnot : ¬ B a := fun h => by
        obtain ⟨e, he⟩ := (hstep a acc).mpr h
        rw [hs] at he
        cases he
      show (∃ e, fs.foldlM step b = .error e) ↔ _
      rw [foldlM_error_iff hstep fs b]
      simp [hnot]

/-- 畳み込みが誤れば、その誤りはどこかの一歩の誤りである。 -/
theorem foldlM_error_mem : ∀ (fs : List α) (acc : β) (e : ε), fs.foldlM step acc = .error e →
    ∃ a acc', step acc' a = .error e
  | [], _, _, h => by cases h
  | a :: fs, acc, e, h => by
    rw [List.foldlM_cons] at h
    cases hs : step acc a with
    | error e' =>
      rw [hs] at h
      cases h
      exact ⟨a, acc, hs⟩
    | ok b =>
      rw [hs] at h
      exact foldlM_error_mem fs b e h

end FoldExcept

/-- 一歩ごとに、まだないものだけを一度ずつ末尾に足す畳み込みは、足しうるものを一度ずつ足す。
`Q a s` は一歩 `a` が `s` を足しうることで、足しうるものは `E` を満たす。 -/
theorem foldlM_accumulates {α β ε : Type} {E : β → Prop} {Q : α → β → Prop}
    {step : List β → α → Except ε (List β)} (hQ : ∀ a s, Q a s → E s)
    (hstep : ∀ a acc r, (∀ y ∈ acc, E y) → step acc a = .ok r →
      ∃ new, r = acc ++ new ∧ new.Nodup ∧ ∀ s, s ∈ new ↔ s ∉ acc ∧ Q a s) :
    ∀ (fs : List α) (acc r : List β), (∀ y ∈ acc, E y) → fs.foldlM step acc = .ok r →
      ∃ new, r = acc ++ new ∧ new.Nodup ∧ ∀ s, s ∈ new ↔ s ∉ acc ∧ ∃ a ∈ fs, Q a s
  | [], acc, r, _, h => by
    cases h
    exact ⟨[], by simp, List.nodup_nil, by simp⟩
  | a :: fs, acc, r, hacc, h => by
    rw [List.foldlM_cons] at h
    cases hs : step acc a with
    | error e =>
      rw [hs] at h
      cases h
    | ok b =>
      rw [hs] at h
      obtain ⟨n₁, rfl, hn₁, hm₁⟩ := hstep a acc b hacc hs
      have hb : ∀ y ∈ acc ++ n₁, E y := fun y hy => by
        rcases List.mem_append.mp hy with hy | hy
        · exact hacc y hy
        · exact hQ a y ((hm₁ y).mp hy).2
      obtain ⟨n₂, rfl, hn₂, hm₂⟩ := foldlM_accumulates hQ hstep fs (acc ++ n₁) r hb h
      refine ⟨n₁ ++ n₂, by simp, ?_, fun s => ?_⟩
      · -- 後の一歩は、先の一歩が足したものを足さない。
        refine List.nodup_append.mpr ⟨hn₁, hn₂, fun x hx y hy hxy => ?_⟩
        subst hxy
        exact ((hm₂ x).mp hy).1 (List.mem_append_right _ hx)
      · simp only [List.mem_append, hm₁, hm₂, List.mem_cons, exists_eq_or_imp]
        tauto

namespace Graph

variable (g : Graph)

/-! ## タスクから出て届くイベント -/

/-- タスク `task` から、フローをたどって止まらずに着く要素：タスクそのものと、着いた要素から出る
フローの行き先のうちタスクでもイベントでもリンクスローでもないもの、それに着いた要素から出る
フローの行き先のリンクスローのリンクキャッチ。 -/
inductive Walked (task : ElementDecl) : ElementDecl → Prop
  | start : Walked task task
  | flow {u t : ElementDecl} {f : FlowDecl} : Walked task u → f ∈ g.outgoing u.id →
      g.element? f.target = some t → t.kind ≠ .task → t.kind ≠ .event → t.kind ≠ .linkThrow →
      Walked task t
  | link {u t c : ElementDecl} {f : FlowDecl} : Walked task u → f ∈ g.outgoing u.id →
      g.element? f.target = some t → t.kind = .linkThrow → g.catchOf? t = some c → Walked task c

/-- タスク `task` から出て届くイベント：止まらずに着く要素から出るフローの行き先のイベント。 -/
def ReachedEvent (task x : ElementDecl) : Prop :=
  x.kind = .event ∧ ∃ u, g.Walked task u ∧ ∃ f ∈ g.outgoing u.id, g.element? f.target = some x

theorem ReachedEvent.mem {task x : ElementDecl} (h : g.ReachedEvent task x) :
    x ∈ g.decl.elements := by
  obtain ⟨_, _, _, _, _, hx⟩ := h
  exact (element?_spec hx).1

/-- 歩みの状態（次に調べる要素の id `S`、訪問済みの id `V`、見つけたイベント `F`）の不変条件。 -/
structure WalkInv (task : ElementDecl) (S V : List String) (F : List ElementDecl) : Prop where
  task_mem : task.id ∈ V
  stack_walked : ∀ id ∈ S, ∃ u, g.Walked task u ∧ u.id = id
  stack_visited : ∀ id ∈ S, id ∈ V
  stack_nodup : S.Nodup
  found_sound : ∀ x ∈ F, g.ReachedEvent task x
  /-- 訪問済みのイベントは見つけてある。 -/
  events : ∀ x ∈ g.decl.elements, x.id ∈ V → x.kind = .event → x ∈ F
  /-- 訪問済みのリンクスローのリンクキャッチは訪問済みである。 -/
  links : ∀ t ∈ g.decl.elements, t.id ∈ V → t.kind = .linkThrow →
    ∀ c, g.catchOf? t = some c → c.id ∈ V
  /-- 着いた要素で、もう調べ終えたもの（訪問済みで `S` にない）から出るフローの行き先は訪問済み。 -/
  done : ∀ u, g.Walked task u → u.id ∈ V → u.id ∉ S →
    ∀ f ∈ g.outgoing u.id, ∀ t, g.element? f.target = some t → t.id ∈ V

variable {g}

section Walk

variable {task : ElementDecl}

theorem Walked.mem (htask : task ∈ g.decl.elements) {u : ElementDecl} (h : g.Walked task u) :
    u ∈ g.decl.elements := by
  cases h with
  | start => exact htask
  | flow _ _ ht => exact (element?_spec ht).1
  | link _ _ _ _ hc => exact (catchOf?_spec hc).1

/-- 着く要素はタスクそのものか、タスクでもイベントでもリンクスローでもない要素である。 -/
theorem Walked.kind {u : ElementDecl} (h : g.Walked task u) :
    u = task ∨ (u.kind ≠ .task ∧ u.kind ≠ .event ∧ u.kind ≠ .linkThrow) := by
  cases h with
  | start => exact .inl rfl
  | flow _ _ _ h1 h2 h3 => exact .inr ⟨h1, h2, h3⟩
  | link _ _ _ _ hc =>
    have hk := (catchOf?_spec hc).2
    exact .inr ⟨by simp [hk], by simp [hk], by simp [hk]⟩

/-- まだ訪ねていない要素に着いているなら、それはタスクそのものではない。 -/
theorem Walked.kind_of_not_mem {V : List String} (htask : task.id ∈ V) {t : ElementDecl}
    (htV : t.id ∉ V) (h : g.Walked task t) :
    t.kind ≠ .task ∧ t.kind ≠ .event ∧ t.kind ≠ .linkThrow := by
  rcases h.kind with rfl | hk
  · exact absurd htask htV
  · exact hk

/-- 不変条件は、訪問済みの id の集まりだけを見る。 -/
theorem WalkInv.congr {S V V' : List String} {F : List ElementDecl}
    (hinv : g.WalkInv task S V F) (hV : ∀ id, id ∈ V ↔ id ∈ V') : g.WalkInv task S V' F where
  task_mem := (hV _).mp hinv.task_mem
  stack_walked := hinv.stack_walked
  stack_visited id h := (hV id).mp (hinv.stack_visited id h)
  stack_nodup := hinv.stack_nodup
  found_sound := hinv.found_sound
  events x hx h := hinv.events x hx ((hV _).mpr h)
  links t ht h hk c hc := (hV _).mp (hinv.links t ht ((hV _).mpr h) hk c hc)
  done u hu h hS f hf t ht := (hV _).mp (hinv.done u hu ((hV _).mpr h) hS f hf t ht)

/-- 調べ終えた要素 `u` を次に調べる列の先頭から除く。`u` から出るフローの行き先はどれも訪問済み
でなければならない。 -/
theorem WalkInv.pop {a : String} {S V : List String} {F : List ElementDecl}
    (hinv : g.WalkInv task (a :: S) V F)
    (hdone : ∀ u, g.Walked task u → u.id = a →
      ∀ f ∈ g.outgoing u.id, ∀ t, g.element? f.target = some t → t.id ∈ V) :
    g.WalkInv task S V F where
  task_mem := hinv.task_mem
  stack_walked id h := hinv.stack_walked id (List.mem_cons_of_mem _ h)
  stack_visited id h := hinv.stack_visited id (List.mem_cons_of_mem _ h)
  stack_nodup := (List.nodup_cons.mp hinv.stack_nodup).2
  found_sound := hinv.found_sound
  events := hinv.events
  links := hinv.links
  done u hu huV huS := by
    by_cases hua : u.id = a
    · exact hdone u hu hua
    · exact hinv.done u hu huV (by simp [hua, huS])

/-- 歩みが止まったとき、着いた要素はどれも訪問済みである。 -/
theorem WalkInv.walked_mem {V : List String} {F : List ElementDecl}
    (hinv : g.WalkInv task [] V F) {u : ElementDecl} (hu : g.Walked task u) : u.id ∈ V := by
  induction hu with
  | start => exact hinv.task_mem
  | flow hw hf ht _ _ _ ih => exact hinv.done _ hw ih List.not_mem_nil _ hf _ ht
  | link hw hf ht hk hc ih =>
    have htV := hinv.done _ hw ih List.not_mem_nil _ hf _ ht
    exact hinv.links _ (element?_spec ht).1 htV hk _ hc

/-- 歩みが止まったとき、見つけたイベントはちょうど届くイベントである。 -/
theorem WalkInv.found_iff {V : List String} {F : List ElementDecl}
    (hinv : g.WalkInv task [] V F) (x : ElementDecl) : x ∈ F ↔ g.ReachedEvent task x := by
  refine ⟨hinv.found_sound x, ?_⟩
  rintro ⟨hk, u, hu, f, hf, ht⟩
  exact hinv.events x (element?_spec ht).1
    (hinv.done u hu (hinv.walked_mem hu) List.not_mem_nil f hf x ht) hk

variable (hnd : (g.decl.elements.map (·.id)).Nodup)
include hnd

/-- 訪問済みに id を一つ加えたとき、加えた id の要素は加えた要素である。 -/
theorem eq_or_mem_of_mem_cons {V : List String} {x t : ElementDecl} (hx : x ∈ g.decl.elements)
    (ht : t ∈ g.decl.elements) (h : x.id ∈ t.id :: V) : x = t ∨ x.id ∈ V := by
  rcases List.mem_cons.mp h with h | h
  · exact .inl (eq_of_id_eq hnd hx ht h)
  · exact .inr h

variable (htask : task ∈ g.decl.elements)
include htask

/-- イベントでない要素 `t` を、次に調べずに訪問済みにする。`t` がリンクスローなら、そのリンク
キャッチはもう訪問済みでなければならない。 -/
theorem WalkInv.mark {S V : List String} {F : List ElementDecl} (hinv : g.WalkInv task S V F)
    {t : ElementDecl} (ht : t ∈ g.decl.elements) (hk : t.kind ≠ .event)
    (hc : t.kind = .linkThrow → ∀ c, g.catchOf? t = some c → c.id ∈ t.id :: V)
    (hw : g.Walked task t → t.id ∈ S) : g.WalkInv task S (t.id :: V) F where
  task_mem := List.mem_cons_of_mem _ hinv.task_mem
  stack_walked := hinv.stack_walked
  stack_visited id h := List.mem_cons_of_mem _ (hinv.stack_visited id h)
  stack_nodup := hinv.stack_nodup
  found_sound := hinv.found_sound
  events x hx hxV hxk := by
    rcases eq_or_mem_of_mem_cons hnd hx ht hxV with rfl | hxV
    · exact absurd hxk hk
    · exact hinv.events x hx hxV hxk
  links x hx hxV hxk c hcx := by
    rcases eq_or_mem_of_mem_cons hnd hx ht hxV with rfl | hxV
    · exact hc hxk c hcx
    · exact List.mem_cons_of_mem _ (hinv.links x hx hxV hxk c hcx)
  done w hw' hwV hwS f hf t' ht' := by
    rcases eq_or_mem_of_mem_cons hnd (hw'.mem htask) ht hwV with rfl | hwV
    · exact absurd (hw hw') hwS
    · exact List.mem_cons_of_mem _ (hinv.done w hw' hwV hwS f hf t' ht')

/-- 着いた要素 `t`（イベントでもリンクスローでもない）を訪問済みにして、次に調べる列に加える。 -/
theorem WalkInv.push {a : String} {S V : List String} {F : List ElementDecl}
    (hinv : g.WalkInv task (a :: S) V F) {t : ElementDecl} (ht : t ∈ g.decl.elements)
    (htV : t.id ∉ V) (hw : g.Walked task t) (hk : t.kind ≠ .event) (hk' : t.kind ≠ .linkThrow) :
    g.WalkInv task (a :: t.id :: S) (t.id :: V) F where
  task_mem := List.mem_cons_of_mem _ hinv.task_mem
  stack_walked id h := by
    rcases List.mem_cons.mp h with rfl | h
    · exact hinv.stack_walked _ List.mem_cons_self
    rcases List.mem_cons.mp h with rfl | h
    · exact ⟨t, hw, rfl⟩
    · exact hinv.stack_walked id (List.mem_cons_of_mem _ h)
  stack_visited id h := by
    rcases List.mem_cons.mp h with rfl | h
    · exact List.mem_cons_of_mem _ (hinv.stack_visited _ List.mem_cons_self)
    rcases List.mem_cons.mp h with rfl | h
    · exact List.mem_cons_self
    · exact List.mem_cons_of_mem _ (hinv.stack_visited id (List.mem_cons_of_mem _ h))
  stack_nodup := by
    have hnot : t.id ∉ a :: S := fun h => htV (hinv.stack_visited _ h)
    have hnd' := List.nodup_cons.mp hinv.stack_nodup
    refine List.nodup_cons.mpr ⟨?_, List.nodup_cons.mpr ⟨fun h => hnot (List.mem_cons_of_mem _ h),
      hnd'.2⟩⟩
    rintro (h | h)
    · exact hnot List.mem_cons_self
    · exact hnd'.1 ‹_›
  found_sound := hinv.found_sound
  events x hx hxV hxk := by
    rcases eq_or_mem_of_mem_cons hnd hx ht hxV with rfl | hxV
    · exact absurd hxk hk
    · exact hinv.events x hx hxV hxk
  links x hx hxV hxk c hcx := by
    rcases eq_or_mem_of_mem_cons hnd hx ht hxV with rfl | hxV
    · exact absurd hxk hk'
    · exact List.mem_cons_of_mem _ (hinv.links x hx hxV hxk c hcx)
  done w hw' hwV hwS f hf t' ht' := by
    rcases eq_or_mem_of_mem_cons hnd (hw'.mem htask) ht hwV with rfl | hwV
    · exact absurd (List.mem_cons_of_mem _ List.mem_cons_self) hwS
    · exact List.mem_cons_of_mem _
        (hinv.done w hw' hwV (fun h => hwS (by simp_all)) f hf t' ht')

/-- 届くイベント `t` を訪問済みにして、見つけたものに足す。 -/
theorem WalkInv.find {S V : List String} {F : List ElementDecl} (hinv : g.WalkInv task S V F)
    {t : ElementDecl} (ht : t ∈ g.decl.elements) (hr : g.ReachedEvent task t)
    (hw : g.Walked task t → t.id ∈ S) : g.WalkInv task S (t.id :: V) (F ++ [t]) where
  task_mem := List.mem_cons_of_mem _ hinv.task_mem
  stack_walked := hinv.stack_walked
  stack_visited id h := List.mem_cons_of_mem _ (hinv.stack_visited id h)
  stack_nodup := hinv.stack_nodup
  found_sound x hx := by
    rcases List.mem_append.mp hx with hx | hx
    · exact hinv.found_sound x hx
    · rw [List.mem_singleton.mp hx]
      exact hr
  events x hx hxV hxk := by
    rcases eq_or_mem_of_mem_cons hnd hx ht hxV with rfl | hxV
    · exact List.mem_append_right _ (List.mem_singleton_self _)
    · exact List.mem_append_left _ (hinv.events x hx hxV hxk)
  links x hx hxV hxk c hcx := by
    rcases eq_or_mem_of_mem_cons hnd hx ht hxV with rfl | hxV
    · rw [hr.1] at hxk
      cases hxk
    · exact List.mem_cons_of_mem _ (hinv.links x hx hxV hxk c hcx)
  done w hw' hwV hwS f hf t' ht' := by
    rcases eq_or_mem_of_mem_cons hnd (hw'.mem htask) ht hwV with rfl | hwV
    · exact absurd (hw hw') hwS
    · exact List.mem_cons_of_mem _ (hinv.done w hw' hwV hwS f hf t' ht')

/-- **歩みの一歩は不変条件を保つ。** 調べている要素 `u` を次に調べる列の先頭に置いたまま、`u` から
出るフロー `f` を一つ訪ねると、不変条件を保ち、`f` の行き先を訪問済みにする。訪問済みの id は
減らない。次に調べる id の数とまだ訪ねていない要素の数の和が増えないことは
`visitEvent_measure` が示す。 -/
theorem WalkInv.visitEvent {u : ElementDecl} (hu : g.Walked task u) {S V : List String}
    {F : List ElementDecl} (hinv : g.WalkInv task (u.id :: S) V F) {f : FlowDecl}
    (hf : f ∈ g.outgoing u.id) {S' V' : List String} {F' : List ElementDecl}
    (hr : g.visitEvent (S, V, F) f = (S', V', F')) :
    g.WalkInv task (u.id :: S') V' F' ∧ (∀ t, g.element? f.target = some t → t.id ∈ V') ∧
      ∀ id ∈ V, id ∈ V' := by
  rcases visitEvent_cases S V F f with ⟨h, htgt⟩ | ⟨t, ht, htV, hcase⟩
  · rw [hr] at h
    cases h
    exact ⟨hinv, htgt, fun _ h => h⟩
  have htel : t ∈ g.decl.elements := (element?_spec ht).1
  have hvis : ∀ t', g.element? f.target = some t' → t'.id ∈ t.id :: V := fun t' ht' => by
    rw [ht] at ht'
    cases ht'
    exact List.mem_cons_self
  -- 行き先 `t` は訪ねていなかったので、それに着いていたなら `t` はタスクそのものではない。
  have hnew : g.Walked task t → t.kind ≠ .task ∧ t.kind ≠ .event ∧ t.kind ≠ .linkThrow :=
    Walked.kind_of_not_mem hinv.task_mem htV
  rcases hcase with ⟨hk, h⟩ | ⟨hk, h⟩ | ⟨hk, hc, h⟩ | ⟨hk, c, hc, hcV, h⟩ | ⟨hk1, hk2, hk3, h⟩
  · -- イベント：見つけたものに足す。
    rw [hr] at h
    cases h
    exact ⟨hinv.find hnd htask htel ⟨hk, u, hu, f, hf, ht⟩ (fun hw => absurd hk (hnew hw).2.1),
      hvis, fun _ h => List.mem_cons_of_mem _ h⟩
  · -- タスク：訪問済みにするだけ。
    rw [hr] at h
    cases h
    exact ⟨hinv.mark hnd htask htel (by simp [hk]) (by simp [hk])
      (fun hw => absurd hk (hnew hw).1), hvis, fun _ h => List.mem_cons_of_mem _ h⟩
  · -- リンクキャッチがないか訪問済みのリンクスロー：訪問済みにするだけ。
    rw [hr] at h
    cases h
    exact ⟨hinv.mark hnd htask htel (by simp [hk]) (fun _ => hc)
      (fun hw => absurd hk (hnew hw).2.2), hvis, fun _ h => List.mem_cons_of_mem _ h⟩
  · -- リンクスロー：リンクキャッチを次に調べる。
    rw [hr] at h
    cases h
    obtain ⟨hcel, hck⟩ := catchOf?_spec hc
    have hcV' : c.id ∉ V := fun h => hcV (List.mem_cons_of_mem _ h)
    have hpush := hinv.push hnd htask hcel hcV' (.link hu hf ht hk hc) (by simp [hck])
      (by simp [hck])
    have hmark := hpush.mark hnd htask htel (by simp [hk])
      (fun _ c' hc' => by
        rw [hc] at hc'; cases hc'; exact List.mem_cons_of_mem _ List.mem_cons_self)
      (fun hw => absurd hk (hnew hw).2.2)
    exact ⟨hmark.congr fun id => by simp only [List.mem_cons]; tauto,
      fun t' ht' => List.mem_cons_of_mem _ (hvis t' ht'),
      fun _ h => List.mem_cons_of_mem _ (List.mem_cons_of_mem _ h)⟩
  · -- ほかの要素：次に調べる。
    rw [hr] at h
    cases h
    exact ⟨hinv.push hnd htask htel htV (.flow hu hf ht hk1 hk2 hk3) hk2 hk3, hvis,
      fun _ h => List.mem_cons_of_mem _ h⟩

/-- 調べている要素 `u` から出るフローを順に訪ねる。訪ねたフローの行き先はどれも訪問済みになる。 -/
theorem WalkInv.foldl_visitEvent {u : ElementDecl} (hu : g.Walked task u) :
    ∀ (fs : List FlowDecl) (S V : List String) (F : List ElementDecl) (S' V' : List String)
      (F' : List ElementDecl), (∀ f ∈ fs, f ∈ g.outgoing u.id) →
      g.WalkInv task (u.id :: S) V F → fs.foldl g.visitEvent (S, V, F) = (S', V', F') →
      g.WalkInv task (u.id :: S') V' F' ∧
        (∀ f ∈ fs, ∀ t, g.element? f.target = some t → t.id ∈ V') ∧ ∀ id ∈ V, id ∈ V'
  | [], _, _, _, _, _, _, _, hinv, h => by
    cases h
    exact ⟨hinv, by simp, fun _ h => h⟩
  | f :: fs, S, V, F, S', V', F', hfs, hinv, h => by
    rw [List.foldl_cons] at h
    rcases hr : g.visitEvent (S, V, F) f with ⟨S₁, V₁, F₁⟩
    rw [hr] at h
    obtain ⟨hinv₁, htgt, hmono⟩ :=
      hinv.visitEvent hnd htask hu (hfs f List.mem_cons_self) hr
    obtain ⟨hinv', htgt', hmono'⟩ := WalkInv.foldl_visitEvent hu fs S₁ V₁ F₁ S' V' F'
      (fun f' hf' => hfs f' (List.mem_cons_of_mem _ hf')) hinv₁ h
    refine ⟨hinv', ?_, fun id hid => hmono' id (hmono id hid)⟩
    intro f' hf' t ht
    rcases List.mem_cons.mp hf' with rfl | hf'
    · exact hmono' _ (htgt t ht)
    · exact htgt' f' hf' t ht

/-- **歩みは届くイベントをすべて見つける。** 次に調べる id の数とまだ訪ねていない要素の数の和より
燃料が多ければ、歩みは次に調べる列を空にして止まり、その状態は不変条件を満たす。 -/
theorem walkEvents_spec : ∀ (fuel : Nat) (S V : List String) (F : List ElementDecl),
    g.WalkInv task S V F → S.length + g.unvisited V < fuel →
      ∃ V', g.WalkInv task [] V' (g.walkEvents fuel S V F)
  | 0, _, _, _, _, h => absurd h (Nat.not_lt_zero _)
  | fuel + 1, [], V, F, hinv, _ => ⟨V, by simpa [walkEvents] using hinv⟩
  | fuel + 1, node :: S, V, F, hinv, hlt => by
    obtain ⟨u, hu, rfl⟩ := hinv.stack_walked _ List.mem_cons_self
    rw [walkEvents]
    rcases h : (g.outgoing u.id).foldl g.visitEvent (S, V, F) with ⟨S', V', F'⟩
    obtain ⟨hinv', htgt, -⟩ :=
      WalkInv.foldl_visitEvent hnd htask hu _ S V F S' V' F' (fun _ h => h) hinv h
    have hle := foldl_visitEvent_measure (g := g) (g.outgoing u.id) (S, V, F)
    rw [h] at hle
    -- `u` から出るフローをすべて訪ねたので、`u` を列から除ける。
    have hpop : g.WalkInv task S' V' F' := hinv'.pop fun w hw hwu f hf t ht => by
      rw [eq_of_id_eq hnd (hw.mem htask) (hu.mem htask) hwu] at hf
      exact htgt f hf t ht
    simp only [List.length_cons] at hlt
    exact walkEvents_spec fuel S' V' F' hpop (by simp only at hle; omega)

/-- 歩みの始めの状態：タスクだけを次に調べ、訪問済みにしている。 -/
theorem walkInv_start (hkt : task.kind = .task) : g.WalkInv task [task.id] [task.id] [] where
  task_mem := List.mem_singleton_self _
  stack_walked id h := ⟨task, .start, (List.mem_singleton.mp h).symm⟩
  stack_visited _ h := h
  stack_nodup := List.nodup_singleton _
  found_sound _ h := absurd h List.not_mem_nil
  events x hx hxV hxk := by
    rw [eq_of_id_eq hnd hx htask (List.mem_singleton.mp hxV), hkt] at hxk
    cases hxk
  links x hx hxV hxk := by
    rw [eq_of_id_eq hnd hx htask (List.mem_singleton.mp hxV), hkt] at hxk
    cases hxk
  done _ _ huV huS := absurd huV huS

/-- **タスクから出て届くイベント。** 要素の id に重複がなければ、タスク `task` から出ていくイベント
（`outgoingEvents`）は、届くイベントを要素の宣言順に一度ずつ並べたものである。 -/
theorem outgoingEvents_spec (hkt : task.kind = .task) :
    (g.outgoingEvents task).Sublist g.decl.elements ∧
      ∀ x, x ∈ g.outgoingEvents task ↔ x ∈ g.decl.elements ∧ g.ReachedEvent task x := by
  have hfuel : [task.id].length + g.unvisited [task.id] < g.searchFuel := by
    have h1 := unvisited_cons_lt (V := []) htask List.not_mem_nil
    have h2 := unvisited_lt_searchFuel (g := g) []
    simp only [List.length_singleton]
    omega
  obtain ⟨V, hinv⟩ := walkEvents_spec hnd htask _ _ _ _ (walkInv_start hnd htask hkt) hfuel
  refine ⟨List.filter_sublist, fun x => ?_⟩
  simp only [outgoingEvents, List.mem_filter, List.any_eq_true, beq_iff_eq]
  constructor
  · rintro ⟨hx, y, hy, hid⟩
    have hyr := (hinv.found_iff y).mp hy
    rw [eq_of_id_eq hnd hyr.mem hx hid] at hyr
    exact ⟨hx, hyr⟩
  · rintro ⟨hx, hr⟩
    exact ⟨hx, x, (hinv.found_iff x).mpr hr, rfl⟩

end Walk

/-! ## さかのぼって届く初期イベント -/

variable (g) in
/-- 要素 `x` に入るフローの出どころが `s` である。 -/
def Feeds (x s : ElementDecl) : Prop :=
  ∃ f ∈ g.incoming x.id, g.element? f.source = some s

variable (g) in
/-- さかのぼる一歩：`x` に入るフローの出どころが、初期イベントでないイベント `s` である。 -/
def BackStep (x s : ElementDecl) : Prop :=
  g.Feeds x s ∧ s.kind = .event ∧ g.isInitEvent s = false

variable (g) in
/-- タスク `task` から、初期イベントでないイベントをさかのぼって、同じイベントに戻れる。 -/
def EventCycle (task : ElementDecl) : Prop :=
  ∃ e, Relation.TransGen g.BackStep task e ∧ Relation.TransGen g.BackStep e e

variable (g) in
/-- 要素 `x` へ、初期イベントでないイベントの連なりを通って届く初期イベント `s`。 -/
def InitFeeds (x s : ElementDecl) : Prop :=
  g.isInitEvent s = true ∧ ∃ y, Relation.ReflTransGen g.BackStep x y ∧ g.Feeds y s

variable (g) in
/-- さかのぼる探索が、道筋 `path` にある id のイベントへ戻る：`x` から初期イベントでないイベント
`s` へさかのぼれて、`s` が道筋にあるか、`s` を道筋に加えて `s` から戻る。 -/
inductive Revisits : List String → ElementDecl → Prop
  | hit {path : List String} {x s : ElementDecl} : g.BackStep x s → s.id ∈ path → Revisits path x
  | deeper {path : List String} {x s : ElementDecl} : g.BackStep x s → s.id ∉ path →
      Revisits (s.id :: path) s → Revisits path x

theorem Feeds.mem {x s : ElementDecl} (h : g.Feeds x s) : s ∈ g.decl.elements := by
  obtain ⟨_, _, hs⟩ := h
  exact (element?_spec hs).1

/-- さかのぼって循環に届くなら、どの道筋からの探索も戻る。道筋の外の要素の数についての帰納法。 -/
theorem revisits_of_cycle : ∀ (n : Nat) (path : List String) (x e : ElementDecl),
    g.unvisited path = n → Relation.ReflTransGen g.BackStep x e →
      Relation.TransGen g.BackStep e e → g.Revisits path x := by
  intro n
  induction n using Nat.strong_induction_on with
  | _ n ih =>
    intro path x e hn hxe hee
    obtain ⟨z, hxz, hze⟩ := Relation.TransGen.head'_iff.mp (Relation.TransGen.trans_right hxe hee)
    by_cases hz : z.id ∈ path
    · exact .hit hxz hz
    · have hlt := unvisited_cons_lt hxz.1.mem hz
      exact .deeper hxz hz (ih _ (hn ▸ hlt) _ z e rfl hze hee)

section Backward

variable (hnd : (g.decl.elements.map (·.id)).Nodup)
include hnd

/-- 道筋から戻る探索は、道筋のイベントへ届くさかのぼりか、さかのぼって届く循環を与える。 -/
theorem Revisits.witness {path : List String} {x : ElementDecl} (h : g.Revisits path x) :
    (∃ y, Relation.ReflTransGen g.BackStep x y ∧ ∃ s, g.BackStep y s ∧ s.id ∈ path) ∨
      ∃ e, Relation.ReflTransGen g.BackStep x e ∧ Relation.TransGen g.BackStep e e := by
  induction h with
  | hit hs hsP => exact .inl ⟨_, .refl, _, hs, hsP⟩
  | @deeper path x s hs hsP _ ih =>
    rcases ih with ⟨y, hsy, s', hys', hs'⟩ | ⟨e, hse, hee⟩
    · rcases List.mem_cons.mp hs' with hid | hs'
      · -- `s` に戻った：`s` から `s` への循環である。
        have hss : s' = s := eq_of_id_eq hnd hys'.1.mem hs.1.mem hid
        subst hss
        exact .inr ⟨s', .single hs, Relation.TransGen.tail' hsy hys'⟩
      · exact .inl ⟨y, .head hs hsy, s', hys', hs'⟩
    · exact .inr ⟨e, .head hs hse, hee⟩

/-- **さかのぼる探索が戻る条件。** タスクから始めた探索が道筋のイベントへ戻るのは、さかのぼって
届く循環があるときに限る。 -/
theorem revisits_iff_eventCycle {task : ElementDecl} (htask : task ∈ g.decl.elements)
    (hkt : task.kind = .task) : g.Revisits [task.id] task ↔ g.EventCycle task := by
  -- さかのぼる一歩はイベントに着くので、タスクには戻らない。
  have hback : ∀ y, ¬ g.BackStep y task := fun y hy => by
    have hk := hy.2.1
    rw [hkt] at hk
    cases hk
  constructor
  · intro h
    rcases h.witness hnd with ⟨y, -, s, hys, hs⟩ | ⟨e, hte, hee⟩
    · rw [eq_of_id_eq hnd hys.1.mem htask (List.mem_singleton.mp hs)] at hys
      exact absurd hys (hback y)
    · rcases Relation.reflTransGen_iff_eq_or_transGen.mp hte with rfl | hte
      · obtain ⟨b, -, hb⟩ := Relation.TransGen.tail'_iff.mp hee
        exact absurd hb (hback b)
      · exact ⟨e, hte, hee⟩
  · rintro ⟨e, hte, hee⟩
    exact revisits_of_cycle _ _ task e rfl hte.to_reflTransGen hee

end Backward

/-- さかのぼる探索が誤るのは、道筋に戻るときに限る。燃料は、道筋の外の要素の数より多ければ
足りる。 -/
theorem collectInit_error_iff : ∀ (fuel : Nat) (path : List String) (x : ElementDecl)
    (found : List ElementDecl), g.unvisited path < fuel →
      ((∃ e, g.collectInit fuel x.id path found = .error e) ↔ g.Revisits path x)
  | 0, _, _, _, h => absurd h (Nat.not_lt_zero _)
  | fuel + 1, path, x, found, hlt => by
    rw [collectInit, foldlM_error_iff (B := fun f => ∃ s, g.element? f.source = some s ∧
      s.kind = .event ∧ g.isInitEvent s = false ∧ (s.id ∈ path ∨ g.Revisits (s.id :: path) s))]
    · constructor
      · rintro ⟨f, hf, s, hs, hk, hi, hsP | hrev⟩
        · exact .hit ⟨⟨f, hf, hs⟩, hk, hi⟩ hsP
        · by_cases hsP : s.id ∈ path
          · exact .hit ⟨⟨f, hf, hs⟩, hk, hi⟩ hsP
          · exact .deeper ⟨⟨f, hf, hs⟩, hk, hi⟩ hsP hrev
      · intro h
        cases h with
        | hit hxs hsP =>
          obtain ⟨⟨f, hf, hs⟩, hk, hi⟩ := hxs
          exact ⟨f, hf, _, hs, hk, hi, .inl hsP⟩
        | deeper hxs _ hrev =>
          obtain ⟨⟨f, hf, hs⟩, hk, hi⟩ := hxs
          exact ⟨f, hf, _, hs, hk, hi, .inr hrev⟩
    · -- 一歩が誤るのは、初期イベントでないイベントへさかのぼり、それが道筋にあるか、その先で
      -- 道筋に戻るとき。
      intro f acc
      unfold visitInit
      cases hs : g.element? f.source with
      | none => simp
      | some s =>
        simp only
        by_cases hi : g.isInitEvent s = true
        · simp [hi]
        · by_cases hk : s.kind = .event
          · by_cases hsP : s.id ∈ path
            · simp [hi, hk, hsP]
            · have hlt' : g.unvisited (s.id :: path) < fuel := by
                have := unvisited_cons_lt (element?_spec hs).1 hsP
                omega
              simp [hi, hk, hsP, collectInit_error_iff fuel (s.id :: path) s acc hlt']
          · simp [hi, hk]

/-- さかのぼる探索の誤りは、戻ったイベントを名指す循環の誤りである。 -/
theorem collectInit_error_message : ∀ (fuel : Nat) (path : List String) (node : String)
    (found : List ElementDecl) (e : Error), g.collectInit fuel node path found = .error e →
      ∃ name : String, e = .invalidModel g.version s!"cyclic event chain at '{name}'"
  | 0, _, _, _, _, h => by cases h
  | fuel + 1, path, node, found, e, h => by
    rw [collectInit] at h
    obtain ⟨f, acc, hf⟩ := foldlM_error_mem _ _ _ h
    unfold visitInit at hf
    cases hs : g.element? f.source with
    | none =>
      rw [hs] at hf
      cases hf
    | some s =>
      simp only [hs] at hf
      -- 初期イベントと、イベントでない出どころは誤らない。誤るのは道筋に戻るか、その先である。
      split at hf
      · cases hf
      · split at hf
        · split at hf
          · cases hf
            exact ⟨s.id, rfl⟩
          · exact collectInit_error_message fuel _ _ _ e hf
        · cases hf

/-- 初期イベントでないイベントの連なりを通って届く初期イベントは、入るフローの出どころの初期
イベントか、出どころの初期イベントでないイベントへ届くものである。 -/
theorem initFeeds_iff {x s : ElementDecl} : g.InitFeeds x s ↔
    (g.isInitEvent s = true ∧ g.Feeds x s) ∨ ∃ s', g.BackStep x s' ∧ g.InitFeeds s' s := by
  constructor
  · rintro ⟨hi, y, hxy, hys⟩
    rcases Relation.ReflTransGen.cases_head hxy with rfl | ⟨z, hxz, hzy⟩
    · exact .inl ⟨hi, hys⟩
    · exact .inr ⟨z, hxz, hi, y, hzy, hys⟩
  · rintro (⟨hi, hxs⟩ | ⟨s', hxs', hi, y, hs'y, hys⟩)
    · exact ⟨hi, x, .refl, hxs⟩
    · exact ⟨hi, y, .head hxs' hs'y, hys⟩

variable (g) in
/-- さかのぼる探索がフロー `f` の一歩で足しうる初期イベント：出どころの初期イベントか、出どころが
初期イベントでないイベントなら、そこへ届く初期イベント。 -/
def InitStep (f : FlowDecl) (s : ElementDecl) : Prop :=
  ∃ s', g.element? f.source = some s' ∧
    ((g.isInitEvent s' = true ∧ s = s') ∨
      (s'.kind = .event ∧ g.isInitEvent s' = false ∧ g.InitFeeds s' s))

theorem InitStep.mem {f : FlowDecl} {s : ElementDecl} (h : g.InitStep f s) :
    s ∈ g.decl.elements := by
  obtain ⟨s', hs', ⟨-, rfl⟩ | ⟨-, -, hinit⟩⟩ := h
  · exact (element?_spec hs').1
  · obtain ⟨-, y, -, hys⟩ := hinit
    exact hys.mem

section Collect

variable (hnd : (g.decl.elements.map (·.id)).Nodup)
include hnd

/-- 一歩：道筋の外のイベントからさかのぼったときに集まるものを知っていれば、フロー `f` の一歩は、
まだ集めていない `InitStep f` の初期イベントを一度ずつ足す。 -/
theorem visitInit_ok {fuel : Nat} {path : List String} {f : FlowDecl} {acc r : List ElementDecl}
    (hrec : ∀ s acc r, s ∈ g.decl.elements → s.id ∉ path → (∀ y ∈ acc, y ∈ g.decl.elements) →
      g.collectInit fuel s.id (s.id :: path) acc = .ok r →
      ∃ new, r = acc ++ new ∧ new.Nodup ∧ ∀ t, t ∈ new ↔ t ∉ acc ∧ g.InitFeeds s t)
    (hacc : ∀ y ∈ acc, y ∈ g.decl.elements)
    (h : g.visitInit (g.collectInit fuel) path acc f = .ok r) :
    ∃ new, r = acc ++ new ∧ new.Nodup ∧ ∀ s, s ∈ new ↔ s ∉ acc ∧ g.InitStep f s := by
  unfold visitInit at h
  cases hs : g.element? f.source with
  | none =>
    rw [hs] at h
    cases h
    exact ⟨[], by simp, List.nodup_nil, fun s => by simp [InitStep, hs]⟩
  | some s' =>
    have hs'el := (element?_spec hs).1
    have hstep : ∀ s, g.InitStep f s ↔ ((g.isInitEvent s' = true ∧ s = s') ∨
        (s'.kind = .event ∧ g.isInitEvent s' = false ∧ g.InitFeeds s' s)) := by
      simp [InitStep, hs]
    simp only [hs] at h
    by_cases hi : g.isInitEvent s' = true
    · -- 初期イベント：まだ集めていなければ足す。集めたかは id で調べるが、id は重複しない。
      simp only [hi, if_true, Except.ok.injEq] at h
      subst h
      have hany : (acc.any fun y => y.id == s'.id) = true ↔ s' ∈ acc := by
        simp only [List.any_eq_true, beq_iff_eq]
        constructor
        · rintro ⟨y, hy, hid⟩
          exact eq_of_id_eq hnd (hacc y hy) hs'el hid ▸ hy
        · intro h
          exact ⟨s', h, rfl⟩
      by_cases hmem : s' ∈ acc
      · refine ⟨[], by simp [hany.mpr hmem], List.nodup_nil, fun s => ?_⟩
        simp only [List.not_mem_nil, false_iff, not_and, hstep, hi]
        rintro hsacc (⟨-, rfl⟩ | ⟨-, hi', -⟩)
        · exact hsacc hmem
        · cases hi'
      · refine ⟨[s'], by simp [mt hany.mp hmem], List.nodup_singleton _, fun s => ?_⟩
        simp only [List.mem_singleton, hstep, hi, true_and, Bool.true_eq_false, false_and,
          and_false, or_false]
        constructor
        · rintro rfl
          exact ⟨hmem, rfl⟩
        · exact fun h => h.2
    · have hi' : g.isInitEvent s' = false := by simpa using hi
      by_cases hk : s'.kind = .event
      · -- 初期イベントでないイベント：道筋になければ、そこからさかのぼる。
        have hsP : s'.id ∉ path := by
          intro hsP
          simp [hi, hk, hsP] at h
        simp [hi, hk, hsP] at h
        obtain ⟨new, rfl, hnd', hm⟩ := hrec s' acc r hs'el hsP hacc h
        refine ⟨new, rfl, hnd', fun s => ?_⟩
        simp only [hm s, hstep, hi', hk, Bool.false_eq_true, false_and, false_or, true_and]
      · simp only [hi, hk, Bool.false_eq_true, if_false, beq_iff_eq, Except.ok.injEq] at h
        subst h
        refine ⟨[], by simp, List.nodup_nil, fun s => ?_⟩
        simp [hstep, hi', hk]

/-- **さかのぼる探索が集める初期イベント。** 探索が誤らずに終われば、見つけたもの `found` の末尾に、
`x` へ初期イベントでないイベントの連なりを通って届く初期イベントのうち `found` にないものを、
一度ずつ足す。 -/
theorem collectInit_ok (fuel : Nat) : ∀ (path : List String) (x : ElementDecl)
    (found r : List ElementDecl), g.unvisited path < fuel →
      (∀ y ∈ found, y ∈ g.decl.elements) → g.collectInit fuel x.id path found = .ok r →
      ∃ new, r = found ++ new ∧ new.Nodup ∧ ∀ s, s ∈ new ↔ s ∉ found ∧ g.InitFeeds x s := by
  -- 燃料についての帰納法。燃料は道筋の外の要素の数より多いまま減る。
  induction fuel with
  | zero =>
    intro _ _ _ _ h
    exact absurd h (Nat.not_lt_zero _)
  | succ fuel ih =>
    intro path x found r hlt hfound h
    rw [collectInit] at h
    have hrec : ∀ s acc r', s ∈ g.decl.elements → s.id ∉ path →
        (∀ y ∈ acc, y ∈ g.decl.elements) → g.collectInit fuel s.id (s.id :: path) acc = .ok r' →
        ∃ new, r' = acc ++ new ∧ new.Nodup ∧ ∀ t, t ∈ new ↔ t ∉ acc ∧ g.InitFeeds s t := by
      intro s acc r' hs hsP hacc h'
      have hlt' : g.unvisited (s.id :: path) < fuel := by
        have := unvisited_cons_lt hs hsP
        omega
      exact ih _ s acc r' hlt' hacc h'
    have hstep : ∀ f acc r', (∀ y ∈ acc, y ∈ g.decl.elements) →
        g.visitInit (g.collectInit fuel) path acc f = .ok r' →
        ∃ new, r' = acc ++ new ∧ new.Nodup ∧ ∀ s, s ∈ new ↔ s ∉ acc ∧ g.InitStep f s :=
      fun _ _ _ hacc h' => visitInit_ok hnd hrec hacc h'
    obtain ⟨new, rfl, hnodup, hmem⟩ :=
      foldlM_accumulates (fun _ _ h => InitStep.mem h) hstep _ found r hfound h
    refine ⟨new, rfl, hnodup, fun s => ?_⟩
    rw [hmem s, initFeeds_iff]
    constructor
    · rintro ⟨hs, f, hf, s', hs', ⟨hi, rfl⟩ | ⟨hk, hi, hinit⟩⟩
      · exact ⟨hs, .inl ⟨hi, f, hf, hs'⟩⟩
      · exact ⟨hs, .inr ⟨s', ⟨⟨f, hf, hs'⟩, hk, hi⟩, hinit⟩⟩
    · rintro ⟨hs, ⟨hi, f, hf, hs'⟩ | ⟨s', ⟨⟨f, hf, hs'⟩, hk, hi⟩, hinit⟩⟩
      · exact ⟨hs, f, hf, s, hs', .inl ⟨hi, rfl⟩⟩
      · exact ⟨hs, f, hf, s', hs', .inr ⟨hk, hi, hinit⟩⟩

end Collect

/-! ## 一覧に一度ずつ並べる -/

theorem distinctById_congr : ∀ (els : List ElementDecl) {s₁ s₂ : List String},
    (∀ id, id ∈ s₁ ↔ id ∈ s₂) → distinctById els s₁ = distinctById els s₂
  | [], _, _, _ => rfl
  | el :: rest, s₁, s₂, h => by
    have hcons : ∀ id, id ∈ el.id :: s₁ ↔ id ∈ el.id :: s₂ := by simp [h]
    by_cases h₁ : el.id ∈ s₁
    · have h₂ := (h _).mp h₁
      simp [distinctById, h₁, h₂, distinctById_congr rest h]
    · have h₂ : el.id ∉ s₂ := fun h₂ => h₁ ((h _).mpr h₂)
      simp [distinctById, h₁, h₂, distinctById_congr rest hcons]

/-- 二つの列をつないだものから二度目以降を除くと、前の列から除いたものに、後ろの列から前の列の
id も除いたものが続く。 -/
theorem distinctById_append : ∀ (xs ys : List ElementDecl) (seen : List String),
    distinctById (xs ++ ys) seen = distinctById xs seen ++ distinctById ys (xs.map (·.id) ++ seen)
  | [], _, _ => rfl
  | x :: xs, ys, seen => by
    by_cases hx : x.id ∈ seen
    · simp only [List.cons_append, distinctById, List.contains_iff_mem, hx, if_true,
        distinctById_append xs ys seen, List.map_cons]
      congr 1
      exact distinctById_congr ys fun id => by simp only [List.mem_append, List.mem_cons]; grind
    · simp only [List.cons_append, distinctById, List.contains_iff_mem, hx, if_false,
        distinctById_append xs ys (x.id :: seen), List.map_cons, List.cons_append]
      congr 2
      exact distinctById_congr ys fun id => by simp only [List.mem_append, List.mem_cons]; grind

/-- id に重複のない列から二度目以降を除くのは、見た id を除くことである。 -/
theorem distinctById_of_nodup : ∀ (xs : List ElementDecl) (seen : List String),
    (xs.map (·.id)).Nodup → distinctById xs seen = xs.filter fun x => !seen.contains x.id
  | [], _, _ => rfl
  | x :: xs, seen, h => by
    obtain ⟨hx, hxs⟩ := List.nodup_cons.mp h
    by_cases hs : x.id ∈ seen
    · simp [distinctById, hs, distinctById_of_nodup xs seen hxs]
    · have hs' : seen.contains x.id = false := by simpa using hs
      simp only [distinctById, hs', Bool.false_eq_true, if_false, List.filter_cons, Bool.not_false,
        if_true]
      rw [distinctById_of_nodup xs _ hxs]
      congr 1
      refine List.filter_congr fun y hy => ?_
      have hne : y.id ≠ x.id := fun h => hx (List.mem_map.mpr ⟨y, hy, h⟩)
      simp [hne]

/-- 検査済みのモデルの要素の二つの列、宣言順の部分列 `O` と重複のない `I` をつなぎ、二度目
以降を除くと、`O` に、`I` のうち `O` にないものが一度ずつ続く。要素の id は重複しないので、
id で比べることは要素で比べることである。 -/
theorem distinctById_sublist_append (hnd : (g.decl.elements.map (·.id)).Nodup)
    {O I : List ElementDecl} (hO : O.Sublist g.decl.elements) (hI : I.Nodup)
    (hIel : ∀ x ∈ I, x ∈ g.decl.elements) :
    ∃ I', distinctById (O ++ I) [] = O ++ I' ∧ I'.Nodup ∧ ∀ x, x ∈ I' ↔ x ∈ I ∧ x ∉ O := by
  have hOel : ∀ x ∈ O, x ∈ g.decl.elements := fun x hx => hO.subset hx
  have hOnd : (O.map (·.id)).Nodup := hnd.sublist (hO.map fun x : ElementDecl => x.id)
  have hInd : (I.map (·.id)).Nodup :=
    hI.map_on fun x hx y hy h => eq_of_id_eq hnd (hIel x hx) (hIel y hy) h
  refine ⟨I.filter fun x => !((O.map ElementDecl.id) ++ []).contains x.id, ?_, hI.filter _,
    fun x => ?_⟩
  · rw [distinctById_append, distinctById_of_nodup _ _ hOnd, distinctById_of_nodup _ _ hInd]
    simp
  · simp only [List.mem_filter, List.append_nil, Bool.not_eq_eq_eq_not, Bool.not_true,
      Bool.eq_false_iff, ne_eq, List.contains_iff_mem]
    refine and_congr_right fun hx => not_congr ?_
    exact ⟨fun h => mem_of_id_mem hnd hOel (hIel x hx) h, List.mem_map_of_mem⟩

theorem taskElement?_spec {t : Int} {el : ElementDecl} (h : g.taskElement? t = some el) :
    el ∈ g.decl.elements ∧ el.kind = .task := by
  have hp := List.find?_some h
  simp only [Bool.and_eq_true, beq_iff_eq] at hp
  exact ⟨List.mem_of_find?_eq_some h, hp.1⟩

theorem forall₂_filterMap {α β : Type} {f : α → Option β} :
    ∀ {l : List α}, (∀ x ∈ l, (f x).isSome) →
      List.Forall₂ (fun x y => f x = some y) l (l.filterMap f)
  | [], _ => .nil
  | x :: l, h => by
    obtain ⟨y, hy⟩ := Option.isSome_iff_exists.mp (h x List.mem_cons_self)
    rw [List.filterMap_cons_some hy]
    exact .cons hy (forall₂_filterMap fun x hx => h x (List.mem_cons_of_mem _ hx))

/-- **タスクで起こせるイベント。** 検査済みのモデルで、タスク id `t` のタスク要素 `task` について、
一覧（`eventsOfTask`）が誤るのは、タスクから初期イベントでないイベントをさかのぼって同じイベントに
戻れるときに限り、その誤りは循環の誤りである。そうでなければ一覧は、出ていくイベント `O`（届く
イベントを要素の宣言順に）に、さかのぼって届く初期イベントのうち `O` にないもの `I` を一度ずつ
続け、それぞれをタスク id `t` のイベントの実体にしたものである。 -/
theorem eventsOfTask_spec {m : ModelDecl} (hg : Graph.ofDecl m = .ok g) {t : Int}
    {task : ElementDecl} (ht : g.taskElement? t = some task) :
    ((∃ e, g.eventsOfTask t = .error e) ↔ g.EventCycle task) ∧
    (∀ e, g.eventsOfTask t = .error e →
      ∃ name : String, e = .invalidModel g.version s!"cyclic event chain at '{name}'") ∧
    (¬ g.EventCycle task → ∃ O I evs, g.eventsOfTask t = .ok evs ∧
      O.Sublist g.decl.elements ∧ (∀ x, x ∈ O ↔ x ∈ g.decl.elements ∧ g.ReachedEvent task x) ∧
      I.Nodup ∧ (∀ x, x ∈ I ↔ g.InitFeeds task x ∧ x ∉ O) ∧
      List.Forall₂ (fun x ev => x.eventEntity? t = some ev) (O ++ I) evs) := by
  have hnd := ofDecl_ids_nodup hg
  obtain ⟨htask, hkt⟩ := taskElement?_spec ht
  have herr := collectInit_error_iff g.searchFuel [task.id] task []
    (unvisited_lt_searchFuel _)
  rw [revisits_iff_eventCycle hnd htask hkt] at herr
  have hinit : g.initEvents task = g.collectInit g.searchFuel task.id [task.id] [] := rfl
  have heq : g.eventsOfTask t = (g.initEvents task).bind fun init =>
      .ok ((distinctById (g.outgoingEvents task ++ init) []).filterMap (·.eventEntity? t)) := by
    simp only [eventsOfTask, ht]
    rfl
  rw [heq, hinit]
  cases hc : g.collectInit g.searchFuel task.id [task.id] [] with
  | error e =>
    have hcyc := herr.mp ⟨e, hc⟩
    refine ⟨⟨fun _ => hcyc, fun _ => ⟨e, rfl⟩⟩, fun e' he' => ?_, fun h => absurd hcyc h⟩
    cases he'
    exact collectInit_error_message _ _ _ _ _ hc
  | ok init =>
    have hncyc : ¬ g.EventCycle task := fun h => by
      obtain ⟨e, he⟩ := herr.mpr h
      rw [hc] at he
      cases he
    refine ⟨⟨fun h => ?_, fun h => absurd h hncyc⟩, fun e he => (by cases he), fun _ => ?_⟩
    · obtain ⟨e, he⟩ := h
      cases he
    obtain ⟨hsub, hO⟩ := outgoingEvents_spec hnd htask hkt
    obtain ⟨new, hnew, hinit_nd, hinit_mem⟩ :=
      collectInit_ok hnd g.searchFuel [task.id] task [] init
        (unvisited_lt_searchFuel _) (by simp) hc
    simp only [List.nil_append, List.not_mem_nil, not_false_eq_true, true_and] at hnew hinit_mem
    subst hnew
    have hinit_el : ∀ x ∈ init, x ∈ g.decl.elements := fun x hx => by
      obtain ⟨-, y, -, hy⟩ := (hinit_mem x).mp hx
      exact hy.mem
    -- 一覧は、出ていくイベントに、そこにない初期イベントが続いたものである。
    obtain ⟨I, hlist, hI, hImem⟩ := distinctById_sublist_append hnd hsub hinit_nd hinit_el
    refine ⟨g.outgoingEvents task, I, _, ?_, hsub, hO, hI, fun x => ?_,
      forall₂_filterMap fun x hx => ?_⟩
    · simp only [Except.bind, hlist]
    · rw [hImem, hinit_mem]
    · -- 一覧のどの要素もイベント要素なので、イベントの実体になる。
      have hev : x ∈ g.decl.elements ∧ x.kind = .event := by
        rcases List.mem_append.mp hx with hx | hx
        · obtain ⟨hxel, hr⟩ := (hO x).mp hx
          exact ⟨hxel, hr.1⟩
        · have hxi := ((hImem x).mp hx).1
          exact ⟨hinit_el x hxi, kind_of_isInitEvent ((hinit_mem x).mp hxi).1⟩
      simpa [ElementDecl.eventEntity?] using ofDecl_event_isSome hg x hev.1 hev.2

/-- 答え `res` は、タスク id `t` のタスクで起こせるイベントの一覧として正しい。タスクがなければ空。
あれば、タスクから初期イベントでないイベントをさかのぼって同じイベントに戻れるときに限り循環の
誤りで、そうでなければ、出ていくイベント `O`（届くイベントを要素の宣言順に）に、さかのぼって届く
初期イベントのうち `O` にないもの `I` を一度ずつ続け、それぞれをタスク id `t` のイベントの実体に
したものである。 -/
def EventsAnswer (t : Int) (res : Except Error (List Event)) : Prop :=
  (g.taskElement? t = none → res = .ok []) ∧
  ∀ task, g.taskElement? t = some task →
    ((∃ e, res = .error e) ↔ g.EventCycle task) ∧
    (∀ e, res = .error e →
      ∃ name : String, e = .invalidModel g.version s!"cyclic event chain at '{name}'") ∧
    (¬ g.EventCycle task → ∃ O I evs, res = .ok evs ∧
      O.Sublist g.decl.elements ∧ (∀ x, x ∈ O ↔ x ∈ g.decl.elements ∧ g.ReachedEvent task x) ∧
      I.Nodup ∧ (∀ x, x ∈ I ↔ g.InitFeeds task x ∧ x ∉ O) ∧
      List.Forall₂ (fun x ev => x.eventEntity? t = some ev) (O ++ I) evs)

/-- 検査済みのモデルでは、`eventsOfTask` は起こせるイベントの一覧として正しい。 -/
theorem eventsOfTask_answer {m : ModelDecl} (hg : Graph.ofDecl m = .ok g) (t : Int) :
    g.EventsAnswer t (g.eventsOfTask t) :=
  ⟨eventsOfTask_of_taskElement?_eq_none, fun _ ht => eventsOfTask_spec hg ht⟩

end Graph

namespace Registry

/-- **タスクで起こせるイベントを引く。** 検査済みのモデル `g` を、控えが登録簿と合い（`CacheInv`）、
`g` がその版の登録済みのモデルそのものである（`Current`）登録簿で引くと、タスク id `t` で起こせる
イベントの一覧は `EventsAnswer` の通りであり、イベント id `e` のイベントはその一覧で最初に id が
`e` のイベントである。 -/
theorem findEvents_answer {m : ModelDecl} {g : Graph} (hg : Graph.ofDecl m = .ok g) (t : Int)
    {r : Registry} (hinv : r.CacheInv) (hcur : r.Current g) :
    g.EventsAnswer t (r.findEvents g t).1 ∧
      ∀ e, (r.findEvent g t e).1 = (r.findEvents g t).1.map (·.find? (·.id == e)) := by
  rw [(findEvents_spec t hinv hcur).1]
  exact ⟨g.eventsOfTask_answer hg t, fun e => by
    rw [(findEvent_spec t e hinv hcur).1, g.eventOf?_eq]⟩

end Registry

/-- タスク `t`（タスク id 1）。 -/
def reviewTask : ElementDecl :=
  { id := "t", kind := .task, name := "Review", process := some "p", task := some { id := 1 } }

/-- タスク `t` のあとのイベント `e20`。 -/
def reviewedEvent : ElementDecl :=
  { id := "e20", kind := .event, name := "go", process := some "p", event := some { id := 20 } }

/-- タスク `t` からイベント `e20` へ進むモデル。 -/
def reviewModel : ModelDecl where
  version := "c"
  processes := [{ id := "p", name := "P" }]
  elements := [reviewTask, reviewedEvent]
  flows := [{ id := "f", source := "t", target := "e20" }]

/-- `reviewModel` を検査したモデル。 -/
def reviewGraph : Graph :=
  { decl := reviewModel, checksum := reviewModel.checksum,
    definition := itemsDocument reviewModel.definition }

/-- `reviewGraph` だけを登録した登録簿で、タスク 1 のイベントを引く。 -/
theorem review_events_answer :
    Graph.ofDecl reviewModel = .ok reviewGraph ∧ (Registry.publish [("c", reviewGraph)]).CacheInv ∧
      (Registry.publish [("c", reviewGraph)]).Current reviewGraph ∧
      reviewGraph.EventsAnswer 1
        ((Registry.publish [("c", reviewGraph)]).findEvents reviewGraph 1).1 ∧
      ∀ e, ((Registry.publish [("c", reviewGraph)]).findEvent reviewGraph 1 e).1 =
        ((Registry.publish [("c", reviewGraph)]).findEvents reviewGraph 1).1.map
          (·.find? (·.id == e)) := by
  have hversion : Text.isBlankText "c" = false := by decide +kernel
  have hg : Graph.ofDecl reviewModel = .ok reviewGraph := by
    simp only [Graph.ofDecl, reviewModel, hversion]
    rfl
  have hinv := Registry.cacheInv_publish [("c", reviewGraph)]
  have hcur : (Registry.publish [("c", reviewGraph)]).Current reviewGraph :=
    Registry.current_of_find? rfl
  exact ⟨hg, hinv, hcur, Registry.findEvents_answer hg 1 hinv hcur⟩

end Workflow.Model
