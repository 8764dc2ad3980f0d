import Mathlib
import Workflow.Kernel.Process
import Workflow.Proofs.Members
import Workflow.Proofs.Resolution

/-!
# 遷移は繰り返さず、処理は終わる

一度の処理で行う遷移（`タスク.イベント`）について次を示す。

* 遷移のイベントは登録簿で引くか、同じ処理で連鎖して見つけたものなので、行った遷移の
  （タスク id、イベント id）は、登録されたモデルのタスク要素のタスク id と、同じモデルの
  イベント要素のイベント id の組（`transitionPairs`）である。
* 遷移を一つ行うたびに、まだ行っていない遷移が記録に一つ足される（`transitionStep_spec`）。
  同じ遷移が二度目なら、イベントを引く前に、拡張を動かさずループとして止まる。
* そこで記録は重複のない組の並びで、長さは組の数を超えず、燃料（`transitionFuel`）は尽きない。
  燃料を増やしても処理の答えは変わらない。

前提は、登録簿が整い（`WellFormed`）、控えが登録されたモデルと合っている（`CacheInv`）ことで
ある。控えが古いモデルの値を持てば、登録されたモデルにないイベントで遷移が起きうる。
-/

namespace Workflow.Model.Registry

/-- 登録されたモデルで遷移になりうる（タスク id、イベント id）の組：同じモデルのタスク要素の
タスク id とイベント要素のイベント id。 -/
def transitionPairs (r : Registry) : List (Int × Int) :=
  r.models.flatMap fun p => p.2.taskIds ×ˢ p.2.eventIds

theorem mem_transitionPairs {r : Registry} {v : String} {g : Graph} {t e : Int}
    (hg : r.find? v = some g) (ht : t ∈ g.taskIds) (he : e ∈ g.eventIds) :
    (t, e) ∈ r.transitionPairs :=
  List.mem_flatMap.mpr ⟨(v, g), mem_of_lookup_eq_some hg, List.mem_product.mpr ⟨ht, he⟩⟩

theorem find?_eq_of_models_eq {r r' : Registry} (h : r'.models = r.models) (v : String) :
    r'.find? v = r.find? v := by
  simp only [find?, h]

end Workflow.Model.Registry

namespace Workflow.Kernel

open Workflow.Model

/-! ## 遷移の繰り返しの不変条件 -/

/-- 連鎖で見つけたイベントの鍵は、その版で登録されたモデルのタスク要素とイベント要素の組である。 -/
def ChainedInv (reg : Registry) (chained : Chained) : Prop :=
  ∀ c ∈ chained, ∃ g, reg.find? c.1.1 = some g ∧ c.1.2.1 ∈ g.taskIds ∧ c.1.2.2 ∈ g.eventIds

/-- 遷移の繰り返しの状態の不変条件。`reg` は処理を始めたときの登録簿で、繰り返しの間に
変わるのは控えだけである。 -/
structure LoopInv (reg : Registry) (st : LoopState) : Prop where
  models : st.registry.models = reg.models
  caches : st.registry.CacheInv
  nodup : st.history.Nodup
  history : ∀ x ∈ st.history, ∃ p ∈ reg.transitionPairs, x = transitionName p.1 p.2
  chained : ChainedInv reg st.chained

/-- 処理を始めたときの状態は不変条件を満たす。 -/
theorem LoopInv.start {reg : Registry} (hinv : reg.CacheInv) (d : Document) :
    LoopInv reg { doc := d, history := [], chained := [], registry := reg } where
  models := rfl
  caches := hinv
  nodup := List.nodup_nil
  history := by simp
  chained := by simp [ChainedInv]

section Steps

variable {reg : Registry}

/-- イベントを引く：登録されたモデル `g` で引けたイベントの組は、`g` のタスク要素とイベント要素
の組である。登録されたモデルは変わらず、`CacheInv` は保たれる。 -/
theorem lookupEvent_spec (hwf : reg.WellFormed) {r : Registry} (hm : r.models = reg.models)
    (hinv : r.CacheInv) {g : Graph} (hg : reg.find? g.version = some g) {chained : Chained}
    (hch : ChainedInv reg chained) (t e : Int) :
    (lookupEvent r g chained t e).2.models = reg.models ∧ (lookupEvent r g chained t e).2.CacheInv ∧
      ∀ ev, (lookupEvent r g chained t e).1 = .ok ev → t ∈ g.taskIds ∧ e ∈ g.eventIds := by
  have hcur : r.Current g :=
    Registry.current_of_find? (by rw [Registry.find?_eq_of_models_eq hm]; exact hg)
  have hnd := hwf.distinctIds _ (mem_of_lookup_eq_some hg)
  obtain ⟨hres, hm', hinv'⟩ := Registry.findEvent_spec t e hinv hcur
  unfold lookupEvent
  generalize r.findEvent g t e = fe at hres hm' hinv'
  obtain ⟨res, r'⟩ := fe
  simp only at hres hm' hinv' ⊢
  -- 登録簿で引けたか、連鎖で見つけたものか、どちらにもないか。
  match res, hres with
  | .error err, _ => exact ⟨hm'.trans hm, hinv', fun _ h => by cases h⟩
  | .ok (some ev), hres =>
    exact ⟨hm'.trans hm, hinv', fun _ _ => Graph.eventOf?_ids hnd hres.symm⟩
  | .ok none, _ =>
    cases hc : chained.lookup (g.version, t, e) with
    | none => exact ⟨hm'.trans hm, hinv', fun _ h => by cases h⟩
    | some ev =>
      refine ⟨hm'.trans hm, hinv', fun _ _ => ?_⟩
      obtain ⟨g', hg', ht, he⟩ := hch _ (mem_of_lookup_eq_some hc)
      rw [hg] at hg'
      cases hg'
      exact ⟨ht, he⟩

/-- 文書のモデルを解決する：答えるモデルは登録されたモデルで、登録されたモデルは変わらず、
`CacheInv` は保たれる。 -/
theorem resolveModel_spec {r : Registry} (hwf : r.WellFormed) (hinv : r.CacheInv) (d : Document) :
    SatisfiesM (fun res : Except Error Graph × Document × Registry =>
        res.2.2.models = r.models ∧ res.2.2.CacheInv ∧
          ∀ g, res.1 = .ok g → r.find? g.version = some g)
      (resolveModel r d) := by
  obtain ⟨hm, hinv', hg⟩ := Registry.resolve_spec hwf hinv d
  unfold resolveModel
  exact SatisfiesM.bind (SatisfiesM.trivial (m := Run)) fun _ _ => SatisfiesM.pure ⟨hm, hinv', hg⟩

/-- モデルの切り替え：登録されたモデルは変わらず、`CacheInv` は保たれ、誤りはモデルの誤りである。 -/
theorem switchModel_spec {r : Registry} (hwf : r.WellFormed) (hinv : r.CacheInv) (d : Document)
    (sw : ModelSwitch) :
    SatisfiesM (fun res : Document × Registry × Option KernelError =>
        res.2.1.models = r.models ∧ res.2.1.CacheInv ∧ ∀ e, res.2.2 = some e → ∃ err, e = .model err)
      (switchModel r d sw) := by
  unfold switchModel
  refine SatisfiesM.bind (resolveModel_spec hwf hinv _) ?_
  rintro ⟨found, d, r'⟩ ⟨hm, hinv', hfound⟩
  simp only at hm hinv' hfound ⊢
  cases found with
  | error e => exact SatisfiesM.pure ⟨hm, hinv', fun _ h => ⟨e, (Option.some.inj h).symm⟩⟩
  | ok g =>
    -- 切り替え先のタスクは、解決した登録されたモデルで控えを通して引く。
    have hcur : r'.Current g :=
      Registry.current_of_find? (by rw [Registry.find?_eq_of_models_eq hm]; exact hfound g rfl)
    simp only
    split
    · next tid htid =>
      obtain ⟨-, hm', hinv''⟩ := Registry.findTask_spec tid hinv' hcur
      split
      · next hf =>
        rw [hf] at hm' hinv''
        exact SatisfiesM.pure ⟨hm'.trans hm, hinv'', fun _ h => by cases h⟩
      · next hf =>
        rw [hf] at hm' hinv''
        exact SatisfiesM.pure ⟨hm'.trans hm, hinv'', fun _ h => ⟨_, (Option.some.inj h).symm⟩⟩
    · exact SatisfiesM.pure ⟨hm, hinv', fun _ h => by cases h⟩

/-- イベントにモデルの切り替えがあれば行う。`switchModel_spec` と同じことが成り立つ。 -/
theorem applySwitch_spec {r : Registry} (hwf : r.WellFormed) (hinv : r.CacheInv) (d : Document)
    (sw : Option ModelSwitch) :
    SatisfiesM (fun res : Document × Registry × Option KernelError =>
        res.2.1.models = r.models ∧ res.2.1.CacheInv ∧ ∀ e, res.2.2 = some e → ∃ err, e = .model err)
      (applySwitch r d sw) := by
  cases sw with
  | some sw => exact switchModel_spec hwf hinv d sw
  | none => exact SatisfiesM.pure ⟨rfl, hinv, fun _ h => by cases h⟩

/-- 次の要素へ進む：連鎖に覚えるのは、登録されたモデル `g` で遷移のタスク id と次のイベントの
id の組であり、どちらも `g` の要素のものである。 -/
theorem applyNext_chainedInv {g : Graph} (hg : reg.find? g.version = some g) {t : Int}
    (ht : t ∈ g.taskIds) (d : Document) {chained : Chained} (hch : ChainedInv reg chained)
    {next : Option NextElement} (hnext : ∀ f, next = some (.event f) → f.id ∈ g.eventIds) :
    ChainedInv reg (applyNext g.version t d chained next).2 := by
  match next, hnext with
  | some (.task _), _ => exact hch
  | none, _ => exact hch
  | some (.event f), hnext =>
    intro c hc
    rcases List.mem_cons.mp hc with rfl | hc
    · exact ⟨g, hg, ht, hnext f rfl⟩
    · exact hch c (List.mem_of_mem_filter hc)

/-- 拡張のあとの遷移の残り：記録は変わらず、登録されたモデルも変わらず、`CacheInv` と連鎖の
不変条件は保たれる。 -/
theorem finishTransition_spec (hwf : reg.WellFormed) (config : KernelConfig) {g : Graph}
    (hg : reg.find? g.version = some g) (ev : Event) {t : Int} (ht : t ∈ g.taskIds)
    (transition : String) {st : LoopState} (hm : st.registry.models = reg.models)
    (hinv : st.registry.CacheInv) (hch : ChainedInv reg st.chained) :
    SatisfiesM (fun res : LoopState × StepOutcome =>
        res.1.history = st.history ∧ res.1.registry.models = reg.models ∧
          res.1.registry.CacheInv ∧ ChainedInv reg res.1.chained)
      (finishTransition config g ev t transition st) := by
  have hnext := SatisfiesM_ExceptT_eq.mp
    (Graph.nextElement_event_id (g := g) (fun c => Runtime.evaluate c st.doc) ev)
  unfold finishTransition
  refine SatisfiesM.bind hnext ?_
  rintro (err | next) hnext
  · exact SatisfiesM.pure ⟨rfl, hm, hinv, hch⟩
  · have hch' := applyNext_chainedInv hg ht st.doc hch (hnext next rfl)
    refine SatisfiesM.bind (applySwitch_spec (hwf.of_models_eq hm) hinv _ _) ?_
    rintro ⟨d, r', err⟩ ⟨hm', hinv', -⟩
    simp only at hm' hinv' ⊢
    split
    · exact SatisfiesM.pure ⟨rfl, hm'.trans hm, hinv', hch'⟩
    · exact SatisfiesM.bind (SatisfiesM.trivial (m := Run)) fun _ _ =>
        SatisfiesM.pure ⟨rfl, hm'.trans hm, hinv', hch'⟩

/-- 遷移を一つ行ったあとの状態について言えること：不変条件が保たれ、続けるなら（`.next`）、
まだ行っていない登録された組の遷移が記録に一つ足されている。 -/
def StepPost (reg : Registry) (st : LoopState) (res : LoopState × StepOutcome) : Prop :=
  LoopInv reg res.1 ∧
    (res.2 = .next → ∃ p ∈ reg.transitionPairs,
      transitionName p.1 p.2 ∉ st.history ∧ res.1.history = st.history ++ [transitionName p.1 p.2])

/-- 記録を変えず、登録簿と連鎖の不変条件を保つ状態は、不変条件を満たす。 -/
theorem LoopInv.of_history_eq {st st' : LoopState} (hinv : LoopInv reg st)
    (hh : st'.history = st.history) (hm : st'.registry.models = reg.models)
    (hc : st'.registry.CacheInv) (hch : ChainedInv reg st'.chained) : LoopInv reg st' where
  models := hm
  caches := hc
  nodup := hh ▸ hinv.nodup
  history := hh ▸ hinv.history
  chained := hch

/-- 記録に、まだない登録された組の遷移を一つ足しても、記録は重複がなく登録された組のままである。 -/
theorem LoopInv.of_history_append {st st' : LoopState} (hinv : LoopInv reg st) {p : Int × Int}
    (hp : p ∈ reg.transitionPairs) (hfresh : transitionName p.1 p.2 ∉ st.history)
    (hh : st'.history = st.history ++ [transitionName p.1 p.2])
    (hm : st'.registry.models = reg.models) (hc : st'.registry.CacheInv)
    (hch : ChainedInv reg st'.chained) : LoopInv reg st' where
  models := hm
  caches := hc
  nodup := hh ▸ List.nodup_append.mpr ⟨hinv.nodup, List.nodup_singleton _,
    fun a ha b hb => by rw [List.mem_singleton.mp hb]; exact fun h => hfresh (h ▸ ha)⟩
  history := by
    rw [hh]
    intro x hx
    rcases List.mem_append.mp hx with hx | hx
    · exact hinv.history x hx
    · exact ⟨p, hp, List.mem_singleton.mp hx⟩
  chained := hch

/-- **一つの遷移。** 同じ遷移が二度目ならループとして止まる。そうでなければ、イベントを引き、
拡張を動かし、成功すれば遷移を記録に足して残りを行う。どの場合も不変条件は保たれ、続けるなら
記録にはまだない登録された組の遷移が一つ足されている。拡張が何をしても成り立つ。 -/
theorem runTransition_spec (hwf : reg.WellFormed) (config : KernelConfig)
    (execute : String → Document → Event → Run (Document × Option KernelError)) {g : Graph}
    (hg : reg.find? g.version = some g) {st : LoopState} (hinv : LoopInv reg st) :
    SatisfiesM (StepPost reg st) (runTransition config execute g st) := by
  unfold runTransition
  simp only
  split
  · exact SatisfiesM.pure ⟨hinv, fun h => by cases h⟩
  · next hnew =>
    have hfresh : transitionName st.doc.taskId st.doc.eventId ∉ st.history := by
      simpa using hnew
    obtain ⟨hm, hc, hev⟩ := lookupEvent_spec hwf hinv.models hinv.caches hg hinv.chained
      st.doc.taskId st.doc.eventId
    generalize lookupEvent st.registry g st.chained st.doc.taskId st.doc.eventId = lk at hm hc hev
    obtain ⟨res, r'⟩ := lk
    simp only at hm hc hev ⊢
    cases res with
    | error err =>
      exact SatisfiesM.pure ⟨hinv.of_history_eq rfl hm hc hinv.chained, fun h => by cases h⟩
    | ok ev =>
      obtain ⟨ht, he⟩ := hev ev rfl
      have hp := Registry.mem_transitionPairs hg ht he
      simp only
      refine SatisfiesM.bind (SatisfiesM.trivial (m := Run)) fun _ _ => ?_
      refine SatisfiesM.bind (SatisfiesM.trivial (m := Run)) fun res _ => ?_
      obtain ⟨d, err⟩ := res
      cases err with
      | some err =>
        exact SatisfiesM.pure ⟨hinv.of_history_eq rfl hm hc hinv.chained, fun h => by cases h⟩
      | none =>
        -- 拡張が成功した遷移は記録に足される。残りは記録を変えない。
        refine SatisfiesM.imp (finishTransition_spec hwf config hg ev ht _ hm hc hinv.chained) ?_
        rintro ⟨st', o⟩ ⟨hh, hm', hc', hch'⟩
        exact ⟨hinv.of_history_append hp hfresh hh hm' hc' hch',
          fun _ => ⟨_, hp, hfresh, hh⟩⟩

/-- 同じ遷移が二度目なら、イベントを引かず拡張も動かさずに、その遷移とそれまでの記録を持つ
ループの誤りで止まる。 -/
theorem runTransition_of_mem_history (config : KernelConfig)
    (execute : String → Document → Event → Run (Document × Option KernelError)) (g : Graph)
    {st : LoopState} (h : transitionName st.doc.taskId st.doc.eventId ∈ st.history) :
    runTransition config execute g st =
      pure (st, .failed (.loopDetected (transitionName st.doc.taskId st.doc.eventId) st.history)) := by
  unfold runTransition
  simp only [List.contains_iff_mem.mpr h, if_true]

/-- 遷移を一つ行う：保留中のイベントを取り出し、文書のモデルを解決して `runTransition` を行う。
不変条件は保たれ、続けるなら記録にまだない登録された組の遷移が一つ足されている。 -/
theorem transitionStep_spec (hwf : reg.WellFormed) (config : KernelConfig)
    (execute : String → Document → Event → Run (Document × Option KernelError)) {st : LoopState}
    (hinv : LoopInv reg st) : SatisfiesM (StepPost reg st) (transitionStep config execute st) := by
  unfold transitionStep
  split
  · exact SatisfiesM.pure
      ⟨hinv.of_history_eq rfl hinv.models hinv.caches hinv.chained, fun h => by cases h⟩
  · refine SatisfiesM.bind (resolveModel_spec (hwf.of_models_eq hinv.models) hinv.caches _) ?_
    rintro ⟨found, d, r'⟩ ⟨hm, hc, hfound⟩
    simp only at hm hc hfound ⊢
    have hm' : r'.models = reg.models := hm.trans hinv.models
    cases found with
    | error e =>
      refine SatisfiesM.pure ⟨?_, fun h => by cases h⟩
      exact hinv.of_history_eq rfl hm' hc hinv.chained
    | ok g =>
      have hg : reg.find? g.version = some g := by
        rw [← Registry.find?_eq_of_models_eq hinv.models]
        exact hfound g rfl
      -- 解決のあとの状態は、記録がもとと同じなので事後条件も同じである。
      refine SatisfiesM.imp (runTransition_spec hwf config execute hg ?_) fun h => h
      exact hinv.of_history_eq rfl hm' hc hinv.chained

/-- 重複がなく、どれも登録された組の名前である記録は、組の数より長くない。 -/
theorem length_le_of_transitionPairs {history : List String} (hnd : history.Nodup)
    (hp : ∀ x ∈ history, ∃ p ∈ reg.transitionPairs, x = transitionName p.1 p.2) :
    history.length ≤ reg.transitionPairs.toFinset.card := by
  have hsub : history.toFinset ⊆
      reg.transitionPairs.toFinset.image fun p => transitionName p.1 p.2 := by
    intro x hx
    obtain ⟨p, hp, rfl⟩ := hp x (List.mem_toFinset.mp hx)
    exact Finset.mem_image.mpr ⟨p, List.mem_toFinset.mpr hp, rfl⟩
  calc history.length = history.toFinset.card := (List.toFinset_card_of_nodup hnd).symm
    _ ≤ (reg.transitionPairs.toFinset.image fun p => transitionName p.1 p.2).card :=
      Finset.card_le_card hsub
    _ ≤ reg.transitionPairs.toFinset.card := Finset.card_image_le

theorem LoopInv.length_le {st : LoopState} (hinv : LoopInv reg st) :
    st.history.length ≤ reg.transitionPairs.toFinset.card :=
  length_le_of_transitionPairs hinv.nodup hinv.history

/-- 組の数は燃料より少ない：組はモデルごとのタスク id とイベント id の組なので、その数は
要素の数の和の 2 乗を超えない。 -/
theorem length_flatMap_pairs_le :
    ∀ ms : List (String × Graph),
      (ms.flatMap fun p => p.2.taskIds ×ˢ p.2.eventIds).length ≤
        (ms.map fun p => p.2.decl.elements.length).sum *
          (ms.map fun p => p.2.decl.elements.length).sum
  | [] => by simp
  | (v, g) :: ms => by
    have ht : g.taskIds.length ≤ g.decl.elements.length := List.length_filterMap_le _ _
    have he : g.eventIds.length ≤ g.decl.elements.length := List.length_filterMap_le _ _
    have ih := length_flatMap_pairs_le ms
    simp only [List.flatMap_cons, List.length_append, List.length_product, List.map_cons,
      List.sum_cons]
    generalize (ms.map fun p => p.2.decl.elements.length).sum = S at ih ⊢
    generalize g.decl.elements.length = e at ht he ⊢
    calc g.taskIds.length * g.eventIds.length + _ ≤ e * e + S * S :=
          Nat.add_le_add (Nat.mul_le_mul ht he) ih
      _ ≤ (e + S) * (e + S) := by nlinarith [Nat.zero_le (e * S)]

theorem card_transitionPairs_lt_transitionFuel (reg : Registry) :
    reg.transitionPairs.toFinset.card < transitionFuel reg := by
  have hpairs := length_flatMap_pairs_le reg.models
  unfold transitionFuel
  simp only [List.length_flatMap]
  generalize (reg.models.map fun p => p.2.decl.elements.length).sum = s at hpairs ⊢
  have hle : s * s ≤ (s + reg.caches.eventCount) * (s + reg.caches.eventCount) :=
    Nat.mul_le_mul (Nat.le_add_right _ _) (Nat.le_add_right _ _)
  calc reg.transitionPairs.toFinset.card ≤ reg.transitionPairs.length := List.toFinset_card_le _
    _ ≤ s * s := hpairs
    _ < (s + reg.caches.eventCount) * (s + reg.caches.eventCount) + 1 := by omega

end Steps

section Loop

variable {reg : Registry} (hwf : reg.WellFormed) (config : KernelConfig)
  (execute : String → Document → Event → Run (Document × Option KernelError))
include hwf

/-- 繰り返しは不変条件を保つ。燃料についての帰納法で、一歩は `transitionStep_spec` である。 -/
theorem transitionLoop_spec :
    ∀ (fuel : Nat) {st : LoopState}, LoopInv reg st →
      SatisfiesM (fun res : LoopState × Option KernelError => LoopInv reg res.1)
        (transitionLoop config execute fuel st)
  | 0, _, hinv => SatisfiesM.pure hinv
  | fuel + 1, st, hinv => by
    unfold transitionLoop
    refine SatisfiesM.bind (transitionStep_spec hwf config execute hinv) ?_
    rintro ⟨st', o⟩ ⟨hinv', -⟩
    cases o with
    | done => exact SatisfiesM.pure hinv'
    | failed e => exact SatisfiesM.pure hinv'
    | next => exact transitionLoop_spec fuel hinv'

/-- **燃料は尽きない。** 記録の長さと残りの燃料の和が組の数を超えていれば、燃料をいくら足しても
繰り返しの答えは変わらない。続ける遷移はどれも記録を一つ伸ばし、記録は組の数より長くならない
からである。 -/
theorem transitionLoop_add_fuel :
    ∀ (n : Nat) {st : LoopState}, LoopInv reg st →
      reg.transitionPairs.toFinset.card < st.history.length + n →
      ∀ j, transitionLoop config execute (n + j) st = transitionLoop config execute n st
  | 0, st, hinv, hlt, _ => absurd hinv.length_le (by omega)
  | n + 1, st, hinv, hlt, j => by
    rw [show n + 1 + j = (n + j) + 1 by omega]
    unfold transitionLoop
    refine bind_congr_of_satisfiesM (transitionStep_spec hwf config execute hinv) ?_
    rintro ⟨st', o⟩ ⟨hinv', hnext⟩
    dsimp only at hinv' hnext
    cases o with
    | done => rfl
    | failed e => rfl
    | next =>
      obtain ⟨p, -, -, hh⟩ := hnext rfl
      have hlen : st'.history.length = st.history.length + 1 := by
        rw [hh, List.length_append, List.length_singleton]
      exact transitionLoop_add_fuel n hinv' (by omega) j

end Loop

/-- 一度の処理の記録：重複がなく、どれも登録された組の遷移で、処理の結果の記録と核の記録は
同じである。 -/
theorem process_spec (k : Kernel) (hwf : k.registry.WellFormed) (hinv : k.registry.CacheInv)
    (d : Document) :
    SatisfiesM (fun res : Except KernelError ProcessResult × Document × Kernel =>
        res.2.2.history.Nodup ∧
          (∀ x ∈ res.2.2.history, ∃ p ∈ k.registry.transitionPairs, x = transitionName p.1 p.2) ∧
          ∀ r, res.1 = .ok r → r.history = res.2.2.history)
      (k.process d) := by
  unfold Kernel.process
  split
  · exact SatisfiesM.pure ⟨List.nodup_nil, by simp, fun _ h => by cases h⟩
  · refine SatisfiesM.bind (SatisfiesM.trivial (m := Run)) ?_
    rintro ⟨previous, d'⟩ -
    refine SatisfiesM.bind (transitionLoop_spec hwf _ _ _ (LoopInv.start hinv d')) ?_
    rintro ⟨st, err⟩ hst
    cases err with
    | some e => exact SatisfiesM.pure ⟨hst.nodup, hst.history, fun _ h => by cases h⟩
    | none => exact SatisfiesM.pure ⟨hst.nodup, hst.history, fun _ h => by cases h; rfl⟩

/-- **遷移は繰り返さず、処理は終わる。** 整った登録簿で控えが登録されたモデルと合っていれば、
拡張が何をしても次が成り立つ。

* 燃料（`transitionFuel`）をいくら足しても、遷移の繰り返しの答えは変わらない。
* 遷移を一つ行うと、不変条件が保たれ、続けるなら、まだ行っていない登録された組の遷移が
  記録に一つ足されている。
* 同じ遷移が二度目なら、拡張を動かさずに、その遷移とそれまでの記録を持つループの誤りで止まる。
* 処理の記録は重複がなく、どれも登録されたモデルのタスク要素とイベント要素の組の遷移で、
  長さは組の数を超えず、処理の結果の記録は核の記録に等しい。 -/
theorem transitions_never_repeat (k : Kernel) (hwf : k.registry.WellFormed)
    (hinv : k.registry.CacheInv) :
    (∀ (execute : String → Document → Event → Run (Document × Option KernelError))
        (d : Document) (j : Nat),
      transitionLoop k.config execute (transitionFuel k.registry + j)
          { doc := d, history := [], chained := [], registry := k.registry } =
        transitionLoop k.config execute (transitionFuel k.registry)
          { doc := d, history := [], chained := [], registry := k.registry }) ∧
    (∀ (execute : String → Document → Event → Run (Document × Option KernelError))
        (st : LoopState), LoopInv k.registry st →
      SatisfiesM (StepPost k.registry st) (transitionStep k.config execute st)) ∧
    (∀ (execute : String → Document → Event → Run (Document × Option KernelError)) (g : Graph)
        (st : LoopState), transitionName st.doc.taskId st.doc.eventId ∈ st.history →
      runTransition k.config execute g st =
        pure (st, .failed (.loopDetected (transitionName st.doc.taskId st.doc.eventId) st.history))) ∧
    ∀ d : Document,
      SatisfiesM (fun res : Except KernelError ProcessResult × Document × Kernel =>
          res.2.2.history.Nodup ∧
            (∀ x ∈ res.2.2.history, ∃ p ∈ k.registry.transitionPairs, x = transitionName p.1 p.2) ∧
            res.2.2.history.length ≤ k.registry.transitionPairs.toFinset.card ∧
            ∀ r, res.1 = .ok r → r.history = res.2.2.history)
        (k.process d) := by
  refine ⟨fun execute d j => ?_, fun execute _ h => transitionStep_spec hwf k.config execute h,
    fun execute g _ h => runTransition_of_mem_history k.config execute g h, fun d => ?_⟩
  · -- 始めは記録が空で、燃料は組の数より多い。
    have hfuel := card_transitionPairs_lt_transitionFuel k.registry
    exact transitionLoop_add_fuel hwf k.config execute _ (LoopInv.start hinv d) (by simpa using hfuel) j
  · refine SatisfiesM.imp (process_spec k hwf hinv d) ?_
    rintro _ ⟨hnd, hp, hres⟩
    exact ⟨hnd, hp, length_le_of_transitionPairs hnd hp, hres⟩

/-- タスク 1 からイベント 10 へ進むモデルを一つ登録した核：登録簿は整い、控えは空で、
どの文書の処理の記録も重複がなく、組（1, 10）の遷移だけからなる。 -/
theorem transitions_never_repeat_single_model :
    let g : Graph :=
      { decl := { version := "1.0",
                  elements := [{ id := "t", kind := .task, task := some { id := 1 } },
                               { id := "e", kind := .event, event := some { id := 10 } }],
                  flows := [{ source := "t", target := "e" }] },
        checksum := "c", definition := { items := [] } }
    let k : Kernel := { registry := Registry.publish [("1.0", g)] }
    k.registry.WellFormed ∧ k.registry.CacheInv ∧
      ∀ d : Document,
        SatisfiesM (fun res : Except KernelError ProcessResult × Document × Kernel =>
            res.2.2.history.Nodup ∧
              (∀ x ∈ res.2.2.history, ∃ p ∈ k.registry.transitionPairs, x = transitionName p.1 p.2) ∧
              res.2.2.history.length ≤ k.registry.transitionPairs.toFinset.card ∧
              ∀ r, res.1 = .ok r → r.history = res.2.2.history)
          (k.process d) := by
  intro g k
  have hwf : k.registry.WellFormed :=
    { versions := by simp [k, g, Graph.version]
      sorted := List.pairwise_singleton _ _
      distinctIds := by simp [k, g] }
  have hinv : k.registry.CacheInv := Registry.cacheInv_publish _
  exact ⟨hwf, hinv, (transitions_never_repeat k hwf hinv).2.2.2⟩

end Workflow.Kernel
