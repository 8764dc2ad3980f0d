import Mathlib
import Workflow.Proofs.Stamps
import Workflow.Proofs.NavigationEffects

/-!
# 評価は処理を言い当てる

評価（`eval`）は文書の写しで遷移をたどり、拡張を動かさない。処理（`process`）は遷移の前に
文書に印を押し（`Document.stampedItems`）、遷移ごとに拡張を動かす。二つを同じ歩みで並べ、
似た環境から始めれば、どの遷移でも答えが同じで、文書は押印の項目のほかは同じであることを示す。

* `Mirror` — 二つの計算が、似た環境（`Runtime.Alike`）からは関係にある答えを返し、環境を似た
  ままにする。`pure` と束ねで閉じる。
* `mirror_bindRel` — `Mirror` は束ねで閉じた関係なので、次の要素の二つの探索にも
  `Graph.nextElement_rel` で及ぶ。
* `transitionLoop_mirror` — 押印の項目のほかが同じ状態からの二つの繰り返しは、拡張が互いに
  写し合えば、同じ歩みで進む。
* `eval_predicts_process` — 拡張が文書を変えず誤りなく終わり、名指される合図のアダプタが登録され、
  流れの条件が押印の項目を読まず、遷移の記録の注釈の項目が押印の項目でなければ、評価の答えは
  処理の答えのタスクである。誤りなら同じ誤りである。
-/

namespace Workflow.Model

open Workflow.Document

/-! ## 押印の項目を読まない条件 -/

/-- 条件の字面は押印の項目を読まない：読めた式のどれも、押印の項目を読まない。 -/
def ConditionUnstamped (c : String) : Prop :=
  ∀ cond, Condition.parse c = .ok cond → ∀ n ∈ cond.reads, normalize n ∉ stampedItems

/-- モデルのどのフローの条件も押印の項目を読まない。 -/
def Graph.ConditionsUnstamped (g : Graph) : Prop :=
  ∀ f ∈ g.decl.flows, ∀ c, f.activeCondition = some c → ConditionUnstamped c

/-- 登録されたどのモデルのフローの条件も押印の項目を読まない。 -/
def Registry.ConditionsUnstamped (reg : Registry) : Prop :=
  ∀ p ∈ reg.models, p.2.ConditionsUnstamped

end Workflow.Model

namespace Workflow.Kernel

open Workflow.Model Workflow.Document

/-! ## 似た環境で並べる -/

/-- 二つの条件の評価器が同じ答えを出す：どちらも控えが読み直しと同じ式の評価器か、同じ表。 -/
inductive Judge.Agree : Judge → Judge → Prop
  | conditions {ev₁ ev₂ : Condition.Evaluator} :
      ev₁.Parsed → ev₂.Parsed → Judge.Agree (.conditions ev₁) (.conditions ev₂)
  | table (answers : List (String × TableAnswer)) (fallback : Bool) :
      Judge.Agree (.table answers fallback) (.table answers fallback)

/-- 二つの環境で核の答えが同じになる：時計が同じで、条件の評価器が同じ答えを出す。記録、乱数の
種、移し替えを記録するかは違ってよい。 -/
structure Runtime.Alike (r₁ r₂ : Runtime) : Prop where
  clock : r₁.clock = r₂.clock
  judge : r₁.judge.Agree r₂.judge

/-- 二つの計算が、似た環境からは関係 `R` にある答えを返し、環境を似たままにする。 -/
def Mirror {α β : Type} (R : α → β → Prop) (x : Run α) (y : Run β) : Prop :=
  ∀ r₁ r₂ : Runtime, r₁.Alike r₂ → R (x.run r₁).1 (y.run r₂).1 ∧ (x.run r₁).2.Alike (y.run r₂).2

/-- 計算 `x` は、どの環境からも答え `a` を返し、記録のほかは環境を変えない。 -/
def NotesOnly {α : Type} (x : Run α) (a : α) : Prop :=
  ∀ r, ∃ J, x.run r = (a, { r with journal := J })

/-- 片側だけで進む計算 `y`：ほかの環境と似た環境を似たままにし、答えは `Q` を満たす。 -/
def KeepsAlike {β : Type} (y : Run β) (Q : β → Prop) : Prop :=
  ∀ r₁ r₂ : Runtime, r₁.Alike r₂ → r₁.Alike (y.run r₂).2 ∧ Q (y.run r₂).1

section Rules

variable {α β γ δ : Type} {R : α → β → Prop} {S : γ → δ → Prop} {x : Run α} {y : Run β}

theorem Mirror.pure {a : α} {b : β} (h : R a b) : Mirror R (Pure.pure a) (Pure.pure b) :=
  fun _ _ hr => ⟨h, hr⟩

theorem Mirror.bind {f : α → Run γ} {g : β → Run δ} (hx : Mirror R x y)
    (hf : ∀ a b, R a b → Mirror S (f a) (g b)) : Mirror S (x >>= f) (y >>= g) := by
  intro r₁ r₂ hr
  obtain ⟨hR, hr'⟩ := hx r₁ r₂ hr
  exact hf _ _ hR _ _ hr'

theorem Mirror.imp {R' : α → β → Prop} (h : Mirror R x y) (hR : ∀ a b, R a b → R' a b) :
    Mirror R' x y :=
  fun r₁ r₂ hr => (h r₁ r₂ hr).imp_left (hR _ _)

/-- 右の計算の事後条件を、並べた関係に足す。 -/
theorem Mirror.and_satisfiesM {Q : β → Prop} (h : Mirror R x y) (hq : SatisfiesM Q y) :
    Mirror (fun a b => R a b ∧ Q b) x y :=
  fun r₁ r₂ hr => (h r₁ r₂ hr).imp_left fun hR => ⟨hR, SatisfiesM.run_fst hq r₂⟩

/-- 右だけで進む計算が環境を似たままにすれば、その答えの事後条件のもとで、続きを並べればよい。 -/
theorem Mirror.bind_right {Q : β → Prop} {g : β → Run γ} {S' : α → γ → Prop} (hy : KeepsAlike y Q)
    (hg : ∀ b, Q b → Mirror S' x (g b)) : Mirror S' x (y >>= g) :=
  fun r₁ r₂ hr => hg _ (hy r₁ r₂ hr).2 r₁ _ (hy r₁ r₂ hr).1

theorem NotesOnly.pure (a : α) : NotesOnly (Pure.pure a) a :=
  fun r => ⟨r.journal, rfl⟩

theorem NotesOnly.bind {f : α → Run γ} {a : α} {c : γ} (hx : NotesOnly x a) (hf : NotesOnly (f a) c) :
    NotesOnly (x >>= f) c := by
  intro r
  obtain ⟨J, hJ⟩ := hx r
  obtain ⟨J', hJ'⟩ := hf { r with journal := J }
  refine ⟨J', ?_⟩
  show (f (x.run r).1).run (x.run r).2 = _
  rw [hJ]
  exact hJ'

theorem NotesOnly.note (l : String) : NotesOnly (Runtime.note l) () :=
  fun r => ⟨r.journal.push l, rfl⟩

/-- 記録のほかを変えない二つの計算は、答えが関係にあれば並ぶ。 -/
theorem Mirror.of_notesOnly {a : α} {b : β} (hx : NotesOnly x a) (hy : NotesOnly y b) (h : R a b) :
    Mirror R x y := by
  intro r₁ r₂ hr
  obtain ⟨J₁, h₁⟩ := hx r₁
  obtain ⟨J₂, h₂⟩ := hy r₂
  rw [h₁, h₂]
  exact ⟨h, hr.clock, hr.judge⟩

end Rules

/-! ## 環境に頼む計算 -/

theorem now_mirror : Mirror Eq Runtime.now Runtime.now :=
  fun _ _ hr => ⟨hr.clock, hr⟩

theorem migratedIf_notesOnly (m : Option Migration) : NotesOnly (Runtime.migratedIf m) () := by
  intro r
  cases m with
  | none => exact ⟨r.journal, rfl⟩
  | some m =>
    obtain ⟨j, rec, jr, clock, seed⟩ := r
    cases rec
    · exact ⟨jr, rfl⟩
    · exact ⟨_, rfl⟩

section Keeps

variable {α β : Type} {P : α → Prop} {Q : β → Prop}

theorem KeepsAlike.bind {x : Run α} {f : α → Run β} (hx : KeepsAlike x P)
    (hf : ∀ a, P a → KeepsAlike (f a) Q) : KeepsAlike (x >>= f) Q :=
  fun r₁ r₂ hr => hf _ (hx r₁ r₂ hr).2 r₁ _ (hx r₁ r₂ hr).1

theorem KeepsAlike.pure {b : β} (h : Q b) : KeepsAlike (Pure.pure b) Q :=
  fun _ _ hr => ⟨hr, h⟩

theorem now_keepsAlike : KeepsAlike Runtime.now fun _ => True :=
  fun _ _ hr => ⟨hr, trivial⟩

theorem draw_keepsAlike : KeepsAlike Runtime.draw fun _ => True := by
  intro r₁ r₂ hr
  refine ⟨?_, trivial⟩
  -- 引くのは種だけを進める。
  show r₁.Alike { r₂ with seed := _ }
  exact ⟨hr.clock, hr.judge⟩

end Keeps

theorem newUniqueId_keepsAlike : KeepsAlike newUniqueId fun _ => True := by
  unfold newUniqueId
  exact KeepsAlike.bind now_keepsAlike fun _ _ =>
    KeepsAlike.bind draw_keepsAlike fun _ _ => KeepsAlike.pure trivial

theorem newTransactionId_keepsAlike : KeepsAlike newTransactionId fun _ => True := by
  unfold newTransactionId
  exact KeepsAlike.bind draw_keepsAlike fun _ _ => KeepsAlike.pure trivial

/-- **条件の評価は押印の項目によらない。** 押印の項目を読まない条件は、押印の項目のほかが同じ
文書で、似た環境から同じ答えを出す。 -/
theorem evaluate_mirror {c : String} (hc : ConditionUnstamped c) {d₁ d₂ : Document}
    (h : StampTwins d₁ d₂) : Mirror Eq (Runtime.evaluate c d₁) (Runtime.evaluate c d₂) := by
  intro r₁ r₂ hr
  obtain ⟨hclock, hj⟩ := hr
  obtain ⟨j₁, rec₁, jr₁, clock₁, seed₁⟩ := r₁
  obtain ⟨j₂, rec₂, jr₂, clock₂, seed₂⟩ := r₂
  dsimp only at hclock hj
  cases hj with
  | conditions h₁ h₂ =>
    next ev₁ ev₂ =>
    have e₁ : (Runtime.evaluate c d₁).run ⟨.conditions ev₁, rec₁, jr₁, clock₁, seed₁⟩ =
        ((ev₁.evaluate c d₁).1, ⟨.conditions (ev₁.evaluate c d₁).2, rec₁, jr₁, clock₁, seed₁⟩) := rfl
    have e₂ : (Runtime.evaluate c d₂).run ⟨.conditions ev₂, rec₂, jr₂, clock₂, seed₂⟩ =
        ((ev₂.evaluate c d₂).1, ⟨.conditions (ev₂.evaluate c d₂).2, rec₂, jr₂, clock₂, seed₂⟩) := rfl
    rw [e₁, e₂]
    -- どちらも字面を読み直した式で評価し、その式は押印の項目を読まない。
    refine ⟨?_, hclock, .conditions (h₁.evaluate_snd c d₁) (h₂.evaluate_snd c d₂)⟩
    rw [h₁.evaluate_fst, h₂.evaluate_fst]
    cases hp : Condition.parse c with
    | error e => rfl
    | ok cond => simp only [Except.map, cond.eval_twins (hc cond hp) h]
  | table answers fallback => exact ⟨rfl, hclock, .table answers fallback⟩

/-! ## 文書を変えない拡張 -/

set_option linter.dupNamespace false in
/-- 拡張がどれも文書を変えず誤りなく終わる：どのアダプタも、どのプラグインも、動けば文書を
そのまま返し、プラグインは閉じても失敗しない。 -/
structure Kernel.Quiet (k : Kernel) : Prop where
  adapters : ∀ a ∈ k.adapters, ∀ d ev r, ((a.execute d ev).run r).1 = (d, none)
  plugins : ∀ p ∈ k.plugins, ∀ d ev r, ((p.run d ev).run r).1 = (d, none)
  closes : ∀ p ∈ k.plugins, ∀ b r, ((p.close b).run r).1 = none

set_option linter.dupNamespace false in
/-- 名指される合図のアダプタが登録されている：登録されたモデルのイベント要素の実体が合図の
アダプタを名指せば、その id のアダプタがある。 -/
def Kernel.SignalsRegistered (k : Kernel) : Prop :=
  ∀ p ∈ k.registry.models, ∀ ev, p.2.EventEntity ev →
    ∀ id, ev.signalAdapter = some id → ∃ a ∈ k.adapters, a.id = id

/-- モデルのイベント要素が名指す合図のアダプタの id。 -/
def signalNames (g : Graph) : List String :=
  g.decl.elements.filterMap fun el => el.event.bind fun e => e.signal.filter fun s => !Text.isBlankText s

/-- イベント要素の実体が名指す合図のアダプタは、モデルのイベント要素のどれかが名指すものである。
登録されたモデルの名指す id がどれも登録されていれば、名指される合図のアダプタは登録されている。 -/
theorem signalsRegistered_of_names {k : Kernel}
    (h : ∀ p ∈ k.registry.models, ∀ id ∈ signalNames p.2, ∃ a ∈ k.adapters, a.id = id) :
    k.SignalsRegistered := by
  rintro p hp ev ⟨el, hel, -, hent⟩ id hid
  simp only [ElementDecl.eventEntity?, Option.map_eq_some_iff] at hent
  obtain ⟨e, he, hev⟩ := hent
  refine h p hp id (List.mem_filterMap.mpr ⟨el, hel, ?_⟩)
  rw [he, ← hid, ← hev]
  rfl

section Quiet

variable {α : Type}

theorem NotesOnly.of_run {x : Run α} {a : α} (h₁ : ∀ r, (x.run r).1 = a)
    (h₂ : ∀ r, ∃ J, (x.run r).2 = { r with journal := J }) : NotesOnly x a := by
  intro r
  obtain ⟨J, hJ⟩ := h₂ r
  exact ⟨J, Prod.ext (h₁ r) hJ⟩

variable {d : Document} {ev : Event}

/-- アダプタは動いても記録のほかは環境を変えない。 -/
theorem Adapter.execute_notes (a : Adapter) (r : Runtime) :
    ∃ J, ((a.execute d ev).run r).2 = { r with journal := J } :=
  ⟨_, by unfold Adapter.execute; dsimp only; split <;> rfl⟩

theorem Plugin.run_notes (p : Plugin) (r : Runtime) :
    ∃ J, ((p.run d ev).run r).2 = { r with journal := J } := by
  -- 最小のプラグインも、失敗するイベントでも、動いた行を書くだけである。
  unfold Plugin.run
  dsimp only
  split
  · exact ⟨_, rfl⟩
  · split
    · exact ⟨_, rfl⟩
    · exact ⟨_, rfl⟩

theorem Plugin.close_notes (p : Plugin) (b : Bool) (r : Runtime) :
    ∃ J, ((p.close b).run r).2 = { r with journal := J } := by
  unfold Plugin.close
  split
  · exact ⟨r.journal, rfl⟩
  · exact ⟨_, rfl⟩

variable {k : Kernel} (hq : k.Quiet)
include hq

theorem runAdapter_notesOnly {a : Adapter} (ha : a ∈ k.adapters) :
    NotesOnly (runAdapter a d ev) (d, none) := by
  unfold runAdapter
  exact NotesOnly.bind (.of_run (hq.adapters a ha d ev) a.execute_notes) (NotesOnly.pure _)

theorem runAdapters_notesOnly : ∀ as : List Adapter, (∀ a ∈ as, a ∈ k.adapters) →
    NotesOnly (runAdapters as d ev) (d, none)
  | [], _ => NotesOnly.pure _
  | a :: rest, has => by
    unfold runAdapters
    exact NotesOnly.bind (runAdapter_notesOnly hq (has a List.mem_cons_self))
      (runAdapters_notesOnly rest fun b hb => has b (List.mem_cons_of_mem a hb))

theorem executeAdapters_notesOnly (v : String)
    (hsig : ∀ id, ev.signalAdapter = some id → ∃ a ∈ k.adapters, a.id = id) :
    NotesOnly (executeAdapters k.adapters v d ev) (d, none) := by
  have hstatic : NotesOnly (runAdapters (k.adapters.filter (·.kind == .static)) d ev) (d, none) :=
    runAdapters_notesOnly hq _ fun a ha => List.mem_of_mem_filter ha
  unfold executeAdapters
  refine NotesOnly.bind (runAdapters_notesOnly hq _ fun a ha => List.mem_of_mem_filter ha) ?_
  simp only [Option.isSome_none, Bool.false_eq_true, if_false]
  -- 名指された合図のアダプタは登録されているので、見つかって誤りなく終わる。
  cases hs : ev.signalAdapter with
  | none => exact NotesOnly.bind (NotesOnly.pure _) hstatic
  | some id =>
    obtain ⟨a, ha, hid⟩ := hsig id hs
    obtain ⟨b, hb⟩ := Option.isSome_iff_exists.mp
      (List.find?_isSome.mpr ⟨a, ha, by simp [hid]⟩ : (k.adapters.find? (·.id == id)).isSome)
    simp only [hb]
    split
    · exact NotesOnly.bind (runAdapter_notesOnly hq (List.mem_of_find?_eq_some hb)) hstatic
    · exact NotesOnly.bind (NotesOnly.pure _) hstatic

theorem runPlugins_notesOnly : ∀ ps : List Plugin, (∀ p ∈ ps, p ∈ k.plugins) →
    NotesOnly (runPlugins ps d ev) (d, none)
  | [], _ => NotesOnly.pure _
  | p :: rest, hps => by
    unfold runPlugins
    exact NotesOnly.bind (.of_run (hq.plugins p (hps p List.mem_cons_self) d ev) p.run_notes)
      (runPlugins_notesOnly rest fun q hq' => hps q (List.mem_cons_of_mem p hq'))

theorem closePlugins_notesOnly (b : Bool) : ∀ ps : List Plugin, (∀ p ∈ ps, p ∈ k.plugins) →
    ∀ outcome, NotesOnly (closePlugins b ps outcome) outcome
  | [], _, outcome => NotesOnly.pure outcome
  | p :: rest, hps, outcome => by
    unfold closePlugins
    exact NotesOnly.bind (.of_run (hq.closes p (hps p List.mem_cons_self) b) (p.close_notes b))
      (closePlugins_notesOnly b rest (fun q hq' => hps q (List.mem_cons_of_mem p hq')) outcome)

/-- **文書を変えない拡張。** 拡張がどれも文書を変えず誤りなく終わり、イベントが名指す合図の
アダプタが登録されていれば、遷移ごとの拡張の処理は文書をそのまま返し、記録のほかは環境を
変えない。 -/
theorem executeExtensions_notesOnly (v : String)
    (hsig : ∀ id, ev.signalAdapter = some id → ∃ a ∈ k.adapters, a.id = id) :
    NotesOnly (k.executeExtensions v d ev) (d, none) := by
  unfold Kernel.executeExtensions executePlugins
  refine NotesOnly.bind (executeAdapters_notesOnly hq v hsig) ?_
  simp only [Option.isSome_none, Bool.false_eq_true, if_false]
  exact NotesOnly.bind (runPlugins_notesOnly hq _ fun p hp => hp)
    (NotesOnly.bind (closePlugins_notesOnly hq _ _ (fun p hp => hp) none) (NotesOnly.pure _))

end Quiet

/-- 二つの拡張の処理が互いに写し合う：登録されたモデルのイベント要素の実体では、押印の項目の
ほかが同じ文書から、似た環境で、押印の項目のほかが同じ文書と同じ誤りを返す。 -/
def ExtensionsMirror (reg : Registry)
    (exec₁ exec₂ : String → Document → Event → Run (Document × Option KernelError)) : Prop :=
  ∀ v ev, (∃ p ∈ reg.models, p.2.EventEntity ev) → ∀ d₁ d₂, StampTwins d₁ d₂ →
    Mirror (fun a b => StampTwins a.1 b.1 ∧ a.2 = b.2) (exec₁ v d₁ ev) (exec₂ v d₂ ev)

/-- 文書を変えない拡張は、拡張を動かさない評価の処理を写す。 -/
theorem quiet_extensionsMirror {k : Kernel} (hq : k.Quiet) (hsig : k.SignalsRegistered) :
    ExtensionsMirror k.registry (fun _ d _ => pure (d, none)) k.executeExtensions := by
  rintro v ev ⟨p, hp, hent⟩ d₁ d₂ h
  exact Mirror.of_notesOnly (NotesOnly.pure _) (executeExtensions_notesOnly hq v (hsig p hp ev hent))
    ⟨h, rfl⟩

/-! ## 遷移を並べる -/

/-- 繰り返しの二つの状態が押印の項目のほかは同じ：文書は押印の項目のほかが同じで、記録、連鎖の
表、登録簿は同じ。 -/
structure StepTwins (st₁ st₂ : LoopState) : Prop where
  doc : StampTwins st₁.doc st₂.doc
  history : st₁.history = st₂.history
  chained : st₁.chained = st₂.chained
  registry : st₁.registry = st₂.registry

/-- 答えが同じ値を返す計算の関係は、`pure` と束ねで閉じる。 -/
theorem mirror_bindRel : Graph.BindRel (m := Run) fun _ x y => Mirror Eq x y where
  pure _ := Mirror.pure rfl
  bind hx hf := Mirror.bind hx fun a _ hab => hab ▸ hf a

section Steps

variable {d₁ d₂ : Document}

theorem resolveModel_notesOnly (reg : Registry) (d : Document) :
    NotesOnly (resolveModel reg d) ((reg.resolve d).result, (reg.resolve d).doc, (reg.resolve d).registry) := by
  unfold resolveModel
  exact NotesOnly.bind (migratedIf_notesOnly _) (NotesOnly.pure _)

theorem resolveModel_mirror (h : StampTwins d₁ d₂) (reg : Registry) :
    Mirror (fun a b => a.1 = b.1 ∧ StampTwins a.2.1 b.2.1 ∧ a.2.2 = b.2.2)
      (resolveModel reg d₁) (resolveModel reg d₂) := by
  obtain ⟨hres, -, hreg, hdoc⟩ := resolve_twins h reg
  exact Mirror.of_notesOnly (resolveModel_notesOnly reg d₁) (resolveModel_notesOnly reg d₂)
    ⟨hres, hdoc, hreg⟩

theorem switchModel_mirror (h : StampTwins d₁ d₂) (reg : Registry) (sw : ModelSwitch) :
    Mirror (fun a b => StampTwins a.1 b.1 ∧ a.2 = b.2) (switchModel reg d₁ sw) (switchModel reg d₂ sw) := by
  unfold switchModel
  refine Mirror.bind (resolveModel_mirror (h.setItem _ _) reg) ?_
  rintro ⟨found, e₁, reg₁⟩ ⟨_, e₂, _⟩ ⟨rfl, htw, rfl⟩
  cases found with
  | error e => exact Mirror.pure ⟨htw, rfl⟩
  | ok g =>
    dsimp only
    -- 切り替え先のタスクは同じ登録簿から引くので、どちらも同じに見つかるか見つからない。
    split
    · split
      · exact Mirror.pure ⟨(enterTask_twins htw _).setItem _ _, rfl⟩
      · exact Mirror.pure ⟨htw, rfl⟩
    · exact Mirror.pure ⟨htw.setItem _ _, rfl⟩

theorem applySwitch_mirror (h : StampTwins d₁ d₂) (reg : Registry) (sw : Option ModelSwitch) :
    Mirror (fun a b => StampTwins a.1 b.1 ∧ a.2 = b.2) (applySwitch reg d₁ sw) (applySwitch reg d₂ sw) := by
  cases sw with
  | none => exact Mirror.pure ⟨h, rfl⟩
  | some sw => exact switchModel_mirror h reg sw

/-- 遷移の記録に一行足すのは、注釈の項目が押印の項目でなければ、押印の項目のほかが同じ文書で
同じ一行を足す。 -/
theorem appendLogEntry_mirror {config : KernelConfig}
    (hc : normalize config.logCommentItem ∉ stampedItems) (h : StampTwins d₁ d₂)
    (version transition : String) (t : Int) :
    Mirror StampTwins (appendLogEntry config d₁ version transition t)
      (appendLogEntry config d₂ version transition t) := by
  have hrem := h.removeItem_fst hc
  have htw := h.removeItem config.logCommentItem
  unfold appendLogEntry
  refine Mirror.bind now_mirror ?_
  rintro now _ rfl
  generalize d₁.removeItem config.logCommentItem = p₁ at hrem htw ⊢
  generalize d₂.removeItem config.logCommentItem = p₂ at hrem htw ⊢
  obtain ⟨removed, e₁⟩ := p₁
  obtain ⟨_, e₂⟩ := p₂
  dsimp only at hrem htw ⊢
  subst hrem
  rw [htw.get (by decide +kernel)]
  exact Mirror.pure (htw.setItems _ _)

theorem applyNext_twins (h : StampTwins d₁ d₂) (version : String) (t : Int) (chained : Chained)
    (next : Option NextElement) :
    StampTwins (applyNext version t d₁ chained next).1 (applyNext version t d₂ chained next).1 ∧
      (applyNext version t d₁ chained next).2 = (applyNext version t d₂ chained next).2 := by
  rcases next with _ | (task | following)
  · exact ⟨h, rfl⟩
  · exact ⟨enterTask_twins h task, rfl⟩
  · exact ⟨h.appendPendingEvent _, rfl⟩

theorem finishTransition_mirror {config : KernelConfig}
    (hc : normalize config.logCommentItem ∉ stampedItems) {g : Graph} (hg : g.ConditionsUnstamped)
    (ev : Event) (t : Int) (transition : String) {st₁ st₂ : LoopState} (h : StepTwins st₁ st₂) :
    Mirror (fun a b => StepTwins a.1 b.1 ∧ a.2 = b.2)
      (finishTransition config g ev t transition st₁) (finishTransition config g ev t transition st₂) := by
  have hnav := Graph.nextElement_rel mirror_bindRel
    (fun f hf c hc => evaluate_mirror (hg f hf c hc) h.doc) ev
  unfold finishTransition
  refine Mirror.bind hnav ?_
  rintro nav _ rfl
  cases nav with
  | error err => exact Mirror.pure ⟨h, rfl⟩
  | ok next =>
    dsimp only
    obtain ⟨hnd, hnch⟩ := applyNext_twins h.doc g.version t st₁.chained next
    rw [← h.registry, ← h.chained]
    -- 後続イベントを足し、モデルを切り替え、遷移の記録に一行足すのは、どれも両方で同じに起きる。
    refine Mirror.bind (applySwitch_mirror ?_ _ _) ?_
    · split
      · exact hnd.appendPendingEvent _
      · exact hnd
    rintro ⟨e₁, reg₁, err⟩ ⟨e₂, reg₂, err₂⟩ ⟨htw, hrest⟩
    obtain ⟨rfl, rfl⟩ := Prod.mk.inj hrest
    dsimp only at htw ⊢
    cases err with
    | some err => exact Mirror.pure ⟨⟨htw, h.history, hnch, rfl⟩, rfl⟩
    | none =>
      dsimp only
      rw [← htw.taskId]
      exact Mirror.bind (appendLogEntry_mirror hc htw _ _ _) fun _ _ hd =>
        Mirror.pure ⟨⟨hd, h.history, hnch, rfl⟩, rfl⟩

/-- 控えが登録されたモデルと合っていれば、引けたイベントは登録されたモデルのイベント要素の実体で
ある。 -/
theorem lookupEvent_entity {reg : Registry} (hwf : reg.WellFormed) {g : Graph} (hg : reg.find? g.version = some g) {st : LoopState}
    (hinv : LoopInv reg st) (hch : ChainedEntities reg st.chained) {ev : Event} {registry : Registry}
    (hlk : lookupEvent st.registry g st.chained st.doc.taskId st.doc.eventId = (.ok ev, registry)) :
    ∃ p ∈ reg.models, p.2.EventEntity ev := by
  have hcur : st.registry.Current g :=
    Registry.current_of_find? (by rw [Registry.find?_eq_of_models_eq hinv.models]; exact hg)
  obtain ⟨evs, hevs, hfound⟩ :=
    (lookupEvent_eq_ok hinv.caches hcur st.chained st.doc.taskId st.doc.eventId ev).mp (by rw [hlk])
  have hmem : (g.version, g) ∈ reg.models := mem_of_lookup_eq_some hg
  exact ⟨_, hmem, (found_entity (hwf.distinctIds _ hmem) hg hch hevs hfound).1⟩

variable {config : KernelConfig} (hc : normalize config.logCommentItem ∉ stampedItems)
  {reg : Registry} (hwf : reg.WellFormed) (hreads : reg.ConditionsUnstamped)
  {exec₁ exec₂ : String → Document → Event → Run (Document × Option KernelError)}
  (hexec : ExtensionsMirror reg exec₁ exec₂)
include hc hwf hexec

theorem runTransition_mirror {g : Graph} (hg : reg.find? g.version = some g)
    (hgc : g.ConditionsUnstamped) {st₁ st₂ : LoopState} (h : StepTwins st₁ st₂)
    (hinv : LoopInv reg st₂) (hch : ChainedEntities reg st₂.chained) :
    Mirror (fun a b => StepTwins a.1 b.1 ∧ a.2 = b.2)
      (runTransition config exec₁ g st₁) (runTransition config exec₂ g st₂) := by
  have hent : ∀ ev registry,
      lookupEvent st₂.registry g st₂.chained st₂.doc.taskId st₂.doc.eventId = (.ok ev, registry) →
        ∃ p ∈ reg.models, p.2.EventEntity ev :=
    fun _ _ => lookupEvent_entity hwf hg hinv hch
  unfold runTransition
  rw [← h.doc.taskId, ← h.doc.eventId, ← h.registry, ← h.chained] at hent
  rw [← h.doc.taskId, ← h.doc.eventId, ← h.history, ← h.registry, ← h.chained]
  dsimp only
  split
  · exact Mirror.pure ⟨h, rfl⟩
  · split
    · exact Mirror.pure ⟨⟨h.doc, rfl, rfl, rfl⟩, rfl⟩
    · next ev registry hlk =>
      refine Mirror.bind now_mirror ?_
      rintro now _ rfl
      refine Mirror.bind (hexec g.version ev (hent ev registry hlk) _ _
        ((h.doc.setItem _ _).setItem _ _)) ?_
      rintro ⟨e₁, err⟩ ⟨e₂, err₂⟩ ⟨htw, herr⟩
      dsimp only at htw herr ⊢
      subst herr
      cases err with
      | some err => exact Mirror.pure ⟨⟨htw, rfl, rfl, rfl⟩, rfl⟩
      | none => exact finishTransition_mirror hc hgc ev _ _ ⟨htw.setItem _ _, rfl, rfl, rfl⟩

include hreads

theorem transitionStep_mirror {st₁ st₂ : LoopState} (h : StepTwins st₁ st₂) (hinv : LoopInv reg st₂)
    (hch : ChainedEntities reg st₂.chained) :
    Mirror (fun a b => StepTwins a.1 b.1 ∧ a.2 = b.2)
      (transitionStep config exec₁ st₁) (transitionStep config exec₂ st₂) := by
  have hm₁ : st₁.registry.models = reg.models := by rw [h.registry]; exact hinv.models
  have hcache₁ : st₁.registry.CacheInv := by rw [h.registry]; exact hinv.caches
  have htake := takeEvent_twins h.doc
  unfold transitionStep
  generalize takeEvent st₁.doc = o₁ at htake ⊢
  generalize takeEvent st₂.doc = o₂ at htake ⊢
  cases htake with
  | inl htw => exact Mirror.pure ⟨⟨htw, h.history, h.chained, h.registry⟩, rfl⟩
  | inr htw =>
    dsimp only
    rw [← h.registry]
    -- どちらも同じ登録簿で版を解決する。処理の側では、解決したモデルは登録されたものである。
    refine Mirror.bind ((resolveModel_mirror htw st₁.registry).and_satisfiesM
      (resolveModel_spec (hwf.of_models_eq hm₁) hcache₁ _)) ?_
    rintro ⟨found, e₁, reg₁⟩ ⟨found₂, e₂, reg₂⟩ ⟨⟨hf, htw', hr⟩, hm, hcache, hfound⟩
    dsimp only at hf htw' hr hm hcache hfound ⊢
    subst hf hr
    cases found with
    | error e => exact Mirror.pure ⟨⟨htw', h.history, h.chained, rfl⟩, rfl⟩
    | ok g =>
      have hg : reg.find? g.version = some g := by
        rw [← Registry.find?_eq_of_models_eq hm₁]
        exact hfound g rfl
      have hinv' : LoopInv reg { st₂ with doc := e₂, registry := reg₁ } :=
        hinv.of_history_eq rfl (hm.trans hm₁) hcache hinv.chained
      exact runTransition_mirror hc hwf hexec hg (hreads _ (mem_of_lookup_eq_some hg))
        ⟨htw', h.history, h.chained, rfl⟩ hinv' hch

/-- **二つの繰り返しは同じ歩みで進む。** 押印の項目のほかが同じ状態から、拡張が互いに写し合う
二つの繰り返しを似た環境で走らせれば、どの遷移でも同じ結末になり、終わりの状態も押印の項目の
ほかは同じである。 -/
theorem transitionLoop_mirror : ∀ (fuel : Nat) {st₁ st₂ : LoopState}, StepTwins st₁ st₂ →
    LoopInv reg st₂ → ChainedEntities reg st₂.chained →
    Mirror (fun a b => StepTwins a.1 b.1 ∧ a.2 = b.2)
      (transitionLoop config exec₁ fuel st₁) (transitionLoop config exec₂ fuel st₂)
  | 0, _, _, h, _, _ => Mirror.pure ⟨h, rfl⟩
  | fuel + 1, st₁, st₂, h, hinv, hch => by
    unfold transitionLoop
    refine Mirror.bind ((transitionStep_mirror hc hwf hreads hexec h hinv hch).and_satisfiesM
      (satisfiesM_and (transitionStep_spec hwf config exec₂ hinv)
        (transitionStep_advances config exec₂ hwf hinv hch))) ?_
    rintro ⟨st₁', o⟩ ⟨st₂', o₂⟩ ⟨⟨htw, ho⟩, ⟨hinv', -⟩, hadv⟩
    dsimp only at htw ho hinv' hadv ⊢
    subst ho
    cases o with
    | done => exact Mirror.pure ⟨htw, rfl⟩
    | failed e => exact Mirror.pure ⟨htw, rfl⟩
    | next =>
      -- 続けるなら、処理の側の不変条件を保ったまま残りの燃料で繰り返す。
      obtain ⟨x, hx⟩ := hadv rfl
      exact transitionLoop_mirror fuel htw hinv' (by rw [hx.chained]; exact hch.chainedAfter hx.genuine)

end Steps

/-! ## 評価と処理 -/

/-- 処理の前に文書を整えるのは押印だけである：環境を似たままにし、整えた文書は押印の項目のほかは
もとの文書と同じである。 -/
theorem prepareDocument_keepsAlike {d : Document} (hd : d.WellFormed) :
    KeepsAlike (prepareDocument d) fun res => StampTwins d res.2 := by
  -- 識別子を書いたあとは、処理の識別子と元のタスクを書き、アダプタの失敗を消す。
  have hlast : ∀ d₁ : Document, StampTwins d d₁ → KeepsAlike (do
        let t ← newTransactionId
        pure ((d₁.setItem ItemName.transactionId (.text t)).taskId,
          clearAdapterErrors ((d₁.setItem ItemName.transactionId (.text t)).setItem ItemName.lastTask
            (.int (d₁.setItem ItemName.transactionId (.text t)).taskId))))
        fun res : Int × Document => StampTwins d res.2 := fun d₁ h₁ =>
    KeepsAlike.bind newTransactionId_keepsAlike fun _ _ => KeepsAlike.pure (clearAdapterErrors_twins
      ((h₁.setItem_stamped (by decide +kernel) _).setItem_stamped (by decide +kernel) _))
  unfold prepareDocument
  dsimp only
  -- 文書の識別子と作業の識別子は、なければ作る。
  split
  · refine KeepsAlike.bind newUniqueId_keepsAlike fun u _ => ?_
    have hu := (StampTwins.refl hd).setItem_stamped (n := ItemName.uniqueId) (by decide +kernel) (.text u)
    split
    · exact KeepsAlike.bind newUniqueId_keepsAlike fun _ _ =>
        hlast _ (hu.setItem_stamped (by decide +kernel) _)
    · exact hlast _ hu
  · split
    · exact KeepsAlike.bind newUniqueId_keepsAlike fun _ _ =>
        hlast _ ((StampTwins.refl hd).setItem_stamped (by decide +kernel) _)
    · exact hlast d (StampTwins.refl hd)

/-- **評価は処理を言い当てる。** 拡張がどれも文書を変えず誤りなく終わり、登録されたモデルの
イベントが名指す合図のアダプタが登録され、流れの条件が押印の項目を読まず、遷移の記録の注釈の
項目が押印の項目でなく、登録簿が整って控えが登録されたモデルと合い、文書の項目名が昇順に並ぶ
とする。似た環境で、評価が答えるタスクは、処理が答える結果のタスクである。処理が誤りで止まれば、
評価も同じ誤りで止まる。 -/
theorem eval_predicts_process (k : Kernel) (hwf : k.registry.WellFormed)
    (hinv : k.registry.CacheInv) (hq : k.Quiet) (hsig : k.SignalsRegistered)
    (hreads : k.registry.ConditionsUnstamped) (hc : normalize k.config.logCommentItem ∉ stampedItems)
    {d : Document} (hd : d.WellFormed) {r₁ r₂ : Runtime} (hr : r₁.Alike r₂) :
    ((k.eval d).run r₁).1.1 = (((k.process d).run r₂).1.1).map (·.task) := by
  unfold Kernel.eval Kernel.process
  dsimp only
  -- 文書が検査を通らなければ、どちらも同じ誤りで終わる。
  split
  · rfl
  have key : ∀ (x : Run (Except KernelError Int × Kernel))
      (y : Run (Except KernelError ProcessResult × Document × Kernel)),
      Mirror (fun a b => a.1 = b.1.map (·.task)) x y → (x.run r₁).1.1 = ((y.run r₂).1.1).map (·.task) :=
    fun x y h => (h r₁ r₂ hr).1
  apply key
  -- 処理は印を押してから、評価と同じ歩みで遷移を繰り返す。
  refine Mirror.bind_right (prepareDocument_keepsAlike hd) fun b hb => ?_
  refine Mirror.bind (transitionLoop_mirror hc hwf hreads
    (quiet_extensionsMirror (k := { k with history := [] }) ⟨hq.adapters, hq.plugins, hq.closes⟩ hsig) _ ⟨hb, rfl, rfl, rfl⟩
    (LoopInv.start hinv _) fun _ hmem => (List.not_mem_nil hmem).elim) ?_
  rintro ⟨st₁, e₁⟩ ⟨st₂, e₂⟩ ⟨htw, he⟩
  dsimp only at htw he ⊢
  subst he
  cases e₁ with
  | some e => exact Mirror.pure rfl
  | none => exact Mirror.pure (by rw [htw.doc.taskId]; rfl)

/-! ## 合図のアダプタを名指す申請 -/

/-- 起案 `t100` から、合図のアダプタ `notify` を名指す申請 `e10` で審査 `t200` へ進むモデル。 -/
def notifyingModel : ModelDecl where
  version := "v"
  processes := [{ id := "p", name := "P" }]
  elements := [
    { id := "t100", kind := .task, name := "Draft", process := some "p", task := some { id := 100 } },
    { id := "e10", kind := .event, name := "submit", process := some "p",
      event := some { id := 10, signal := some "notify" } },
    { id := "t200", kind := .task, name := "Review", process := some "p", task := some { id := 200 } }]
  flows := [{ id := "f1", source := "t100", target := "e10" },
    { id := "f2", source := "e10", target := "t200" }]

/-- `notifyingModel` を登録し、合図のアダプタ `notify` とプラグイン `audit` を持つ核。どちらも
文書を変えない。 -/
def quietKernel : Kernel where
  registry := Registry.publish [("v", { decl := notifyingModel, checksum := "c", definition := { items := [] } })]
  adapters := [{ id := "notify" }]
  plugins := [{ name := "audit" }]

/-- 版 `v` の起案 100 で申請 10 を起こす文書。前の処理の元のタスク 50 とアダプタの失敗が残っている。 -/
def resubmission : Document :=
  { items := [(ItemName.eventId, [.int 10]), (ItemName.lastTask, [.int 50]),
      (ItemName.modelVersion, [.text "v"]), (ItemName.taskId, [.int 100]),
      (ItemName.adapterErrorCode, [.text "E1"])] }

theorem quietKernel_wellFormed : quietKernel.registry.WellFormed where
  versions := by simp [quietKernel, Registry.publish, Graph.version, notifyingModel]
  sorted := List.pairwise_singleton _ _
  distinctIds := by
    simp only [quietKernel, Registry.publish, List.mem_singleton, forall_eq]
    decide +kernel

theorem quietKernel_quiet : quietKernel.Quiet where
  adapters a ha d ev r := by
    rw [show a = { id := "notify" } from List.mem_singleton.mp ha]
    rfl
  plugins p hp d ev r := by
    rw [show p = { name := "audit" } from List.mem_singleton.mp hp]
    rfl
  closes p hp b r := by
    rw [show p = { name := "audit" } from List.mem_singleton.mp hp]
    rfl

theorem quietKernel_conditionsUnstamped : quietKernel.registry.ConditionsUnstamped := by
  intro p hp f hf c hc
  simp only [quietKernel, Registry.publish, List.mem_singleton] at hp
  subst hp
  simp only [notifyingModel, List.mem_cons, List.mem_nil_iff, or_false] at hf
  rcases hf with rfl | rfl <;> simp [FlowDecl.activeCondition] at hc

/-- 申請を評価すると審査 200 を答え、それは処理の答えのタスクである。前の処理の元のタスクと
アダプタの失敗は、処理では書き換わり消えるが、答えには響かない。 -/
theorem resubmission_predicted :
    ((quietKernel.eval resubmission).run {}).1.1 =
        (((quietKernel.process resubmission).run {}).1.1).map (·.task) ∧
      ((quietKernel.eval resubmission).run {}).1.1.toOption = some 200 := by
  have hsig : quietKernel.SignalsRegistered :=
    signalsRegistered_of_names fun p hp id hid => by
      simp only [quietKernel, Registry.publish, List.mem_singleton] at hp
      subst hp
      have hnames : signalNames { decl := notifyingModel, checksum := "c", definition := { items := [] } } =
          ["notify"] := by decide +kernel
      rw [hnames, List.mem_singleton] at hid
      exact ⟨_, List.mem_singleton_self _, hid.symm⟩
  have hd : resubmission.WellFormed := by
    unfold Document.WellFormed
    decide +kernel
  have hr : Runtime.Alike {} {} :=
    ⟨rfl, .conditions (fun _ h => (List.not_mem_nil h).elim) (fun _ h => (List.not_mem_nil h).elim)⟩
  exact ⟨eval_predicts_process quietKernel quietKernel_wellFormed (Registry.cacheInv_publish _)
    quietKernel_quiet hsig quietKernel_conditionsUnstamped (by decide +kernel) hd hr, by decide +kernel⟩

end Workflow.Kernel
