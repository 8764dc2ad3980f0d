import Mathlib
import Workflow.Proofs.Registration
import Workflow.Proofs.Journal

/-!
# アダプタの呼び出し順

遷移のたびに、核はアダプタを三つの組に分けて動かす（`executeAdapters`）：汎用のアダプタを登録の
順に、イベントが名指した合図のアダプタを、静的なアダプタを登録の順に。どのアダプタも動くと
まず一行を書く（`adapterLine`）。最初の失敗で止まり、失敗は文書の四つの項目に残る。

1. `runAdapters_ranInOrder` — アダプタの列を順に動かすと、すべて成功するか、それまでがすべて
   成功したあとのあるアダプタの失敗で止まる（`RanInOrder`）。書く行は呼んだアダプタの行である。
2. `recordAdapterFailure_recorded` — 失敗を残した文書は、失敗の四つの項目だけが変わる
   （`FailureRecorded`）。付加の値がなければその項目はない。
3. `executeAdapters_executed` — 遷移のアダプタの処理は `AdaptersExecuted` のとおりである：呼び
   出し順（`adapterPlan`）のアダプタがすべて成功するか、そのあるアダプタの失敗で止まるか、名指された
   合図のアダプタが登録されていなければ、汎用のアダプタのあと静的なアダプタの前にモデルの誤りで
   止まる。
4. `adapters_run_in_registration_order` — 登録を重ねたアダプタの id は互いに異なり、どの遷移でも
   呼び出し順のとおりに呼ばれ、どのアダプタも二度は呼ばれない。
-/

namespace Workflow.Kernel

open Workflow.Model

theorem AdapterKind.beq_iff {k₁ k₂ : AdapterKind} : (k₁ == k₂) = true ↔ k₁ = k₂ := by
  cases k₁ <;> cases k₂ <;>
    first
    | exact ⟨fun _ => rfl, fun _ => rfl⟩
    | exact ⟨fun h => absurd h (by decide), fun h => by cases h⟩

/-! ## 呼び出し順 -/

/-- 種類 `k` のアダプタ（登録の順）。 -/
def adaptersOfKind (as : List Adapter) (k : AdapterKind) : List Adapter :=
  as.filter (·.kind == k)

/-- イベントが名指した合図のアダプタ：その id を持つ、合図の種類のアダプタ。 -/
def signalAdapters (as : List Adapter) (ev : Event) : List Adapter :=
  as.filter fun a => a.kind == .signal && ev.signalAdapter == some a.id

/-- 遷移のアダプタの呼び出し順：汎用、名指された合図、静的。 -/
def adapterPlan (as : List Adapter) (ev : Event) : List Adapter :=
  adaptersOfKind as .generic ++ signalAdapters as ev ++ adaptersOfKind as .static

/-- イベントが合図のアダプタを名指し、その id のアダプタが登録されていない。 -/
def signalMissing (as : List Adapter) (ev : Event) : Bool :=
  match ev.signalAdapter with
  | some id => !(as.any (·.id == id))
  | none => false

/-- アダプタが遷移のイベントで呼ばれたことを書く行。 -/
def adapterLine (ev : Event) (a : Adapter) : String :=
  s!"adapter:{a.id}:{ev.taskId}.{ev.id}"

/-! ## 一つのアダプタ -/

/-- アダプタの結果：失敗の台本が当たれば（条件の項目があればそれが真なら）文書を変えずに失敗し、
そうでなければ書く項目を書いて成功する。 -/
def Adapter.outcome (a : Adapter) (d : Document) : Document × Option AdapterFailure :=
  match a.failure with
  | some f =>
    if (a.failIf.map d.getBool).getD true then (d, some f) else (writeItems d a.writes, none)
  | none => (writeItems d a.writes, none)

theorem Adapter.execute_outcome (a : Adapter) (d : Document) (ev : Event) :
    Journals (a.execute d ev) fun res J => J = [adapterLine ev a] ∧ res = a.outcome d := by
  unfold Adapter.execute Adapter.outcome
  refine (Journals.note _).bind fun _ J hJ => ?_
  subst hJ
  cases hf : a.failure with
  | none => exact Journals.pure ⟨rfl, rfl⟩
  | some f =>
    -- 失敗の台本は、条件の項目がなければいつも、あればそれが真のときに当たる。
    by_cases hfail : (a.failIf.map d.getBool).getD true = true
    · simp only [hfail, ↓reduceIte]
      exact Journals.pure ⟨rfl, rfl⟩
    · simp only [hfail]
      exact Journals.pure ⟨rfl, rfl⟩

/-- アダプタを動かす：一行を書き、失敗すれば失敗を文書に残してそのアダプタの誤りにする。 -/
theorem runAdapter_outcome (a : Adapter) (d : Document) (ev : Event) :
    Journals (runAdapter a d ev) fun res J => J = [adapterLine ev a] ∧
      res = match a.outcome d with
        | (d₁, some f) => (recordAdapterFailure d₁ a.id f, some (.adapter a.id f))
        | (d₁, none) => (d₁, none) := by
  unfold runAdapter
  refine (Adapter.execute_outcome a d ev).bind fun res J h => ?_
  obtain ⟨hJ, rfl⟩ := h
  subst hJ
  obtain ⟨d₁, f⟩ := a.outcome d
  cases f <;> exact Journals.pure ⟨rfl, rfl⟩

theorem writeItems_wellFormed {d : Document} (hd : d.WellFormed) (ws : List (String × Json.Value)) :
    (writeItems d ws).WellFormed := by
  induction ws generalizing d with
  | nil => exact hd
  | cons w rest ih => exact ih (hd.setItems _ _)

theorem Adapter.outcome_wellFormed (a : Adapter) {d : Document} (hd : d.WellFormed) :
    (a.outcome d).1.WellFormed := by
  unfold Adapter.outcome
  split
  · split
    · exact hd
    · exact writeItems_wellFormed hd _
  · exact writeItems_wellFormed hd _

/-- 失敗したアダプタは文書を変えない。 -/
theorem Adapter.outcome_fst_of_failure {a : Adapter} {d d₁ : Document} {f : AdapterFailure}
    (h : a.outcome d = (d₁, some f)) : d₁ = d := by
  unfold Adapter.outcome at h
  split at h
  · split at h
    · exact (Prod.mk.inj h).1.symm
    · cases h
  · cases h

/-! ## 失敗を残した文書 -/

/-- 文書 `d'` は `d` にアダプタ `id` の失敗 `f` を残したもの：失敗の四つの項目だけが変わり、
付加の値はテキストの値として入る。付加の値がなければ、その項目はない。 -/
structure FailureRecorded (d d' : Document) (id : String) (f : AdapterFailure) : Prop where
  context : d'.get ItemName.adapterErrorContext = [.text id]
  code : d'.get ItemName.adapterErrorCode = [.text f.code]
  params : d'.get ItemName.adapterErrorParams = f.params.map .text
  message : d'.get ItemName.adapterErrorMessage = [.text f.message]
  paramsAbsent : f.params = [] → d'.hasItem ItemName.adapterErrorParams = false
  others : ∀ n, Document.normalize n ∉ [ItemName.adapterErrorContext, ItemName.adapterErrorCode,
    ItemName.adapterErrorParams, ItemName.adapterErrorMessage] → d'.get n = d.get n

section Recorded

open Document

@[simp] theorem normalize_adapterErrorContext :
    normalize ItemName.adapterErrorContext = ItemName.adapterErrorContext := by
  decide +kernel

@[simp] theorem normalize_adapterErrorCode :
    normalize ItemName.adapterErrorCode = ItemName.adapterErrorCode := by
  decide +kernel

@[simp] theorem normalize_adapterErrorParams :
    normalize ItemName.adapterErrorParams = ItemName.adapterErrorParams := by
  decide +kernel

@[simp] theorem normalize_adapterErrorMessage :
    normalize ItemName.adapterErrorMessage = ItemName.adapterErrorMessage := by
  decide +kernel

theorem hasItem_setItems_of_ne {d : Document} {n m : String} (h : normalize n ≠ normalize m)
    (vs : List ItemValue) : (d.setItems n vs).hasItem m = d.hasItem m := by
  unfold Document.setItems Document.hasItem
  split
  · rw [lookupEntry_eraseEntry_of_ne h]
  · rw [lookupEntry_insertEntry_of_ne h]

theorem hasItem_setItems_nil {d : Document} (hd : d.WellFormed) (n : String) :
    (d.setItems n []).hasItem n = false :=
  hasItem_removeItem_self hd

/-- **失敗を残した文書は、失敗の四つの項目だけが変わる。** -/
theorem recordAdapterFailure_recorded {d : Document} (hd : d.WellFormed) (id : String)
    (f : AdapterFailure) : FailureRecorded d (recordAdapterFailure d id f) id f := by
  -- 四つの項目の名前は、正規化しても互いに違う。
  have h12 : normalize ItemName.adapterErrorContext ≠ normalize ItemName.adapterErrorCode := by
    decide +kernel
  have h13 : normalize ItemName.adapterErrorContext ≠ normalize ItemName.adapterErrorParams := by
    decide +kernel
  have h14 : normalize ItemName.adapterErrorContext ≠ normalize ItemName.adapterErrorMessage := by
    decide +kernel
  have h23 : normalize ItemName.adapterErrorCode ≠ normalize ItemName.adapterErrorParams := by
    decide +kernel
  have h24 : normalize ItemName.adapterErrorCode ≠ normalize ItemName.adapterErrorMessage := by
    decide +kernel
  have h34 : normalize ItemName.adapterErrorParams ≠ normalize ItemName.adapterErrorMessage := by
    decide +kernel
  have hd₂ : ((d.setItem ItemName.adapterErrorContext (.text id)).setItem ItemName.adapterErrorCode
      (.text f.code)).WellFormed := (hd.setItem _ _).setItem _ _
  unfold recordAdapterFailure
  refine ⟨?_, ?_, ?_, ?_, ?_, ?_⟩
  · rw [get_setItem_of_ne (Ne.symm h14), get_setItems_of_ne (Ne.symm h13),
      get_setItem_of_ne (Ne.symm h12), get_setItem_self]
  · rw [get_setItem_of_ne (Ne.symm h24), get_setItems_of_ne (Ne.symm h23), get_setItem_self]
  · rw [get_setItem_of_ne (Ne.symm h34)]
    cases hp : f.params with
    | nil => exact get_setItems_nil hd₂
    | cons p ps => exact get_setItems_self (by simp)
  · exact get_setItem_self _
  · intro hp
    rw [Document.setItem, hasItem_setItems_of_ne (Ne.symm h34), hp, List.map_nil]
    exact hasItem_setItems_nil hd₂ _
  · intro n hn
    simp only [List.mem_cons, List.not_mem_nil, or_false, not_or] at hn
    obtain ⟨hn₁, hn₂, hn₃, hn₄⟩ := hn
    rw [get_setItem_of_ne (by simpa using Ne.symm hn₄),
      get_setItems_of_ne (by simpa using Ne.symm hn₃),
      get_setItem_of_ne (by simpa using Ne.symm hn₂),
      get_setItem_of_ne (by simpa using Ne.symm hn₁)]

end Recorded

/-! ## アダプタの列を順に動かす -/

/-- 列のアダプタがどれも失敗せずに順に動き、文書を `d` から `d'` にする。 -/
inductive Succeeds : List Adapter → Document → Document → Prop
  | nil (d : Document) : Succeeds [] d d
  | cons {a : Adapter} {rest : List Adapter} {d d₁ d' : Document} :
      a.outcome d = (d₁, none) → Succeeds rest d₁ d' → Succeeds (a :: rest) d d'

theorem Succeeds.append {xs ys : List Adapter} {d d₁ d₂ : Document} (hx : Succeeds xs d d₁)
    (hy : Succeeds ys d₁ d₂) : Succeeds (xs ++ ys) d d₂ := by
  induction hx with
  | nil => exact hy
  | cons ha _ ih => exact Succeeds.cons ha (ih hy)

theorem Succeeds.wellFormed {xs : List Adapter} {d d' : Document} (h : Succeeds xs d d')
    (hd : d.WellFormed) : d'.WellFormed := by
  induction h with
  | nil => exact hd
  | @cons a _ d _ _ ha _ ih =>
    have h₁ := a.outcome_wellFormed hd
    rw [ha] at h₁
    exact ih h₁

/-- 列 `xs` のアダプタを順に動かした結果と、呼んだアダプタの列：すべて成功するか、あるアダプタが
それまでのアダプタがすべて成功したあとで失敗し、そこで止まって失敗を文書に残す。 -/
inductive RanInOrder (xs : List Adapter) (d : Document) :
    List Adapter → Document × Option KernelError → Prop
  | completed {d' : Document} : Succeeds xs d d' → RanInOrder xs d xs (d', none)
  | failed {pre : List Adapter} {a : Adapter} {dₐ d₁ : Document} {f : AdapterFailure} :
      pre ++ [a] <+: xs → Succeeds pre d dₐ → a.outcome dₐ = (d₁, some f) →
      RanInOrder xs d (pre ++ [a]) (recordAdapterFailure d₁ a.id f, some (.adapter a.id f))

section RanInOrder

variable {xs ys called : List Adapter} {d d₁ : Document} {res : Document × Option KernelError}

/-- 先頭のアダプタが成功すれば、残りの列の結果がそのまま列全体の結果になる。 -/
theorem RanInOrder.cons {a : Adapter} (ha : a.outcome d = (d₁, none))
    (h : RanInOrder xs d₁ called res) : RanInOrder (a :: xs) d (a :: called) res := by
  cases h with
  | completed hs => exact .completed (.cons ha hs)
  | failed hpre hs hb =>
    exact @RanInOrder.failed (a :: xs) d (a :: _) _ _ _ _ ((List.prefix_cons_inj a).mpr hpre)
      (.cons ha hs) hb

/-- 前の列がすべて成功すれば、続く列の結果がつないだ列の結果になる。 -/
theorem RanInOrder.append_of_succeeds (hx : Succeeds xs d d₁) (h : RanInOrder ys d₁ called res) :
    RanInOrder (xs ++ ys) d (xs ++ called) res := by
  cases h with
  | completed hs => exact .completed (hx.append hs)
  | @failed pre a _ _ _ hpre hs hb =>
    rw [← List.append_assoc]
    exact .failed (by rw [List.append_assoc]; exact (List.prefix_append_right_inj xs).mpr hpre)
      (hx.append hs) hb

/-- 前の列で失敗すれば、続く列は動かない。 -/
theorem RanInOrder.append_of_failed (h : RanInOrder xs d called res) (hres : res.2.isSome = true) :
    RanInOrder (xs ++ ys) d called res := by
  cases h with
  | completed hs => cases hres
  | failed hpre hs hb => exact .failed (hpre.trans (List.prefix_append xs ys)) hs hb

theorem RanInOrder.completed_of_none (h : RanInOrder xs d called res)
    (hres : res.2.isSome = false) :
    called = xs ∧ Succeeds xs d res.1 := by
  cases h with
  | completed hs => exact ⟨rfl, hs⟩
  | failed => cases hres

end RanInOrder

/-- **アダプタの列は最初の失敗まで順に動く。** 書く行は、呼んだアダプタの行を呼んだ順に並べたもの
である。 -/
theorem runAdapters_ranInOrder (xs : List Adapter) (d : Document) (ev : Event) :
    Journals (runAdapters xs d ev) fun res J =>
      ∃ called, J = called.map (adapterLine ev) ∧ RanInOrder xs d called res := by
  induction xs generalizing d with
  | nil => exact Journals.pure ⟨[], rfl, .completed (.nil d)⟩
  | cons a rest ih =>
    unfold runAdapters
    refine (runAdapter_outcome a d ev).bind fun res J₁ h => ?_
    obtain ⟨rfl, rfl⟩ := h
    cases ho : a.outcome d with
    | mk d₁ f =>
      cases f with
      | some f =>
        -- 先頭のアダプタが失敗し、列はそこで止まる。
        refine Journals.pure ⟨[a], rfl, ?_⟩
        exact @RanInOrder.failed (a :: rest) d [] a d d₁ f
          ((List.prefix_cons_inj a).mpr List.nil_prefix) (.nil d) ho
      | none =>
        refine (ih d₁).imp fun res J₂ h => ?_
        obtain ⟨called, rfl, hran⟩ := h
        exact ⟨a :: called, rfl, hran.cons ho⟩

/-- 一つのアダプタを動かすことは、一つだけの列を動かすことである。 -/
theorem runAdapter_ranInOrder (a : Adapter) (d : Document) (ev : Event) :
    Journals (runAdapter a d ev) fun res J =>
      ∃ called, J = called.map (adapterLine ev) ∧ RanInOrder [a] d called res := by
  refine (runAdapter_outcome a d ev).imp fun res J h => ?_
  obtain ⟨rfl, rfl⟩ := h
  cases ho : a.outcome d with
  | mk d₁ f =>
    cases f with
    | some f =>
      exact ⟨[a], rfl, @RanInOrder.failed [a] d [] a d d₁ f (List.prefix_refl _) (.nil d) ho⟩
    | none => exact ⟨[a], rfl, .completed (.cons ho (.nil d₁))⟩

/-! ## 呼び出し順の形 -/

section Plan

variable {as : List Adapter} {ev : Event}

/-- id が互いに異なれば、その id のアダプタは一つだけである。 -/
theorem filter_id_eq_singleton (hnd : (as.map (·.id)).Nodup) {a : Adapter} (ha : a ∈ as) :
    as.filter (·.id == a.id) = [a] := by
  induction as with
  | nil => cases ha
  | cons b bs ih =>
    rw [List.map_cons, List.nodup_cons] at hnd
    obtain ⟨hb, hbs⟩ := hnd
    rcases List.mem_cons.mp ha with rfl | ha'
    · -- 残りの列には同じ id のアダプタがない。
      rw [List.filter_cons, if_pos (beq_self_eq_true a.id), List.filter_eq_nil_iff.mpr]
      intro c hc hcb
      exact hb (List.mem_map.mpr ⟨c, hc, beq_iff_eq.mp hcb⟩)
    · have hne : b.id ≠ a.id := fun he => hb (he ▸ List.mem_map_of_mem ha')
      rw [List.filter_cons, if_neg (by simpa using hne), ih hbs ha']

theorem signalAdapters_of_none (h : ev.signalAdapter = none) : signalAdapters as ev = [] := by
  unfold signalAdapters
  rw [List.filter_eq_nil_iff]
  intro a _ hsig
  rw [h, show (none == some a.id) = false from rfl, Bool.and_false] at hsig
  exact Bool.false_ne_true hsig

theorem signalAdapters_of_not_found {id : String} (h : ev.signalAdapter = some id)
    (hf : as.find? (·.id == id) = none) : signalAdapters as ev = [] := by
  unfold signalAdapters
  rw [List.filter_eq_nil_iff]
  intro a ha hsig
  rw [h] at hsig
  have hid : id = a.id := Option.some.inj (beq_iff_eq.mp (Bool.and_eq_true_iff.mp hsig).2)
  exact absurd (List.find?_eq_none.mp hf a ha) (by simp [hid])

/-- 名指された id のアダプタが見つかれば、それが合図の種類のときだけ呼び出し順に入る。 -/
theorem signalAdapters_of_found (hnd : (as.map (·.id)).Nodup) {id : String} {a : Adapter}
    (h : ev.signalAdapter = some id) (hf : as.find? (·.id == id) = some a) :
    signalAdapters as ev = if a.kind == .signal then [a] else [] := by
  have ha : a ∈ as := List.mem_of_find?_eq_some hf
  have hpa := List.find?_some hf
  have hid : a.id = id := beq_iff_eq.mp hpa
  have hsel : signalAdapters as ev = (as.filter (·.id == a.id)).filter (·.kind == .signal) := by
    unfold signalAdapters
    rw [List.filter_filter]
    refine List.filter_congr fun b _ => ?_
    rw [h, hid]
    cases b.kind == AdapterKind.signal <;> simp [eq_comm]
  rw [hsel, filter_id_eq_singleton hnd ha]
  by_cases hk : (a.kind == .signal) = true
  · rw [List.filter_singleton, hk]
    rfl
  · rw [List.filter_singleton, Bool.eq_false_iff.mpr hk]
    rfl

theorem signalMissing_eq_false_of_none (h : ev.signalAdapter = none) :
    signalMissing as ev = false := by
  simp [signalMissing, h]

theorem signalMissing_eq_false_of_found {id : String} {a : Adapter} (h : ev.signalAdapter = some id)
    (hf : as.find? (·.id == id) = some a) : signalMissing as ev = false := by
  have ha : a ∈ as := List.mem_of_find?_eq_some hf
  have hpa := List.find?_some hf
  simp only [signalMissing, h, Bool.not_eq_false', List.any_eq_true]
  exact ⟨a, ha, hpa⟩

theorem not_mem_ids_of_not_found {id : String} (hf : as.find? (·.id == id) = none) :
    id ∉ as.map (·.id) := by
  intro hmem
  obtain ⟨a, ha, rfl⟩ := List.mem_map.mp hmem
  exact absurd (List.find?_eq_none.mp hf a ha) (by simp)

theorem signalMissing_of_not_found {id : String} (h : ev.signalAdapter = some id)
    (hf : as.find? (·.id == id) = none) : signalMissing as ev = true := by
  simp only [signalMissing, h, Bool.not_eq_true', List.any_eq_false]
  intro a ha
  simpa using List.find?_eq_none.mp hf a ha

theorem generic_prefix_adapterPlan : adaptersOfKind as .generic <+: adapterPlan as ev :=
  (List.prefix_append _ _).trans (List.prefix_append _ _)

/-- id が互いに異なれば、種類で選び分けた二つの組の id は重ならない。 -/
theorem disjoint_ids_filter (hnd : (as.map (·.id)).Nodup) {p q : Adapter → Bool}
    (hpq : ∀ a, p a = true → q a = true → False) :
    ((as.filter p).map (·.id)).Disjoint ((as.filter q).map (·.id)) := by
  intro i hi hj
  obtain ⟨a, ha, rfl⟩ := List.mem_map.mp hi
  obtain ⟨b, hb, hab⟩ := List.mem_map.mp hj
  rw [List.mem_filter] at ha hb
  have : b = a := List.inj_on_of_nodup_map hnd hb.1 ha.1 hab
  subst this
  exact hpq b ha.2 hb.2

theorem nodup_ids_filter (hnd : (as.map (·.id)).Nodup) (p : Adapter → Bool) :
    ((as.filter p).map (·.id)).Nodup :=
  hnd.sublist (List.filter_sublist.map _)

/-- **呼び出し順にどのアダプタも一度しか現れない。** 種類の違う組は重ならず、組のなかでは登録の
id が互いに異なる。 -/
theorem nodup_ids_adapterPlan (hnd : (as.map (·.id)).Nodup) (ev : Event) :
    ((adapterPlan as ev).map (·.id)).Nodup := by
  have hkind : ∀ {k₁ k₂ : AdapterKind} (a : Adapter), k₁ ≠ k₂ →
      (a.kind == k₁) = true → (a.kind == k₂) = true → False := by
    intro k₁ k₂ a hne h₁ h₂
    exact hne ((AdapterKind.beq_iff.mp h₁).symm.trans (AdapterKind.beq_iff.mp h₂))
  have hgs := disjoint_ids_filter hnd (p := (·.kind == .generic))
    (q := fun a => a.kind == .signal && ev.signalAdapter == some a.id)
    fun a h₁ h₂ => hkind a (fun h => by cases h) h₁ (Bool.and_eq_true_iff.mp h₂).1
  have hgt := disjoint_ids_filter hnd (p := (·.kind == .generic)) (q := (·.kind == .static))
    fun a h₁ h₂ => hkind a (fun h => by cases h) h₁ h₂
  have hst := disjoint_ids_filter hnd
    (p := fun a => a.kind == .signal && ev.signalAdapter == some a.id) (q := (·.kind == .static))
    fun a h₁ h₂ => hkind a (fun h => by cases h) (Bool.and_eq_true_iff.mp h₁).1 h₂
  unfold adapterPlan adaptersOfKind signalAdapters
  rw [List.map_append, List.map_append]
  exact ((nodup_ids_filter hnd _).append (nodup_ids_filter hnd _) hgs).append
    (nodup_ids_filter hnd _)
    (List.disjoint_append_left.mpr ⟨hgt, hst⟩)

end Plan

/-! ## 遷移のアダプタの処理 -/

/-- 遷移のアダプタの処理の仕様。`called` は呼んだアダプタの列、答えは処理のあとの文書と誤りである。 -/
inductive AdaptersExecuted (as : List Adapter) (version : String) (d : Document) (ev : Event) :
    List Adapter → Document × Option KernelError → Prop
  /-- 名指された合図のアダプタが（名指しがあれば）登録されていて、呼び出し順のアダプタがすべて
  成功する。 -/
  | completed {d' : Document} : signalMissing as ev = false → Succeeds (adapterPlan as ev) d d' →
      AdaptersExecuted as version d ev (adapterPlan as ev) (d', none)
  /-- 呼び出し順のアダプタ `a` が、それまでのアダプタがすべて成功したあとで失敗し、そこで止まる。
  文書には、`a` 自身の変更のあとに失敗の四つの項目だけが書かれる。名指された合図のアダプタが登録
  されていなければ、`a` は汎用のアダプタである。 -/
  | failed {pre : List Adapter} {a : Adapter} {dₐ d₁ d' : Document} {f : AdapterFailure} :
      pre ++ [a] <+:
        (if signalMissing as ev then adaptersOfKind as .generic else adapterPlan as ev) →
      Succeeds pre d dₐ → a.outcome dₐ = (d₁, some f) → FailureRecorded d₁ d' a.id f →
      AdaptersExecuted as version d ev (pre ++ [a]) (d', some (.adapter a.id f))
  /-- 名指された合図のアダプタが登録されていない：汎用のアダプタがすべて成功したあと、静的な
  アダプタの前に、モデルの誤りで止まる。 -/
  | unregisteredSignal {id : String} {d' : Document} :
      ev.signalAdapter = some id → id ∉ as.map (·.id) → Succeeds (adaptersOfKind as .generic) d d' →
      AdaptersExecuted as version d ev (adaptersOfKind as .generic)
        (d', some (.model (.invalidModel version
          s!"event {ev.taskId}.{ev.id} names signal adapter '{id}' which is not registered")))

section Executed

variable {as : List Adapter} {version : String} {d : Document} {ev : Event}
  {called : List Adapter} {res : Document × Option KernelError}

/-- 呼んだアダプタの列は、呼び出し順の先頭の部分である。 -/
theorem AdaptersExecuted.prefix_plan (h : AdaptersExecuted as version d ev called res) :
    called <+: adapterPlan as ev := by
  cases h with
  | completed => exact List.prefix_refl _
  | failed hpre =>
    split at hpre
    · exact hpre.trans generic_prefix_adapterPlan
    · exact hpre
  | unregisteredSignal => exact generic_prefix_adapterPlan

/-- 失敗したアダプタの文書には、失敗の四つの項目だけが書かれる。 -/
theorem failureRecorded_of_failed {pre : List Adapter} {a : Adapter} {dₐ d₁ : Document}
    {f : AdapterFailure} (hd : d.WellFormed) (hs : Succeeds pre d dₐ)
    (hb : a.outcome dₐ = (d₁, some f)) :
    FailureRecorded d₁ (recordAdapterFailure d₁ a.id f) a.id f := by
  rw [Adapter.outcome_fst_of_failure hb]
  exact recordAdapterFailure_recorded (hs.wellFormed hd) a.id f

/-- 名指された合図のアダプタが揃っていれば、呼び出し順を動かした結果が処理の答えになる。 -/
theorem AdaptersExecuted.of_ranInOrder (hmiss : signalMissing as ev = false) (hd : d.WellFormed)
    (h : RanInOrder (adapterPlan as ev) d called res) :
    AdaptersExecuted as version d ev called res := by
  cases h with
  | completed hs => exact .completed hmiss hs
  | failed hpre hs hb =>
    exact .failed (by rw [hmiss]; exact hpre) hs hb (failureRecorded_of_failed hd hs hb)

/-- 汎用のアダプタが失敗すれば、そこで止まる。 -/
theorem AdaptersExecuted.of_generic_failure (hd : d.WellFormed)
    (h : RanInOrder (adaptersOfKind as .generic) d called res) (hres : res.2.isSome = true) :
    AdaptersExecuted as version d ev called res := by
  cases h with
  | completed => cases hres
  | failed hpre hs hb =>
    refine .failed ?_ hs hb (failureRecorded_of_failed hd hs hb)
    split
    · exact hpre
    · exact hpre.trans generic_prefix_adapterPlan

/-- 合図の段 `x` が列 `mid` を動かしたものなら、そのあと誤りがなければ静的なアダプタを動かす
続きは、`mid` と静的なアダプタをつないだ列を動かしたものである。 -/
theorem continue_static {x : Run (Document × Option KernelError)} {mid : List Adapter}
    {d₁ : Document}
    (hx : Journals x fun res J =>
      ∃ called, J = called.map (adapterLine ev) ∧ RanInOrder mid d₁ called res) :
    Journals (x >>= fun res => if res.2.isSome = true then pure (res.1, res.2)
        else runAdapters (adaptersOfKind as .static) res.1 ev)
      fun res J => ∃ called, J = called.map (adapterLine ev) ∧
        RanInOrder (mid ++ adaptersOfKind as .static) d₁ called res := by
  refine hx.bind fun res₂ J₂ h₂ => ?_
  obtain ⟨called₂, rfl, hran₂⟩ := h₂
  by_cases herr : res₂.2.isSome = true
  · rw [if_pos herr]
    exact Journals.pure ⟨called₂, by simp, hran₂.append_of_failed herr⟩
  · rw [if_neg herr]
    obtain ⟨rfl, hs⟩ := hran₂.completed_of_none (by simpa using herr)
    refine (runAdapters_ranInOrder _ res₂.1 ev).imp fun res J₃ h₃ => ?_
    obtain ⟨called₃, rfl, hran₃⟩ := h₃
    exact ⟨called₂ ++ called₃, by simp, hran₃.append_of_succeeds hs⟩

/-- 汎用のアダプタがすべて成功して `d₁` になり、名指された合図のアダプタが揃っているとき、合図の
段 `x` がその段の列を動かしたものなら、静的なアダプタまでの処理は `AdaptersExecuted` のとおりで
ある。行は汎用のアダプタの行に続く。 -/
theorem executed_after_signal (hd : d.WellFormed) {d₁ : Document}
    (hgen : Succeeds (adaptersOfKind as .generic) d d₁) (hmiss : signalMissing as ev = false)
    {x : Run (Document × Option KernelError)}
    (hx : Journals x fun res J =>
      ∃ called, J = called.map (adapterLine ev) ∧ RanInOrder (signalAdapters as ev) d₁ called res) :
    Journals (x >>= fun res => if res.2.isSome = true then pure (res.1, res.2)
        else runAdapters (adaptersOfKind as .static) res.1 ev)
      fun res J => ∃ called, (adaptersOfKind as .generic).map (adapterLine ev) ++ J =
        called.map (adapterLine ev) ∧ AdaptersExecuted as version d ev called res := by
  refine (continue_static hx).imp fun res J h => ?_
  obtain ⟨called, rfl, hran⟩ := h
  refine ⟨adaptersOfKind as .generic ++ called, by simp, .of_ranInOrder hmiss hd ?_⟩
  rw [adapterPlan, List.append_assoc]
  exact hran.append_of_succeeds hgen

/-- **遷移のアダプタの処理は `AdaptersExecuted` のとおりである。** 書く行は、呼んだアダプタの行を
呼んだ順に並べたものである。 -/
theorem executeAdapters_executed (hnd : (as.map (·.id)).Nodup) (version : String)
    (hd : d.WellFormed) (ev : Event) :
    Journals (executeAdapters as version d ev) fun res J =>
      ∃ called, J = called.map (adapterLine ev) ∧ AdaptersExecuted as version d ev called res := by
  unfold executeAdapters
  refine (runAdapters_ranInOrder _ d ev).bind fun res₁ J₁ h₁ => ?_
  obtain ⟨called₁, rfl, hran₁⟩ := h₁
  dsimp only
  by_cases herr : res₁.2.isSome = true
  · -- 汎用のアダプタが失敗した。
    rw [if_pos herr]
    exact Journals.pure ⟨called₁, by simp, .of_generic_failure hd hran₁ herr⟩
  · rw [if_neg herr]
    obtain ⟨rfl, hgen⟩ := hran₁.completed_of_none (by simpa using herr)
    -- 合図の段で何も動かさないとき。
    have hnone : ∀ {mid : List Adapter}, mid = [] →
        Journals (pure (res₁.1, none) : Run (Document × Option KernelError))
          fun res J =>
            ∃ called, J = called.map (adapterLine ev) ∧ RanInOrder mid res₁.1 called res := by
      rintro _ rfl
      exact Journals.pure ⟨[], rfl, .completed (.nil _)⟩
    cases hsig : ev.signalAdapter with
    | none =>
      exact executed_after_signal hd hgen (signalMissing_eq_false_of_none hsig)
        (hnone (signalAdapters_of_none hsig))
    | some id =>
      dsimp only
      cases hfind : as.find? (·.id == id) with
      | none =>
        -- 名指された合図のアダプタが登録されていない。
        rw [pure_bind]
        simp only [Option.isSome_some, ↓reduceIte]
        exact Journals.pure ⟨adaptersOfKind as .generic, by simp [adaptersOfKind],
          .unregisteredSignal hsig (not_mem_ids_of_not_found hfind) hgen⟩
      | some a =>
        dsimp only
        have hmiss := signalMissing_eq_false_of_found hsig hfind
        have hslot := signalAdapters_of_found hnd hsig hfind
        by_cases hk : (a.kind == .signal) = true
        · rw [if_pos hk] at hslot ⊢
          refine executed_after_signal hd hgen hmiss ?_
          rw [hslot]
          exact runAdapter_ranInOrder a _ ev
        · -- 名指されたアダプタが合図の種類でなければ、合図としては動かさない。
          rw [if_neg hk] at hslot ⊢
          exact executed_after_signal hd hgen hmiss (hnone hslot)

end Executed

/-! ## 登録を重ねたアダプタ -/

/-- 登録されたアダプタの集まりの法則。 -/
structure AdapterOrderLaws (as : List Adapter) : Prop where
  /-- id は互いに異なる：同じ id の登録は、その位置で置き換わる。 -/
  distinct : (as.map (·.id)).Nodup
  /-- どの文書とイベントでも、一回の処理は呼んだアダプタの列 `called` について `AdaptersExecuted`
  のとおりで、呼んだ順に一行ずつ書き、どのアダプタも二度は呼ばない。 -/
  executes : ∀ (version : String) (d : Document), d.WellFormed → ∀ (ev : Event) (r : Runtime),
    ∃ called, AdaptersExecuted as version d ev called ((executeAdapters as version d ev).run r).1 ∧
      (called.map (·.id)).Nodup ∧
      ((executeAdapters as version d ev).run r).2.journal.toList =
        r.journal.toList ++ called.map (adapterLine ev)

theorem AdapterOrderLaws.of_nodup {as : List Adapter} (h : (as.map (·.id)).Nodup) :
    AdapterOrderLaws as where
  distinct := h
  executes version d hd ev r := by
    obtain ⟨J, hJ, called, rfl, hexec⟩ := executeAdapters_executed h version hd ev r
    exact ⟨called, hexec,
      (nodup_ids_adapterPlan h ev).sublist (hexec.prefix_plan.sublist.map _), hJ⟩

/-- **アダプタの呼び出し順。** 空の集まりにどう登録を重ねても、アダプタの id は互いに異なる。
そのうえで遷移のたびのアダプタの処理は、汎用のアダプタを登録の順に、名指された合図のアダプタが
合図の種類ならそれを、静的なアダプタを登録の順に呼び、最初の失敗で止まる。どのアダプタも二度は
呼ばれない。名指された合図のアダプタが登録されていなければ、汎用のアダプタのあと、静的なアダプタの
前にモデルの誤りで止まる。アダプタが失敗すれば、そのアダプタの誤りを返し、文書にはそのアダプタ
自身の変更のあとに失敗の四つの項目だけが書かれる。 -/
theorem adapters_run_in_registration_order (k₀ : Kernel) (h₀ : k₀.adapters = [])
    (regs : List Adapter) : AdapterOrderLaws (regs.foldl Kernel.registerAdapter k₀).adapters :=
  AdapterOrderLaws.of_nodup (adapterIds_nodup_foldl (by simp [Kernel.adapterIds, h₀]) regs)

/-- 静的な `static`、合図の `mail` と `archive`、汎用の `generic` をこの順に登録した集まり。 -/
theorem recorder_adapters_in_order :
    ({} : Kernel).adapters = [] ∧
      AdapterOrderLaws ([{ id := "static", kind := .static }, { id := "mail" }, { id := "archive" },
        { id := "generic", kind := .generic }].foldl Kernel.registerAdapter {}).adapters :=
  ⟨rfl, adapters_run_in_registration_order {} rfl _⟩

end Workflow.Kernel
