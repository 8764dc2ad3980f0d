import Mathlib
import Workflow.Proofs.Trace

/-!
# 処理が押す項目

処理は遷移を始める前に文書に印を押す：識別子（`$uniqueid`・`$workitemid`）がなければ作り、
処理の識別子 `$transactionid` と元のタスク `$lasttask` を書き、前の処理のアダプタの失敗
（`adapter.error_*`）を消す。評価は印を押さない。ここでは、この押印の項目のほかは同じ二つの
文書を比べる。

* `StampTwins` — 二つの文書が押印の項目のほかは同じ。文書を組み立てる操作はどれもこれを保ち、
  押印の項目でない項目を読めば同じ値になる（`takeEvent_twins`・`resolve_twins`）。
* `Condition.eval_congr` — 条件式は、読む項目（`Condition.reads`）が同じ文書で同じ値になる。
* `Evaluator.Parsed.condition_fst` — 控えがどれも字面を読み直したものなら、控えを通して読んだ
  式は読み直したものである。
-/

namespace Workflow.Document

/-- 処理が遷移の前に押す項目（正規化した名前）。 -/
def stampedItems : List String :=
  [ItemName.uniqueId, ItemName.workitemId, ItemName.transactionId, ItemName.lastTask,
    ItemName.adapterErrorContext, ItemName.adapterErrorCode, ItemName.adapterErrorParams,
    ItemName.adapterErrorMessage]

/-- 二つの文書が押印の項目のほかは同じ：どちらも項目名が昇順に並び、押印の項目でない名前の値が
等しい。 -/
structure StampTwins (d₁ d₂ : Document) : Prop where
  left : d₁.WellFormed
  right : d₂.WellFormed
  agree : ∀ k, k ∉ stampedItems → lookupEntry k d₁.items = lookupEntry k d₂.items

namespace StampTwins

variable {d₁ d₂ : Document} (h : StampTwins d₁ d₂) {n : String}
include h

/-! ## 押印の項目でない項目を読む -/

theorem get (hn : normalize n ∉ stampedItems) : d₁.get n = d₂.get n := by
  unfold Document.get
  rw [h.agree _ hn]

theorem first? (hn : normalize n ∉ stampedItems) : d₁.first? n = d₂.first? n := by
  unfold Document.first?
  rw [h.get hn]

theorem hasItem (hn : normalize n ∉ stampedItems) : d₁.hasItem n = d₂.hasItem n := by
  unfold Document.hasItem
  rw [h.agree _ hn]

theorem taskId : d₁.taskId = d₂.taskId := by
  unfold Document.taskId Document.getInt
  rw [h.first? (by decide +kernel)]

theorem eventId : d₁.eventId = d₂.eventId := by
  unfold Document.eventId Document.getInt
  rw [h.first? (by decide +kernel)]

theorem modelVersion : d₁.modelVersion = d₂.modelVersion := by
  unfold Document.modelVersion Document.getString
  rw [h.first? (by decide +kernel)]

theorem workflowGroup : d₁.workflowGroup = d₂.workflowGroup := by
  unfold Document.workflowGroup Document.getString
  rw [h.first? (by decide +kernel)]

theorem pendingEvents : d₁.pendingEvents = d₂.pendingEvents :=
  pendingEvents_eq_of_get (h.get (by decide +kernel))

/-! ## 両方に同じ書き換え -/

/-- 同じ名前に同じ値の列を置けば（空なら除けば）、押印の項目のほかは同じままである。 -/
theorem setItems (n : String) (vs : List ItemValue) :
    StampTwins (d₁.setItems n vs) (d₂.setItems n vs) := by
  refine ⟨h.left.setItems n vs, h.right.setItems n vs, fun k hk => ?_⟩
  unfold Document.setItems
  by_cases hv : vs.isEmpty = true
  · rw [if_pos hv, if_pos hv]
    by_cases hkn : normalize n = k
    · -- 除いた名前は、項目名に重複がないのでどちらでももう引けない。
      subst hkn
      rw [lookupEntry_eraseEntry_self h.left.nodup, lookupEntry_eraseEntry_self h.right.nodup]
    · rw [lookupEntry_eraseEntry_of_ne hkn, lookupEntry_eraseEntry_of_ne hkn]
      exact h.agree k hk
  · rw [if_neg hv, if_neg hv]
    by_cases hkn : normalize n = k
    · subst hkn
      rw [lookupEntry_insertEntry_self, lookupEntry_insertEntry_self]
    · rw [lookupEntry_insertEntry_of_ne hkn, lookupEntry_insertEntry_of_ne hkn]
      exact h.agree k hk

theorem setItem (n : String) (v : ItemValue) : StampTwins (d₁.setItem n v) (d₂.setItem n v) :=
  h.setItems n [v]

theorem removeItem (n : String) : StampTwins (d₁.removeItem n).2 (d₂.removeItem n).2 :=
  h.setItems n []

/-- 押印の項目でない項目を除けば、除いた値も同じである。 -/
theorem removeItem_fst (hn : normalize n ∉ stampedItems) : (d₁.removeItem n).1 = (d₂.removeItem n).1 :=
  h.agree _ hn

theorem appendPendingEvent (e : Int) :
    StampTwins (d₁.appendPendingEvent e) (d₂.appendPendingEvent e) := by
  unfold Document.appendPendingEvent
  rw [h.pendingEvents]
  exact h.setItems _ _

theorem popPendingEvent :
    d₁.popPendingEvent.1 = d₂.popPendingEvent.1 ∧
      StampTwins d₁.popPendingEvent.2 d₂.popPendingEvent.2 := by
  unfold Document.popPendingEvent
  rw [h.pendingEvents]
  cases d₂.pendingEvents with
  | nil => exact ⟨rfl, h.removeItem _⟩
  | cons e rest => exact ⟨rfl, h.setItems _ _⟩

end StampTwins

/-! ## 押印 -/

theorem StampTwins.refl {d : Document} (hd : d.WellFormed) : StampTwins d d :=
  ⟨hd, hd, fun _ _ => rfl⟩

section Stamp

variable {d₁ d₂ : Document} (h : StampTwins d₁ d₂) {n : String} (hn : normalize n ∈ stampedItems)
include h hn

/-- 押印の項目を書き換えても、押印の項目のほかは同じままである。 -/
theorem StampTwins.setItems_stamped (vs : List ItemValue) : StampTwins d₁ (d₂.setItems n vs) := by
  refine ⟨h.left, h.right.setItems n vs, fun k hk => ?_⟩
  have hne : normalize n ≠ k := fun heq => hk (heq ▸ hn)
  rw [h.agree k hk]
  unfold Document.setItems
  split
  · rw [lookupEntry_eraseEntry_of_ne hne]
  · rw [lookupEntry_insertEntry_of_ne hne]

theorem StampTwins.setItem_stamped (v : ItemValue) : StampTwins d₁ (d₂.setItem n v) :=
  h.setItems_stamped hn [v]

theorem StampTwins.removeItem_stamped : StampTwins d₁ (d₂.removeItem n).2 :=
  h.setItems_stamped hn []

end Stamp

end Workflow.Document

namespace Workflow.Condition

open Workflow.Document

/-! ## 条件式が読む項目 -/

/-- 項目名 `field` の値を求めるときに読む項目名：名前そのものと、`.` で区切った短い接頭辞。 -/
def fieldReads (field : String) : List String :=
  field :: (List.range (field.splitOn ".").length).map fun n => ".".intercalate ((field.splitOn ".").take n)

set_option linter.dupNamespace false in
/-- 条件式が読む項目名。 -/
def Condition.reads : Condition → List String
  | .const _ => []
  | .truthy f | .eq f _ | .ne f _ | .compare _ f _ => fieldReads f
  | .and a b | .or a b => a.reads ++ b.reads
  | .not a => a.reads

section Congr

variable {d₁ d₂ : Document}

theorem prefixLookup_congr {parts : List String} : ∀ n : Nat,
    (∀ k < n, d₁.first? (".".intercalate (parts.take k)) = d₂.first? (".".intercalate (parts.take k))) →
      prefixLookup d₁ parts n = prefixLookup d₂ parts n
  | 0, _ => rfl
  | n + 1, h => by
    unfold prefixLookup
    rw [h n (Nat.lt_succ_self n), prefixLookup_congr n fun k hk => h k (Nat.lt_succ_of_lt hk)]

theorem fieldValue_congr {f : String} (h : ∀ n ∈ fieldReads f, d₁.first? n = d₂.first? n) :
    fieldValue d₁ f = fieldValue d₂ f := by
  unfold fieldValue
  rw [h f List.mem_cons_self, prefixLookup_congr _ fun k hk =>
    h _ (List.mem_cons_of_mem _ (List.mem_map.mpr ⟨k, List.mem_range.mpr hk, rfl⟩))]

set_option linter.dupNamespace false in
/-- **条件式は読む項目で決まる。** 読む項目の最初の値が同じ二つの文書で、条件式の値は同じである。 -/
theorem Condition.eval_congr (c : Condition) (h : ∀ n ∈ c.reads, d₁.first? n = d₂.first? n) :
    c.eval d₁ = c.eval d₂ := by
  induction c with
  | const b => rfl
  | truthy f => simp only [Condition.eval, fieldValue_congr h]
  | eq f v => simp only [Condition.eval, fieldValue_congr h]
  | ne f v => simp only [Condition.eval, fieldValue_congr h]
  | compare r f n => simp only [Condition.eval, fieldValue_congr h]
  | and a b iha ihb =>
    simp only [Condition.reads, List.mem_append] at h
    simp only [Condition.eval, iha fun n hn => h n (.inl hn), ihb fun n hn => h n (.inr hn)]
  | or a b iha ihb =>
    simp only [Condition.reads, List.mem_append] at h
    simp only [Condition.eval, iha fun n hn => h n (.inl hn), ihb fun n hn => h n (.inr hn)]
  | not a ih => simp only [Condition.eval, ih h]

set_option linter.dupNamespace false in
/-- 押印の項目を読まない条件式は、押印の項目のほかが同じ文書で同じ値になる。 -/
theorem Condition.eval_twins (c : Condition) (hc : ∀ n ∈ c.reads, normalize n ∉ stampedItems)
    (h : StampTwins d₁ d₂) : c.eval d₁ = c.eval d₂ :=
  c.eval_congr fun n hn => h.first? (hc n hn)

end Congr

/-! ## 読んだ式の控え -/

namespace Evaluator

/-- 控えのどの式も、その字面を読み直したものである。 -/
def Parsed (ev : Evaluator) : Prop :=
  ∀ p ∈ ev.cache, parse p.1 = .ok p.2

variable {ev : Evaluator}

/-- 控えが読み直しと同じなら、控えを通して読んだ式は読み直したものである。 -/
theorem Parsed.condition_fst (h : ev.Parsed) (s : String) : (ev.condition s).1 = parse s := by
  unfold condition
  cases hl : ev.cache.lookup s with
  | some c => exact (h _ (Model.mem_of_lookup_eq_some hl)).symm
  | none =>
    dsimp only
    cases parse s <;> rfl

/-- 控えを通して読んでも、控えは読み直しと同じままである。 -/
theorem Parsed.condition_snd (h : ev.Parsed) (s : String) : (ev.condition s).2.Parsed := by
  unfold condition
  cases hl : ev.cache.lookup s with
  | some c => exact h
  | none =>
    dsimp only
    cases hp : parse s with
    | ok c =>
      intro p hmem
      rcases List.mem_append.mp hmem with hmem | hmem
      · exact h p hmem
      · rw [List.mem_singleton.mp hmem]
        exact hp
    | error e => exact h

/-- 控えが読み直しと同じなら、評価の答えは読み直した式の値である。 -/
theorem Parsed.evaluate_fst (h : ev.Parsed) (s : String) (d : Document) :
    (ev.evaluate s d).1 = (parse s).map (·.eval d) := by
  rw [← h.condition_fst s]
  rfl

theorem Parsed.evaluate_snd (h : ev.Parsed) (s : String) (d : Document) : (ev.evaluate s d).2.Parsed :=
  h.condition_snd s

end Evaluator

end Workflow.Condition

namespace Workflow.Kernel

open Workflow.Model Workflow.Document

section Twins

variable {d₁ d₂ : Document} (h : StampTwins d₁ d₂)
include h

theorem enterTask_twins (t : Task) : StampTwins (enterTask d₁ t) (enterTask d₂ t) := by
  have h₁ := (h.setItem ItemName.taskId (.int t.id)).setItem ItemName.workflowStatus (.text t.name)
  -- 業務グループと文書の型は、タスクにあるときだけ両方に書く。
  have h₂ : StampTwins
      (if t.group.isEmpty then (d₁.setTaskId t.id).setItem ItemName.workflowStatus (.text t.name)
        else ((d₁.setTaskId t.id).setItem ItemName.workflowStatus (.text t.name)).setItem
          ItemName.workflowGroup (.text t.group))
      (if t.group.isEmpty then (d₂.setTaskId t.id).setItem ItemName.workflowStatus (.text t.name)
        else ((d₂.setTaskId t.id).setItem ItemName.workflowStatus (.text t.name)).setItem
          ItemName.workflowGroup (.text t.group)) := by
    split
    · exact h₁
    · exact h₁.setItem _ _
  unfold enterTask
  dsimp only
  split
  · exact h₂.setItem _ _
  · exact h₂

/-- アダプタの失敗を消すのは押印の一つである。 -/
theorem clearAdapterErrors_twins : StampTwins d₁ (clearAdapterErrors d₂) := by
  unfold clearAdapterErrors
  simp only [List.foldl]
  exact (((h.removeItem_stamped (by decide +kernel)).removeItem_stamped (by decide +kernel)).removeItem_stamped
    (by decide +kernel)).removeItem_stamped (by decide +kernel)

/-- 遷移するイベントを決めるのは、押印の項目のほかが同じ文書では同じ決まり方をする：どちらも
終わるか、どちらも続ける。 -/
theorem takeEvent_twins : Sum.LiftRel StampTwins StampTwins (takeEvent d₁) (takeEvent d₂) := by
  obtain ⟨hfst, hsnd⟩ := h.popPendingEvent
  unfold takeEvent
  rw [h.eventId]
  split
  · generalize d₁.popPendingEvent = p₁ at hfst hsnd ⊢
    generalize d₂.popPendingEvent = p₂ at hfst hsnd ⊢
    obtain ⟨o, rest₁⟩ := p₁
    obtain ⟨o₂, rest₂⟩ := p₂
    dsimp only at hfst hsnd
    subst hfst
    cases o with
    | some e => exact .inr (hsnd.setItem _ _)
    | none => exact .inl hsnd
  · exact .inr h

/-- 文書のモデルを解決するのは、押印の項目のほかが同じ文書では同じ答えと同じ登録簿になり、
書き直した文書も押印の項目のほかは同じである。 -/
theorem resolve_twins (reg : Registry) :
    (reg.resolve d₁).result = (reg.resolve d₂).result ∧
      (reg.resolve d₁).migration = (reg.resolve d₂).migration ∧
      (reg.resolve d₁).registry = (reg.resolve d₂).registry ∧
      StampTwins (reg.resolve d₁).doc (reg.resolve d₂).doc := by
  unfold Registry.resolve
  rw [h.modelVersion, h.workflowGroup]
  dsimp only
  generalize d₂.modelVersion = v
  -- 版で見つかるか、見つかったモデルと書き直す版は文書によらない。見つからなければ業務グループで探す。
  by_cases hv : v.isEmpty = true
  · simp only [hv, if_true]
    split
    · exact ⟨rfl, rfl, rfl, h.setItem _ _⟩
    · exact ⟨rfl, rfl, rfl, h⟩
  · simp only [hv, if_false, Bool.false_eq_true]
    cases reg.find? v with
    | some g => exact ⟨rfl, rfl, rfl, h⟩
    | none =>
      dsimp only
      cases reg.versionsMatching v with
      | cons w ws =>
        dsimp only
        cases reg.find? w with
        | some g => exact ⟨rfl, rfl, rfl, h.setItem _ _⟩
        | none =>
          simp only [Option.map_none]
          split
          · exact ⟨rfl, rfl, rfl, h.setItem _ _⟩
          · exact ⟨rfl, rfl, rfl, h⟩
      | nil =>
        dsimp only
        split
        · exact ⟨rfl, rfl, rfl, h.setItem _ _⟩
        · exact ⟨rfl, rfl, rfl, h⟩

end Twins

end Workflow.Kernel
