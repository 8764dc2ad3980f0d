import Mathlib
import Workflow.Kernel.Process

/-!
# 文書の項目の枠

文書の項目を書き換える操作が、どの項目を変え、どの項目を変えないかを述べる。

* `get_setItems_of_ne`・`get_setItems_self` — 項目を置けば、その名前の値はそれになり、
  正規化した名前の違うほかの項目はそのままである。
* `WellFormed` — 項目名が昇順に並ぶ。文書を組み立てる操作はどれもこれを保ち、このとき
  項目を除けばその名前の値は空になる（`get_setItems_nil`）。
* 後続イベントの待ち行列：末尾に足す（`pendingEvents_appendPendingEvent`）と先頭を取り出す
  （`pendingEvents_popPendingEvent`）が、読み取った列 `pendingEvents` の上でどう働くか。
-/

namespace Workflow.Document

/-! ## 項目の列の操作 -/

section Entries

variable {k j : String} {vs : List ItemValue}

theorem lookupEntry_insertEntry_self (l : List (String × List ItemValue)) :
    lookupEntry k (insertEntry k vs l) = some vs := by
  induction l with
  | nil => simp [insertEntry, lookupEntry]
  | cons e rest ih =>
    obtain ⟨k', vs'⟩ := e
    unfold insertEntry
    split
    · simp [lookupEntry]
    · split
      · simp [lookupEntry]
      · next hne =>
        simp only [lookupEntry, hne, if_false]
        exact ih

theorem lookupEntry_insertEntry_of_ne (h : k ≠ j) (l : List (String × List ItemValue)) :
    lookupEntry j (insertEntry k vs l) = lookupEntry j l := by
  induction l with
  | nil => simp [insertEntry, lookupEntry, Ne.symm h]
  | cons e rest ih =>
    obtain ⟨k', vs'⟩ := e
    unfold insertEntry
    split
    · simp [lookupEntry, Ne.symm h]
    · split
      · next hk =>
        subst hk
        simp [lookupEntry, Ne.symm h]
      · simp only [lookupEntry]
        split
        · rfl
        · exact ih

theorem lookupEntry_eraseEntry_of_ne (h : k ≠ j) (l : List (String × List ItemValue)) :
    lookupEntry j (eraseEntry k l) = lookupEntry j l := by
  induction l with
  | nil => rfl
  | cons e rest ih =>
    obtain ⟨k', vs'⟩ := e
    unfold eraseEntry
    split
    · next hk =>
      subst hk
      simp [lookupEntry, Ne.symm h]
    · simp only [lookupEntry]
      split
      · rfl
      · exact ih

theorem lookupEntry_eq_none_of_not_mem {l : List (String × List ItemValue)}
    (h : k ∉ l.map Prod.fst) : lookupEntry k l = none := by
  induction l with
  | nil => rfl
  | cons e rest ih =>
    simp only [List.map_cons, List.mem_cons, not_or] at h
    simp only [lookupEntry, h.1, if_false]
    exact ih h.2

/-- 名前に重複のない列から項目を除けば、その名前はもう引けない。 -/
theorem lookupEntry_eraseEntry_self {l : List (String × List ItemValue)}
    (hnd : (l.map Prod.fst).Nodup) : lookupEntry k (eraseEntry k l) = none := by
  induction l with
  | nil => rfl
  | cons e rest ih =>
    have hnd' := List.nodup_cons.mp hnd
    unfold eraseEntry
    split
    · next hk =>
      subst hk
      exact lookupEntry_eq_none_of_not_mem hnd'.1
    · next hk =>
      simp only [lookupEntry, hk, if_false]
      exact ih hnd'.2

theorem mem_keys_insertEntry {l : List (String × List ItemValue)} :
    j ∈ (insertEntry k vs l).map Prod.fst ↔ j = k ∨ j ∈ l.map Prod.fst := by
  induction l with
  | nil => simp [insertEntry]
  | cons e rest ih =>
    unfold insertEntry
    split
    · simp
    · split
      · next hk => subst hk; simp
      · simp only [List.map_cons, List.mem_cons, ih]
        tauto

theorem keys_eraseEntry_subset {l : List (String × List ItemValue)} (h : j ∈ (eraseEntry k l).map Prod.fst) :
    j ∈ l.map Prod.fst := by
  induction l with
  | nil => simp [eraseEntry] at h
  | cons e rest ih =>
    unfold eraseEntry at h
    split at h
    · exact List.mem_cons_of_mem _ h
    · simp only [List.map_cons, List.mem_cons] at h ⊢
      exact h.imp_right ih

/-- 名前が昇順に並んだ列に項目を入れても、名前は昇順のままである。 -/
theorem sorted_keys_insertEntry {l : List (String × List ItemValue)}
    (hs : (l.map Prod.fst).Pairwise (· < ·)) :
    ((insertEntry k vs l).map Prod.fst).Pairwise (· < ·) := by
  induction l with
  | nil => simp [insertEntry]
  | cons e rest ih =>
    obtain ⟨k', vs'⟩ := e
    have hs' := List.pairwise_cons.mp hs
    unfold insertEntry
    split
    · next hlt =>
      refine List.pairwise_cons.mpr ⟨?_, hs⟩
      intro i hi
      rcases List.mem_cons.mp hi with rfl | hi
      · exact hlt
      · exact lt_trans hlt (hs'.1 i hi)
    · next hnlt =>
      split
      · next hk => subst hk; simpa using hs
      · next hne =>
        -- `k` は `k'` より後ろに入るので、`k'` は新しい列のどの名前よりも小さい。
        have hgt : k' < k := lt_of_le_of_ne (not_lt.mp hnlt) (Ne.symm hne)
        refine List.pairwise_cons.mpr ⟨?_, ih hs'.2⟩
        intro i hi
        rcases mem_keys_insertEntry.mp hi with rfl | hi
        · exact hgt
        · exact hs'.1 i hi

theorem sorted_keys_eraseEntry {l : List (String × List ItemValue)}
    (hs : (l.map Prod.fst).Pairwise (· < ·)) :
    ((eraseEntry k l).map Prod.fst).Pairwise (· < ·) := by
  induction l with
  | nil => simp [eraseEntry]
  | cons e rest ih =>
    have hs' := List.pairwise_cons.mp hs
    unfold eraseEntry
    split
    · exact hs'.2
    · exact List.pairwise_cons.mpr ⟨fun i hi => hs'.1 i (keys_eraseEntry_subset hi), ih hs'.2⟩

end Entries

/-! ## 項目を置く、除く -/

/-- 項目名が昇順に並ぶ：文書の組み立てが保つ形。 -/
def WellFormed (d : Document) : Prop :=
  (d.items.map Prod.fst).Pairwise (· < ·)

section Items

variable {d : Document} {n m : String} {vs : List ItemValue}

theorem WellFormed.nodup (hd : d.WellFormed) : (d.items.map Prod.fst).Nodup :=
  hd.imp (ne_of_lt ·)

theorem WellFormed.setItems (hd : d.WellFormed) (n : String) (vs : List ItemValue) :
    (d.setItems n vs).WellFormed := by
  unfold Document.setItems
  split
  · exact sorted_keys_eraseEntry hd
  · exact sorted_keys_insertEntry hd

theorem WellFormed.setItem (hd : d.WellFormed) (n : String) (v : ItemValue) :
    (d.setItem n v).WellFormed :=
  hd.setItems n [v]

theorem WellFormed.removeItem (hd : d.WellFormed) (n : String) : (d.removeItem n).2.WellFormed :=
  sorted_keys_eraseEntry hd

/-- 項目を置けば、正規化した名前の違うほかの項目はそのままである。 -/
theorem get_setItems_of_ne (h : normalize n ≠ normalize m) : (d.setItems n vs).get m = d.get m := by
  unfold Document.setItems Document.get
  split
  · rw [lookupEntry_eraseEntry_of_ne h]
  · rw [lookupEntry_insertEntry_of_ne h]

/-- 空でない値の列を置けば、その名前の値はそれになる。 -/
theorem get_setItems_self (h : vs ≠ []) : (d.setItems n vs).get n = vs := by
  unfold Document.setItems Document.get
  rw [if_neg (by simpa using h), lookupEntry_insertEntry_self]
  rfl

/-- 空の列を置けば項目は消え、その名前の値は空になる。 -/
theorem get_setItems_nil (hd : d.WellFormed) : (d.setItems n []).get n = [] := by
  unfold Document.setItems Document.get
  rw [if_pos List.isEmpty_nil, lookupEntry_eraseEntry_self hd.nodup]
  rfl

theorem getInt_setItems_of_ne (h : normalize n ≠ normalize m) :
    (d.setItems n vs).getInt m = d.getInt m := by
  unfold Document.getInt Document.first?
  rw [get_setItems_of_ne h]

theorem get_setItem_self (v : ItemValue) : (d.setItem n v).get n = [v] :=
  get_setItems_self (List.cons_ne_nil v [])

theorem get_setItem_of_ne (h : normalize n ≠ normalize m) (v : ItemValue) :
    (d.setItem n v).get m = d.get m :=
  get_setItems_of_ne h

theorem get_removeItem_of_ne (h : normalize n ≠ normalize m) : (d.removeItem n).2.get m = d.get m := by
  unfold Document.removeItem Document.get
  rw [lookupEntry_eraseEntry_of_ne h]

theorem hasItem_removeItem_self (hd : d.WellFormed) : (d.removeItem n).2.hasItem n = false := by
  unfold Document.removeItem Document.hasItem
  rw [lookupEntry_eraseEntry_self hd.nodup]
  rfl

end Items

/-! ## 予約された項目の名前 -/

@[simp] theorem normalize_eventId : normalize ItemName.eventId = ItemName.eventId := by
  decide +kernel

@[simp] theorem normalize_pendingEvents : normalize ItemName.pendingEvents = ItemName.pendingEvents := by
  decide +kernel

/-! ## 後続イベントの待ち行列 -/

section Queue

variable {d : Document}

/-- 正の整数の列を整数の値として書けば、読み取った列はもとの列である。 -/
theorem pendingEvents_of_get {q : List Int} (hq : ∀ e ∈ q, e > 0)
    (h : d.get ItemName.pendingEvents = q.map ItemValue.int) : d.pendingEvents = q := by
  unfold Document.pendingEvents
  rw [h, List.filterMap_map]
  simp only [Function.comp_def, ItemValue.toInt?, List.filterMap_some]
  exact List.filter_eq_self.mpr fun e he => by simpa using hq e he

theorem pendingEvents_eq_of_get {d' : Document}
    (h : d'.get ItemName.pendingEvents = d.get ItemName.pendingEvents) :
    d'.pendingEvents = d.pendingEvents := by
  unfold Document.pendingEvents
  rw [h]

theorem pendingEvents_pos : ∀ e ∈ d.pendingEvents, e > 0 := by
  intro e he
  simpa using (List.mem_filter.mp he).2

/-- 待ち行列の項目を正の id の列で書き直せば、読み取った列はその列である。列が空なら項目は
消える。 -/
theorem pendingEvents_setItems (hd : d.WellFormed) {q : List Int} (hq : ∀ e ∈ q, e > 0) :
    (d.setItems ItemName.pendingEvents (q.map ItemValue.int)).pendingEvents = q := by
  apply pendingEvents_of_get hq
  cases q with
  | nil => exact get_setItems_nil hd
  | cons x xs => exact get_setItems_self (by simp)

/-- 末尾に足せば、待ち行列はその id が正ならそれで一つ伸び、正でなければ変わらない。 -/
theorem pendingEvents_appendPendingEvent (hd : d.WellFormed) (e : Int) :
    (d.appendPendingEvent e).pendingEvents = d.pendingEvents ++ [e].filter (· > 0) := by
  unfold Document.appendPendingEvent
  have hq : ∀ x ∈ d.pendingEvents ++ (if e > 0 then [e] else []), x > 0 := by
    intro x hx
    rcases List.mem_append.mp hx with hx | hx
    · exact pendingEvents_pos x hx
    · split at hx
      · next he => exact (List.mem_singleton.mp hx) ▸ he
      · cases hx
  rw [pendingEvents_setItems hd hq]
  by_cases he : e > 0 <;> simp [he]

theorem get_appendPendingEvent_eventId (e : Int) :
    (d.appendPendingEvent e).get ItemName.eventId = d.get ItemName.eventId :=
  get_setItems_of_ne (by decide +kernel)

theorem WellFormed.appendPendingEvent (hd : d.WellFormed) (e : Int) : (d.appendPendingEvent e).WellFormed :=
  hd.setItems _ _

/-- 先頭を取り出せば、待ち行列は残りになる。 -/
theorem pendingEvents_popPendingEvent (hd : d.WellFormed) :
    (d.popPendingEvent).2.pendingEvents = d.pendingEvents.tail := by
  unfold Document.popPendingEvent
  split
  · next h =>
    rw [h]
    unfold Document.pendingEvents
    rw [show ((d.removeItem ItemName.pendingEvents).2.get ItemName.pendingEvents) = [] by
      unfold Document.removeItem Document.get
      rw [normalize_pendingEvents, lookupEntry_eraseEntry_self hd.nodup]; rfl]
    rfl
  · next e rest h =>
    rw [h]
    exact pendingEvents_setItems hd fun x hx => pendingEvents_pos x (h ▸ List.mem_cons_of_mem e hx)

theorem WellFormed.popPendingEvent (hd : d.WellFormed) : (d.popPendingEvent).2.WellFormed := by
  unfold Document.popPendingEvent
  split
  · exact hd.removeItem _
  · exact hd.setItems _ _

end Queue

/-! ## 待ち行列の項目に触れない書き換え -/

/-- 待ち行列を表す項目：イベントの項目と保留中のイベントの項目。 -/
def QueueItem (n : String) : Prop :=
  normalize n = ItemName.eventId ∨ normalize n = ItemName.pendingEvents

instance : DecidablePred QueueItem := fun _ => inferInstanceAs (Decidable (_ ∨ _))

/-- 文書 `d'` は `d` と待ち行列の項目が同じで、`d` の項目の並びが整っていれば `d'` も整っている。 -/
structure QueueKept (d d' : Document) : Prop where
  eventId : d'.get ItemName.eventId = d.get ItemName.eventId
  pending : d'.get ItemName.pendingEvents = d.get ItemName.pendingEvents
  wellFormed : d.WellFormed → d'.WellFormed

section QueueKept

variable {d d₁ d₂ : Document} {n : String}

theorem QueueKept.refl (d : Document) : QueueKept d d := ⟨rfl, rfl, id⟩

theorem QueueKept.trans (h₁ : QueueKept d d₁) (h₂ : QueueKept d₁ d₂) : QueueKept d d₂ :=
  ⟨h₂.eventId.trans h₁.eventId, h₂.pending.trans h₁.pending, h₂.wellFormed ∘ h₁.wellFormed⟩

theorem queueKept_setItems (h : ¬ QueueItem n) (vs : List ItemValue) :
    QueueKept d (d.setItems n vs) := by
  simp only [QueueItem, not_or] at h
  exact ⟨get_setItems_of_ne (by simpa using h.1), get_setItems_of_ne (by simpa using h.2),
    fun hd => hd.setItems n vs⟩

theorem queueKept_setItem (h : ¬ QueueItem n) (v : ItemValue) : QueueKept d (d.setItem n v) :=
  queueKept_setItems h [v]

theorem queueKept_removeItem (h : ¬ QueueItem n) : QueueKept d (d.removeItem n).2 := by
  simp only [QueueItem, not_or] at h
  exact ⟨get_removeItem_of_ne (by simpa using h.1), get_removeItem_of_ne (by simpa using h.2),
    fun hd => hd.removeItem n⟩

theorem QueueKept.pendingEvents_eq (h : QueueKept d d₁) : d₁.pendingEvents = d.pendingEvents :=
  pendingEvents_eq_of_get h.pending

theorem QueueKept.eventId_eq (h : QueueKept d d₁) : d₁.eventId = d.eventId := by
  unfold Document.eventId Document.getInt Document.first?
  rw [h.eventId]

end QueueKept

end Workflow.Document
