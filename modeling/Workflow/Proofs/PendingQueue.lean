import Mathlib
import Workflow.Proofs.Items

/-!
# 後続イベントの待ち行列は FIFO である

文書の待ち行列 `pendingEvents` は、`$pendingevents` の値のうち正の整数として読めるものを
順に並べた列である。項目の値はどんな形でもよい（文字列、double、0 や負の数）。読むたびに
整数として読み替え、書くたびに整数の値の列に書き直す。

1. 一歩（`appendPendingEvent_spec`・`popPendingEvent_spec`）：末尾に足せば、正の id なら
   列はそれで一つ伸び、そうでなければ変わらない。先頭を取り出せば、列の先頭（空なら `none`）を
   返し、列は残りになる。どちらのあとも、項目は列の整数をそのまま値として持ち、列が空なら
   項目はない（`HoldsQueue`）。ほかの項目は変わらない：待ち行列の項目を除いた文書が同じである。
2. 列（`runQueue_fifo`）：足すと取り出すをどう混ぜて並べても、取り出しの答えと最後の列は、
   正の id だけを入れる FIFO 待ち行列（`fifoRun`）のものと同じである。一歩の補題からの、
   操作の列についての帰納法で示す。

文書の項目名は昇順に並ぶ（`WellFormed`）と仮定する。文書を作る操作はどれもこれを保つ。
-/

namespace Workflow.Document

/-! ## 項目の列から項目を除く -/

section Entries

variable {k : String} {vs : List ItemValue}

theorem eraseEntry_of_not_mem {l : List (String × List ItemValue)} (h : k ∉ l.map Prod.fst) :
    eraseEntry k l = l := by
  induction l with
  | nil => rfl
  | cons e rest ih =>
    simp only [List.map_cons, List.mem_cons, not_or] at h
    simp only [eraseEntry, h.1, if_false, ih h.2]

/-- 名前に重複のない列から二度除いても、一度除いたのと同じである。 -/
theorem eraseEntry_eraseEntry {l : List (String × List ItemValue)} (hnd : (l.map Prod.fst).Nodup) :
    eraseEntry k (eraseEntry k l) = eraseEntry k l := by
  induction l with
  | nil => rfl
  | cons e rest ih =>
    obtain ⟨k', vs'⟩ := e
    have hnd' := List.nodup_cons.mp hnd
    by_cases hk : k = k'
    · subst hk
      have hhead : eraseEntry k ((k, vs') :: rest) = rest := by simp [eraseEntry]
      rw [hhead]
      exact eraseEntry_of_not_mem hnd'.1
    · simp only [eraseEntry, hk, if_false, ih hnd'.2]

/-- 名前が昇順の列に項目を入れてから除けば、もとの列から除いたのと同じである。 -/
theorem eraseEntry_insertEntry_self {l : List (String × List ItemValue)}
    (hs : (l.map Prod.fst).Pairwise (· < ·)) :
    eraseEntry k (insertEntry k vs l) = eraseEntry k l := by
  induction l with
  | nil => simp [insertEntry, eraseEntry]
  | cons e rest ih =>
    obtain ⟨k', vs'⟩ := e
    have hs' := List.pairwise_cons.mp hs
    unfold insertEntry
    split
    · next hlt =>
      -- `k` は先頭より小さいので、後ろの列には現れない。
      have hnot : k ∉ rest.map Prod.fst := fun hk => by
        have := hs'.1 k hk
        exact absurd (hlt.trans this) (lt_irrefl k)
      have hne : k ≠ k' := ne_of_lt hlt
      simp only [eraseEntry, hne, if_false, if_true, eraseEntry_of_not_mem hnot]
    · split
      · next hk =>
        subst hk
        simp [eraseEntry]
      · next hk => simp only [eraseEntry, hk, if_false, ih hs'.2]

end Entries

/-! ## 待ち行列の項目を除いた文書 -/

section Frame

variable {d : Document} {n : String}

/-- 項目を置いてからその項目を除けば、もとの文書からその項目を除いたのと同じである。 -/
theorem removeItem_setItems_self (hd : d.WellFormed) (vs : List ItemValue) :
    ((d.setItems n vs).removeItem n).2 = (d.removeItem n).2 := by
  unfold Document.setItems Document.removeItem
  split
  · exact congrArg Document.mk (eraseEntry_eraseEntry hd.nodup)
  · exact congrArg Document.mk (eraseEntry_insertEntry_self hd)

theorem removeItem_removeItem_self (hd : d.WellFormed) :
    ((d.removeItem n).2.removeItem n).2 = (d.removeItem n).2 := by
  unfold Document.removeItem
  exact congrArg Document.mk (eraseEntry_eraseEntry hd.nodup)

end Frame

/-! ## 待ち行列の項目の書き方 -/

/-- 文書の待ち行列の項目が列 `q` の整数をそのまま値として持ち、`q` が空ならば項目はない。 -/
structure HoldsQueue (d : Document) (q : List Int) : Prop where
  values : d.get ItemName.pendingEvents = q.map ItemValue.int
  present : d.hasItem ItemName.pendingEvents = !q.isEmpty

section Holds

variable {d : Document}

theorem holdsQueue_removeItem (hd : d.WellFormed) :
    HoldsQueue (d.removeItem ItemName.pendingEvents).2 [] where
  values := by
    unfold Document.removeItem Document.get
    rw [normalize_pendingEvents, lookupEntry_eraseEntry_self hd.nodup]
    rfl
  present := hasItem_removeItem_self hd

theorem holdsQueue_setItems (hd : d.WellFormed) (q : List Int) :
    HoldsQueue (d.setItems ItemName.pendingEvents (q.map ItemValue.int)) q := by
  cases q with
  | nil => exact holdsQueue_removeItem hd
  | cons x xs =>
    refine ⟨get_setItems_self (by simp), ?_⟩
    unfold Document.setItems Document.hasItem
    rw [if_neg (by simp), lookupEntry_insertEntry_self]
    rfl

/-- 正の id の列を書いた項目からは、その列がそのまま読める。 -/
theorem HoldsQueue.pendingEvents_eq {q : List Int} (h : HoldsQueue d q) (hq : ∀ e ∈ q, e > 0) :
    d.pendingEvents = q :=
  pendingEvents_of_get hq h.values

end Holds

/-! ## 一歩 -/

section Step

variable {d : Document}

/-- 末尾に足せば、列は id が正ならそれで一つ伸び、そうでなければ変わらない。項目はその列を
書いたものになり、ほかの項目は変わらない。 -/
theorem appendPendingEvent_spec (hd : d.WellFormed) (e : Int) :
    (d.appendPendingEvent e).pendingEvents =
        (if e > 0 then d.pendingEvents ++ [e] else d.pendingEvents) ∧
      HoldsQueue (d.appendPendingEvent e)
        (if e > 0 then d.pendingEvents ++ [e] else d.pendingEvents) ∧
      ((d.appendPendingEvent e).removeItem ItemName.pendingEvents).2 =
        (d.removeItem ItemName.pendingEvents).2 := by
  have hq : d.pendingEvents ++ (if e > 0 then [e] else []) =
      (if e > 0 then d.pendingEvents ++ [e] else d.pendingEvents) := by
    split <;> simp
  have hholds := holdsQueue_setItems hd (d.pendingEvents ++ (if e > 0 then [e] else []))
  rw [hq] at hholds
  have hview := pendingEvents_appendPendingEvent hd e
  refine ⟨?_, ?_, removeItem_setItems_self hd _⟩
  · rw [hview]
    split <;> simp_all
  · unfold Document.appendPendingEvent
    rw [hq]
    exact hholds

/-- 先頭を取り出せば、列の先頭（空なら `none`）を返し、列は残りになる。項目はその残りを
書いたものになり（空なら項目を除き）、ほかの項目は変わらない。 -/
theorem popPendingEvent_spec (hd : d.WellFormed) :
    d.popPendingEvent.1 = d.pendingEvents.head? ∧
      d.popPendingEvent.2.pendingEvents = d.pendingEvents.tail ∧
      HoldsQueue d.popPendingEvent.2 d.pendingEvents.tail ∧
      (d.popPendingEvent.2.removeItem ItemName.pendingEvents).2 =
        (d.removeItem ItemName.pendingEvents).2 := by
  refine ⟨?_, pendingEvents_popPendingEvent hd, ?_, ?_⟩
  all_goals
    unfold Document.popPendingEvent
    split
  · next h => rw [h]; rfl
  · next e rest h => rw [h]; rfl
  · next h =>
    rw [h]
    exact holdsQueue_removeItem hd
  · next e rest h =>
    rw [h]
    exact holdsQueue_setItems hd rest
  · exact removeItem_removeItem_self hd
  · exact removeItem_setItems_self hd _

end Step

/-! ## 操作の列 -/

/-- 待ち行列の操作。 -/
inductive QueueOp where
  /-- 末尾に id を足す。 -/
  | append (e : Int)
  /-- 先頭を取り出す。 -/
  | pop

/-- 操作の列を文書に施す。取り出すたびに、その答え（空なら `none`）を順に集める。 -/
def runQueue : Document → List QueueOp → List (Option Int) × Document
  | d, [] => ([], d)
  | d, .append e :: ops => runQueue (d.appendPendingEvent e) ops
  | d, .pop :: ops =>
    let r := runQueue d.popPendingEvent.2 ops
    (d.popPendingEvent.1 :: r.1, r.2)

/-- 正の id だけを入れる FIFO 待ち行列に操作の列を施す。 -/
def fifoRun : List Int → List QueueOp → List (Option Int) × List Int
  | q, [] => ([], q)
  | q, .append e :: ops => fifoRun (if e > 0 then q ++ [e] else q) ops
  | q, .pop :: ops =>
    let r := fifoRun q.tail ops
    (q.head? :: r.1, r.2)

/-- 足すと取り出すをどう並べても、取り出しの答えと最後の列は FIFO 待ち行列のものと同じで、
ほかの項目は変わらない。操作が一つでもあれば、項目は最後の列を書いたものである。
操作の列についての帰納法で、文書を一般にしておく。一歩は `appendPendingEvent_spec` と
`popPendingEvent_spec` で、項目名の並びが整っていることは各一歩が保つ。 -/
theorem runQueue_fifo {d : Document} (hd : d.WellFormed) (ops : List QueueOp) :
    (runQueue d ops).1 = (fifoRun d.pendingEvents ops).1 ∧
      (runQueue d ops).2.pendingEvents = (fifoRun d.pendingEvents ops).2 ∧
      ((runQueue d ops).2.removeItem ItemName.pendingEvents).2 =
        (d.removeItem ItemName.pendingEvents).2 ∧
      (ops ≠ [] → HoldsQueue (runQueue d ops).2 (fifoRun d.pendingEvents ops).2) := by
  induction ops generalizing d with
  | nil => exact ⟨rfl, rfl, rfl, fun h => absurd rfl h⟩
  | cons op ops ih =>
    cases op with
    | append e =>
      obtain ⟨hview, hholds, hframe⟩ := appendPendingEvent_spec hd e
      obtain ⟨h1, h2, h3, h4⟩ := ih (hd.appendPendingEvent e)
      simp only [runQueue, fifoRun]
      rw [← hview]
      refine ⟨h1, h2, h3.trans hframe, fun _ => ?_⟩
      -- 最後の一歩なら、書いた列は足したあとの列である。
      cases ops with
      | nil => simpa [runQueue, fifoRun, hview] using hholds
      | cons o os => exact h4 (List.cons_ne_nil o os)
    | pop =>
      obtain ⟨hout, hview, hholds, hframe⟩ := popPendingEvent_spec hd
      obtain ⟨h1, h2, h3, h4⟩ := ih hd.popPendingEvent
      simp only [runQueue, fifoRun]
      rw [← hview, hout]
      refine ⟨by rw [h1], h2, h3.trans hframe, fun _ => ?_⟩
      cases ops with
      | nil => simpa [runQueue, fifoRun, hview] using hholds
      | cons o os => exact h4 (List.cons_ne_nil o os)

/-- **後続イベントの待ち行列は FIFO である。** 項目名の並びが整った文書 `d` と id `e` について：

* 末尾に足せば、列 `pendingEvents` は `e > 0` なら `e` で一つ伸び、そうでなければ変わらない。
* 先頭を取り出せば、列の先頭（空なら `none`）を返し、列は残りになる。
* どちらのあとも、`$pendingevents` は新しい列の整数をそのまま値として持ち、列が空なら項目は
  ない。待ち行列の項目を除いた文書はもとと同じで、ほかの項目は変わらない。
* 足すと取り出すをどう混ぜて並べても、取り出しの答えと最後の列は、正の id だけを入れる
  FIFO 待ち行列のものと同じで、ほかの項目は変わらない。 -/
theorem pendingEvents_fifo {d : Document} (hd : d.WellFormed) (e : Int) (ops : List QueueOp) :
    ((d.appendPendingEvent e).pendingEvents =
        (if e > 0 then d.pendingEvents ++ [e] else d.pendingEvents) ∧
      HoldsQueue (d.appendPendingEvent e)
        (if e > 0 then d.pendingEvents ++ [e] else d.pendingEvents) ∧
      ((d.appendPendingEvent e).removeItem ItemName.pendingEvents).2 =
        (d.removeItem ItemName.pendingEvents).2) ∧
    (d.popPendingEvent.1 = d.pendingEvents.head? ∧
      d.popPendingEvent.2.pendingEvents = d.pendingEvents.tail ∧
      HoldsQueue d.popPendingEvent.2 d.pendingEvents.tail ∧
      (d.popPendingEvent.2.removeItem ItemName.pendingEvents).2 =
        (d.removeItem ItemName.pendingEvents).2) ∧
    ((runQueue d ops).1 = (fifoRun d.pendingEvents ops).1 ∧
      (runQueue d ops).2.pendingEvents = (fifoRun d.pendingEvents ops).2 ∧
      ((runQueue d ops).2.removeItem ItemName.pendingEvents).2 =
        (d.removeItem ItemName.pendingEvents).2) := by
  obtain ⟨h1, h2, h3, -⟩ := runQueue_fifo hd ops
  exact ⟨appendPendingEvent_spec hd e, popPendingEvent_spec hd, h1, h2, h3⟩

/-- 待ち行列の値に 0・正の整数・空白つきの数字の文字列・負の数が混じり、ほかの項目も持つ文書。 -/
def mixedQueueDocument : Document :=
  ⟨[(ItemName.pendingEvents, [.int 0, .int 20, .text " 7 ", .int (-3)]),
    ("amount", [.float 1.5])]⟩

theorem mixedQueue_fifo :
    mixedQueueDocument.WellFormed ∧
    ((mixedQueueDocument.appendPendingEvent 30).pendingEvents =
        (if (30 : Int) > 0 then mixedQueueDocument.pendingEvents ++ [30]
          else mixedQueueDocument.pendingEvents) ∧
      HoldsQueue (mixedQueueDocument.appendPendingEvent 30)
        (if (30 : Int) > 0 then mixedQueueDocument.pendingEvents ++ [30]
          else mixedQueueDocument.pendingEvents) ∧
      ((mixedQueueDocument.appendPendingEvent 30).removeItem ItemName.pendingEvents).2 =
        (mixedQueueDocument.removeItem ItemName.pendingEvents).2) ∧
    (mixedQueueDocument.popPendingEvent.1 = mixedQueueDocument.pendingEvents.head? ∧
      mixedQueueDocument.popPendingEvent.2.pendingEvents = mixedQueueDocument.pendingEvents.tail ∧
      HoldsQueue mixedQueueDocument.popPendingEvent.2 mixedQueueDocument.pendingEvents.tail ∧
      (mixedQueueDocument.popPendingEvent.2.removeItem ItemName.pendingEvents).2 =
        (mixedQueueDocument.removeItem ItemName.pendingEvents).2) ∧
    ((runQueue mixedQueueDocument [.append 30, .append 0, .pop, .pop, .pop, .pop]).1 =
        (fifoRun mixedQueueDocument.pendingEvents [.append 30, .append 0, .pop, .pop, .pop, .pop]).1 ∧
      (runQueue mixedQueueDocument [.append 30, .append 0, .pop, .pop, .pop, .pop]).2.pendingEvents =
        (fifoRun mixedQueueDocument.pendingEvents [.append 30, .append 0, .pop, .pop, .pop, .pop]).2 ∧
      ((runQueue mixedQueueDocument
          [.append 30, .append 0, .pop, .pop, .pop, .pop]).2.removeItem ItemName.pendingEvents).2 =
        (mixedQueueDocument.removeItem ItemName.pendingEvents).2) := by
  have hd : mixedQueueDocument.WellFormed := by
    simp only [WellFormed, mixedQueueDocument, List.map_cons, List.map_nil]
    decide
  exact ⟨hd, pendingEvents_fifo hd 30 [.append 30, .append 0, .pop, .pop, .pop, .pop]⟩

/-- 文字列 `" 7 "` も正の整数として読むので、取り出しの答えは `20`、`7`、`30` の順で、その後は空である。 -/
example :
    (fifoRun mixedQueueDocument.pendingEvents [.append 30, .append 0, .pop, .pop, .pop, .pop]).1 =
      [some 20, some 7, some 30, none] := by
  decide +kernel

end Workflow.Document
