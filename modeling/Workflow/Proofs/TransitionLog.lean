import Mathlib
import Workflow.Proofs.Items

/-!
# 遷移の記録の上限

遷移のたびに、核は項目 `$eventlog` に一行足す（`appendLogEntry`）。行は時刻、版、遷移、次の
タスクを `|` でつなぎ、注釈の項目の最初の値の表示が空でなければ `|注釈` を添える。注釈の項目は
そのとき消す。上限 `m > 0` を超えた古い行は捨てる。

1. `keepNewest` — 上限の働き：`m > 0` なら末尾の `m` 個、`m = 0` なら全部を残す。二度
   切り詰めても一度と変わらない（`keepNewest_keepNewest_append`）ので、呼び出しを重ねた記録は
   初めの値にすべての新しい行を続けた列を一度切り詰めたものになる。
2. `appendLogEntry_run` — 一回の呼び出しの答え。注釈の項目を消してから記録を読むので、注釈の
   項目が記録の項目そのものを指すと、それまでの行は注釈に回り、記録には新しい一行だけが残る。
3. `transition_log_keeps_newest` — 呼び出しを重ねたあとの記録。
-/

namespace Workflow.Kernel

open Workflow.Document

/-! ## 上限 -/

section Cap

variable {α : Type} {m : Nat} {xs ys : List α}

/-- 上限 `m` に収まる末尾：`m > 0` なら最後の `m` 個（それより短ければ全部）、`m = 0` なら全部。 -/
def keepNewest (m : Nat) (xs : List α) : List α :=
  if m = 0 then xs else xs.drop (xs.length - m)

@[simp] theorem keepNewest_zero (xs : List α) : keepNewest 0 xs = xs := rfl

theorem keepNewest_of_pos (hm : 0 < m) (xs : List α) : keepNewest m xs = xs.drop (xs.length - m) :=
  if_neg (Nat.pos_iff_ne_zero.mp hm)

theorem length_keepNewest_of_pos (hm : 0 < m) (xs : List α) :
    (keepNewest m xs).length = min xs.length m := by
  rw [keepNewest_of_pos hm, List.length_drop]
  omega

/-- 記録の切り詰めは、上限を超えたときだけ超えた分を先頭から捨てる。 -/
theorem cap_eq_keepNewest (xs : List α) :
    (if decide (m > 0) && decide (xs.length > m) then xs.drop (xs.length - m) else xs) =
      keepNewest m xs := by
  unfold keepNewest
  by_cases hm : m = 0
  · simp [hm]
  · by_cases hlen : xs.length > m
    · simp [hm, hlen, Nat.pos_of_ne_zero hm]
    · rw [if_neg (by simp [hlen]), if_neg hm, Nat.sub_eq_zero_of_le (Nat.le_of_not_gt hlen),
        List.drop_zero]

/-- 切り詰めてから足して切り詰めても、足してから一度切り詰めるのと同じである。 -/
theorem keepNewest_keepNewest_append (m : Nat) (xs ys : List α) :
    keepNewest m (keepNewest m xs ++ ys) = keepNewest m (xs ++ ys) := by
  unfold keepNewest
  by_cases hm : m = 0
  · simp [hm]
  · rw [if_neg hm, if_neg hm, if_neg hm,
      ← List.drop_append_of_le_length (Nat.sub_le xs.length m), List.drop_drop]
    congr 1
    simp only [List.length_append, List.length_drop]
    omega

theorem keepNewest_ne_nil (m : Nat) (h : xs ≠ []) : keepNewest m xs ≠ [] := by
  unfold keepNewest
  split
  · exact h
  · have hlen : 0 < xs.length := List.length_pos_iff.mpr h
    rw [← List.length_pos_iff, List.length_drop]
    omega

theorem keepNewest_singleton (m : Nat) (x : α) : keepNewest m [x] = [x] := by
  unfold keepNewest
  split
  · rfl
  · rw [List.length_singleton, Nat.sub_eq_zero_of_le (by omega), List.drop_zero]

end Cap

/-! ## 一回の呼び出し -/

/-- 記録に行を足す一回の呼び出しの引数：版、遷移 `タスク.イベント`、次のタスク。 -/
structure LogCall where
  version : String
  transition : String
  nextTask : Int

/-- 時刻 `stamp` の記録の一行。注釈 `comment` が空でなければ `|注釈` を添える。 -/
def LogCall.entry (c : LogCall) (stamp comment : String) : String :=
  let entry := s!"{stamp}|{c.version}|{c.transition}|{c.nextTask}"
  if comment.isEmpty then entry else entry ++ "|" ++ comment

/-- 呼び出しを順に重ねる。 -/
def appendLogEntries (config : KernelConfig) (d : Document) (calls : List LogCall) : Run Document :=
  calls.foldlM (fun d c => appendLogEntry config d c.version c.transition c.nextTask) d

/-- 消した項目の最初の値の表示は、消す前の文書の `getString` である。 -/
theorem removed_display_eq_getString (d : Document) (n : String) :
    ((((d.removeItem n).1).bind List.head?).map ItemValue.display).getD "" = d.getString n := by
  unfold Document.removeItem Document.getString Document.first? Document.get
  cases lookupEntry (normalize n) d.items with
  | none => rfl
  | some vs => cases vs <;> rfl

/-- 一回の呼び出しは、注釈の項目を消した文書の記録に新しい行を足して切り詰め、実行時の状態は
変えない。時刻は実行時の時計の `rfc3339` 表記である。 -/
theorem appendLogEntry_run (config : KernelConfig) (d : Document) (c : LogCall) (r : Runtime) :
    (appendLogEntry config d c.version c.transition c.nextTask).run r =
      ((d.removeItem config.logCommentItem).2.setItems ItemName.transitionLog
        (keepNewest config.maxLogEntries
          ((d.removeItem config.logCommentItem).2.get ItemName.transitionLog ++
            [.text (c.entry r.clock.rfc3339 (d.getString config.logCommentItem))])), r) := by
  unfold appendLogEntry Runtime.now
  rw [← removed_display_eq_getString, ← cap_eq_keepNewest]
  rfl

theorem appendLogEntries_cons (config : KernelConfig) (d : Document) (c : LogCall)
    (cs : List LogCall) (r : Runtime) :
    (appendLogEntries config d (c :: cs)).run r =
      (appendLogEntries config
        ((appendLogEntry config d c.version c.transition c.nextTask).run r).1 cs).run r := by
  unfold appendLogEntries
  rw [List.foldlM_cons, StateT.run_bind, appendLogEntry_run]
  rfl

theorem appendLogEntries_nil (config : KernelConfig) (d : Document) (r : Runtime) :
    (appendLogEntries config d []).run r = (d, r) := rfl


/-! ## 記録と注釈の項目 -/

section Items

variable {d : Document} {n m : String}

/-- 正規化した名前の同じ項目を消せば、その名前の値は空になる。 -/
theorem get_removeItem_of_normalize_eq (hd : d.WellFormed) (h : normalize n = normalize m) :
    (d.removeItem n).2.get m = [] := by
  unfold Document.removeItem Document.get
  rw [← h, lookupEntry_eraseEntry_self hd.nodup]
  rfl

theorem getString_of_get_nil (h : d.get n = []) : d.getString n = "" := by
  unfold Document.getString Document.first?
  rw [h]
  rfl

end Items

section Step

variable {config : KernelConfig} {d : Document}

theorem wellFormed_appendLogEntry (hd : d.WellFormed) (c : LogCall) (r : Runtime) :
    ((appendLogEntry config d c.version c.transition c.nextTask).run r).1.WellFormed := by
  rw [appendLogEntry_run]
  exact (hd.removeItem _).setItems _ _

/-- 注釈の項目が記録の項目と別なら、記録はそれまでの行に新しい行を足して切り詰めたものになる。 -/
theorem get_log_appendLogEntry
    (hne : normalize config.logCommentItem ≠ normalize ItemName.transitionLog) (c : LogCall)
    (r : Runtime) :
    ((appendLogEntry config d c.version c.transition c.nextTask).run r).1.get
        ItemName.transitionLog =
      keepNewest config.maxLogEntries (d.get ItemName.transitionLog ++
        [.text (c.entry r.clock.rfc3339 (d.getString config.logCommentItem))]) := by
  rw [appendLogEntry_run]
  dsimp only
  rw [get_setItems_self (keepNewest_ne_nil _ (List.concat_ne_nil _ _)), get_removeItem_of_ne hne]

/-- 注釈の項目が記録の項目と別なら、呼び出しのあと注釈の項目は空である。 -/
theorem get_comment_appendLogEntry
    (hne : normalize config.logCommentItem ≠ normalize ItemName.transitionLog) (hd : d.WellFormed)
    (c : LogCall) (r : Runtime) :
    ((appendLogEntry config d c.version c.transition c.nextTask).run r).1.get
        config.logCommentItem = [] := by
  rw [appendLogEntry_run]
  dsimp only
  rw [get_setItems_of_ne hne.symm, get_removeItem_of_normalize_eq hd rfl]

/-- 注釈の項目が記録の項目そのものなら、それまでの行は注釈の項目として消え、記録には新しい
一行だけが残る。 -/
theorem get_log_appendLogEntry_of_alias
    (heq : normalize config.logCommentItem = normalize ItemName.transitionLog) (hd : d.WellFormed)
    (c : LogCall) (r : Runtime) :
    ((appendLogEntry config d c.version c.transition c.nextTask).run r).1.get
        ItemName.transitionLog =
      [.text (c.entry r.clock.rfc3339 (d.getString config.logCommentItem))] := by
  rw [appendLogEntry_run]
  dsimp only
  rw [get_removeItem_of_normalize_eq hd heq, List.nil_append, keepNewest_singleton,
    get_setItems_self (List.cons_ne_nil _ _)]

end Step

/-! ## 呼び出しを重ねる -/

/-- 呼び出し `c :: cs` の足す行：時刻は `stamp`。注釈を添えうるのは最初の行だけで、あとの
呼び出しでは注釈の項目はもう消えている。 -/
def newEntries (stamp comment : String) (c : LogCall) (cs : List LogCall) : List ItemValue :=
  .text (c.entry stamp comment) :: cs.map fun c => .text (c.entry stamp "")

/-- 呼び出しを重ねたあとの記録。 -/
def logAfter (config : KernelConfig) (d : Document) (calls : List LogCall) (r : Runtime) :
    List ItemValue :=
  ((appendLogEntries config d calls).run r).1.get ItemName.transitionLog

section Run

variable {config : KernelConfig} (r : Runtime)

/-- 注釈の項目が空の文書から呼び出しを重ねれば、記録は、切り詰めると今の記録になる列 `P` に
新しい行を続けて切り詰めたものになる。帰納法は呼び出しの列について、不変条件は「整った文書で、
注釈の項目が空で、記録が `keepNewest m P`」である。 -/
theorem logAfter_of_comment_nil
    (hne : normalize config.logCommentItem ≠ normalize ItemName.transitionLog) :
    ∀ (cs : List LogCall) (d : Document) (P : List ItemValue), d.WellFormed →
      d.get config.logCommentItem = [] →
      d.get ItemName.transitionLog = keepNewest config.maxLogEntries P →
      logAfter config d cs r =
        keepNewest config.maxLogEntries
          (P ++ cs.map fun c => .text (c.entry r.clock.rfc3339 "")) := by
  intro cs
  induction cs with
  | nil =>
    intro d P _ _ hlog
    rw [logAfter, appendLogEntries_nil, List.map_nil, List.append_nil]
    exact hlog
  | cons c cs ih =>
    intro d P hd hc hlog
    rw [logAfter, appendLogEntries_cons]
    have hstep := get_log_appendLogEntry (d := d) hne c r
    rw [getString_of_get_nil hc, hlog, keepNewest_keepNewest_append] at hstep
    rw [← logAfter, ih _ (P ++ [.text (c.entry r.clock.rfc3339 "")])
      (wellFormed_appendLogEntry hd c r) (get_comment_appendLogEntry hne hd c r) hstep]
    simp

/-- 注釈の項目が記録の項目と別なら、呼び出し `c :: cs` のあとの記録は、初めの値に新しい行を
続けた列を一度切り詰めたものである。 -/
theorem logAfter_eq_keepNewest
    (hne : normalize config.logCommentItem ≠ normalize ItemName.transitionLog) {d : Document}
    (hd : d.WellFormed) (c : LogCall) (cs : List LogCall) :
    logAfter config d (c :: cs) r =
      keepNewest config.maxLogEntries (d.get ItemName.transitionLog ++
        newEntries r.clock.rfc3339 (d.getString config.logCommentItem) c cs) := by
  rw [logAfter, appendLogEntries_cons, ← logAfter,
    logAfter_of_comment_nil r hne cs _ _ (wellFormed_appendLogEntry hd c r)
      (get_comment_appendLogEntry hne hd c r) (get_log_appendLogEntry hne c r)]
  simp [newEntries]

/-- 注釈の項目が記録の項目そのものなら、何度呼んでも記録には一行しか残らない。 -/
theorem length_logAfter_of_alias
    (heq : normalize config.logCommentItem = normalize ItemName.transitionLog) :
    ∀ (cs : List LogCall) (c : LogCall) (d : Document), d.WellFormed →
      (logAfter config d (c :: cs) r).length = 1 := by
  intro cs
  induction cs with
  | nil =>
    intro c d hd
    rw [logAfter, appendLogEntries_cons, appendLogEntries_nil]
    dsimp only
    rw [get_log_appendLogEntry_of_alias heq hd c r, List.length_singleton]
  | cons c' cs ih =>
    intro c d hd
    rw [logAfter, appendLogEntries_cons, ← logAfter]
    exact ih c' _ (wellFormed_appendLogEntry hd c r)

end Run

/-- 整った文書 `d` に呼び出し `c :: cs`（`n = cs.length + 1` 回）を重ねたあとの記録の法則。`m` は
設定の上限、時刻は実行時の時計の表記、新しい行の注釈は `d` の注釈の項目の最初の値の表示である。 -/
structure TransitionLogLaws (config : KernelConfig) (d : Document) (c : LogCall) (cs : List LogCall)
    (r : Runtime) : Prop where
  /-- 注釈の項目が記録の項目と別で `m > 0` なら、記録は初めの値に `n` 個の新しい行を続けた列の
  最後の `min (L0 + n) m` 個である。 -/
  capped : normalize config.logCommentItem ≠ normalize ItemName.transitionLog →
    0 < config.maxLogEntries →
    let all := d.get ItemName.transitionLog ++
      newEntries r.clock.rfc3339 (d.getString config.logCommentItem) c cs
    logAfter config d (c :: cs) r = all.drop (all.length - config.maxLogEntries) ∧
      (logAfter config d (c :: cs) r).length = min all.length config.maxLogEntries
  /-- 注釈の項目が記録の項目と別で `m = 0` なら、記録は初めの値に新しい行を続けた列の全部である。 -/
  unbounded : normalize config.logCommentItem ≠ normalize ItemName.transitionLog →
    config.maxLogEntries = 0 →
    logAfter config d (c :: cs) r = d.get ItemName.transitionLog ++
      newEntries r.clock.rfc3339 (d.getString config.logCommentItem) c cs
  /-- 注釈の項目が記録の項目そのものなら、初めの値は残らず、記録は一行だけである。 -/
  aliased : normalize config.logCommentItem = normalize ItemName.transitionLog →
    (logAfter config d (c :: cs) r).length = 1

/-- **遷移の記録の上限。** どの設定、どの整った文書、どの一回以上の呼び出しの列でも、注釈の項目が
記録の項目と別なら、記録は初めの値に新しい行を続けた列の、上限 `m > 0` に収まる末尾（`m = 0` なら
全部）である。新しい行は `時刻|版|遷移|次のタスク` で、注釈の項目の最初の値の表示が空でなければ
`|注釈` を添える。注釈の項目が記録の項目そのもの（検査はこれを拒まない）なら、注釈の項目を
消すときに記録も消え、記録には最後の一行しか残らない。 -/
theorem transition_log_keeps_newest (config : KernelConfig) (d : Document) (hd : d.WellFormed)
    (c : LogCall) (cs : List LogCall) (r : Runtime) : TransitionLogLaws config d c cs r where
  capped hne hm := by
    rw [logAfter_eq_keepNewest r hne hd]
    exact ⟨keepNewest_of_pos hm _, length_keepNewest_of_pos hm _⟩
  unbounded hne hm := by
    rw [logAfter_eq_keepNewest r hne hd, hm, keepNewest_zero]
  aliased heq := length_logAfter_of_alias r heq cs c d hd

/-- 上限二件の設定で、二つの値のある記録に二回呼ぶ。 -/
theorem capped_log_keeps_newest :
    Document.WellFormed ⟨[(ItemName.transitionLog, [.text "a", .text "b"])]⟩ ∧
      TransitionLogLaws { maxLogEntries := 2 } ⟨[(ItemName.transitionLog, [.text "a", .text "b"])]⟩
        ⟨"1.0", "100.1", 200⟩ [⟨"1.0", "200.2", 300⟩] {} := by
  have hd : Document.WellFormed ⟨[(ItemName.transitionLog, [.text "a", .text "b"])]⟩ :=
    List.pairwise_singleton _ _
  exact ⟨hd, transition_log_keeps_newest _ _ hd _ _ _⟩

end Workflow.Kernel
