import Mathlib
import Workflow.Proofs.Journal

/-!
# プラグインの連なりの一生

遷移のたびに、核はプラグインを登録の順に動かして最初の失敗で止め、それから成否を添えて
どのプラグインも閉じる（`executePlugins`）。動かすことと閉じることの失敗は、台本が決める
（`Plugin.failsOn`、`Plugin.failsClose`）。

1. `runPlugins_calls` — 動かすのは、先頭から最初に失敗するプラグインまで（失敗がなければ全部）
   で、動いたプラグインは順に一行ずつ書く。返す誤りは、最初に失敗したプラグインのものである。
2. `closePlugins_calls` — 閉じるのはどのプラグインも一度ずつ、登録の順である。それまでの誤りが
   あればそれを返し、なければ最初に閉じるときに失敗したプラグインの誤りを返す。
3. `plugin_chain_lifecycle` — 二つをつないで、一回の呼び出しが記録に書く行と、返す誤りを言う。
   閉じる引数は、どのプラグインも動いて失敗しなかったかである。
-/

namespace Workflow.Kernel

open Workflow.Model

/-- プラグインが閉じるときに失敗するか：最小のプラグインでなく、閉じる失敗の台本がある。 -/
def Plugin.failsClose (p : Plugin) : Bool :=
  !p.minimal && p.failClose

/-- 遷移のイベントで、動いて最初に失敗するプラグインの誤り。 -/
def firstRunFailure (ps : List Plugin) (ev : Event) : Option KernelError :=
  ps.findSome? fun p => if p.failsOn ev then some (.plugin p.name p.failure) else none

/-- 閉じるときに最初に失敗するプラグインの誤り。閉じる失敗の符号は `CLOSE`、文は
`close failed` である。 -/
def firstCloseFailure (ps : List Plugin) : Option KernelError :=
  ps.findSome? fun p => if p.failsClose then some (.plugin p.name ⟨"CLOSE", "close failed"⟩) else none

/-- プラグイン `p` が遷移のイベントで動いたことを書く行。`t` はそのときの文書のタスクである。 -/
def RunLineOf (ev : Event) (p : Plugin) (l : String) : Prop :=
  ∃ t : Int, l = s!"{p.name}:run:{t}:{ev.taskId}.{ev.id}"

theorem firstRunFailure_isNone (ps : List Plugin) (ev : Event) :
    (firstRunFailure ps ev).isNone = !(ps.any (·.failsOn ev)) := by
  induction ps with
  | nil => rfl
  | cons p rest ih =>
    unfold firstRunFailure at ih ⊢
    by_cases hp : p.failsOn ev
    · simp [hp]
    · simp [hp, ih]

section Lifecycle

variable {ev : Event}

/-- プラグインは動いた行を一つ書き、このイベントで失敗するなら自分の失敗を返す。 -/
theorem Plugin.run_failure (p : Plugin) (d : Document) :
    Journals (p.run d ev) fun res J =>
      J = [s!"{p.name}:run:{d.taskId}:{ev.taskId}.{ev.id}"] ∧
        res.2 = if p.failsOn ev then some p.failure else none := by
  unfold Plugin.run Plugin.failsOn
  refine (Journals.note _).bind fun _ J₁ hJ₁ => ?_
  subst hJ₁
  -- 最小のプラグインは失敗せず、ほかは失敗するイベントでだけ失敗する。
  split
  · next hmin => exact Journals.pure ⟨rfl, by simp [hmin]⟩
  · next hmin =>
    split <;> next hfail => exact Journals.pure ⟨rfl, by simpa [hmin] using hfail⟩

/-- プラグインは閉じる行を一つ書き（最小のプラグインは書かない）、閉じる失敗の台本があれば
失敗する。 -/
theorem Plugin.close_failure (p : Plugin) (b : Bool) :
    Journals (p.close b) fun res J =>
      J = (if p.minimal then [] else [s!"{p.name}:close:{b}"]) ∧
        res = if p.failsClose then some ⟨"CLOSE", "close failed"⟩ else none := by
  unfold Plugin.close Plugin.failsClose
  split
  · next hmin => exact Journals.pure ⟨by simp, by simp [hmin]⟩
  · next hmin =>
    exact (Journals.note _).bind fun _ J hJ => Journals.pure ⟨by simp [hJ], by simp [hmin]⟩

/-- **動かすのは最初の失敗まで。** 連なりは先頭から、最初にこのイベントで失敗するプラグインまで
（失敗がなければ全部）を順に動かし、それぞれが一行ずつ書く。返す誤りは、最初に失敗した
プラグインのものである。 -/
theorem runPlugins_calls (ps : List Plugin) (d : Document) :
    Journals (runPlugins ps d ev) fun res J =>
      List.Forall₂ (RunLineOf ev) (ps.take (ps.findIdx (·.failsOn ev) + 1)) J ∧
        res.2 = firstRunFailure ps ev := by
  induction ps generalizing d with
  | nil => exact Journals.pure ⟨List.Forall₂.nil, rfl⟩
  | cons p rest ih =>
    unfold runPlugins
    refine (Plugin.run_failure p d).bind fun res J₁ h₁ => ?_
    obtain ⟨d', f⟩ := res
    obtain ⟨hJ₁, hf⟩ := h₁
    subst hJ₁
    have hline : RunLineOf ev p s!"{p.name}:run:{d.taskId}:{ev.taskId}.{ev.id}" := ⟨d.taskId, rfl⟩
    by_cases hp : p.failsOn ev
    · -- 先頭のプラグインが失敗し、連なりはそこで止まる。
      rw [if_pos hp] at hf
      subst hf
      refine Journals.pure ⟨?_, ?_⟩
      · simpa [List.findIdx_cons, hp] using hline
      · simp [firstRunFailure, hp]
    · rw [if_neg hp] at hf
      subst hf
      rw [Bool.not_eq_true] at hp
      refine (ih d').imp fun res J₂ h₂ => ⟨?_, ?_⟩
      · rw [List.findIdx_cons, hp, cond_false, List.take_succ_cons]
        exact List.Forall₂.cons hline h₂.1
      · rw [h₂.2]
        simp [firstRunFailure, hp]

/-- **閉じるのは全員を一度ずつ。** どのプラグインも登録の順に一度ずつ閉じる。それまでの誤り `o` が
あればそれを返し、なければ最初に閉じるときに失敗したプラグインの誤りを返す。 -/
theorem closePlugins_calls (b : Bool) (ps : List Plugin) (o : Option KernelError) :
    Journals (closePlugins b ps o) fun res J =>
      J = closeLines ps b ∧ res = o.orElse fun _ => firstCloseFailure ps := by
  induction ps generalizing o with
  | nil => exact Journals.pure ⟨rfl, by cases o <;> rfl⟩
  | cons p rest ih =>
    unfold closePlugins
    refine (Plugin.close_failure p b).bind fun res J₁ h₁ => ?_
    obtain ⟨hJ₁, hres⟩ := h₁
    subst hres
    by_cases hc : p.failsClose
    · -- 閉じる失敗は、まだ誤りがないときだけ誤りになる。
      rw [if_pos hc]
      refine (ih _).imp fun res J₂ h₂ => ⟨by rw [hJ₁, h₂.1, closeLines_cons], ?_⟩
      rw [h₂.2]
      cases o <;> simp [firstCloseFailure, hc]
    · rw [if_neg hc]
      refine (ih o).imp fun res J₂ h₂ => ⟨by rw [hJ₁, h₂.1, closeLines_cons], ?_⟩
      rw [h₂.2]
      simp [firstCloseFailure, hc]

theorem executePlugins_calls (ps : List Plugin) (d : Document) :
    Journals (executePlugins ps d ev) fun res J =>
      ∃ R, J = R ++ closeLines ps !(ps.any (·.failsOn ev)) ∧
        List.Forall₂ (RunLineOf ev) (ps.take (ps.findIdx (·.failsOn ev) + 1)) R ∧
        res.2 = (firstRunFailure ps ev).orElse fun _ => firstCloseFailure ps := by
  unfold executePlugins
  refine (runPlugins_calls ps d).bind fun res R h => ?_
  obtain ⟨d', outcome⟩ := res
  obtain ⟨hR, hout⟩ := h
  dsimp only at hout ⊢
  subst hout
  refine (closePlugins_calls _ ps _).bind fun _ C hC => Journals.pure ?_
  rw [List.append_nil, hC.1, firstRunFailure_isNone]
  exact ⟨R, rfl, hR, hC.2⟩

end Lifecycle

/-- **プラグインの連なりの一生。** どのプラグインの列と、動かすことと閉じることのどの成否の
組み合わせでも、一回の呼び出しは、先頭から最初に動いて失敗するプラグインまで（失敗がなければ
全部）を順に動かし、それより後のプラグインは動かさない。それからどのプラグインも登録の順に一度
ずつ閉じる（最小のプラグインは閉じても書かない）。閉じる引数は、どのプラグインも動いて失敗
しなかったかである。返す誤りは、最初に動いて失敗したプラグインのもの、それがなければ最初に閉じて
失敗したプラグインのもので、動いて失敗したあとの閉じる失敗は返さない。 -/
theorem plugin_chain_lifecycle (ps : List Plugin) (d : Document) (ev : Event) (r : Runtime) :
    ∃ R, ((executePlugins ps d ev).run r).2.journal.toList =
        r.journal.toList ++ R ++ closeLines ps !(ps.any (·.failsOn ev)) ∧
      List.Forall₂ (RunLineOf ev) (ps.take (ps.findIdx (·.failsOn ev) + 1)) R ∧
      ((executePlugins ps d ev).run r).1.2 =
        (firstRunFailure ps ev).orElse fun _ => firstCloseFailure ps := by
  obtain ⟨J, hJ, R, rfl, hR, hres⟩ := executePlugins_calls ps d r
  exact ⟨R, by rw [hJ, List.append_assoc], hR, hres⟩

end Workflow.Kernel
