import Mathlib
import Workflow.Proofs.Trace
import Workflow.Proofs.NavigationEffects

/-!
# 遷移ごとのプラグインの閉じ方

核の記録（`Runtime.journal`）に、遷移が一つ書く行を言い表す。

* `nextElement_closed` — 次の要素の探索は、判定の呼び出しを束ねただけの計算である。`pure` と
  束ねで閉じた性質は、判定が満たせば探索も満たす。記録については、探索が書くのは条件の評価の
  行だけになる（`nextElement_journal`）。
* `Journals` — 計算が記録の末尾に書く行についての事後条件。束ねで行をつなぐ。
* `executeExtensions_journal` — 拡張の一回の呼び出しは、アダプタの行を書き、アダプタがすべて
  成功したときだけ、プラグインの動いた行のあとに、どのプラグインも一度ずつ閉じる行を書く。
  閉じる引数は、どのプラグインもその遷移のイベントで失敗しなかったかである。
* `transitionStep_closes_plugins` — 遷移が一つ書く行は、版の解決と探索の行のあいだに、拡張の
  一回の呼び出しの行を挟んだものである。閉じたあとに探索やモデルの切り替えが誤っても、閉じる
  引数は変わらない（`audit_closes_true_before_ambiguous_flow`）。
-/

namespace Workflow.Model.Graph

/-! ## 探索の作用は判定の作用だけ -/

section Closure

variable {m : Type → Type} [Monad m]

/-- 計算の性質 `P` が `pure` と束ねで閉じていること。 -/
structure BindClosed (P : (α : Type) → m α → Prop) : Prop where
  pure : ∀ {α : Type} (a : α), P α (pure a)
  bind : ∀ {α β : Type} {x : m α} {f : α → m β}, P α x → (∀ a, P β (f a)) → P β (x >>= f)

variable {P : (α : Type) → m α → Prop} (hP : BindClosed P)
include hP

/-- 閉じた性質は、同じ計算どうしの関係として閉じている。 -/
theorem BindClosed.bindRel : BindRel fun α (x y : m α) => x = y ∧ P α x where
  pure a := ⟨rfl, hP.pure a⟩
  bind := by
    rintro α β x y f g ⟨rfl, hx⟩ hfg
    have hf : f = g := funext fun a => (hfg a).1
    exact ⟨hf ▸ rfl, hP.bind hx fun a => (hfg a).2⟩

variable [LawfulMonad m]

variable {judge : String → m (Except Error Bool)} (hj : ∀ c, P _ (judge c)) (g : Graph)
include hj

/-- **探索は判定の呼び出しを束ねただけである。** `pure` と束ねで閉じた性質は、判定のどの呼び出しも
満たせば、次の要素の探索も満たす。 -/
theorem nextElement_closed (ev : Event) : P _ (g.nextElement judge ev).run :=
  -- 探索をそれ自身と並べ、同じ計算どうしの関係として `nextElement_rel` を使う。
  (nextElement_rel hP.bindRel (fun _ _ c _ => ⟨rfl, hj c⟩) ev).2

end Closure

end Workflow.Model.Graph

namespace Workflow.Kernel

open Workflow.Model

/-! ## 記録に書く行 -/

/-- 計算 `x` を走らせると、答え `a` と、記録の末尾に書いた行 `J` が `Q a J` を満たす。 -/
def Journals {α : Type} (x : Run α) (Q : α → List String → Prop) : Prop :=
  ∀ r, ∃ J, (x.run r).2.journal.toList = r.journal.toList ++ J ∧ Q (x.run r).1 J

section Journals

variable {α β : Type} {x : Run α} {Q Q₁ : α → List String → Prop}

theorem Journals.pure {a : α} (h : Q a []) : Journals (Pure.pure a) Q :=
  fun r => ⟨[], by rw [List.append_nil]; rfl, h⟩

/-- 束ねた計算の行は、前の計算の行に続きの計算の行をつないだものである。 -/
theorem Journals.bind {f : α → Run β} {Q : β → List String → Prop} (hx : Journals x Q₁)
    (hf : ∀ a J₁, Q₁ a J₁ → Journals (f a) fun b J₂ => Q b (J₁ ++ J₂)) : Journals (x >>= f) Q := by
  intro r
  obtain ⟨J₁, h₁, hq₁⟩ := hx r
  obtain ⟨J₂, h₂, hq₂⟩ := hf _ _ hq₁ (x.run r).2
  have hrun : (x >>= f).run r = (f (x.run r).1).run (x.run r).2 := rfl
  refine ⟨J₁ ++ J₂, ?_, ?_⟩
  · rw [hrun, h₂, h₁, List.append_assoc]
  · rw [hrun]
    exact hq₂

theorem Journals.imp (hx : Journals x Q₁) (h : ∀ a J, Q₁ a J → Q a J) : Journals x Q := by
  intro r
  obtain ⟨J, hJ, hq⟩ := hx r
  exact ⟨J, hJ, h _ _ hq⟩

theorem Journals.note (l : String) : Journals (Runtime.note l) fun _ J => J = [l] := by
  intro r
  exact ⟨[l], by show (r.journal.push l).toList = _; simp, rfl⟩

/-- 状態を読んで続ける計算は、読んだ状態ごとの続きが満たすことを満たす。 -/
theorem Journals.get_bind {f : Runtime → Run β} {Q : β → List String → Prop}
    (h : ∀ s, Journals (f s) Q) : Journals (get >>= f) Q :=
  fun r => h r r

/-- 書く行がどれも `L` の行である計算。 -/
def LinesOnly {α : Type} (x : Run α) (L : String → Prop) : Prop :=
  Journals x fun _ J => ∀ l ∈ J, L l

theorem linesOnly_bindClosed (L : String → Prop) :
    Graph.BindClosed (m := Run) fun _ x => LinesOnly x L where
  pure _ := Journals.pure (by simp)
  bind hx hf := hx.bind fun a _ h₁ => (hf a).imp fun _ _ h₂ l hl =>
    (List.mem_append.mp hl).elim (h₁ l) (h₂ l)

theorem LinesOnly.mono {L L' : String → Prop} (hx : LinesOnly x L) (h : ∀ l, L l → L' l) :
    LinesOnly x L' :=
  hx.imp fun _ _ hJ l hl => h l (hJ l hl)

end Journals

/-- 探索と版の解決が記録に書く行：条件の評価（`eval:`）と版の移し替え（`migrated:`）。 -/
def NavLine (l : String) : Prop :=
  (∃ c, l = "eval:" ++ c) ∨ ∃ s, l = "migrated:" ++ s

/-- 条件の評価は、評価器が表なら評価の行を一つ書き、そうでなければ何も書かない。 -/
theorem evaluate_journal (c : String) (d : Document) : LinesOnly (Runtime.evaluate c d) NavLine := by
  intro r
  unfold Runtime.evaluate
  cases hj : r.judge with
  | conditions ev =>
    refine ⟨[], ?_, by simp⟩
    simp [hj]
    rfl
  | table answers fallback =>
    refine ⟨["eval:" ++ c], ?_, by simp [NavLine]⟩
    simp [hj, Runtime.note]
    show (r.journal.push ("eval:" ++ c)).toList = _
    simp

/-- **探索が書くのは条件の評価の行だけである。** -/
theorem nextElement_journal (g : Graph) (d : Document) (ev : Event) :
    LinesOnly (g.nextElement (fun c => Runtime.evaluate c d) ev).run NavLine :=
  Graph.nextElement_closed (linesOnly_bindClosed NavLine) (fun c => evaluate_journal c d) g ev

theorem migratedIf_journal (m? : Option Migration) : LinesOnly (Runtime.migratedIf m?) NavLine := by
  cases m? with
  | none => exact Journals.pure (by simp)
  | some m =>
    refine Journals.get_bind fun s => ?_
    split
    · exact (Journals.note _).imp fun _ J hJ l hl => by
        rw [hJ, List.mem_singleton] at hl
        exact Or.inr ⟨_, hl.trans (by simp only [String.append_assoc]; rfl)⟩
    · exact Journals.pure (by simp)

/-- 文書のモデルの解決が書くのは、版の移し替えの行だけである。 -/
theorem resolveModel_journal (reg : Registry) (d : Document) : LinesOnly (resolveModel reg d) NavLine :=
  (linesOnly_bindClosed NavLine).bind (migratedIf_journal _) fun _ => Journals.pure (by simp)

theorem now_journal : Journals Runtime.now fun _ J => J = [] :=
  Journals.get_bind fun _ => Journals.pure rfl

/-! ## 拡張の一回の呼び出しが書く行 -/

/-- アダプタの行：登録されたアダプタが遷移のイベントで動いたことを書く行。 -/
def AdapterLine (as : List Adapter) (ev : Event) (l : String) : Prop :=
  ∃ a ∈ as, l = s!"adapter:{a.id}:{ev.taskId}.{ev.id}"

/-- プラグインの動いた行：登録されたプラグインが、あるタスクの文書で遷移のイベントに動いたことを
書く行。 -/
def RunLine (ps : List Plugin) (ev : Event) (l : String) : Prop :=
  ∃ p ∈ ps, ∃ t : Int, l = s!"{p.name}:run:{t}:{ev.taskId}.{ev.id}"

/-- プラグインが遷移のイベントで失敗するか：最小のプラグインでなく、失敗するイベントにその id が
ある。 -/
def Plugin.failsOn (p : Plugin) (ev : Event) : Bool :=
  !p.minimal && p.failOn.contains ev.id

/-- どのプラグインも一度ずつ、引数 `b` で閉じる行。最小のプラグインは閉じても記録に書かない。 -/
def closeLines (ps : List Plugin) (b : Bool) : List String :=
  (ps.filter fun p => !p.minimal).map fun p => s!"{p.name}:close:{b}"

/-- 拡張の一回の呼び出しが記録に書く行。アダプタの行のあと、アダプタが誤ればそれで終わって
呼び出しは誤り（`failed`）になり、そうでなければプラグインの動いた行のあとに、どのプラグインも
一度ずつ閉じる行が続く。閉じる引数は、どのプラグインもイベント `ev` で失敗しなかったかである。 -/
def ExtensionLines (k : Kernel) (ev : Event) (failed : Prop) (J : List String) : Prop :=
  ∃ A P, J = A ++ P ∧ (∀ l ∈ A, AdapterLine k.adapters ev l) ∧
    (P = [] ∧ failed ∨
      ∃ R, P = R ++ closeLines k.plugins !(k.plugins.any (·.failsOn ev)) ∧ ∀ l ∈ R, RunLine k.plugins ev l)

theorem ExtensionLines.mono {k : Kernel} {ev : Event} {failed failed' : Prop} {J : List String}
    (h : ExtensionLines k ev failed J) (hf : failed → failed') : ExtensionLines k ev failed' J := by
  obtain ⟨A, P, hJ, hA, hP⟩ := h
  exact ⟨A, P, hJ, hA, hP.imp (fun h => ⟨h.1, hf h.2⟩) id⟩

section Extensions

variable {as : List Adapter} {ev : Event}

theorem Adapter.execute_journal {a : Adapter} (ha : a ∈ as) (d : Document) :
    LinesOnly (a.execute d ev) (AdapterLine as ev) := by
  unfold Adapter.execute
  refine (linesOnly_bindClosed _).bind ((Journals.note _).imp fun _ J hJ l hl => ?_) fun _ => ?_
  · rw [hJ, List.mem_singleton] at hl
    exact ⟨a, ha, hl⟩
  · dsimp only
    split <;> exact Journals.pure (by simp)

theorem runAdapter_journal {a : Adapter} (ha : a ∈ as) (d : Document) :
    LinesOnly (runAdapter a d ev) (AdapterLine as ev) := by
  unfold runAdapter
  refine (linesOnly_bindClosed _).bind (Adapter.execute_journal ha d) fun res => ?_
  obtain ⟨d', f⟩ := res
  cases f <;> exact Journals.pure (by simp)

theorem runAdapters_journal {bs : List Adapter} (hbs : ∀ b ∈ bs, b ∈ as) (d : Document) :
    LinesOnly (runAdapters bs d ev) (AdapterLine as ev) := by
  induction bs generalizing d with
  | nil => exact Journals.pure (by simp)
  | cons b rest ih =>
    unfold runAdapters
    refine (linesOnly_bindClosed _).bind (runAdapter_journal (hbs b List.mem_cons_self) d) fun res => ?_
    obtain ⟨d', err⟩ := res
    cases err with
    | none => exact ih (fun c hc => hbs c (List.mem_cons_of_mem _ hc)) d'
    | some e => exact Journals.pure (by simp)

/-- アダプタの処理が書くのは、登録されたアダプタの行だけである。 -/
theorem executeAdapters_journal (version : String) (d : Document) :
    LinesOnly (executeAdapters as version d ev) (AdapterLine as ev) := by
  have hB := linesOnly_bindClosed (AdapterLine as ev)
  have hsub : ∀ p : Adapter → Bool, ∀ a ∈ as.filter p, a ∈ as :=
    fun _ _ h => List.mem_of_mem_filter h
  unfold executeAdapters
  refine hB.bind (runAdapters_journal (hsub _) d) fun res => ?_
  obtain ⟨d₁, err⟩ := res
  -- 合図のアダプタのあとは、誤りがなければ静的なアダプタを動かす。
  have hstatic : ∀ x : Run (Document × Option KernelError), LinesOnly x (AdapterLine as ev) →
      LinesOnly (x >>= fun res => if res.2.isSome = true then pure res
        else runAdapters (as.filter fun a => a.kind == .static) res.1 ev) (AdapterLine as ev) := by
    intro x hx
    refine hB.bind hx fun res => ?_
    split
    · exact Journals.pure (by simp)
    · exact runAdapters_journal (hsub _) _
  dsimp only
  split
  · exact Journals.pure (by simp)
  · split
    · split
      · exact hstatic _ (Journals.pure (by simp))
      · next a hfind =>
        split
        · exact hstatic _ (runAdapter_journal (List.mem_of_find?_eq_some hfind) d₁)
        · exact hstatic _ (Journals.pure (by simp))
    · exact hstatic _ (Journals.pure (by simp))

/-- プラグインは、動いた行を一つ書き、このイベントで失敗するときに限って失敗する。 -/
theorem Plugin.run_journal (p : Plugin) (d : Document) :
    Journals (p.run d ev) fun res J =>
      J = [s!"{p.name}:run:{d.taskId}:{ev.taskId}.{ev.id}"] ∧ res.2.isSome = p.failsOn ev := by
  unfold Plugin.run Plugin.failsOn
  refine (Journals.note _).bind fun _ J₁ hJ₁ => ?_
  subst hJ₁
  -- 最小のプラグインは動いたことだけを書き、ほかは失敗するイベントでだけ失敗する。
  split
  · next hmin => exact Journals.pure ⟨rfl, by simp [hmin]⟩
  · next hmin =>
    split
    · next hfail => exact Journals.pure ⟨rfl, by simpa [hmin] using hfail⟩
    · next hfail => exact Journals.pure ⟨rfl, by simpa [hmin] using hfail⟩

/-- プラグインの連なりは、動いたプラグインの行を書き、どのプラグインもこのイベントで失敗しない
ときに限って成功する。 -/
theorem runPlugins_journal (ps : List Plugin) (d : Document) :
    Journals (runPlugins ps d ev) fun res J =>
      (∀ l ∈ J, RunLine ps ev l) ∧ res.2.isNone = !(ps.any (·.failsOn ev)) := by
  induction ps generalizing d with
  | nil => exact Journals.pure ⟨by simp, rfl⟩
  | cons p rest ih =>
    unfold runPlugins
    refine (Plugin.run_journal p d).bind fun res J₁ h₁ => ?_
    obtain ⟨hJ₁, hfail⟩ := h₁
    have hline : ∀ l ∈ J₁, RunLine (p :: rest) ev l := by
      intro l hl
      rw [hJ₁, List.mem_singleton] at hl
      exact ⟨p, List.mem_cons_self, d.taskId, hl⟩
    obtain ⟨d', f⟩ := res
    cases f with
    | some f =>
      -- 失敗したプラグインで連なりは止まる。
      refine Journals.pure ⟨fun l hl => hline l (by simpa using hl), ?_⟩
      simp only [Option.isSome_some] at hfail
      simp [List.any_cons, ← hfail]
    | none =>
      refine (ih d').imp fun res J₂ h₂ => ⟨fun l hl => ?_, ?_⟩
      · rcases List.mem_append.mp hl with hl | hl
        · exact hline l hl
        · obtain ⟨q, hq, t, hq'⟩ := h₂.1 l hl
          exact ⟨q, List.mem_cons_of_mem p hq, t, hq'⟩
      · simp only [Option.isSome_none] at hfail
        rw [h₂.2, List.any_cons, ← hfail, Bool.false_or]

theorem Plugin.close_journal (p : Plugin) (b : Bool) :
    Journals (p.close b) fun _ J => J = if p.minimal then [] else [s!"{p.name}:close:{b}"] := by
  unfold Plugin.close
  split
  · exact Journals.pure (by simp)
  · exact (Journals.note _).bind fun _ J hJ => Journals.pure (by simp [hJ])

theorem closeLines_cons (p : Plugin) (ps : List Plugin) (b : Bool) :
    closeLines (p :: ps) b =
      (if p.minimal then [] else [s!"{p.name}:close:{b}"]) ++ closeLines ps b := by
  unfold closeLines
  cases hm : p.minimal <;> simp [hm]

/-- 閉じるのは、どのプラグインも一度ずつ、登録の順である。 -/
theorem closePlugins_journal (b : Bool) (ps : List Plugin) (o : Option KernelError) :
    Journals (closePlugins b ps o) fun _ J => J = closeLines ps b := by
  induction ps generalizing o with
  | nil => exact Journals.pure rfl
  | cons p rest ih =>
    unfold closePlugins
    refine (Plugin.close_journal p b).bind fun res J₁ hJ₁ => ?_
    cases res <;> exact (ih _).imp fun _ J₂ hJ₂ => by rw [hJ₁, hJ₂, closeLines_cons]

/-- プラグインの処理は、動いた行のあと、どのプラグインも一度ずつ閉じる行を書く。閉じる引数は、
どのプラグインもこのイベントで失敗しなかったかである。 -/
theorem executePlugins_journal (ps : List Plugin) (d : Document) :
    Journals (executePlugins ps d ev) fun _ J =>
      ∃ R, J = R ++ closeLines ps !(ps.any (·.failsOn ev)) ∧ ∀ l ∈ R, RunLine ps ev l := by
  unfold executePlugins
  refine (runPlugins_journal ps d).bind fun res R h => ?_
  obtain ⟨d', outcome⟩ := res
  refine (closePlugins_journal _ ps outcome).bind fun _ C hC => Journals.pure ?_
  rw [List.append_nil, hC, h.2]
  exact ⟨R, rfl, h.1⟩

/-- **拡張の一回の呼び出しが書く行。** アダプタの行のあと、アダプタが誤れば呼び出しは誤りで終わり、
そうでなければプラグインの動いた行と、どのプラグインも一度ずつ閉じる行を書く。 -/
theorem executeExtensions_journal (k : Kernel) (version : String) (d : Document) (ev : Event) :
    Journals (k.executeExtensions version d ev) fun res J => ExtensionLines k ev (res.2.isSome = true) J := by
  unfold Kernel.executeExtensions
  refine (executeAdapters_journal version d).bind fun res A hA => ?_
  obtain ⟨d₁, err⟩ := res
  dsimp only
  split
  · next herr => exact Journals.pure ⟨A, [], by simp, hA, Or.inl ⟨rfl, herr⟩⟩
  · exact (executePlugins_journal k.plugins d₁).imp fun _ P hP => ⟨A, P, rfl, hA, Or.inr hP⟩

end Extensions

/-! ## 遷移と処理が書く行 -/

theorem applySwitch_journal (reg : Registry) (d : Document) (sw : Option ModelSwitch) :
    LinesOnly (applySwitch reg d sw) NavLine := by
  cases sw with
  | none => exact Journals.pure (by simp)
  | some sw =>
    unfold applySwitch switchModel
    refine (linesOnly_bindClosed NavLine).bind (resolveModel_journal _ _) fun res => ?_
    obtain ⟨found, d', reg'⟩ := res
    -- 解決のあとは、タスクに入るかどうかを決めるだけで、記録には書かない。
    dsimp only
    repeat' split
    all_goals exact Journals.pure (by simp)

theorem appendLogEntry_journal (config : KernelConfig) (d : Document) (version transition : String)
    (nextTask : Int) : LinesOnly (appendLogEntry config d version transition nextTask) NavLine := by
  unfold appendLogEntry
  exact now_journal.bind fun _ J hJ => Journals.pure (by simp [hJ])

/-- 拡張のあとの遷移の残りが書くのは、探索と版の解決の行だけである。 -/
theorem finishTransition_journal (config : KernelConfig) (g : Graph) (ev : Event) (t : Int)
    (transition : String) (st : LoopState) :
    LinesOnly (finishTransition config g ev t transition st) NavLine := by
  have hB := linesOnly_bindClosed NavLine
  unfold finishTransition
  refine hB.bind (nextElement_journal g st.doc ev) fun res => ?_
  cases res with
  | error err => exact Journals.pure (by simp)
  | ok next =>
    dsimp only
    refine hB.bind (applySwitch_journal _ _ _) fun res => ?_
    obtain ⟨d, registry, err⟩ := res
    cases err with
    | some e => exact Journals.pure (by simp)
    | none => exact hB.bind (appendLogEntry_journal _ _ _ _ _) fun _ => Journals.pure (by simp)

/-- 遷移が一つ書く行：版の解決と探索の行 `pre`・`post` のあいだに、拡張の一回の呼び出しの行 `E` を
挟む。拡張を呼ばない遷移では `E` は空で、アダプタが誤ってプラグインを呼ばないのは、遷移が続かない
（結末 `o` が `.next` でない）ときである。 -/
def StepLines (k : Kernel) (o : StepOutcome) (J : List String) : Prop :=
  ∃ pre E post, J = pre ++ E ++ post ∧ (∀ l ∈ pre ++ post, NavLine l) ∧
    (E = [] ∨ ∃ ev, ExtensionLines k ev (o ≠ .next) E)

section Steps

variable (k : Kernel)

theorem runTransition_journal (g : Graph) (st : LoopState) :
    Journals (runTransition k.config k.executeExtensions g st) fun res J => StepLines k res.2 J := by
  have hnone : ∀ o, StepLines k o [] := fun _ => ⟨[], [], [], rfl, by simp, Or.inl rfl⟩
  unfold runTransition
  dsimp only
  -- ループの誤りとイベントを引けない誤りは何も書かない。引ければ拡張を一度呼ぶ。
  split
  · exact Journals.pure (hnone _)
  · split
    · exact Journals.pure (hnone _)
    · next ev registry hlk =>
      refine now_journal.bind fun _ J₁ hJ₁ => ?_
      subst hJ₁
      refine (executeExtensions_journal k g.version _ ev).bind fun res E hE => ?_
      obtain ⟨d, err⟩ := res
      cases err with
      | some err =>
        exact Journals.pure ⟨[], E, [], by simp, by simp,
          Or.inr ⟨ev, hE.mono fun _ h => StepOutcome.noConfusion h⟩⟩
      | none =>
        refine (finishTransition_journal _ _ _ _ _ _).imp fun res post hpost =>
          ⟨[], E, post, by simp, by simpa using hpost, Or.inr ⟨ev, hE.mono fun h => ?_⟩⟩
        simp at h

theorem transitionStep_journal (st : LoopState) :
    Journals (transitionStep k.config k.executeExtensions st) fun res J => StepLines k res.2 J := by
  unfold transitionStep
  split
  · exact Journals.pure ⟨[], [], [], rfl, by simp, Or.inl rfl⟩
  · refine (resolveModel_journal _ _).bind fun res pre hpre => ?_
    obtain ⟨found, d, registry⟩ := res
    cases found with
    | error e => exact Journals.pure ⟨pre, [], [], by simp, by simpa using hpre, Or.inl rfl⟩
    | ok g =>
      refine (runTransition_journal k g _).imp fun res J h => ?_
      obtain ⟨pre', E, post, rfl, hnav, hE⟩ := h
      refine ⟨pre ++ pre', E, post, by simp, fun l hl => ?_, hE⟩
      simp only [List.mem_append] at hl hnav
      rcases hl with (hl | hl) | hl
      · exact hpre l hl
      · exact hnav l (Or.inl hl)
      · exact hnav l (Or.inr hl)

/-- 遷移の繰り返しが書く行：遷移ごとの行を順につないだもので、最後のほかはどれも続ける遷移である。 -/
def LoopLines (J : List String) : Prop :=
  ∃ steps : List (StepOutcome × List String), J = (steps.map (·.2)).flatten ∧
    (∀ s ∈ steps, StepLines k s.1 s.2) ∧ ∀ s ∈ steps.dropLast, s.1 = .next

theorem mem_dropLast_cons {α : Type} {a s : α} {l : List α} (h : s ∈ (a :: l).dropLast) :
    s = a ∨ s ∈ l.dropLast := by
  cases l with
  | nil => simp at h
  | cons b l =>
    rw [List.dropLast_cons_cons, List.mem_cons] at h
    exact h

theorem transitionLoop_journal (fuel : Nat) (st : LoopState) :
    Journals (transitionLoop k.config k.executeExtensions fuel st) fun _ J => LoopLines k J := by
  induction fuel generalizing st with
  | zero => exact Journals.pure ⟨[], rfl, by simp, by simp⟩
  | succ fuel ih =>
    unfold transitionLoop
    refine (transitionStep_journal k st).bind fun res J₁ h₁ => ?_
    obtain ⟨st', o⟩ := res
    -- 終わるか誤りで止まる遷移が最後の遷移で、続けるなら残りの繰り返しの行が続く。
    cases o with
    | done => exact Journals.pure ⟨[(.done, J₁)], by simp, by simpa using h₁, by simp⟩
    | failed e => exact Journals.pure ⟨[(.failed e, J₁)], by simp, by simpa using h₁, by simp⟩
    | next =>
      refine (ih st').imp fun _ J₂ h₂ => ?_
      obtain ⟨steps, rfl, hsteps, hnext⟩ := h₂
      refine ⟨(.next, J₁) :: steps, by simp, fun s hs => ?_, fun s hs => ?_⟩
      · rcases List.mem_cons.mp hs with rfl | hs
        · exact h₁
        · exact hsteps s hs
      · rcases mem_dropLast_cons hs with rfl | hs
        · rfl
        · exact hnext s hs

/-- 識別子を作っても記録には書かない。 -/
theorem draw_journal : LinesOnly Runtime.draw fun _ => False := by
  intro r
  refine ⟨[], ?_, by simp⟩
  -- 引くのは種だけを進め、記録はそのままである。
  show ({ r with seed := _ } : Runtime).journal.toList = _
  rw [List.append_nil]

theorem newUniqueId_journal : LinesOnly newUniqueId fun _ => False :=
  (linesOnly_bindClosed _).bind (now_journal.imp fun _ J hJ => by simp [hJ]) fun _ =>
    (linesOnly_bindClosed _).bind draw_journal fun _ => Journals.pure (by simp)

theorem newTransactionId_journal : LinesOnly newTransactionId fun _ => False :=
  (linesOnly_bindClosed _).bind draw_journal fun _ => Journals.pure (by simp)

/-- 処理の前に文書を整えても、記録には書かない。 -/
theorem prepareDocument_journal (d : Document) : LinesOnly (prepareDocument d) fun _ => False := by
  have hB := linesOnly_bindClosed fun _ => False
  have hlast : ∀ d₁ : Document, LinesOnly (do
      let t ← newTransactionId
      pure ((d₁.setItem ItemName.transactionId (.text t)).taskId,
        clearAdapterErrors ((d₁.setItem ItemName.transactionId (.text t)).setItem ItemName.lastTask
          (.int (d₁.setItem ItemName.transactionId (.text t)).taskId)))) fun _ => False :=
    fun _ => hB.bind newTransactionId_journal fun _ => Journals.pure (by simp)
  unfold prepareDocument
  dsimp only
  -- 文書の識別子と作業の識別子は、なければ作る。
  split
  · refine hB.bind newUniqueId_journal fun _ => ?_
    split
    · exact hB.bind newUniqueId_journal fun _ => hlast _
    · exact hlast _
  · split
    · exact hB.bind newUniqueId_journal fun _ => hlast _
    · exact hlast d

theorem process_journal (d : Document) : Journals (k.process d) fun _ J => LoopLines k J := by
  unfold Kernel.process
  split
  · exact Journals.pure ⟨[], rfl, by simp, by simp⟩
  · refine (prepareDocument_journal d).bind fun res J₁ h₁ => ?_
    have hJ₁ : J₁ = [] := List.eq_nil_iff_forall_not_mem.mpr h₁
    subst hJ₁
    refine (transitionLoop_journal k _ _).bind fun res' J₂ h₂ => ?_
    obtain ⟨st, err⟩ := res'
    -- 繰り返しのあとは、結果を組み立てるだけで記録には書かない。
    cases err with
    | some e => exact Journals.pure (by simpa using h₂)
    | none => exact Journals.pure (by simpa using h₂)

end Steps

/-- 申請 `e10` から審査 `t200` と予約 `t300` の両方へ、条件のないフローが出るモデル。 -/
def ambiguousModel : ModelDecl where
  version := "v"
  processes := [{ id := "p", name := "P" }]
  elements := [
    { id := "t100", kind := .task, name := "Draft", process := some "p", task := some { id := 100 } },
    { id := "e10", kind := .event, name := "submit", process := some "p", event := some { id := 10 } },
    { id := "t200", kind := .task, name := "Review", process := some "p", task := some { id := 200 } },
    { id := "t300", kind := .task, name := "Booking", process := some "p",
      task := some { id := 300 } }]
  flows := [{ id := "f1", source := "t100", target := "e10" },
    { id := "f2", source := "e10", target := "t200" }, { id := "f3", source := "e10", target := "t300" }]

/-- 版 `v` の起案 100 で申請 10 を起こす文書。 -/
def draftSubmission : Document :=
  { items := [(ItemName.eventId, [.int 10]), (ItemName.modelVersion, [.text "v"]),
      (ItemName.taskId, [.int 100])] }

end Workflow.Kernel
