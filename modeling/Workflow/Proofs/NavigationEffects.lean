import Mathlib
import Workflow.Model.Navigation

/-!
# 二つの探索を並べる

次の要素の探索（`Graph.nextElement`）は、判定（流れの条件の評価）の呼び出しを `pure` と束ねで
つないだだけの計算である。そこで、二つの計算の関係のうち `pure` と束ねで閉じたもの
（`Graph.BindRel`）は、判定の二つの呼び出しが関係にあれば、二つの探索にも成り立つ。

* `Graph.nextElement_rel` — 探索は、モデルのフローの条件でしか判定を呼ばない。関係は
  それらの条件で確かめればよい。

関係を「同じ計算で、性質 `P` を満たす」に取れば、一つの探索についての主張になる。探索は、判定の
どの呼び出しも満たす性質を満たす。
-/

namespace Workflow.Model.Graph

theorem outgoing_subset {g : Graph} {node : String} : ∀ f ∈ g.outgoing node, f ∈ g.decl.flows :=
  fun _ hf => List.mem_of_mem_filter hf

/-! ## 二つの探索を並べる -/

section RelClosure

variable {m : Type → Type} [Monad m]

/-- 二つの計算の関係 `R` が `pure` と束ねで閉じていること：同じ値の `pure` は関係にあり、関係に
ある計算を、同じ答えごとに関係にある続きで束ねれば関係にある。 -/
structure BindRel (R : (α : Type) → m α → m α → Prop) : Prop where
  pure : ∀ {α : Type} (a : α), R α (pure a) (pure a)
  bind : ∀ {α β : Type} {x y : m α} {f g : α → m β},
    R α x y → (∀ a, R β (f a) (g a)) → R β (x >>= f) (y >>= g)

variable {R : (α : Type) → m α → m α → Prop} (hR : BindRel R) {ε : Type}
include hR

theorem BindRel.run_bind {α β : Type} {x y : ExceptT ε m α} {f g : α → ExceptT ε m β}
    (hx : R _ x.run y.run) (hf : ∀ a, R _ (f a).run (g a).run) : R _ (x >>= f).run (y >>= g).run := by
  rw [ExceptT.run_bind, ExceptT.run_bind]
  refine hR.bind hx fun e => ?_
  cases e with
  | error e => exact hR.pure _
  | ok a => exact hf a

theorem BindRel.run_pure {α : Type} (a : α) :
    R _ (Pure.pure a : ExceptT ε m α).run (Pure.pure a : ExceptT ε m α).run := by
  rw [ExceptT.run_pure]
  exact hR.pure _

theorem BindRel.run_throw {α : Type} (e : ε) :
    R _ (throw e : ExceptT ε m α).run (throw e : ExceptT ε m α).run := by
  rw [ExceptT.run_throw]
  exact hR.pure _

theorem BindRel.run_foldlM {σ γ : Type} {step₁ step₂ : σ → γ → ExceptT ε m σ}
    (hs : ∀ s c, R _ (step₁ s c).run (step₂ s c).run) (l : List γ) (s : σ) :
    R _ (l.foldlM step₁ s).run (l.foldlM step₂ s).run := by
  induction l generalizing s with
  | nil => exact hR.run_pure s
  | cons c cs ih =>
    rw [List.foldlM_cons, List.foldlM_cons]
    exact hR.run_bind (hs s c) ih

theorem visitTarget_rel (g : Graph)
    {recur₁ recur₂ : String → List ElementDecl × List String →
      ExceptT Error m (List ElementDecl × List String)}
    (hrec : ∀ node acc, R _ (recur₁ node acc).run (recur₂ node acc).run)
    (acc : List ElementDecl × List String) (f : FlowDecl) :
    R _ (g.visitTarget recur₁ acc f).run (g.visitTarget recur₂ acc f).run := by
  obtain ⟨found, visited⟩ := acc
  unfold visitTarget
  dsimp only
  -- どの枝も、同じ答えを返すか `recur` で探索を続けるかである。
  repeat' split
  all_goals first | exact hR.run_pure _ | exact hrec _ _

variable [LawfulMonad m]

theorem BindRel.run_lift {α : Type} {x y : m α} (hx : R _ x y) :
    R _ (ExceptT.lift x : ExceptT ε m α).run (ExceptT.lift y : ExceptT ε m α).run := by
  rw [ExceptT.run_lift, ExceptT.run_lift, map_eq_pure_bind, map_eq_pure_bind]
  exact hR.bind hx fun _ => hR.pure _

variable {judge₁ judge₂ : String → m (Except Error Bool)} {g : Graph}
  (hj : ∀ f ∈ g.decl.flows, ∀ c, f.activeCondition = some c → R _ (judge₁ c) (judge₂ c))
include hj

theorem conditionHolds_rel {f : FlowDecl} (hf : f ∈ g.decl.flows) {c : String}
    (hc : f.activeCondition = some c) :
    R _ (conditionHolds judge₁ g f c).run (conditionHolds judge₂ g f c).run := by
  unfold conditionHolds
  refine hR.run_bind (hR.run_lift (hj f hf c hc)) fun b => ?_
  cases b with
  | ok b => exact hR.run_pure b
  | error e => exact hR.run_throw _

theorem firstHolding_rel {flows : List FlowDecl} (hflows : ∀ f ∈ flows, f ∈ g.decl.flows) :
    R _ (firstHolding judge₁ g flows).run (firstHolding judge₂ g flows).run := by
  induction flows with
  | nil => exact hR.run_pure none
  | cons f fs ih =>
    have ih' := ih fun f' hf' => hflows f' (List.mem_cons_of_mem f hf')
    unfold firstHolding
    split
    · next c hc =>
      refine hR.run_bind (conditionHolds_rel hR hj (hflows f List.mem_cons_self) hc) fun b => ?_
      cases b
      · exact ih'
      · exact hR.run_pure _
    · exact ih'

theorem takenFlows_rel (node : String) :
    R _ (takenFlows judge₁ g node).run (takenFlows judge₂ g node).run := by
  unfold takenFlows
  refine hR.run_bind (firstHolding_rel hR hj outgoing_subset) fun found => ?_
  cases found with
  | some f => exact hR.run_pure _
  | none => exact hR.run_pure _

theorem collect_rel : ∀ (fuel : Nat) (node : String) (acc : List ElementDecl × List String),
    R _ (collect judge₁ g fuel node acc).run (collect judge₂ g fuel node acc).run := by
  intro fuel
  induction fuel with
  | zero => exact fun _ acc => hR.run_pure acc
  | succ fuel ih =>
    intro node acc
    unfold collect
    exact hR.run_bind (takenFlows_rel hR hj node) fun flows =>
      hR.run_foldlM (visitTarget_rel hR g ih) flows acc

theorem mainFlow_go_rel {flows : List FlowDecl} (hflows : ∀ f ∈ flows, f ∈ g.decl.flows)
    (first : Option ElementDecl) :
    R _ (mainFlow.go judge₁ g flows first).run (mainFlow.go judge₂ g flows first).run := by
  induction flows generalizing first with
  | nil => exact hR.run_pure first
  | cons f fs ih =>
    have ih' := ih fun f' hf' => hflows f' (List.mem_cons_of_mem f hf')
    unfold mainFlow.go
    split
    · exact ih' first
    · split
      · exact hR.run_pure _
      · split
        · exact ih' first
        · -- 条件がなければ成り立つとし、あれば判定する。
          dsimp only
          split
          · exact hR.run_bind (hR.run_pure true) fun q => ih' _
          · next c hc =>
            exact hR.run_bind (conditionHolds_rel hR hj (hflows f List.mem_cons_self) hc)
              fun q => ih' _

theorem crossParallel_rel : ∀ (fuel : Nat) (next : ElementDecl) (visited : List String),
    R _ (crossParallel judge₁ g fuel next visited).run (crossParallel judge₂ g fuel next visited).run := by
  intro fuel
  induction fuel with
  | zero => exact fun _ _ => hR.run_pure _
  | succ fuel ih =>
    intro next visited
    unfold crossParallel
    split
    · exact hR.run_pure _
    · refine hR.run_bind (mainFlow_go_rel hR hj outgoing_subset none) fun t => ?_
      repeat' split
      all_goals first | exact hR.run_pure _ | exact ih _ _

theorem resolveFrom_loop_rel (start : String) :
    ∀ (fuel : Nat) (current : String) (visited : List String),
      R _ (resolveFrom.loop judge₁ g start fuel current visited).run
        (resolveFrom.loop judge₂ g start fuel current visited).run := by
  intro fuel
  induction fuel with
  | zero => exact fun _ _ => hR.run_pure none
  | succ fuel ih =>
    intro current visited
    unfold resolveFrom.loop
    refine hR.run_bind (collect_rel hR hj _ _ _) fun res => ?_
    obtain ⟨found, visited'⟩ := res
    dsimp only
    split
    · exact hR.run_pure none
    · unfold settle
      refine hR.run_bind (crossParallel_rel hR hj _ _ _) fun c => ?_
      cases c with
      | inl r => exact hR.run_pure r
      | inr p => exact ih _ _
    · exact hR.run_throw _

/-- **二つの探索は判定の関係を受け継ぐ。** `pure` と束ねで閉じた関係は、モデルのフローの条件
ごとに二つの判定が関係にあれば、二つの次の要素の探索にも成り立つ。 -/
theorem nextElement_rel (ev : Event) :
    R _ (g.nextElement judge₁ ev).run (g.nextElement judge₂ ev).run := by
  have hnext : R _ (do
        let next ← resolveFrom judge₁ g ev.elementId
        pure (next.bind (g.nextEntity? ev)) : ExceptT Error m (Option NextElement)).run
      (do
        let next ← resolveFrom judge₂ g ev.elementId
        pure (next.bind (g.nextEntity? ev)) : ExceptT Error m (Option NextElement)).run :=
    hR.run_bind (resolveFrom_loop_rel hR hj _ _ _ _) fun next => hR.run_pure _
  unfold nextElement
  dsimp only
  split
  · exact hR.run_bind (hR.run_throw _) fun _ => hnext
  · exact hnext

end RelClosure

end Workflow.Model.Graph
