import Mathlib
import Workflow.Proofs.Search

/-!
# 探索は要素の数のうちに終わる

モデルをたどる探索は、どれも燃料 `fuel` を受け取り、燃料が尽きればそれまでの答えを返す。
尽きたときの答えは探索が終わったときの答えと見分けがつかないので、燃料が探索を打ち切ることは
なく、探索はそれより先に自ら終わることを示す。どの探索も、先へ進む前に新しい要素を覚える。

* 次の要素の探索（止まる要素を集める `collect`、並行ゲートウェイを越える `crossParallel`、
  外側の繰り返し `resolveFrom.loop`）は、探索を続ける前に必ず、まだ訪ねていない要素の id を
  訪問済みに加える（`visitTarget_congr`、`crossParallel_shrinks`、`settle_congr`）。訪問済みは
  兄弟の枝の間でも繰り返しの間でも引き継がれ、減らない（`collect_grows`）。測度はまだ訪ねて
  いない要素の数 `unvisited` である。
* 出ていくイベントの歩み（`walkEvents`）は、まだ訪ねていない要素を訪問済みに加えたときしか
  要素を積まないので、積んだ要素の数とまだ訪ねていない要素の数の和が一歩ごとに減る
  （`foldl_visitEvent_measure`）。
* 初期イベントへさかのぼる探索（`collectInit`）は、訪問済みでなく、さかのぼってきた道筋に
  新しいイベントを加えてから深く進む（`visitInit_congr`）。道筋は戻るときに縮むので、抑えられる
  のは探索の回数でなく深さである。
* 開始タスクへの歩み（`walkStart`）は、取り出した要素を訪ね終えていれば飛ばし、そうでなければ
  そこから出るフローの数までしか積まない。積んだ要素の数と、出どころを訪ねていないフローの数
  （`unexplored`）の和が一歩ごとに減る。

どの探索も、測度より多い燃料では燃料によらない（`Settled`）。`traversals_terminate` はそれらを
まとめ、モデルが与える燃料（要素の数より一つ多い `searchFuel`、開始タスクへの歩みでは開始
イベントとフローの数より一つ多い燃料）が測度に届くことを添える。条件の判定は、どのモナドの
どの計算でもよい。
-/

namespace Workflow.Model

/-- 燃料を受け取る計算 `run` は燃料 `b` で落ち着いている：`b` 以上のどの燃料でも、答えは燃料 `b` の
ときと同じである。 -/
def Settled {α : Type} (run : Nat → α) (b : Nat) : Prop :=
  ∀ n, b ≤ n → run n = run b

theorem Settled.of_congr {α : Type} {run : Nat → α} {b : Nat}
    (h : ∀ n n', b ≤ n → b ≤ n' → run n = run n') : Settled run b :=
  fun n hn => h n b hn le_rfl

/-- 不変条件 `P` を保つ一歩 `f` と、`P` を満たす状態で `f` と一致する一歩 `f'` の畳み込みは同じ
計算である。 -/
theorem foldlM_congr_of_satisfiesM {m : Type → Type} [Monad m] [LawfulMonad m] {α β : Type}
    {f f' : β → α → m β} (P : β → Prop) (hstep : ∀ b a, P b → SatisfiesM P (f b a))
    (heq : ∀ b a, P b → f b a = f' b a) (l : List α) {init : β} (h : P init) :
    l.foldlM f init = l.foldlM f' init := by
  induction l generalizing init with
  | nil => rfl
  | cons a l ih =>
    rw [List.foldlM_cons, List.foldlM_cons, ← heq init a h]
    exact bind_congr_of_satisfiesM (hstep init a h) fun b hb => ih hb

namespace Graph

/-- 出どころがまだ訪問済みでないフローの数。 -/
def unexplored (g : Graph) (V : List String) : Nat :=
  (g.decl.flows.filter fun f => !V.contains f.source).length

variable {g : Graph}

/-- モデルのまだ訪ねていない要素の id を加えた訪問済みは、まだ訪ねていない要素が少ない。 -/
theorem unvisited_lt_of_fresh {t : ElementDecl} {V W : List String} (ht : t ∈ g.decl.elements)
    (htV : t.id ∉ V) (hW : t.id :: V ⊆ W) : g.unvisited W < g.unvisited V :=
  (unvisited_anti fun _ h => hW h).trans_lt (unvisited_cons_lt ht htV)

/-! ## 次の要素の探索 -/

section Navigation

variable {m : Type → Type} [Monad m] [LawfulMonad m] (judge : String → m (Except Error Bool))

/-- フローの行き先を一つ訪ねる一歩は、続き `recur` が訪問済みを減らさなければ、訪問済みを
減らさない。 -/
theorem visitTarget_grows
    {recur : String → List ElementDecl × List String →
      ExceptT Error m (List ElementDecl × List String)}
    (hrec : ∀ x acc, SatisfiesM (fun r : List ElementDecl × List String => acc.2 ⊆ r.2) (recur x acc))
    (acc : List ElementDecl × List String) (f : FlowDecl) :
    SatisfiesM (fun r : List ElementDecl × List String => acc.2 ⊆ r.2)
      (g.visitTarget recur acc f) := by
  obtain ⟨found, visited⟩ := acc
  unfold visitTarget
  cases g.element? f.target with
  | none => exact SatisfiesM.pure (List.Subset.refl _)
  | some t =>
    have ht : visited ⊆ t.id :: visited := List.subset_cons_self _ _
    simp only
    -- 訪問済みでない行き先は訪問済みに加え、探索を続けるなら続きがさらに加える。
    split
    · exact SatisfiesM.pure (List.Subset.refl _)
    · split
      · exact SatisfiesM.pure ht
      · split
        · split
          · split
            · exact SatisfiesM.pure ht
            · exact (hrec _ _).imp fun h =>
              List.Subset.trans (List.Subset.trans ht (List.subset_cons_self _ _)) h
          · exact SatisfiesM.pure ht
        · exact (hrec _ _).imp fun h => List.Subset.trans ht h

omit [LawfulMonad m] in
/-- **探索を続ける前に、まだ訪ねていない要素を訪問済みに加える。** フローの行き先を訪ねる一歩が
続き `recur` を呼ぶのは、訪問済み `acc.2` より未訪問の要素が少ない訪問済みでだけである。そこで
一致する二つの続きは、同じ一歩を作る。 -/
theorem visitTarget_congr
    {recur recur' : String → List ElementDecl × List String →
      ExceptT Error m (List ElementDecl × List String)}
    {acc : List ElementDecl × List String}
    (h : ∀ x F W, g.unvisited W < g.unvisited acc.2 → recur x (F, W) = recur' x (F, W))
    (f : FlowDecl) : g.visitTarget recur acc f = g.visitTarget recur' acc f := by
  obtain ⟨found, visited⟩ := acc
  unfold visitTarget
  cases ht : g.element? f.target with
  | none => rfl
  | some t =>
    have htel := (element?_spec ht).1
    simp only
    split
    · rfl
    · next htV =>
      have htV' : t.id ∉ visited := by simpa using htV
      split
      · rfl
      · split
        · split
          · split
            · rfl
            -- リンクキャッチから続けるときは、リンクスローとリンクキャッチの両方を加えている。
            · exact h _ _ _ (unvisited_lt_of_fresh htel htV' (List.subset_cons_self _ _))
          · rfl
        · exact h _ _ _ (unvisited_lt_of_fresh htel htV' (List.Subset.refl _))

/-- 止まる要素を集める探索は、訪問済みを減らさない。 -/
theorem collect_grows : ∀ (fuel : Nat) (x : String) (acc : List ElementDecl × List String),
    SatisfiesM (fun r : List ElementDecl × List String => acc.2 ⊆ r.2)
      (g.collect judge fuel x acc) := by
  intro fuel
  induction fuel with
  | zero =>
    intro x acc
    simp only [collect]
    exact SatisfiesM.pure (List.Subset.refl _)
  | succ fuel ih =>
    intro x acc
    simp only [collect]
    refine SatisfiesM.bind SatisfiesM.trivial fun flows _ => ?_
    refine List.satisfiesM_foldlM (List.Subset.refl _) fun b hb f _ => ?_
    exact (visitTarget_grows ih b f).imp fun h => List.Subset.trans hb h

/-- **止まる要素を集める探索は、まだ訪ねていない要素の数より多い燃料では燃料によらない。** -/
theorem collect_fuel_congr : ∀ (k k' : Nat) (x : String) (acc : List ElementDecl × List String),
    g.unvisited acc.2 < k → g.unvisited acc.2 < k' →
      g.collect judge k x acc = g.collect judge k' x acc := by
  intro k
  induction k with
  | zero => exact fun _ _ _ h => absurd h (Nat.not_lt_zero _)
  | succ k ih =>
    intro k' x acc hk hk'
    obtain _ | k' := k'
    · exact absurd hk' (Nat.not_lt_zero _)
    -- 兄弟の枝は訪問済みを引き継ぐので、どの枝もはじめの訪問済みより多くを訪ねている。
    have hstep : ∀ b f, acc.2 ⊆ b.2 →
        g.visitTarget (g.collect judge k) b f = g.visitTarget (g.collect judge k') b f := by
      intro b f hb
      have hle : g.unvisited b.2 ≤ g.unvisited acc.2 := unvisited_anti fun _ h => hb h
      exact visitTarget_congr (fun y F W hW => ih k' y (F, W) (by simp only; omega)
        (by simp only; omega)) f
    simp only [collect]
    refine congrArg (takenFlows judge g x >>= ·) (funext fun flows => ?_)
    exact foldlM_congr_of_satisfiesM (fun r => acc.2 ⊆ r.2)
      (fun b f hb => (visitTarget_grows (collect_grows judge k) b f).imp fun h =>
        List.Subset.trans hb h)
      hstep flows (List.Subset.refl _)

/-- 並行ゲートウェイの主流の行き先はモデルの要素である。 -/
theorem mainFlow_elements (gw : ElementDecl) :
    SatisfiesM (fun r : Option ElementDecl => ∀ t ∈ r, t ∈ g.decl.elements)
      (g.mainFlow judge gw) :=
  mainFlow_go_sat judge g (· ∈ g.decl.elements) _ none (fun _ _ _ ht => (element?_spec ht).1)
    (by simp)

/-- **並行ゲートウェイを越える歩みは、まだ訪ねていない要素を加えてからでないと先へ進まない。**
探索を続ける要素を返すときの訪問済みは、はじめの訪問済みより未訪問の要素が少ない。 -/
theorem crossParallel_shrinks : ∀ (fuel : Nat) (el : ElementDecl) (V : List String),
    SatisfiesM (fun r : Option ElementDecl ⊕ (String × List String) =>
        ∀ y W, r = .inr (y, W) → g.unvisited W < g.unvisited V)
      (g.crossParallel judge fuel el V) := by
  intro fuel
  induction fuel with
  | zero =>
    intro el V
    simp only [crossParallel]
    exact SatisfiesM.pure (by simp)
  | succ fuel ih =>
    intro el V
    simp only [crossParallel]
    split
    · exact SatisfiesM.pure (by simp)
    · refine SatisfiesM.bind (mainFlow_elements judge el) fun r hr => ?_
      split
      · exact SatisfiesM.pure (by simp)
      · next t =>
        split
        · exact SatisfiesM.pure (by simp)
        · next htV =>
          have hlt := unvisited_cons_lt (hr t rfl) (by simpa using htV)
          split
          -- 止まる要素なら、それを加えた訪問済みからまた越える。
          · exact (ih t _).imp fun h y W hr => (h y W hr).trans hlt
          · refine SatisfiesM.pure fun y W h => ?_
            cases h
            exact hlt

/-- **並行ゲートウェイを越える歩みは、まだ訪ねていない要素の数より多い燃料では燃料によらない。** -/
theorem crossParallel_fuel_congr : ∀ (k k' : Nat) (el : ElementDecl) (V : List String),
    g.unvisited V < k → g.unvisited V < k' →
      g.crossParallel judge k el V = g.crossParallel judge k' el V := by
  intro k
  induction k with
  | zero => exact fun _ _ _ h => absurd h (Nat.not_lt_zero _)
  | succ k ih =>
    intro k' el V hk hk'
    obtain _ | k' := k'
    · exact absurd hk' (Nat.not_lt_zero _)
    simp only [crossParallel]
    split
    · rfl
    · refine bind_congr_of_satisfiesM (mainFlow_elements judge el) fun r hr => ?_
      rcases r with _ | t
      · rfl
      · simp only
        split
        · rfl
        · next htV =>
          have hlt := unvisited_cons_lt (hr t rfl) (by simpa using htV)
          split
          · exact ih k' t _ (by omega) (by omega)
          · rfl

/-- **外側の繰り返しは、まだ訪ねていない要素を加えてからでないと次へ進まない。** 止まる要素を一つ
見つけたあと、並行ゲートウェイを越えて探索を続けるのは、未訪問の要素が少ない訪問済みからだけで
ある。そこで一致する二つの続きは、同じ答えを作る。 -/
theorem settle_congr {resume resume' : String → List String → ExceptT Error m (Option ElementDecl)}
    {V : List String} (h : ∀ y W, g.unvisited W < g.unvisited V → resume y W = resume' y W)
    (s : ElementDecl) : g.settle judge resume s V = g.settle judge resume' s V := by
  unfold settle
  refine bind_congr_of_satisfiesM (crossParallel_shrinks judge _ s V) fun r hr => ?_
  rcases r with r | ⟨y, W⟩
  · rfl
  · exact h y W (hr y W rfl)

/-- **外側の繰り返しは、まだ訪ねていない要素の数より多い燃料では燃料によらない。** -/
theorem loop_fuel_congr (start : String) : ∀ (k k' : Nat) (x : String) (V : List String),
    g.unvisited V < k → g.unvisited V < k' →
      resolveFrom.loop judge g start k x V = resolveFrom.loop judge g start k' x V := by
  intro k
  induction k with
  | zero => exact fun _ _ _ h => absurd h (Nat.not_lt_zero _)
  | succ k ih =>
    intro k' x V hk hk'
    obtain _ | k' := k'
    · exact absurd hk' (Nat.not_lt_zero _)
    simp only [resolveFrom.loop]
    refine bind_congr_of_satisfiesM (collect_grows judge _ x ([], V)) ?_
    rintro ⟨found, W⟩ hW
    have hle : g.unvisited W ≤ g.unvisited V := unvisited_anti fun _ h => hW h
    simp only
    split
    · rfl
    · exact settle_congr judge (fun y W' hW' => ih k' y W' (by omega) (by omega)) _
    · rfl

end Navigation

/-! ## 出ていくイベントの歩み -/

/-- イベントを集める歩みの一歩が、状態をどう変えるか。行き先がないか訪問済みなら変えない。
そうでなければ行き先を訪問済みに加え、イベントなら見つけたものに足し、リンクスローならリンク
キャッチを（訪問済みでなければ）次に調べ、タスクでもイベントでもリンクスローでもなければ行き先を
次に調べる。 -/
theorem visitEvent_cases (S V : List String) (F : List ElementDecl) (f : FlowDecl) :
    (g.visitEvent (S, V, F) f = (S, V, F) ∧ ∀ t, g.element? f.target = some t → t.id ∈ V) ∨
    ∃ t, g.element? f.target = some t ∧ t.id ∉ V ∧
      ((t.kind = .event ∧ g.visitEvent (S, V, F) f = (S, t.id :: V, F ++ [t])) ∨
       (t.kind = .task ∧ g.visitEvent (S, V, F) f = (S, t.id :: V, F)) ∨
       (t.kind = .linkThrow ∧ (∀ c, g.catchOf? t = some c → c.id ∈ t.id :: V) ∧
          g.visitEvent (S, V, F) f = (S, t.id :: V, F)) ∨
       (t.kind = .linkThrow ∧ ∃ c, g.catchOf? t = some c ∧ c.id ∉ t.id :: V ∧
          g.visitEvent (S, V, F) f = (c.id :: S, c.id :: t.id :: V, F)) ∨
       (t.kind ≠ .task ∧ t.kind ≠ .event ∧ t.kind ≠ .linkThrow ∧
          g.visitEvent (S, V, F) f = (t.id :: S, t.id :: V, F))) := by
  unfold visitEvent
  cases ht : g.element? f.target with
  | none => exact .inl ⟨rfl, by simp⟩
  | some t =>
    by_cases hv : V.contains t.id
    · exact .inl ⟨by simp only [hv, if_true], by simpa using hv⟩
    · refine .inr ⟨t, rfl, by simpa using hv, ?_⟩
      simp only [hv, Bool.false_eq_true, if_false]
      cases hk : t.kind with
      | event => exact .inl ⟨rfl, rfl⟩
      | task => exact .inr (.inl ⟨rfl, rfl⟩)
      | linkThrow =>
        cases hc : g.catchOf? t with
        | none => exact .inr (.inr (.inl ⟨rfl, by simp, rfl⟩))
        | some c =>
          by_cases hcv : (t.id :: V).contains c.id
          · exact .inr (.inr (.inl ⟨rfl, by simpa using hcv, by simp only [hcv, if_true]⟩))
          · exact .inr (.inr (.inr (.inl ⟨rfl, c, rfl, by simpa using hcv,
              by simp only [hcv, Bool.false_eq_true, if_false]⟩)))
      | _ => exact .inr (.inr (.inr (.inr ⟨by simp, by simp, by simp, rfl⟩)))

/-- 歩みの一歩は、積んだ要素の数とまだ訪ねていない要素の数の和を増やさない：要素を積むのは、
まだ訪ねていない要素を訪問済みに加えたときだけである。 -/
theorem visitEvent_measure (S V : List String) (F : List ElementDecl) (f : FlowDecl) :
    (g.visitEvent (S, V, F) f).1.length + g.unvisited (g.visitEvent (S, V, F) f).2.1 ≤
      S.length + g.unvisited V := by
  rcases visitEvent_cases S V F f with ⟨h, -⟩ | ⟨t, ht, htV, hcase⟩
  · rw [h]
  have hlt := unvisited_cons_lt (element?_spec ht).1 htV
  rcases hcase with ⟨-, h⟩ | ⟨-, h⟩ | ⟨-, -, h⟩ | ⟨-, c, hc, hcV, h⟩ | ⟨-, -, -, h⟩ <;> rw [h]
  · dsimp only
    omega
  · dsimp only
    omega
  · dsimp only
    omega
  -- リンクキャッチを積むときは、リンクスローとリンクキャッチの二つを訪問済みに加えている。
  · have hlt' := unvisited_cons_lt (catchOf?_spec hc).1 hcV
    simp only [List.length_cons]
    omega
  · simp only [List.length_cons]
    omega

/-- 要素から出るフローを順に訪ねても、積んだ要素の数とまだ訪ねていない要素の数の和は増えない。 -/
theorem foldl_visitEvent_measure (fs : List FlowDecl) :
    ∀ acc : List String × List String × List ElementDecl,
      (fs.foldl g.visitEvent acc).1.length + g.unvisited (fs.foldl g.visitEvent acc).2.1 ≤
        acc.1.length + g.unvisited acc.2.1 := by
  induction fs with
  | nil => exact fun _ => le_rfl
  | cons f fs ih =>
    rintro ⟨S, V, F⟩
    rw [List.foldl_cons]
    exact (ih _).trans (visitEvent_measure S V F f)

/-- **出ていくイベントの歩みは、積んだ要素の数とまだ訪ねていない要素の数の和に届く燃料では燃料に
よらない。** -/
theorem walkEvents_fuel_congr : ∀ (k k' : Nat) (S V : List String) (F : List ElementDecl),
    S.length + g.unvisited V ≤ k → S.length + g.unvisited V ≤ k' →
      g.walkEvents k S V F = g.walkEvents k' S V F := by
  intro k
  induction k with
  | zero =>
    intro k' S V F hk _
    -- 燃料が 0 に届くなら積んだ要素はなく、どの燃料でも見つけたものをそのまま返す。
    obtain rfl : S = [] := List.eq_nil_of_length_eq_zero (by omega)
    cases k' <;> rfl
  | succ k ih =>
    intro k' S V F hk hk'
    cases S with
    | nil => cases k' <;> rfl
    | cons x S =>
      obtain _ | k' := k'
      · simp at hk'
      have hm := foldl_visitEvent_measure (g := g) (g.outgoing x) (S, V, F)
      simp only [List.length_cons] at hk hk'
      simp only [walkEvents]
      rcases h : (g.outgoing x).foldl g.visitEvent (S, V, F) with ⟨S', V', F'⟩
      rw [h] at hm
      exact ih k' S' V' F' (by simp only at hm; omega) (by simp only at hm; omega)

/-! ## 初期イベントへさかのぼる探索 -/

/-- **さかのぼる一歩は、道筋にないイベントを道筋に加えてからでないと深く進まない。** 続き `recur`
を呼ぶのは、道筋 `path` より道筋の外の要素が少ない道筋でだけである。そこで一致する二つの続きは、
同じ一歩を作る。 -/
theorem visitInit_congr
    {recur recur' : String → List String → List ElementDecl → Except Error (List ElementDecl)}
    {path : List String}
    (h : ∀ y P found, g.unvisited P < g.unvisited path → recur y P found = recur' y P found)
    (found : List ElementDecl) (f : FlowDecl) :
    g.visitInit recur path found f = g.visitInit recur' path found f := by
  unfold visitInit
  cases hs : g.element? f.source with
  | none => rfl
  | some s =>
    simp only
    split
    · rfl
    · split
      · split
        · rfl
        · next hsP => exact h _ _ _ (unvisited_cons_lt (element?_spec hs).1 (by simpa using hsP))
      · rfl

/-- **初期イベントへさかのぼる探索は、道筋の外の要素の数より多い燃料では燃料によらない。** -/
theorem collectInit_fuel_congr : ∀ (k k' : Nat) (x : String) (path : List String)
    (found : List ElementDecl), g.unvisited path < k → g.unvisited path < k' →
      g.collectInit k x path found = g.collectInit k' x path found := by
  intro k
  induction k with
  | zero => exact fun _ _ _ _ h => absurd h (Nat.not_lt_zero _)
  | succ k ih =>
    intro k' x path found hk hk'
    obtain _ | k' := k'
    · exact absurd hk' (Nat.not_lt_zero _)
    -- 道筋は兄弟の枝に引き継がれないので、どのフローの一歩も同じ道筋から始まる。
    have hstep : g.visitInit (g.collectInit k) path = g.visitInit (g.collectInit k') path :=
      funext fun acc => funext fun f =>
        visitInit_congr (fun y P found' hP => ih k' y P found' (by omega) (by omega)) acc f
    simp only [collectInit]
    rw [hstep]

/-! ## 開始タスクへの歩み -/

/-- まだ訪ねていない要素を訪問済みに加えると、出どころを訪ねていないフローは、その要素から出る
フローの数だけ減る。 -/
theorem unexplored_cons {x : String} {V : List String} (hx : x ∉ V) :
    g.unexplored (x :: V) + (g.outgoing x).length = g.unexplored V := by
  unfold unexplored outgoing
  generalize g.decl.flows = fs
  induction fs with
  | nil => rfl
  | cons f fs ih =>
    by_cases hf : f.source = x
    -- 出どころが `x` のフローは、訪ねていない数から `x` から出るフローへ移る。
    · have h1 : (x :: V).contains f.source = true := by simp [hf]
      have h2 : (f.source == x) = true := by simp [hf]
      have h3 : V.contains f.source = false := by simpa [hf] using hx
      simp only [List.filter_cons, h1, h2, h3, Bool.not_true, Bool.not_false, Bool.false_eq_true,
        if_true, if_false, List.length_cons]
      omega
    · have h1 : (x :: V).contains f.source = V.contains f.source := by simp [hf]
      have h2 : (f.source == x) = false := by simp [hf]
      simp only [List.filter_cons, h1, h2, Bool.false_eq_true, if_false]
      split
      · simp only [List.length_cons]
        omega
      · exact ih

/-- 開始タスクへの歩みの一歩は、要素を高々一つ積む。 -/
theorem visitStart_length (acc : List String × List String) (f : FlowDecl) :
    (g.visitStart acc f).1.length ≤ acc.1.length + 1 := by
  obtain ⟨S, ids⟩ := acc
  unfold visitStart
  cases g.element? f.target with
  | none => simp
  | some t =>
    simp only
    split <;> simp

theorem foldl_visitStart_length (fs : List FlowDecl) :
    ∀ acc : List String × List String, (fs.foldl g.visitStart acc).1.length ≤ acc.1.length + fs.length := by
  induction fs with
  | nil => exact fun _ => le_rfl
  | cons f fs ih =>
    intro acc
    rw [List.foldl_cons]
    have := visitStart_length (g := g) acc f
    have := ih (g.visitStart acc f)
    simp only [List.length_cons]
    omega

/-- **開始タスクへの歩みは、積んだ要素の数と出どころを訪ねていないフローの数の和に届く燃料では
燃料によらない。** -/
theorem walkStart_fuel_congr : ∀ (k k' : Nat) (S V ids : List String),
    S.length + g.unexplored V ≤ k → S.length + g.unexplored V ≤ k' →
      g.walkStart k S V ids = g.walkStart k' S V ids := by
  intro k
  induction k with
  | zero =>
    intro k' S V ids hk _
    obtain rfl : S = [] := List.eq_nil_of_length_eq_zero (by omega)
    cases k' <;> rfl
  | succ k ih =>
    intro k' S V ids hk hk'
    cases S with
    | nil => cases k' <;> rfl
    | cons x S =>
      obtain _ | k' := k'
      · simp at hk'
      simp only [List.length_cons] at hk hk'
      simp only [walkStart]
      split
      · exact ih k' S V ids (by omega) (by omega)
      -- 訪ねていない要素からは、そこから出るフローの数までしか積まない。
      · next hx =>
        have hcount := unexplored_cons (g := g) (by simpa using hx : x ∉ V)
        have hlen := foldl_visitStart_length (g := g) (g.outgoing x) (S, ids)
        rcases h : (g.outgoing x).foldl g.visitStart (S, ids) with ⟨S', ids'⟩
        rw [h] at hlen
        simp only at hlen
        exact ih k' S' (x :: V) ids' (by omega) (by omega)

/-! ## 主定理 -/

/-- **探索は要素の数のうちに終わる。** 次の要素の探索（止まる要素を集める `collect`、並行
ゲートウェイを越える `crossParallel`、外側の繰り返し `resolveFrom.loop`）は、どのモナドのどの判定
でも、まだ訪ねていない要素の数より一つ多い燃料で落ち着く。出ていくイベントの歩みは、積んだ要素の
数とまだ訪ねていない要素の数の和で、初期イベントへさかのぼる探索は道筋の外の要素の数より一つ多い
燃料で、開始タスクへの歩みは、積んだ要素の数と出どころを訪ねていないフローの数の和で落ち着く。
モデルが与える燃料はどれもそこに届く：`searchFuel` はどの訪問済みについてもまだ訪ねていない要素の
数より多く、一つの要素から始める歩みにも足り、開始タスクへの歩みの燃料は開始イベントの数と
フローの数の和より多い。 -/
theorem traversals_terminate (g : Graph) :
    (∀ {m : Type → Type} [Monad m] [LawfulMonad m] (judge : String → m (Except Error Bool)),
      (∀ x acc, Settled (g.collect judge · x acc) (g.unvisited acc.2 + 1)) ∧
      (∀ el V, Settled (g.crossParallel judge · el V) (g.unvisited V + 1)) ∧
      (∀ start x V, Settled (resolveFrom.loop judge g start · x V) (g.unvisited V + 1))) ∧
    (∀ S V F, Settled (g.walkEvents · S V F) (S.length + g.unvisited V)) ∧
    (∀ x path found, Settled (g.collectInit · x path found) (g.unvisited path + 1)) ∧
    (∀ S V ids, Settled (g.walkStart · S V ids) (S.length + g.unexplored V)) ∧
    (∀ V, g.unvisited V + 1 ≤ g.searchFuel) ∧
    (∀ x, [x].length + g.unvisited [x] ≤ g.searchFuel) ∧
    g.unexplored [] = g.decl.flows.length := by
  refine ⟨fun judge => ⟨fun x acc => ?_, fun el V => ?_, fun start x V => ?_⟩, fun S V F => ?_,
    fun x path found => ?_, fun S V ids => ?_, unvisited_lt_searchFuel, fun x => ?_, ?_⟩
  · exact .of_congr fun n n' hn hn' => collect_fuel_congr judge n n' x acc (by omega) (by omega)
  · exact .of_congr fun n n' hn hn' => crossParallel_fuel_congr judge n n' el V (by omega) (by omega)
  · exact .of_congr fun n n' hn hn' => loop_fuel_congr judge start n n' x V (by omega) (by omega)
  · exact .of_congr fun n n' hn hn' => walkEvents_fuel_congr n n' S V F hn hn'
  · exact .of_congr fun n n' hn hn' => collectInit_fuel_congr n n' x path found (by omega) (by omega)
  · exact .of_congr fun n n' hn hn' => walkStart_fuel_congr n n' S V ids hn hn'
  · -- 一つの要素を訪問済みにすれば、まだ訪ねていない要素は増えない。
    have h1 : g.unvisited [x] ≤ g.unvisited [] := unvisited_anti fun _ h => absurd h List.not_mem_nil
    have h2 := unvisited_lt_searchFuel (g := g) []
    simp only [List.length_singleton]
    omega
  · simp [unexplored]

end Graph

end Workflow.Model
