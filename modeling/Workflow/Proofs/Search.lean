import Mathlib
import Workflow.Proofs.Members

/-!
# 止まる要素の探索は出会う要素をちょうど集める

条件の評価が純粋で誤らないとき（判定 `P`）、要素 `x` からの探索（`collect`）が何を集めるかを
述べる。

* `taken` と `targets` — 要素からたどるフロー（空でない条件が成り立つ最初のもの、なければ
  条件のないものすべて）と、その行き先の要素。
* `next` — 探索が要素に着いたあと次に着く要素。止まる要素からはなく、リンクスローからは
  リンクキャッチ、ほかの要素からはたどるフローの行き先。
* `Enc V u z` — 訪問済みの id `V` を避けて、行き先 `u` に着いた探索が要素 `z` に出会う。
* `collect_spec` — 探索は、`x` の行き先から `V` を避けて出会う要素を一度ずつ並べた列 `E` を
  作り、訪問済みに `E` の id を加え、見つけた要素に `E` の止まる要素を足す（`Collects`）。

訪問済みの集合は兄弟の枝の間でも共有されるので、後の枝は前の枝が訪ねた要素を避ける。
それでも出会う要素の集まりが同じなのは、前の枝が訪ねた要素の集まりが閉じている（その次の要素が
また訪問済みにある）からである（`Enc.absorb`）。燃料は、まだ訪ねていない要素の id の数より
多ければ足りる（`unvisited`）。
-/

namespace Workflow.Model

namespace Graph

variable (g : Graph) (P : String → Bool)

/-- 純粋で誤らない条件の判定。 -/
def pureJudge : String → Id (Except Error Bool) := fun c => pure (.ok (P c))

/-- 要素 `x` からたどるフロー：空でない条件が成り立つ最初のフロー、なければ条件のないフローすべて。 -/
def taken (x : String) : List FlowDecl :=
  match (g.outgoing x).find? (fun f => f.activeCondition.any P) with
  | some f => [f]
  | none => (g.outgoing x).filter fun f => f.activeCondition.isNone

/-- たどるフローの行き先の要素。 -/
def targets (x : String) : List ElementDecl :=
  (g.taken P x).filterMap fun f => g.element? f.target

/-- 探索が要素 `u` に着いたあと次に着く要素：止まる要素からはなく、リンクスローからはその
リンクキャッチ、ほかの要素からはたどるフローの行き先。 -/
def next (u : ElementDecl) : List ElementDecl :=
  if u.isStop then []
  else if u.kind == .linkThrow then (g.catchOf? u).toList
  else g.targets P u.id

/-- 訪問済みの id `V` を避けて、行き先 `u` に着いた探索が出会う要素。 -/
inductive Enc (V : List String) : ElementDecl → ElementDecl → Prop
  /-- 訪問済みでない行き先にはそこで出会う。 -/
  | here {u : ElementDecl} : u.id ∉ V → Enc V u u
  /-- 訪問済みでない行き先からは、その次の要素へ進む。 -/
  | step {u w z : ElementDecl} : u.id ∉ V → w ∈ g.next P u → Enc V w z → Enc V u z

/-- 訪問済みに加えた要素の集まり `E` が閉じている：その要素の次の要素は、訪問済み `V` の id を
持つか `E` にある。 -/
def Closed (V : List String) (E : List ElementDecl) : Prop :=
  ∀ t ∈ E, ∀ w ∈ g.next P t, w.id ∈ V ∨ w ∈ E

/-- `E` は、行き先 `U` から `V` を避けて出会う要素を一度ずつ並べたものである。 -/
def Enumerates (V : List String) (U E : List ElementDecl) : Prop :=
  E.Nodup ∧ (∀ e ∈ E, e ∈ g.decl.elements) ∧ ∀ z, z ∈ E ↔ ∃ u ∈ U, g.Enc P V u z

/-- まだ訪ねていない要素の id の数。探索の燃料はこれより多ければ足りる。 -/
def unvisited (V : List String) : Nat :=
  ((g.decl.elements.map (·.id)).toFinset \ V.toFinset).card

/-- 探索の結果 `r` は、行き先 `U` から `V` を避けて出会う要素を一度ずつ並べた列 `E` について、
見つけた要素 `F` に `E` の止まる要素を足し、訪問済み `V` に `E` の id を加えたものである。 -/
def Collects (V : List String) (U F : List ElementDecl)
    (r : ExceptT Error Id (List ElementDecl × List String)) : Prop :=
  ∃ E, r = pure (F ++ E.filter (·.isStop), (E.map (·.id)).reverse ++ V) ∧ g.Enumerates P V U E

/-- `recur` は、まだ訪ねていない要素の id が `n` より少なければ、どの要素からも正しく探索する。 -/
def Searches
    (recur : String → List ElementDecl × List String →
      ExceptT Error Id (List ElementDecl × List String)) (n : Nat) : Prop :=
  ∀ x F V, (∀ f ∈ F, f.id ∈ V) → g.unvisited V < n →
    g.Collects P V (g.targets P x) F (recur x (F, V))

/-! ## 純粋な判定での条件の評価 -/

section PureJudge

variable {g P}

theorem conditionHolds_pureJudge (f : FlowDecl) (c : String) :
    conditionHolds (pureJudge P) g f c = pure (P c) := by
  simp [conditionHolds, pureJudge, ExceptT.lift_pure]

theorem firstHolding_pureJudge (flows : List FlowDecl) :
    firstHolding (pureJudge P) g flows = pure (flows.find? fun f => f.activeCondition.any P) := by
  induction flows with
  | nil => rfl
  | cons f fs ih =>
    simp only [firstHolding]
    cases hc : f.activeCondition with
    | none => simp [ih, hc]
    | some c =>
      simp only [conditionHolds_pureJudge, pure_bind]
      cases hp : P c <;> simp [ih, hc, hp]

theorem takenFlows_pureJudge (x : String) :
    takenFlows (pureJudge P) g x = pure (g.taken P x) := by
  simp only [takenFlows, firstHolding_pureJudge, pure_bind, taken]
  cases (g.outgoing x).find? fun f => f.activeCondition.any P <;> rfl

end PureJudge

/-! ## 出会う要素 -/

section Encounters

variable {g P} {V : List String}

theorem mem_targets {x : String} {w : ElementDecl} (h : w ∈ g.targets P x) :
    w ∈ g.decl.elements := by
  obtain ⟨f, -, hf⟩ := List.mem_filterMap.mp h
  exact (element?_spec hf).1

theorem catchOf?_spec {t c : ElementDecl} (h : g.catchOf? t = some c) :
    c ∈ g.decl.elements ∧ c.kind = .linkCatch := by
  simp only [catchOf?, Option.bind_eq_some_iff] at h
  obtain ⟨l, -, hc⟩ := h
  have hp := List.find?_some hc
  simp only [Bool.and_eq_true, beq_iff_eq] at hp
  exact ⟨List.mem_of_find?_eq_some hc, hp.1⟩

theorem mem_next {u w : ElementDecl} (h : w ∈ g.next P u) : w ∈ g.decl.elements := by
  unfold next at h
  split at h
  · simp at h
  · split at h
    · exact (catchOf?_spec (Option.mem_toList.mp h)).1
    · exact mem_targets h

theorem next_of_isStop {u : ElementDecl} (h : u.isStop = true) : g.next P u = [] := by
  simp [next, h]

theorem next_of_linkThrow {u : ElementDecl} (h : u.kind = .linkThrow) :
    g.next P u = (g.catchOf? u).toList := by
  simp [next, ElementDecl.isStop, h]

/-- リンクキャッチからは、たどるフローの行き先へ進む。 -/
theorem next_of_catchOf? {t c : ElementDecl} (h : g.catchOf? t = some c) :
    g.next P c = g.targets P c.id := by
  simp [next, ElementDecl.isStop, (catchOf?_spec h).2]

theorem Enc.start_not_mem {u z : ElementDecl} (h : g.Enc P V u z) : u.id ∉ V := by
  cases h <;> assumption

theorem Enc.not_mem {u z : ElementDecl} (h : g.Enc P V u z) : z.id ∉ V := by
  induction h with
  | here hu => exact hu
  | step _ _ _ ih => exact ih

/-- 避ける id が少なければ、出会う要素は多い。 -/
theorem Enc.mono {W : List String} (hVW : ∀ id ∈ V, id ∈ W) {u z : ElementDecl}
    (h : g.Enc P W u z) : g.Enc P V u z := by
  induction h with
  | here hu => exact .here fun h => hu (hVW _ h)
  | step hu hw _ ih => exact .step (fun h => hu (hVW _ h)) hw ih

/-- 出会った要素の次の要素にも、訪問済みでなければ出会う。 -/
theorem Enc.tail {u z : ElementDecl} (h : g.Enc P V u z) {w : ElementDecl} :
    w ∈ g.next P z → w.id ∉ V → g.Enc P V u w := by
  induction h with
  | here hu => exact fun hw hwV => .step hu hw (.here hwV)
  | step hu hw' _ ih => exact fun hw hwV => .step hu hw' (ih hw hwV)

/-- 要素を列挙したものなら、その集まりは閉じている。 -/
theorem closed_of_enumerates {U E : List ElementDecl}
    (hE : ∀ z, z ∈ E ↔ ∃ u ∈ U, g.Enc P V u z) : g.Closed P V E := by
  intro t ht w hw
  obtain ⟨u, hu, hut⟩ := (hE t).mp ht
  by_cases hwV : w.id ∈ V
  · exact .inl hwV
  · exact .inr ((hE w).mpr ⟨u, hu, hut.tail hw hwV⟩)

theorem enumerates_nil : g.Enumerates P V [] [] := by
  simp [Enumerates]

/-- 訪問済みの行き先からは何にも出会わない。 -/
theorem enumerates_of_mem {u : ElementDecl} (hu : u.id ∈ V) : g.Enumerates P V [u] [] := by
  refine ⟨List.nodup_nil, by simp, fun z => ⟨by simp, ?_⟩⟩
  rintro ⟨u', hu', huz⟩
  rw [List.mem_singleton.mp hu'] at huz
  exact absurd hu huz.start_not_mem

/-! ## 燃料の目安 -/

theorem unvisited_anti {W : List String} (h : ∀ id ∈ V, id ∈ W) :
    g.unvisited W ≤ g.unvisited V := by
  refine Finset.card_le_card (Finset.sdiff_subset_sdiff subset_rfl ?_)
  intro id hid
  simpa using h id (by simpa using hid)

/-- 訪ねていない要素を訪問済みに加えると、まだ訪ねていない id は減る。 -/
theorem unvisited_cons_lt {u : ElementDecl} (hu : u ∈ g.decl.elements) (huV : u.id ∉ V) :
    g.unvisited (u.id :: V) < g.unvisited V := by
  simp only [unvisited, List.toFinset_cons, Finset.sdiff_insert]
  refine Finset.card_erase_lt_of_mem ?_
  simpa [Finset.mem_sdiff] using ⟨⟨u, hu, rfl⟩, huV⟩

theorem unvisited_lt_searchFuel (V : List String) : g.unvisited V < g.searchFuel := by
  calc g.unvisited V
      ≤ (g.decl.elements.map (·.id)).toFinset.card := Finset.card_le_card Finset.sdiff_subset
    _ ≤ (g.decl.elements.map (·.id)).length := List.toFinset_card_le _
    _ < g.searchFuel := by simp [searchFuel]

/-! ## 兄弟の枝が訪ねた要素を避けても、出会う要素の集まりは変わらない -/

section Distinct

variable (hnd : (g.decl.elements.map (·.id)).Nodup)
include hnd

theorem eq_of_id_eq {a b : ElementDecl} (ha : a ∈ g.decl.elements) (hb : b ∈ g.decl.elements)
    (h : a.id = b.id) : a = b :=
  List.inj_on_of_nodup_map hnd ha hb h

theorem mem_of_id_mem {E : List ElementDecl} (hEel : ∀ e ∈ E, e ∈ g.decl.elements)
    {u : ElementDecl} (hu : u ∈ g.decl.elements) (h : u.id ∈ E.map (·.id)) : u ∈ E := by
  obtain ⟨e, he, hid⟩ := List.mem_map.mp h
  exact eq_of_id_eq hnd (hEel e he) hu hid ▸ he

/-- 要素の id に重複がなければ、要素はその id で引ける。 -/
theorem element?_of_mem {x : ElementDecl} (hx : x ∈ g.decl.elements) : g.element? x.id = some x := by
  obtain ⟨y, hy⟩ : ∃ y, g.element? x.id = some y := Option.isSome_iff_exists.mp
    (by simpa [element?, List.find?_isSome] using ⟨x, hx, rfl⟩)
  obtain ⟨hyel, hyid⟩ := element?_spec hy
  rw [hy, eq_of_id_eq hnd hyel hx hyid]

/-- **閉じた集まりは出会う要素を吸い込む。** `V` に加えた要素の集まり `E` が閉じていれば、
`V` を避けて出会う要素は、`E` にあるか、`E` も避けて出会う。経路が `E` の要素を通るなら、
閉じていることから、その先もまた `E` にある。 -/
theorem Enc.absorb {E : List ElementDecl} (hE : g.Closed P V E)
    (hEel : ∀ e ∈ E, e ∈ g.decl.elements) {u z : ElementDecl} (h : g.Enc P V u z) :
    u ∈ g.decl.elements → z ∈ E ∨ g.Enc P (E.map (·.id) ++ V) u z := by
  have hfresh : ∀ {u : ElementDecl}, u ∈ g.decl.elements → u ∉ E → u.id ∉ V →
      u.id ∉ E.map (·.id) ++ V := by
    intro u hu huE huV h
    rcases List.mem_append.mp h with h | h
    · exact huE (mem_of_id_mem hnd hEel hu h)
    · exact huV h
  induction h with
  | @here u hu' =>
    intro hu
    by_cases huE : u ∈ E
    · exact .inl huE
    · exact .inr (.here (hfresh hu huE hu'))
  | @step u w z hu' hw hwz ih =>
    intro hu
    rcases ih (mem_next hw) with hz | hz
    · exact .inl hz
    -- `u` が `E` にあれば次の `w` も `E` にあり、`E` を避けて `w` から出会うことはない。
    · by_cases huE : u ∈ E
      · rcases hE u huE w hw with hwV | hwE
        · exact absurd hwV hwz.start_not_mem
        · exact absurd (List.mem_append_left _ (List.mem_map_of_mem hwE)) hz.start_not_mem
      · exact .inr (.step (hfresh hu huE hu') hw hz)

/-- 要素 `x` を訪問済みに加えて閉じた集まりに、`x` の次の要素が訪問済みか `x :: E` にあるなら、
`x :: E` は `x` を加える前の訪問済みについて閉じている。 -/
theorem closed_cons {W : List String} {x : ElementDecl} {E : List ElementDecl}
    (hE : g.Closed P (x.id :: W) E) (hx : x ∈ g.decl.elements)
    (hxc : ∀ w ∈ g.next P x, w.id ∈ W ∨ w ∈ x :: E) : g.Closed P W (x :: E) := by
  intro t ht w hw
  rcases List.mem_cons.mp ht with rfl | ht
  · exact hxc w hw
  -- `x.id` を持つ要素は `x` なので、`E` の要素の閉じ方は `W` と `x :: E` で言い直せる。
  · rcases hE t ht w hw with h | h
    · rcases List.mem_cons.mp h with h | h
      · exact .inr (eq_of_id_eq hnd (mem_next hw) hx h ▸ List.mem_cons_self)
      · exact .inl h
    · exact .inr (List.mem_cons_of_mem x h)

/-- **一つの行き先で出会う要素。** 訪問済みでない行き先 `u` で出会うのは、`u` と、`u` を訪問済みに
加えて `u` の次の要素から出会う要素である。 -/
theorem enumerates_cons {W : List String} {u : ElementDecl} (hu : u ∈ g.decl.elements)
    (huW : u.id ∉ W) {E : List ElementDecl} (hE : g.Enumerates P (u.id :: W) (g.next P u) E) :
    g.Enumerates P W [u] (u :: E) := by
  obtain ⟨hnodup, hEel, hmem⟩ := hE
  have huE : u ∉ E := fun h => by
    obtain ⟨w, -, hw⟩ := (hmem u).mp h
    exact hw.not_mem List.mem_cons_self
  have hel : ∀ e ∈ u :: E, e ∈ g.decl.elements := fun e he =>
    (List.mem_cons.mp he).elim (· ▸ hu) (hEel e)
  have hclosed : g.Closed P W (u :: E) := by
    refine closed_cons hnd (closed_of_enumerates hmem) hu fun w hw => ?_
    by_cases hwV : w.id ∈ u.id :: W
    · rcases List.mem_cons.mp hwV with h | h
      · exact .inr (eq_of_id_eq hnd (mem_next hw) hu h ▸ List.mem_cons_self)
      · exact .inl h
    · exact .inr (List.mem_cons_of_mem u ((hmem w).mpr ⟨w, hw, .here hwV⟩))
  refine ⟨List.nodup_cons.mpr ⟨huE, hnodup⟩, hel, fun z => ⟨?_, ?_⟩⟩
  · intro hz
    refine ⟨u, List.mem_singleton_self u, ?_⟩
    rcases List.mem_cons.mp hz with rfl | hz
    · exact .here huW
    · obtain ⟨w, hw, hwz⟩ := (hmem z).mp hz
      exact .step huW hw (hwz.mono fun _ h => List.mem_cons_of_mem _ h)
  -- `u :: E` は閉じているので、出会う要素はそこにあるか、`u` を避けて `u` から出会うかである。
  · rintro ⟨u', hu', huz⟩
    rw [List.mem_singleton.mp hu'] at huz
    rcases huz.absorb hnd hclosed hel hu with h | h
    · exact h
    · exact absurd (List.mem_append_left _ (List.mem_map_of_mem List.mem_cons_self))
        h.start_not_mem

/-- 前の枝が列挙した要素 `E₁` を訪問済みに加えて後の行き先を列挙すれば、二つを続けたものは
両方の行き先を列挙する。 -/
theorem enumerates_append {W : List String} {U₁ U₂ E₁ E₂ : List ElementDecl}
    (hU₂ : ∀ u ∈ U₂, u ∈ g.decl.elements) (h₁ : g.Enumerates P W U₁ E₁)
    (h₂ : g.Enumerates P ((E₁.map (·.id)).reverse ++ W) U₂ E₂) :
    g.Enumerates P W (U₁ ++ U₂) (E₁ ++ E₂) := by
  obtain ⟨hn₁, hel₁, hm₁⟩ := h₁
  obtain ⟨hn₂, hel₂, hm₂⟩ := h₂
  have hdisj : ∀ z ∈ E₁, z ∉ E₂ := fun z hz₁ hz₂ => by
    obtain ⟨u, -, huz⟩ := (hm₂ z).mp hz₂
    exact huz.not_mem (List.mem_append_left _ (List.mem_reverse.mpr (List.mem_map_of_mem hz₁)))
  refine ⟨List.nodup_append.mpr ⟨hn₁, hn₂, fun a ha b hb hab => hdisj a ha (hab ▸ hb)⟩,
    fun e he => (List.mem_append.mp he).elim (hel₁ e) (hel₂ e), fun z => ⟨?_, ?_⟩⟩
  · intro hz
    rcases List.mem_append.mp hz with hz | hz
    · obtain ⟨u, hu, huz⟩ := (hm₁ z).mp hz
      exact ⟨u, List.mem_append_left _ hu, huz⟩
    · obtain ⟨u, hu, huz⟩ := (hm₂ z).mp hz
      exact ⟨u, List.mem_append_right _ hu, huz.mono fun _ h => List.mem_append_right _ h⟩
  -- 後の行き先から出会う要素は、前の枝の閉じた集まりに吸い込まれるか、それを避けて出会う。
  · rintro ⟨u, hu, huz⟩
    rcases List.mem_append.mp hu with hu | hu
    · exact List.mem_append_left _ ((hm₁ z).mpr ⟨u, hu, huz⟩)
    · rcases huz.absorb hnd (closed_of_enumerates hm₁) hel₁ (hU₂ u hu) with h | h
      · exact List.mem_append_left _ h
      · refine List.mem_append_right _ ((hm₂ z).mpr ⟨u, hu, h.mono fun id hid => ?_⟩)
        simpa using hid

/-- 止まらない行き先 `u` からの探索の結果は、`u` を訪問済みに加えてその次の要素から探索した
結果である。 -/
theorem Collects.cons {W : List String} {F : List ElementDecl} {u : ElementDecl}
    {r : ExceptT Error Id (List ElementDecl × List String)} (hu : u ∈ g.decl.elements)
    (huW : u.id ∉ W) (hs : u.isStop = false) (h : g.Collects P (u.id :: W) (g.next P u) F r) :
    g.Collects P W [u] F r := by
  obtain ⟨E, hr, hE⟩ := h
  refine ⟨u :: E, ?_, enumerates_cons hnd hu huW hE⟩
  simp [hr, hs]

/-- **一つのフローの行き先を訪ねる。** `recur` が正しく探索すれば、フローの行き先の訪問は、その
行き先から訪問済みを避けて出会う要素を集める。 -/
theorem visitTarget_spec {recur : String → List ElementDecl × List String →
      ExceptT Error Id (List ElementDecl × List String)} {n : Nat} (hrec : g.Searches P recur n)
    {F : List ElementDecl} {W : List String} (hF : ∀ f ∈ F, f.id ∈ W) (hn : g.unvisited W ≤ n)
    (f : FlowDecl) : g.Collects P W (g.element? f.target).toList F (g.visitTarget recur (F, W) f) := by
  unfold visitTarget
  cases ht : g.element? f.target with
  | none => exact ⟨[], by simp, enumerates_nil⟩
  | some t =>
    have htel := (element?_spec ht).1
    simp only [Option.toList_some]
    by_cases htW : t.id ∈ W
    · simp only [htW, List.contains_iff_mem, if_true]
      exact ⟨[], by simp, enumerates_of_mem htW⟩
    have hlt := unvisited_cons_lt htel htW
    have hF' : ∀ f ∈ F, f.id ∈ t.id :: W := fun f hf => List.mem_cons_of_mem _ (hF f hf)
    simp only [htW, List.contains_iff_mem, if_false]
    split
    -- 止まる要素：見つけた要素はどれも訪問済みなので、`t` は新しく足される。
    · next hs =>
      have hany : F.any (·.id == t.id) = false := by
        simp only [List.any_eq_false, beq_iff_eq]
        exact fun f hf h => htW (h ▸ hF f hf)
      refine ⟨[t], by simp [hany, hs], enumerates_cons hnd htel htW ?_⟩
      rw [next_of_isStop hs]
      exact enumerates_nil
    · next hs =>
      refine Collects.cons hnd htel htW (Bool.not_eq_true _ ▸ hs) ?_
      split
      -- リンクスロー：リンクキャッチが訪問済みでなければ、そこから探索を続ける。
      · next hk =>
        rw [next_of_linkThrow (beq_iff_eq.mp hk)]
        split
        · next c hc =>
          have hcel := (catchOf?_spec hc).1
          rw [hc, Option.toList_some]
          by_cases hcW : c.id ∈ t.id :: W
          · simp only [hcW, if_true]
            exact ⟨[], by simp, enumerates_of_mem hcW⟩
          · simp only [hcW, if_false]
            have hcs : c.isStop = false := by simp [ElementDecl.isStop, (catchOf?_spec hc).2]
            refine Collects.cons hnd hcel hcW hcs ?_
            rw [next_of_catchOf? hc]
            exact hrec c.id F _ (fun f hf => List.mem_cons_of_mem _ (hF' f hf))
              ((unvisited_cons_lt hcel hcW).trans_le (by omega))
        · next hc =>
          rw [hc, Option.toList_none]
          exact ⟨[], by simp, enumerates_nil⟩
      -- ほかの要素：そこから探索を続ける。
      · next hk =>
        have hnext : g.next P t = g.targets P t.id := by simp [next, Bool.not_eq_true _ ▸ hs, hk]
        rw [hnext]
        exact hrec t.id F _ hF' (by omega)

/-- フローを順に訪ねる畳み込みは、行き先を順に列挙する。訪問済みは枝から枝へ引き継がれる。 -/
theorem foldlM_visitTarget_spec {recur : String → List ElementDecl × List String →
      ExceptT Error Id (List ElementDecl × List String)} {n : Nat} (hrec : g.Searches P recur n) :
    ∀ (fs : List FlowDecl) {F : List ElementDecl} {W : List String}, (∀ f ∈ F, f.id ∈ W) →
      g.unvisited W ≤ n →
      g.Collects P W (fs.filterMap fun f => g.element? f.target) F
        (fs.foldlM (g.visitTarget recur) (F, W))
  | [], F, W, _, _ => ⟨[], by simp, enumerates_nil⟩
  | f :: fs, F, W, hF, hn => by
    obtain ⟨E₁, hr₁, hE₁⟩ := visitTarget_spec hnd hrec hF hn f
    have hF' : ∀ e ∈ F ++ E₁.filter (·.isStop), e.id ∈ (E₁.map (·.id)).reverse ++ W := by
      intro e he
      rcases List.mem_append.mp he with he | he
      · exact List.mem_append_right _ (hF e he)
      · exact List.mem_append_left _ (by simpa using ⟨e, (List.mem_filter.mp he).1, rfl⟩)
    have hn' : g.unvisited ((E₁.map (·.id)).reverse ++ W) ≤ n :=
      (unvisited_anti fun _ h => List.mem_append_right _ h).trans hn
    obtain ⟨E₂, hr₂, hE₂⟩ := foldlM_visitTarget_spec hrec fs hF' hn'
    have hU : (f :: fs).filterMap (fun f => g.element? f.target) =
        (g.element? f.target).toList ++ fs.filterMap fun f => g.element? f.target := by
      cases h : g.element? f.target <;> simp [h]
    have hU₂ : ∀ u ∈ fs.filterMap (fun f => g.element? f.target), u ∈ g.decl.elements := by
      intro u hu
      obtain ⟨f', -, hf'⟩ := List.mem_filterMap.mp hu
      exact (element?_spec hf').1
    refine ⟨E₁ ++ E₂, ?_, hU ▸ enumerates_append hnd hU₂ hE₁ hE₂⟩
    rw [List.foldlM_cons, hr₁, pure_bind, hr₂]
    simp

/-- **探索は出会う要素をちょうど集める。** 燃料 `n` の探索は、まだ訪ねていない要素の id が `n`
より少なければ、要素 `x` の行き先から訪問済みを避けて出会う要素を一度ずつ訪ね、その止まる要素を
見つけた要素に足す。 -/
theorem collect_spec : ∀ n, g.Searches P (collect (pureJudge P) g n) n
  | 0 => fun _ _ _ _ h => absurd h (Nat.not_lt_zero _)
  | n + 1 => by
    intro x F V hF hV
    simp only [collect, takenFlows_pureJudge, pure_bind]
    exact foldlM_visitTarget_spec hnd (collect_spec n) (g.taken P x) hF (Nat.lt_succ_iff.mp hV)

/-- 探索に与える燃料 `searchFuel` は、どの訪問済みからの探索にも足りる。 -/
theorem collect_searchFuel (x : String) {F : List ElementDecl} {V : List String}
    (hF : ∀ f ∈ F, f.id ∈ V) :
    g.Collects P V (g.targets P x) F (collect (pureJudge P) g g.searchFuel x (F, V)) :=
  collect_spec hnd _ x F V hF (unvisited_lt_searchFuel V)

end Distinct

end Encounters

end Graph

end Workflow.Model
