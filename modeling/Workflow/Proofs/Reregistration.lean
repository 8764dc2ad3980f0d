import Mathlib
import Workflow.Proofs.RegistryContract

/-!
# 同じモデルの列を登録し直す

モデルの列を順に登録した登録簿に、同じ列をもう一度登録しても、登録簿は変わらない
（`run_adds_twice`）。版が昇順に並んだ登録簿で、どのモデルの版も空白でなければ、指紋の衝突が
あっても成り立つ。

登録は版ごとに独立で、版 `v` のモデルは、`v` のモデルを登録するたびに「今のモデルと指紋が
同じなら残し、違えば替える」（`keptStep`）で決まる（`find?_run_adds`）。この畳み込みは二度
行っても一度と同じである（`foldl_keptStep_twice`）：列の最後と指紋の違う `v` のモデルがあれば、
始めのモデルは忘れられ、なければ一度目の答えは二度目でもそのまま残る。

版ごとに同じモデルが引けて、どちらの登録簿も版が昇順なら、版とモデルの並びも同じである
（`models_eq_of_lookup`）。控えは、何かを替えた登録なら空になり、何も替えなければ元のままである。
-/

namespace Workflow.Model

namespace Registry

/-! ## 登録の答え -/

/-- 登録が成功すれば、`false` なら登録簿はそのまま、`true` なら版 `g.version` に `g` を入れ、
控えを捨てた登録簿である。 -/
theorem add_ok_cases {r r' : Registry} {g : Graph} {b : Bool} (h : r.add g = .ok (b, r')) :
    (b = false ∧ r' = r) ∨ (b = true ∧ r' = publish (insertModel g.version g r.models)) := by
  unfold add at h
  split at h
  · cases h
  · split at h
    · split at h
      · cases h
        exact .inl ⟨rfl, rfl⟩
      · cases h
        exact .inr ⟨rfl, rfl⟩
    · cases h
      exact .inr ⟨rfl, rfl⟩

theorem apply_add_of_ok {r r' : Registry} {g : Graph} {b : Bool} (h : r.add g = .ok (b, r')) :
    (r.apply (.add g)).2 = r' := by
  simp only [apply, h]

theorem apply_add_of_error {r : Registry} {g : Graph} {e : Error} (h : r.add g = .error e) :
    (r.apply (.add g)).2 = r := by
  simp only [apply, h]

theorem run_adds_cons (r : Registry) (g : Graph) (gs : List Graph) :
    (r.run ((g :: gs).map .add)).2 = ((r.apply (.add g)).2.run (gs.map .add)).2 := rfl

/-- 版が空白でないモデルの登録は成功する。 -/
theorem add_ok_of_not_blank (r : Registry) {g : Graph} (hg : Text.isBlankText g.version = false) :
    ∃ b r', r.add g = .ok (b, r') := by
  rcases add_cases r g with ⟨hb, -⟩ | ⟨-, -, -, -, he⟩ | ⟨-, -, r', he, -⟩
  · rw [hg] at hb
    cases hb
  · exact ⟨false, r, he⟩
  · exact ⟨true, r', he⟩

/-! ## 版ごとのモデル -/

/-- 版 `v` のモデルを、モデル `g` の登録の後のものに改める：`g` の版が `v` で、今のモデルと指紋が
違えば `g`、そうでなければ今のまま。 -/
def keptStep (v : String) (cur : Option Graph) (g : Graph) : Option Graph :=
  if g.version = v then (if cur.map (·.checksum) = some g.checksum then cur else some g) else cur

/-- 一歩：登録の後の版 `v` のモデルは、`keptStep` で改めたものである。 -/
theorem find?_apply_add (r : Registry) {g : Graph} (hg : Text.isBlankText g.version = false) (v : String) :
    (r.apply (.add g)).2.find? v = keptStep v (r.find? v) g := by
  rcases add_cases r g with ⟨hb, -⟩ | ⟨-, old, ho, hc, he⟩ | ⟨-, hne, r', he, hfind⟩
  · rw [hg] at hb
    cases hb
  · -- 指紋の同じモデルがあれば登録簿はそのままで、`keptStep` も今のモデルを残す
    simp only [apply, he, keptStep]
    split
    · next hv =>
      subst hv
      rw [ho, Option.map_some, hc, if_pos rfl]
    · rfl
  · simp only [apply, he, keptStep, hfind]
    split
    · next hv =>
      subst hv
      rw [if_pos rfl, if_neg]
      intro hk
      obtain ⟨old, ho, hc⟩ := Option.map_eq_some_iff.mp hk
      exact hne old ho hc
    · next hv => rw [if_neg (Ne.symm hv)]

/-- 列：モデルの列を順に登録した後の版 `v` のモデルは、`keptStep` の畳み込みである。 -/
theorem find?_run_adds (v : String) :
    ∀ (gs : List Graph) (r : Registry), (∀ g ∈ gs, Text.isBlankText g.version = false) →
      (r.run (gs.map .add)).2.find? v = gs.foldl (keptStep v) (r.find? v)
  | [], _, _ => rfl
  | g :: gs, r, hgs => by
    rw [run_adds_cons, List.foldl_cons, ← find?_apply_add r (hgs g List.mem_cons_self) v]
    exact find?_run_adds v gs _ fun g' hg' => hgs g' (List.mem_cons_of_mem _ hg')

/-- 版 `v` のモデルの指紋が同じ二つの始まりからは、同じモデルに行き着くか、どちらも始まりの
モデルを残す。 -/
theorem foldl_keptStep_of_checksum {v : String} :
    ∀ (gs : List Graph) {c c' : Option Graph}, c.map (·.checksum) = c'.map (·.checksum) →
      gs.foldl (keptStep v) c = gs.foldl (keptStep v) c' ∨
        (gs.foldl (keptStep v) c = c ∧ gs.foldl (keptStep v) c' = c')
  | [], _, _, _ => .inr ⟨rfl, rfl⟩
  | g :: gs, c, c', hk => by
    simp only [List.foldl_cons]
    by_cases hv : g.version = v
    · by_cases hc : c.map (·.checksum) = some g.checksum
      · -- どちらも今のモデルを残す
        have hc' : c'.map (·.checksum) = some g.checksum := hk ▸ hc
        simp only [keptStep, hv, hc, hc', if_true]
        exact foldl_keptStep_of_checksum gs hk
      · -- どちらも `g` に替わる
        have hc' : ¬ c'.map (·.checksum) = some g.checksum := hk ▸ hc
        rw [keptStep, keptStep, if_pos hv, if_pos hv, if_neg hc, if_neg hc']
        exact .inl rfl
    · simp only [keptStep, hv, if_false]
      exact foldl_keptStep_of_checksum gs hk

/-- 版 `v` のモデルの畳み込みは、二度行っても一度と同じである。 -/
theorem foldl_keptStep_twice {v : String} :
    ∀ (gs : List Graph) (c : Option Graph),
      gs.foldl (keptStep v) (gs.foldl (keptStep v) c) = gs.foldl (keptStep v) c
  | [], _ => rfl
  | g :: gs, c => by
    simp only [List.foldl_cons]
    by_cases hv : g.version = v
    · -- `g` の後の版 `v` のモデル `c₁` は `g` と指紋が同じ
      set c₁ := keptStep v c g with hc₁
      have hk₁ : c₁.map (·.checksum) = some g.checksum := by
        rw [hc₁, keptStep, if_pos hv]
        split
        · assumption
        · rfl
      by_cases hka : (gs.foldl (keptStep v) c₁).map (·.checksum) = some g.checksum
      · -- 一度目の答えが `g` と指紋が同じなら、二度目の `g` は答えを残し、残りは一度目のまま
        rw [keptStep, if_pos hv, if_pos hka]
        exact foldl_keptStep_twice gs c₁
      · -- そうでなければ二度目の `g` で `g` に替わる。`c₁` と `g` は指紋が同じで、残りの列が
        -- `c₁` を残すことはない（残せば答えが `c₁` になり、指紋が `g` と同じになる）
        rw [keptStep, if_pos hv, if_neg hka]
        have hsame : (some g).map (·.checksum) = c₁.map (·.checksum) := by rw [hk₁]; rfl
        rcases foldl_keptStep_of_checksum gs hsame with heq | ⟨-, hkeep⟩
        · exact heq
        · rw [hkeep, hk₁] at hka
          exact absurd rfl hka
    · simp only [keptStep, hv, if_false]
      exact foldl_keptStep_twice gs c

/-! ## 版の並び -/

theorem mem_insertModel {v : String} {g : Graph} {p : String × Graph} :
    ∀ {ms : List (String × Graph)}, p ∈ insertModel v g ms → p = (v, g) ∨ p ∈ ms
  | [], h => by simpa [insertModel] using h
  | (w, h') :: rest, hp => by
    simp only [insertModel] at hp
    split at hp
    · simpa using hp
    · split at hp
      · rcases List.mem_cons.mp hp with rfl | hp
        · exact .inl rfl
        · exact .inr (List.mem_cons_of_mem _ hp)
      · rcases List.mem_cons.mp hp with rfl | hp
        · exact .inr List.mem_cons_self
        · rcases mem_insertModel hp with rfl | hp
          · exact .inl rfl
          · exact .inr (List.mem_cons_of_mem _ hp)

/-- 版を昇順に並べた列に入れても、版は昇順のままである。 -/
theorem sorted_insertModel (v : String) (g : Graph) :
    ∀ {ms : List (String × Graph)}, ms.Pairwise (fun a b => a.1 < b.1) →
      (insertModel v g ms).Pairwise (fun a b => a.1 < b.1)
  | [], _ => List.pairwise_singleton _ _
  | (w, h) :: rest, hs => by
    obtain ⟨hlt, hrest⟩ := List.pairwise_cons.mp hs
    simp only [insertModel]
    split
    · next hvw =>
      refine List.pairwise_cons.mpr ⟨fun p hp => ?_, hs⟩
      rcases List.mem_cons.mp hp with rfl | hp
      · exact hvw
      · exact lt_trans hvw (hlt p hp)
    · split
      · next hvw =>
        have hvw : v = w := by simpa using hvw
        subst hvw
        exact List.pairwise_cons.mpr ⟨hlt, hrest⟩
      · next hlt' hne =>
        -- `w` は `v` より小さく、残りに入れたどの版よりも小さい
        have hwv : w < v := lt_of_le_of_ne (not_lt.mp hlt') (fun h => hne (by simp [h]))
        refine List.pairwise_cons.mpr ⟨fun p hp => ?_, sorted_insertModel v g hrest⟩
        rcases mem_insertModel hp with rfl | hp
        · exact hwv
        · exact hlt p hp

/-- どの版よりも小さい版は引けない。 -/
theorem lookup_eq_none_of_lt {v : String} {ms : List (String × Graph)} (h : ∀ p ∈ ms, v < p.1) :
    ms.lookup v = none := by
  rw [List.lookup_eq_none_iff]
  intro p hp
  simpa using ne_of_lt (h p hp)

/-- 版が昇順に並んだ列の先頭より小さい版は、その列のどの版よりも小さい。 -/
theorem lt_of_lt_head {v w : String} {h : Graph} {rest : List (String × Graph)}
    (hs : ((w, h) :: rest).Pairwise (fun a b => a.1 < b.1)) (hv : v < w) :
    ∀ p ∈ (w, h) :: rest, v < p.1 := by
  intro p hp
  rcases List.mem_cons.mp hp with rfl | hp
  · exact hv
  · exact lt_trans hv ((List.pairwise_cons.mp hs).1 p hp)

/-- 版が昇順に並んだ二つの列は、どの版でも同じモデルが引ければ等しい。 -/
theorem models_eq_of_lookup :
    ∀ {ms ms' : List (String × Graph)}, ms.Pairwise (fun a b => a.1 < b.1) →
      ms'.Pairwise (fun a b => a.1 < b.1) → (∀ v, ms.lookup v = ms'.lookup v) → ms = ms'
  | [], [], _, _, _ => rfl
  | [], (w, h) :: _, _, _, hl => by simpa using (hl w).symm
  | (w, h) :: _, [], _, _, hl => by simpa using hl w
  | (w, h) :: rest, (w', h') :: rest', hs, hs', hl => by
    -- 先頭の版はどちらの列でも最小なので等しく、そのモデルも等しい
    have hw : w = w' := by
      rcases lt_trichotomy w w' with hww | hww | hww
      · have := hl w
        simp [lookup_eq_none_of_lt (lt_of_lt_head hs' hww)] at this
      · exact hww
      · have := hl w'
        simp [lookup_eq_none_of_lt (lt_of_lt_head hs hww)] at this
    subst hw
    have hh : h = h' := by simpa using hl w
    subst hh
    obtain ⟨hlt, hrest⟩ := List.pairwise_cons.mp hs
    obtain ⟨hlt', hrest'⟩ := List.pairwise_cons.mp hs'
    -- 残りの列も、どの版でも同じモデルが引ける
    have hrl : ∀ v, rest.lookup v = rest'.lookup v := by
      intro v
      by_cases hv : v = w
      · subst hv
        rw [lookup_eq_none_of_lt hlt, lookup_eq_none_of_lt hlt']
      · have := hl v
        simpa [List.lookup_cons, beq_false_of_ne hv] using this
    rw [models_eq_of_lookup hrest hrest' hrl]

/-! ## 登録し直しても変わらない -/

/-- 登録の操作の後の登録簿は、始めのままか、版 `g.version` に `g` を入れて控えを捨てたものである。 -/
theorem apply_add_cases (r : Registry) (g : Graph) :
    (r.apply (.add g)).2 = r ∨ (r.apply (.add g)).2 = publish (insertModel g.version g r.models) := by
  cases hadd : r.add g with
  | error e => exact .inl (apply_add_of_error hadd)
  | ok res =>
    rw [apply_add_of_ok hadd]
    rcases add_ok_cases hadd with ⟨-, h⟩ | ⟨-, h⟩
    · exact .inl h
    · exact .inr h

/-- 登録の列の後の登録簿は、始めのままか、控えを捨てたものである。 -/
theorem run_adds_eq_or_caches :
    ∀ (gs : List Graph) (r : Registry), (r.run (gs.map .add)).2 = r ∨ (r.run (gs.map .add)).2.caches = {}
  | [], r => .inl rfl
  | g :: gs, r => by
    rw [run_adds_cons]
    have hstep : (r.apply (.add g)).2 = r ∨ (r.apply (.add g)).2.caches = {} := by
      rcases apply_add_cases r g with h | h
      · exact .inl h
      · rw [h]
        exact .inr rfl
    rcases run_adds_eq_or_caches gs (r.apply (.add g)).2 with h | h
    · rw [h]
      exact hstep
    · exact .inr h

/-- 登録の列の後も、版は昇順のままである。 -/
theorem sorted_run_adds :
    ∀ (gs : List Graph) {r : Registry}, r.models.Pairwise (fun a b => a.1 < b.1) →
      (r.run (gs.map .add)).2.models.Pairwise (fun a b => a.1 < b.1)
  | [], _, hs => hs
  | g :: gs, r, hs => by
    rw [run_adds_cons]
    apply sorted_run_adds gs
    rcases apply_add_cases r g with h | h
    · rwa [h]
    · rw [h]
      exact sorted_insertModel _ _ hs

/-- **登録し直しても変わらない。** 版が昇順に並んだ登録簿に、版が空白でないモデルの列を順に
登録し、同じ列をもう一度登録しても、登録簿は一度目の後と同じである。 -/
theorem run_adds_twice (gs : List Graph) {r : Registry} (hs : r.models.Pairwise (fun a b => a.1 < b.1))
    (hgs : ∀ g ∈ gs, Text.isBlankText g.version = false) :
    ((r.run (gs.map .add)).2.run (gs.map .add)).2 = (r.run (gs.map .add)).2 := by
  rcases run_adds_eq_or_caches gs r with h₁ | h₁
  · -- 一度目で何も替わらなければ、二度目は一度目と同じ計算である
    rw [h₁, h₁]
  · -- 版ごとに同じモデルが引け、版は昇順なので並びも同じ。控えはどちらも空である
    have hmodels : ((r.run (gs.map .add)).2.run (gs.map .add)).2.models = (r.run (gs.map .add)).2.models := by
      refine models_eq_of_lookup (sorted_run_adds gs (sorted_run_adds gs hs)) (sorted_run_adds gs hs)
        fun v => ?_
      change ((r.run (gs.map .add)).2.run (gs.map .add)).2.find? v = (r.run (gs.map .add)).2.find? v
      rw [find?_run_adds v gs _ hgs, find?_run_adds v gs r hgs, foldl_keptStep_twice]
    have hcaches : ((r.run (gs.map .add)).2.run (gs.map .add)).2.caches = (r.run (gs.map .add)).2.caches := by
      rcases run_adds_eq_or_caches gs (r.run (gs.map .add)).2 with h₂ | h₂
      · rw [h₂]
      · rw [h₂, h₁]
    cases hr₂ : ((r.run (gs.map .add)).2.run (gs.map .add)).2
    cases hr₁ : (r.run (gs.map .add)).2
    rw [hr₂, hr₁] at hmodels hcaches
    exact congrArg₂ Registry.mk hmodels hcaches

end Registry

end Workflow.Model
