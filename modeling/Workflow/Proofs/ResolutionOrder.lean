import Mathlib
import Workflow.Proofs.Items
import Workflow.Proofs.RegistryContract
import Workflow.Proofs.Resolution

/-!
# 文書のモデルの解決の順

文書の `$modelversion` を `v`、`$workflowgroup` を `grp` とする。解決（`Registry.resolve`）の
正しい答えを、探し方によらずに `Resolves` で述べる。

1. `v` が登録された版なら、そのモデル。文書はそのまま。
2. そうでなく、`v` が空でなく、正規表現として読めて登録済みの版に当たれば、当たる版のうち
   最も大きい版（`PatternMatches`）。
3. そうでなく、`grp` が空でなく、登録されたモデルの業務グループに `grp` を含むものがあれば、
   そのうち最も大きい版（`InGroup`）。移し替えを `(v, 版, grp)` として一度だけ知らせる。
4. どれでもなければ、版 `v` が登録されていない誤り。文書はそのまま。

2 と 3 では、文書は `$modelversion` だけが変わり、それは選んだ版になる。そこで、書き換えた
文書をもう一度解決すると、版そのもので同じモデルが引け、何も変わらない
（`resolve_precedence`）。

版の列はどれも、鍵が昇順に並んだ組の列から選んで逆に並べたものなので、先頭が最も大きい
（`isGreatest_of_filter_reverse`）。業務グループは控えを通して引くので、控えが登録簿と
合っていること（`CacheInv`）を仮定する。空の版が登録されていないことも仮定に置く。登録は空白の
版を誤りにするので、空の登録簿からどの操作の列を行ってもそうである（`find?_empty_run`）。
-/

namespace Workflow

namespace Document

/-- 版を置けば、文書の版はそれになる。 -/
theorem modelVersion_setModelVersion (d : Document) (v : String) :
    (d.setModelVersion v).modelVersion = v := by
  simp only [modelVersion, setModelVersion, getString, first?, get_setItem_self]
  rfl

/-- 版を置いても、`$modelversion` のほかの項目はそのままである。 -/
theorem get_setModelVersion_of_ne {n : String} (h : normalize n ≠ normalize ItemName.modelVersion)
    (d : Document) (v : String) : (d.setModelVersion v).get n = d.get n :=
  get_setItem_of_ne (Ne.symm h) _

end Document

namespace Model

/-! ## 昇順の列の逆の先頭 -/

section Greatest

variable {α : Type} {ms : List (String × α)} {q : String × α → Bool}

/-- 鍵が昇順の組の列から選んだ鍵を逆に並べると、先頭は選んだ鍵のうち最も大きい。 -/
theorem isGreatest_of_filter_reverse (hs : ms.Pairwise fun a b => a.1 < b.1) {w : String}
    {ws : List String} (h : ((ms.filter q).map Prod.fst).reverse = w :: ws) :
    IsGreatest {u | ∃ x ∈ ms, q x = true ∧ x.1 = u} w := by
  have hsorted : ((ms.filter q).map Prod.fst).Pairwise (· < ·) :=
    List.pairwise_map.mpr (hs.filter q)
  have hdesc : (w :: ws).Pairwise fun a b => b < a := h ▸ List.pairwise_reverse.mpr hsorted
  have hmem : ∀ u, u ∈ w :: ws ↔ ∃ x ∈ ms, q x = true ∧ x.1 = u := by
    intro u
    rw [← h, List.mem_reverse, List.mem_map]
    simp only [List.mem_filter, and_assoc]
  refine ⟨(hmem w).mp List.mem_cons_self, fun u hu => ?_⟩
  rcases List.mem_cons.mp ((hmem u).mpr hu) with rfl | hu'
  · exact le_rfl
  · exact (List.rel_of_pairwise_cons hdesc hu').le

/-- 選んだ鍵の列が空なら、どの組も選ばれていない。 -/
theorem filter_eq_false_of_reverse_nil (h : ((ms.filter q).map Prod.fst).reverse = []) :
    ∀ x ∈ ms, q x = false := by
  intro x hx
  rw [List.reverse_eq_nil_iff, List.map_eq_nil_iff, List.filter_eq_nil_iff] at h
  simpa using h x hx

end Greatest

/-! ## 業務グループを持つか -/

/-- モデルの業務グループが引けて `group` を含むか。 -/
def Graph.hasGroup (g : Graph) (group : String) : Bool :=
  match g.groups with
  | .ok gs => gs.contains group
  | .error _ => false

theorem Graph.hasGroup_iff {g : Graph} {group : String} :
    g.hasGroup group = true ↔ ∃ gs, g.groups = .ok gs ∧ group ∈ gs := by
  unfold Graph.hasGroup
  cases g.groups with
  | ok gs => simp
  | error e => simp

namespace Registry

variable {r : Registry}

/-! ## 空の版は登録されない -/

/-- 一歩：どの操作のあとも、空の版は登録されていないままである。登録は空白の版を誤りにし、
取り除きと引く操作は版を増やさない。 -/
theorem find?_empty_apply (op : RegistryOp) (h : r.find? "" = none) :
    (r.apply op).2.find? "" = none := by
  cases op with
  | add g =>
    rcases add_cases r g with ⟨-, e, he⟩ | ⟨-, old, -, -, he⟩ | ⟨hb, -, r', he, hfind⟩
    · simpa only [apply, he] using h
    · simpa only [apply, he] using h
    · -- 空白でない版は空でない。
      have hne : "" ≠ g.version := fun hv => by
        rw [← hv] at hb
        cases hb
      simp only [apply, he, hfind, hne, if_false]
      exact h
  | remove w =>
    simp only [apply, find?_remove]
    split
    · rfl
    · exact h
  | findTask g t => exact (find?_apply_lookup rfl (fun _ hw => by cases hw) "").trans h
  | findEvents g t => exact (find?_apply_lookup rfl (fun _ hw => by cases hw) "").trans h
  | findEvent g t e => exact (find?_apply_lookup rfl (fun _ hw => by cases hw) "").trans h
  | findGroups g => exact (find?_apply_lookup rfl (fun _ hw => by cases hw) "").trans h

/-- 列：空の版が登録されていない登録簿から、どの操作の列を行っても、空の版は登録されない。 -/
theorem find?_empty_run (ops : List RegistryOp) (h : r.find? "" = none) :
    (r.run ops).2.find? "" = none := by
  induction ops generalizing r with
  | nil => exact h
  | cons op ops ih =>
    rw [run_snd_cons]
    exact ih (find?_empty_apply op h)

/-! ## 解決の正しい答え -/

/-- 登録済みの版 `v` に、正規表現として読める `pattern` が当たる。 -/
def PatternMatches (r : Registry) (pattern v : String) : Prop :=
  v ∈ r.versions ∧ ∃ n, Pattern.parse pattern = .ok n ∧ n.isMatch v = true

/-- 版 `v` に登録されたモデルの業務グループが `group` を含む。業務グループは控えを通さず、
モデルから引く。 -/
def InGroup (r : Registry) (group v : String) : Prop :=
  ∃ g, r.find? v = some g ∧ ∃ gs, g.groups = .ok gs ∧ group ∈ gs

/-- 文書 `d` のモデルの解決として正しい答え：結果、解決のあとの文書、移し替えの知らせ。 -/
inductive Resolves (r : Registry) (d : Document) :
    Except Error Graph → Document → Option Migration → Prop
  /-- 文書の版が登録されている。 -/
  | exact {g : Graph} : r.find? d.modelVersion = some g → Resolves r d (.ok g) d none
  /-- 文書の版を正規表現として当たる版のうち、最も大きい版。 -/
  | pattern {w : String} {g : Graph} : r.find? d.modelVersion = none → d.modelVersion ≠ "" →
      IsGreatest {u | r.PatternMatches d.modelVersion u} w → r.find? w = some g →
      Resolves r d (.ok g) (d.setModelVersion w) none
  /-- 版でも正規表現でも決まらず、業務グループを持つ版のうち最も大きい版。 -/
  | group {w : String} {g : Graph} : r.find? d.modelVersion = none →
      (d.modelVersion ≠ "" → ∀ u, ¬ r.PatternMatches d.modelVersion u) →
      d.workflowGroup ≠ "" → IsGreatest {u | r.InGroup d.workflowGroup u} w → r.find? w = some g →
      Resolves r d (.ok g) (d.setModelVersion w)
        (some { source := d.modelVersion, target := w, group := d.workflowGroup })
  /-- どれでも決まらない。 -/
  | undefined : r.find? d.modelVersion = none →
      (d.modelVersion ≠ "" → ∀ u, ¬ r.PatternMatches d.modelVersion u) →
      (d.workflowGroup ≠ "" → ∀ u, ¬ r.InGroup d.workflowGroup u) →
      Resolves r d (.error (.undefinedModelVersion d.modelVersion)) d none

/-! ## 正規表現で探す -/

/-- 正規表現が読めれば、当たる版は、当たる鍵を持つ登録された組の鍵である。 -/
theorem patternMatches_iff {pattern : String} {n : Pattern.Node}
    (hn : Pattern.parse pattern = .ok n) (u : String) : r.PatternMatches pattern u ↔ ∃ x ∈ r.models, n.isMatch x.1 = true ∧ x.1 = u := by
  simp only [PatternMatches, versions, List.mem_map, hn, Except.ok.injEq, exists_eq_left']
  constructor
  · rintro ⟨⟨x, hx, rfl⟩, hm⟩
    exact ⟨x, hx, hm, rfl⟩
  · rintro ⟨x, hx, hm, rfl⟩
    exact ⟨⟨x, hx, rfl⟩, hm⟩

theorem versionsMatching_eq_cons (hwf : r.WellFormed) {pattern w : String} {ws : List String}
    (h : r.versionsMatching pattern = w :: ws) :
    IsGreatest {u | r.PatternMatches pattern u} w := by
  unfold versionsMatching at h
  cases hn : Pattern.parse pattern with
  | error e =>
    rw [hn] at h
    cases h
  | ok n =>
    simp only [hn, versions, List.filter_map] at h
    have hset : {u | r.PatternMatches pattern u} =
        {u | ∃ x ∈ r.models, (n.isMatch ∘ Prod.fst) x = true ∧ x.1 = u} :=
      Set.ext (patternMatches_iff hn)
    rw [hset]
    exact isGreatest_of_filter_reverse hwf.sorted h

theorem versionsMatching_eq_nil {pattern : String} (h : r.versionsMatching pattern = [])
    (u : String) :
    ¬ r.PatternMatches pattern u := by
  unfold versionsMatching at h
  rintro ⟨hu, n, hn, hm⟩
  simp only [hn, versions, List.filter_map] at h
  obtain ⟨x, hx, rfl⟩ := List.mem_map.mp hu
  have := filter_eq_false_of_reverse_nil h x hx
  simp only [Function.comp_apply] at this
  rw [hm] at this
  cases this

/-! ## 業務グループで探す -/

/-- 整った登録簿では、業務グループを持つ版は、業務グループを持つモデルの組の鍵である。 -/
theorem inGroup_iff (hwf : r.WellFormed) (group u : String) :
    r.InGroup group u ↔ ∃ x ∈ r.models, x.2.hasGroup group = true ∧ x.1 = u := by
  constructor
  · rintro ⟨g, hg, hgs⟩
    exact ⟨(u, g), mem_of_lookup_eq_some hg, Graph.hasGroup_iff.mpr hgs, rfl⟩
  · rintro ⟨x, hx, hgrp, rfl⟩
    exact ⟨x.2, hwf.find?_of_mem hx, Graph.hasGroup_iff.mp hgrp⟩

/-- 業務グループを探す一歩は、控えを通しても控えなしで引いた業務グループで決まる。 -/
theorem groupStep_spec {group : String} {acc : List String × Registry} {p : String × Graph}
    (hinv : acc.2.CacheInv) (hcur : acc.2.Current p.2) :
    (groupStep group acc p).1 = (if p.2.hasGroup group then p.2.version :: acc.1 else acc.1) ∧
      (groupStep group acc p).2.models = acc.2.models ∧ (groupStep group acc p).2.CacheInv := by
  obtain ⟨hgs, hm, hinv'⟩ := findGroups_spec hinv hcur
  unfold groupStep
  rcases hf : acc.2.findGroups p.2 with ⟨res, r'⟩
  rw [hf] at hgs hm hinv'
  simp only at hgs hm hinv'
  subst hgs
  cases hg : p.2.groups with
  | ok gs => simp [Graph.hasGroup, hg, hm, hinv']
  | error e => simp [Graph.hasGroup, hg, hm, hinv']

/-- 業務グループで探す畳み込みは、業務グループを持つモデルの版を、見た順と逆に前へ足していく。 -/
theorem foldl_groupStep (hwf : r.WellFormed) (group : String) (ms : List (String × Graph))
    (hms : ∀ p ∈ ms, p ∈ r.models) :
    ∀ acc : List String × Registry, acc.2.models = r.models → acc.2.CacheInv →
      (ms.foldl (groupStep group) acc).1 =
        ((ms.filter fun p => p.2.hasGroup group).map Prod.fst).reverse ++ acc.1 := by
  induction ms with
  | nil => intro acc _ _; rfl
  | cons p ms ih =>
    intro acc hm hinv
    have hp : p ∈ r.models := hms p List.mem_cons_self
    have hcur : acc.2.Current p.2 := (hwf.of_models_eq hm).current_of_mem (hm ▸ hp)
    obtain ⟨h1, h2, h3⟩ := @groupStep_spec group acc p hinv hcur
    rw [List.foldl_cons, ih (fun q hq => hms q (List.mem_cons_of_mem _ hq)) _ (h2.trans hm) h3, h1]
    have hv : p.2.version = p.1 := hwf.versions p hp
    by_cases hg : p.2.hasGroup group <;> simp [hg, hv]

theorem versionsInGroup_fst (hwf : r.WellFormed) (hinv : r.CacheInv) (group : String) :
    (r.versionsInGroup group).1 =
      ((r.models.filter fun p => p.2.hasGroup group).map Prod.fst).reverse := by
  rw [versionsInGroup, foldl_groupStep hwf group r.models (fun _ h => h) ([], r) rfl hinv,
    List.append_nil]

theorem versionsInGroup_eq_cons (hwf : r.WellFormed) (hinv : r.CacheInv) {group w : String}
    {ws : List String} (h : (r.versionsInGroup group).1 = w :: ws) :
    IsGreatest {u | r.InGroup group u} w := by
  rw [versionsInGroup_fst hwf hinv] at h
  have hset : {u | r.InGroup group u} = {u | ∃ x ∈ r.models, x.2.hasGroup group = true ∧ x.1 = u} :=
    Set.ext (inGroup_iff hwf group)
  rw [hset]
  exact isGreatest_of_filter_reverse hwf.sorted h

theorem versionsInGroup_eq_nil (hwf : r.WellFormed) (hinv : r.CacheInv) {group : String}
    (h : (r.versionsInGroup group).1 = []) (u : String) : ¬ r.InGroup group u := by
  rw [versionsInGroup_fst hwf hinv] at h
  rw [inGroup_iff hwf]
  rintro ⟨x, hx, hg, -⟩
  rw [filter_eq_false_of_reverse_nil h x hx] at hg
  cases hg

/-! ## 解決の四つの道 -/

section Tiers

variable {d : Document} {g : Graph} {w : String} {ws : List String}

/-- 版が登録されていれば、そのモデルを答え、何も変えない。 -/
theorem resolve_of_find? (hv : d.modelVersion ≠ "") (h : r.find? d.modelVersion = some g) :
    r.resolve d = { result := .ok g, doc := d, migration := none, registry := r } := by
  have he : d.modelVersion.isEmpty = false := by simpa using hv
  simp only [resolve, he, h, Bool.false_eq_true, if_false]

/-- 版が登録されておらず、版を正規表現として当たる版があれば、先頭の版のモデルを答える。 -/
theorem resolve_of_versionsMatching (hv : d.modelVersion ≠ "") (h : r.find? d.modelVersion = none)
    (hm : r.versionsMatching d.modelVersion = w :: ws) (hw : r.find? w = some g) :
    r.resolve d =
      { result := .ok g, doc := d.setModelVersion w, migration := none, registry := r } := by
  have he : d.modelVersion.isEmpty = false := by simpa using hv
  simp only [resolve, he, h, hm, hw, Bool.false_eq_true, if_false, Option.map_some]

/-- 版でも正規表現でも決まらないとき。 -/
def Unversioned (r : Registry) (d : Document) : Prop :=
  d.modelVersion = "" ∨ (r.find? d.modelVersion = none ∧ r.versionsMatching d.modelVersion = [])

/-- 版で決まらず、業務グループを持つ版があれば、先頭の版のモデルを答え、移し替えを知らせる。 -/
theorem resolve_of_versionsInGroup (hby : r.Unversioned d) (hg : d.workflowGroup ≠ "")
    (hc : (r.versionsInGroup d.workflowGroup).1 = w :: ws)
    (hw : (r.versionsInGroup d.workflowGroup).2.find? w = some g) :
    r.resolve d =
      { result := .ok g, doc := d.setModelVersion w,
        migration := some ⟨d.modelVersion, w, d.workflowGroup⟩,
        registry := (r.versionsInGroup d.workflowGroup).2 } := by
  have he : d.workflowGroup.isEmpty = false := by simpa using hg
  rcases hby with hv | ⟨hf, hm⟩
  · simp [resolve, hv, he, hc, hw]
  · simp [resolve, hf, hm, he, hc, hw]

/-- 版でも業務グループでも決まらなければ、版が登録されていない誤りで、文書はそのまま。 -/
theorem resolve_of_unresolved (hby : r.Unversioned d)
    (hc : d.workflowGroup = "" ∨ (r.versionsInGroup d.workflowGroup).1 = []) :
    (r.resolve d).result = .error (.undefinedModelVersion d.modelVersion) ∧
      (r.resolve d).doc = d ∧ (r.resolve d).migration = none := by
  by_cases hg : d.workflowGroup = ""
  · rcases hby with hv | ⟨hf, hm⟩
    · simp [resolve, hv, hg]
    · simp [resolve, hf, hm, hg]
  · have hc : (r.versionsInGroup d.workflowGroup).1 = [] := hc.resolve_left hg
    rcases hby with hv | ⟨hf, hm⟩
    · simp [resolve, hv, hg, hc]
    · simp [resolve, hf, hm, hg, hc]

end Tiers

/-! ## 解決は正しい答えを返す -/

/-- 整った登録簿では、正規表現が当たる版にはモデルが登録されている。 -/
theorem find?_of_patternMatches (hwf : r.WellFormed) {pattern u : String}
    (h : r.PatternMatches pattern u) : ∃ g, r.find? u = some g := by
  obtain ⟨x, hx, rfl⟩ := List.mem_map.mp h.1
  exact ⟨x.2, hwf.find?_of_mem hx⟩

/-- **解決は四つの道のどれかで正しく答える。** 整った登録簿で控えが合っていて、空の版が
登録されていなければ、解決の結果・文書・移し替えの知らせは `Resolves` を満たす。 -/
theorem resolve_resolves (hwf : r.WellFormed) (hinv : r.CacheInv) (hnil : r.find? "" = none)
    (d : Document) :
    r.Resolves d (r.resolve d).result (r.resolve d).doc (r.resolve d).migration := by
  cases hf : r.find? d.modelVersion with
  | some g =>
    -- 版そのもので引けた。空の版は登録されていないので、版は空でない。
    have hv : d.modelVersion ≠ "" := fun h => by
      rw [h, hnil] at hf
      cases hf
    rw [resolve_of_find? hv hf]
    exact .exact hf
  | none =>
    by_cases hpat : d.modelVersion ≠ "" ∧ r.versionsMatching d.modelVersion ≠ []
    · -- 正規表現で当たる版がある。
      obtain ⟨hv, hne⟩ := hpat
      obtain ⟨w, ws, hm⟩ := List.exists_cons_of_ne_nil hne
      have hw := versionsMatching_eq_cons hwf hm
      obtain ⟨g, hg⟩ := find?_of_patternMatches hwf hw.1
      rw [resolve_of_versionsMatching hv hf hm hg]
      exact .pattern hf hv hw hg
    · have hby : r.Unversioned d := by
        by_cases hv : d.modelVersion = ""
        · exact .inl hv
        · exact .inr ⟨hf, by simpa [hv] using hpat⟩
      have hnopat : d.modelVersion ≠ "" → ∀ u, ¬ r.PatternMatches d.modelVersion u := by
        intro hv
        rcases hby with hv' | ⟨-, hm⟩
        · exact absurd hv' hv
        · exact versionsMatching_eq_nil hm
      -- 業務グループで探す。探したあとの登録簿は、もとと同じモデルを持つ。
      obtain ⟨hmodels, -⟩ := versionsInGroup_spec hwf hinv d.workflowGroup
      by_cases hg : d.workflowGroup = ""
      · obtain ⟨h1, h2, h3⟩ := resolve_of_unresolved hby (.inl hg)
        rw [h1, h2, h3]
        exact .undefined hf hnopat fun h => absurd hg h
      · cases hc : (r.versionsInGroup d.workflowGroup).1 with
        | nil =>
          obtain ⟨h1, h2, h3⟩ := resolve_of_unresolved hby (.inr hc)
          rw [h1, h2, h3]
          exact .undefined hf hnopat fun _ => versionsInGroup_eq_nil hwf hinv hc
        | cons w ws =>
          have hw := versionsInGroup_eq_cons hwf hinv hc
          obtain ⟨g, hgw, -⟩ := hw.1
          have hgw' : (r.versionsInGroup d.workflowGroup).2.find? w = some g := by
            rw [find?, hmodels]
            exact hgw
          rw [resolve_of_versionsInGroup hby hg hc hgw']
          exact .group hf hnopat hg hw hgw

namespace Resolves

variable {d : Document} {res : Except Error Graph} {doc : Document} {mig : Option Migration}

/-- 正しい解決は、`$modelversion` のほかの項目を変えない。 -/
theorem get_of_ne (h : r.Resolves d res doc mig) {n : String}
    (hn : Document.normalize n ≠ Document.normalize ItemName.modelVersion) :
    doc.get n = d.get n := by
  cases h with
  | exact _ => rfl
  | pattern _ _ _ _ => exact Document.get_setModelVersion_of_ne hn _ _
  | group _ _ _ _ _ => exact Document.get_setModelVersion_of_ne hn _ _
  | undefined _ _ _ => rfl

/-- 正しい解決が答えたモデルは、解決のあとの文書の版で登録されている。 -/
theorem modelVersion_of_ok (hwf : r.WellFormed) {g : Graph} (h : r.Resolves d (.ok g) doc mig) :
    doc.modelVersion = g.version ∧ r.find? g.version = some g := by
  cases h with
  | exact hf =>
    obtain ⟨hv, hg⟩ := hwf.find?_version hf
    exact ⟨hv.symm, hg⟩
  | pattern _ _ _ hw =>
    obtain ⟨hv, hg⟩ := hwf.find?_version hw
    exact ⟨(Document.modelVersion_setModelVersion _ _).trans hv.symm, hg⟩
  | group _ _ _ _ hw =>
    obtain ⟨hv, hg⟩ := hwf.find?_version hw
    exact ⟨(Document.modelVersion_setModelVersion _ _).trans hv.symm, hg⟩

end Resolves

/-- **文書のモデルの解決の順。** 整った登録簿で控えが合っていて、空の版が登録されていなければ、

* 解決は、版そのもの・正規表現で当たる最も大きい版・業務グループを持つ最も大きい版の順に
  探し、どれもなければ版が登録されていない誤りを返す（`Resolves`）。
* 文書は `$modelversion` のほかは変わらない。
* モデルを答えたなら、文書の版はそのモデルの版になり、書き換えた文書を解決し直すと、
  版そのもので同じモデルを答え、文書も登録簿も変えず、移し替えも知らせない。 -/
theorem resolve_precedence (hwf : r.WellFormed) (hinv : r.CacheInv) (hnil : r.find? "" = none)
    (d : Document) :
    r.Resolves d (r.resolve d).result (r.resolve d).doc (r.resolve d).migration ∧
      (∀ n, Document.normalize n ≠ Document.normalize ItemName.modelVersion →
        (r.resolve d).doc.get n = d.get n) ∧
      ∀ g, (r.resolve d).result = .ok g →
        (r.resolve d).doc.modelVersion = g.version ∧
          (r.resolve d).registry.resolve (r.resolve d).doc =
            { result := .ok g, doc := (r.resolve d).doc, migration := none,
              registry := (r.resolve d).registry } := by
  have hres := resolve_resolves hwf hinv hnil d
  refine ⟨hres, fun n hn => hres.get_of_ne hn, fun g hg => ?_⟩
  rw [hg] at hres
  obtain ⟨hdv, hfind⟩ := hres.modelVersion_of_ok hwf
  -- 解決のあとの登録簿は、もとと同じモデルを持つ。
  have hmodels := (resolve_spec hwf hinv d).1
  have hfind' : (r.resolve d).registry.find? (r.resolve d).doc.modelVersion = some g := by
    rw [find?, hmodels, hdv]
    exact hfind
  have hv : (r.resolve d).doc.modelVersion ≠ "" := fun h => by
    rw [hdv] at h
    rw [h, hnil] at hfind
    cases hfind
  exact ⟨hdv, resolve_of_find? hv hfind'⟩

end Registry

/-! ## 例：業務グループで移し替える -/

/-- 業務グループ `Sales` の見積もりのモデル。 -/
def quoteModel (v : String) : ModelDecl where
  version := v
  processes := [{ id := "p", name := "Sales" }]
  elements :=
    [{ id := "t", kind := .task, name := "Quote", process := some "p", task := some { id := 1 } }]
  flows := []

/-- 見積もりのモデルの版 `1.0` と `1.1` を登録した登録簿。 -/
def quoteRegistry : Registry :=
  Registry.publish
    [("1.0", { decl := quoteModel "1.0", checksum := "a", definition := { items := [] } }),
      ("1.1", { decl := quoteModel "1.1", checksum := "b", definition := { items := [] } })]

/-- 登録されていない版 `0.9` と業務グループ `Sales` を持つ文書。 -/
def retiredQuote : Document :=
  { items := [(ItemName.modelVersion, [.text "0.9"]), (ItemName.workflowGroup, [.text "Sales"])] }

theorem quoteRegistry_wellFormed : quoteRegistry.WellFormed where
  versions := by simp [quoteRegistry, Registry.publish, Graph.version, quoteModel]
  sorted := by
    simp only [quoteRegistry, Registry.publish]
    decide
  distinctIds := by
    simp only [quoteRegistry, Registry.publish, List.mem_cons, List.not_mem_nil, or_false,
      forall_eq_or_imp, forall_eq]
    decide

theorem retired_quote_resolution :
    quoteRegistry.WellFormed ∧ quoteRegistry.CacheInv ∧ quoteRegistry.find? "" = none ∧
      quoteRegistry.Resolves retiredQuote (quoteRegistry.resolve retiredQuote).result
        (quoteRegistry.resolve retiredQuote).doc (quoteRegistry.resolve retiredQuote).migration ∧
      (∀ n, Document.normalize n ≠ Document.normalize ItemName.modelVersion →
        (quoteRegistry.resolve retiredQuote).doc.get n = retiredQuote.get n) ∧
      ∀ g, (quoteRegistry.resolve retiredQuote).result = .ok g →
        (quoteRegistry.resolve retiredQuote).doc.modelVersion = g.version ∧
          (quoteRegistry.resolve retiredQuote).registry.resolve
              (quoteRegistry.resolve retiredQuote).doc =
            { result := .ok g, doc := (quoteRegistry.resolve retiredQuote).doc, migration := none,
              registry := (quoteRegistry.resolve retiredQuote).registry } :=
  ⟨quoteRegistry_wellFormed, Registry.cacheInv_publish _, rfl,
    Registry.resolve_precedence quoteRegistry_wellFormed (Registry.cacheInv_publish _) rfl
      retiredQuote⟩

/-- 版 `0.9` は登録されておらず、正規表現としても当たらないので、業務グループ `Sales` を持つ
最も大きい版 `1.1` に移し替える。 -/
example : (quoteRegistry.resolve retiredQuote).migration.map (·.target) = some "1.1" := by
  decide +kernel

end Model

end Workflow
