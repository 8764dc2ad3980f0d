import Mathlib
import Workflow.Proofs.Caches

/-!
# 整った登録簿と文書のモデルの解決

登録簿が整っている（`WellFormed`）とは、どの組も鍵がモデルの版で、鍵が昇順に並び、どのモデルも
要素の id に重複がないことである。登録は版の昇順を保って入れ、取り除きは並びから除くので、
整った登録簿は整ったままである。

整った登録簿では、登録されたどのモデルもその版で引けるので、控えについて `Current` である。
そこで、文書のモデルの解決（`resolve`）は、業務グループを引くために控えを使っても、

* 登録されたモデルを変えず、`CacheInv` を保ち、
* 答えるモデルは、その版で登録されたモデルそのものである（`resolve_spec`）。
-/

namespace Workflow.Model

namespace Registry

/-! ## 整った登録簿 -/

/-- 登録簿が整っている：鍵は版で昇順、モデルの要素の id に重複がない。 -/
structure WellFormed (r : Registry) : Prop where
  versions : ∀ p ∈ r.models, p.2.version = p.1
  sorted : r.models.Pairwise fun a b => a.1 < b.1
  distinctIds : ∀ p ∈ r.models, (p.2.decl.elements.map (·.id)).Nodup

variable {r : Registry}

/-- 登録されたモデルの集まりが同じなら、整っていることも同じである。 -/
theorem WellFormed.of_models_eq {r' : Registry} (h : r'.models = r.models) (hwf : r.WellFormed) :
    r'.WellFormed where
  versions := h ▸ hwf.versions
  sorted := h ▸ hwf.sorted
  distinctIds := h ▸ hwf.distinctIds

/-- 鍵が昇順の並びでは、どの組もその鍵で引ける。 -/
theorem lookup_of_mem_sorted {v : String} {g : Graph} :
    ∀ {ms : List (String × Graph)}, ms.Pairwise (fun a b => a.1 < b.1) → (v, g) ∈ ms →
      ms.lookup v = some g
  | [], _, h => by simp at h
  | (w, h) :: rest, hs, hmem => by
    obtain ⟨hlt, hrest⟩ := List.pairwise_cons.mp hs
    rcases List.mem_cons.mp hmem with heq | hmem
    · cases heq
      simp
    · have hne : (v == w) = false := by
        have := hlt (v, g) hmem
        simpa using ne_of_gt this
      simp only [List.lookup_cons, hne]
      exact lookup_of_mem_sorted hrest hmem

/-- 整った登録簿では、登録された組はその鍵で引ける。 -/
theorem WellFormed.find?_of_mem (hwf : r.WellFormed) {v : String} {g : Graph}
    (h : (v, g) ∈ r.models) : r.find? v = some g :=
  lookup_of_mem_sorted hwf.sorted h

/-- 整った登録簿で版から引いたモデルは、その版のモデルであり、自分の版で引ける。 -/
theorem WellFormed.find?_version (hwf : r.WellFormed) {v : String} {g : Graph}
    (h : r.find? v = some g) : g.version = v ∧ r.find? g.version = some g := by
  have hv : g.version = v := hwf.versions (v, g) (mem_of_lookup_eq_some h)
  exact ⟨hv, hv ▸ h⟩

/-- 整った登録簿では、登録されたどのモデルも `Current` である。 -/
theorem WellFormed.current_of_mem (hwf : r.WellFormed) {p : String × Graph}
    (h : p ∈ r.models) : r.Current p.2 := by
  have hv := hwf.versions p h
  refine current_of_find? ?_
  rw [hv]
  exact hwf.find?_of_mem h

/-! ## 業務グループで版を探す -/

/-- 登録されたモデルを順に引いて業務グループを探しても、登録されたモデルは変わらず、
`CacheInv` は保たれる。 -/
theorem versionsInGroup_spec (hwf : r.WellFormed) (hinv : r.CacheInv) (group : String) :
    (r.versionsInGroup group).2.models = r.models ∧ (r.versionsInGroup group).2.CacheInv := by
  unfold versionsInGroup
  -- 畳み込みの途中の登録簿は、もとと同じモデルを持ち `CacheInv` を満たす。
  refine List.foldlRecOn
    (motive := fun acc : List String × Registry => acc.2.models = r.models ∧ acc.2.CacheInv)
    _ _ ⟨rfl, hinv⟩ ?_
  rintro ⟨vs, r'⟩ ⟨hm, hinv'⟩ p hp
  have hcur : r'.Current p.2 := (hwf.of_models_eq hm).current_of_mem (hm ▸ hp)
  obtain ⟨-, hm', hinv''⟩ := findGroups_spec hinv' hcur
  simp only [groupStep]
  split
  · next hf =>
    rw [hf] at hm' hinv''
    exact ⟨hm'.trans hm, hinv''⟩
  · next hf =>
    rw [hf] at hm' hinv''
    exact ⟨hm'.trans hm, hinv''⟩

/-! ## 文書のモデルの解決 -/

/-- **解決は登録されたモデルを答える。** 整った登録簿で `CacheInv` が成り立てば、解決のあとも
登録されたモデルは同じで `CacheInv` は保たれ、答えるモデルはその版で登録されたモデルである。 -/
theorem resolve_spec (hwf : r.WellFormed) (hinv : r.CacheInv) (d : Document) :
    (r.resolve d).registry.models = r.models ∧ (r.resolve d).registry.CacheInv ∧
      ∀ g, (r.resolve d).result = .ok g → r.find? g.version = some g := by
  unfold resolve
  simp only
  split
  · -- 版そのものか、版を正規表現として当たる版で引けた。
    next g d' hby =>
    refine ⟨rfl, hinv, ?_⟩
    rintro g' hg
    cases hg
    split at hby
    · cases hby
    · split at hby
      · next hf =>
        cases hby
        exact (hwf.find?_version hf).2
      · split at hby
        · obtain ⟨g'', hf, hpair⟩ := Option.map_eq_some_iff.mp hby
          cases hpair
          exact (hwf.find?_version hf).2
        · cases hby
  · -- 業務グループで探す。引くのに控えを使う。
    have hgroup : ∀ group : String, ((if group.isEmpty then ([], r) else r.versionsInGroup group)).2.models =
        r.models ∧ ((if group.isEmpty then ([], r) else r.versionsInGroup group)).2.CacheInv := by
      intro group
      split
      · exact ⟨rfl, hinv⟩
      · exact versionsInGroup_spec hwf hinv group
    obtain ⟨hm, hinv'⟩ := hgroup (Document.workflowGroup d)
    generalize (if (Document.workflowGroup d).isEmpty then ([], r) else r.versionsInGroup
      (Document.workflowGroup d)) = acc at hm hinv'
    obtain ⟨candidates, r'⟩ := acc
    simp only at hm hinv' ⊢
    split
    · next v g hc =>
      refine ⟨hm, hinv', ?_⟩
      rintro g' hg
      cases hg
      obtain ⟨v', -, hv⟩ := Option.bind_eq_some_iff.mp hc
      obtain ⟨g'', hf, hpair⟩ := Option.map_eq_some_iff.mp hv
      -- 探した登録簿は、もとと同じモデルを持つ。
      rw [find?, hm] at hf
      cases hpair
      exact (hwf.find?_version hf).2
    · refine ⟨hm, hinv', fun _ hg => ?_⟩
      cases hg

end Registry

end Workflow.Model
