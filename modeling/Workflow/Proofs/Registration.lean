import Mathlib
import Workflow.Proofs.Trace

/-!
# 登録の不変条件

アダプタとプラグインは、鍵（アダプタは id、プラグインは名前）の同じ最初のものをその位置で
置き換え、なければ最後に足して登録する（`replaceOrAppend`）。

1. `map_replaceOrAppend` — 登録のあとの鍵の列は、鍵がすでにあれば変わらず、なければ最後に
   その鍵が足される。鍵が互いに異なることは登録で保たれる（`nodup_replaceOrAppend`）。
2. `replaceOrAppend_of_mem` — 鍵の同じ要素があれば、最初のものだけがその位置で置き換わる。
3. `adapterIds_nodup_foldl` — 登録を重ねたアダプタの id は互いに異なるままである。
4. `plugin_registration_invariant` — 空の連なりに、プラグインの登録（直に、名前で、設定から）、
   登録の解除、全解除をどう重ねても、名前は互いに異なる。そのうえで、初期化に失敗した登録は核を
   変えず、成功した登録は同じ名前のプラグインをその位置で置き換えるか最後に足す。登録の解除は、
   その名前のプラグインがないときに限って `pluginNotRegistered` で失敗し、あればそのプラグインだけを
   除いてほかの順を保つ。
-/

namespace Workflow.Kernel

/-! ## 置き換えるか、最後に足すか -/

section ReplaceOrAppend

variable {α : Type} {key : α → String} {x : α}

theorem replaceOrAppend_cons (y : α) (ys : List α) :
    replaceOrAppend key x (y :: ys) =
      if key y = key x then x :: ys else y :: replaceOrAppend key x ys := by
  simp only [replaceOrAppend, beq_iff_eq]

/-- 登録のあとの鍵の列。鍵がすでにあれば変わらず、なければその鍵が最後に足される。 -/
theorem map_replaceOrAppend (xs : List α) :
    (replaceOrAppend key x xs).map key =
      if key x ∈ xs.map key then xs.map key else xs.map key ++ [key x] := by
  induction xs with
  | nil => simp [replaceOrAppend]
  | cons y ys ih =>
    rw [replaceOrAppend_cons]
    by_cases hy : key y = key x
    · simp [hy]
    · -- 先頭の鍵は違うので、鍵があるかどうかは残りの列で決まる。
      have hmem : key x ∈ (y :: ys).map key ↔ key x ∈ ys.map key := by
        simp only [List.map_cons, List.mem_cons, or_iff_right (Ne.symm hy)]
      rw [if_neg hy, List.map_cons, ih, if_congr hmem rfl rfl]
      split <;> rfl

theorem nodup_replaceOrAppend {xs : List α} (h : (xs.map key).Nodup) :
    ((replaceOrAppend key x xs).map key).Nodup := by
  rw [map_replaceOrAppend]
  split
  · exact h
  · next hx => exact h.append (List.nodup_singleton _) (List.disjoint_singleton.mpr hx)

/-- 鍵の同じ要素があれば、最初のものだけがその位置で置き換わり、ほかの要素はそのままである。 -/
theorem replaceOrAppend_of_mem {xs : List α} (h : key x ∈ xs.map key) :
    ∃ pre y post, xs = pre ++ y :: post ∧ key y = key x ∧ key x ∉ pre.map key ∧
      replaceOrAppend key x xs = pre ++ x :: post := by
  induction xs with
  | nil => simp at h
  | cons z zs ih =>
    rw [replaceOrAppend_cons]
    by_cases hz : key z = key x
    · exact ⟨[], z, zs, rfl, hz, by simp, by rw [if_pos hz]; rfl⟩
    · have h' : key x ∈ zs.map key := by
        simpa only [List.map_cons, List.mem_cons, or_iff_right (Ne.symm hz)] using h
      obtain ⟨pre, y, post, rfl, hy, hpre, heq⟩ := ih h'
      refine ⟨z :: pre, y, post, rfl, hy, ?_, by rw [if_neg hz, heq]; rfl⟩
      simp only [List.map_cons, List.mem_cons, not_or]
      exact ⟨Ne.symm hz, hpre⟩

/-- 鍵の同じ要素がなければ、最後に足す。 -/
theorem replaceOrAppend_of_not_mem {xs : List α} (h : key x ∉ xs.map key) :
    replaceOrAppend key x xs = xs ++ [x] := by
  induction xs with
  | nil => rfl
  | cons y ys ih =>
    have hy : key y ≠ key x := fun he => h (he ▸ List.mem_map_of_mem List.mem_cons_self)
    rw [replaceOrAppend_cons, if_neg hy, ih fun hm => h (List.mem_cons_of_mem _ hm)]
    rfl

end ReplaceOrAppend

/-! ## アダプタの登録 -/

theorem adapterIds_registerAdapter (k : Kernel) (a : Adapter) :
    (k.registerAdapter a).adapterIds =
      if a.id ∈ k.adapterIds then k.adapterIds else k.adapterIds ++ [a.id] :=
  map_replaceOrAppend k.adapters

/-- 登録を重ねても、アダプタの id は互いに異なるままである。 -/
theorem adapterIds_nodup_foldl {k : Kernel} (h : k.adapterIds.Nodup) (regs : List Adapter) :
    (regs.foldl Kernel.registerAdapter k).adapterIds.Nodup := by
  induction regs generalizing k with
  | nil => exact h
  | cons a rest ih => exact ih (nodup_replaceOrAppend h)

/-! ## プラグインの登録 -/

/-- プラグインの連なりへの操作。 -/
inductive PluginOp where
  /-- プラグインを登録する。 -/
  | register (p : Plugin)
  /-- 工場でプラグインを作って登録する。 -/
  | registerByName (fs : Factories) (name : String)
  /-- 設定にある名前のプラグインを、工場で作って順に登録する。 -/
  | registerConfigured (fs : Factories)
  /-- 登録を外す。 -/
  | unregister (name : String)
  /-- 登録をすべて外す。 -/
  | clear

namespace PluginOp

/-- 核に操作を一つ施す。誤った操作のあとも、核はそこまでの変更を持つ。登録を外すのが誤りなら
核は変わらない。 -/
def run (k : Kernel) : PluginOp → Run Kernel
  | .register p => Prod.fst <$> k.registerPlugin p
  | .registerByName fs name => Prod.fst <$> k.registerByName fs name
  | .registerConfigured fs => Prod.fst <$> k.registerConfigured fs
  | .unregister name =>
    pure (match k.unregisterPlugin name with
      | .ok k' => k'
      | .error _ => k)
  | .clear => pure k.unregisterAllPlugins

/-- 核に操作を順に施す。 -/
def runAll : Kernel → List PluginOp → Run Kernel
  | k, [] => pure k
  | k, op :: ops => do runAll (← run k op) ops

end PluginOp

/-- 登録は初期化の結果で決まる：失敗すれば核は変わらず、成功すれば同じ名前のプラグインを
置き換えるか最後に足す。 -/
theorem registerPlugin_run (k : Kernel) (p : Plugin) (r : Runtime) :
    ((k.registerPlugin p).run r).1 =
      match (p.init.run r).1 with
      | some f => (k, some (.plugin p.name f))
      | none => ({ k with plugins := replaceOrAppend (·.name) p k.plugins }, none) := by
  unfold Kernel.registerPlugin
  rw [StateT.run_bind]
  generalize p.init.run r = res
  obtain ⟨o, r'⟩ := res
  cases o <;> rfl

section Distinct

variable {k : Kernel}

theorem pluginNames_nodup_registerPlugin (h : k.pluginNames.Nodup) (p : Plugin) :
    SatisfiesM (fun res : Kernel × Option KernelError => res.1.pluginNames.Nodup)
      (k.registerPlugin p) := by
  refine SatisfiesM_StateT_eq.mpr fun r => SatisfiesM_Id_eq.mpr ?_
  show ((k.registerPlugin p).run r).1.1.pluginNames.Nodup
  rw [registerPlugin_run]
  split
  · exact h
  · exact nodup_replaceOrAppend h

theorem pluginNames_nodup_registerByName (h : k.pluginNames.Nodup) (fs : Factories)
    (name : String) :
    SatisfiesM (fun res : Kernel × Option KernelError => res.1.pluginNames.Nodup)
      (k.registerByName fs name) := by
  unfold Kernel.registerByName
  split
  · exact SatisfiesM.pure h
  · exact pluginNames_nodup_registerPlugin h _

theorem pluginNames_nodup_registerNames (fs : Factories) (names : List String)
    (h : k.pluginNames.Nodup) :
    SatisfiesM (fun res : Kernel × Option KernelError => res.1.pluginNames.Nodup)
      (Kernel.registerNames fs k names) := by
  induction names generalizing k with
  | nil => exact SatisfiesM.pure h
  | cons name rest ih =>
    unfold Kernel.registerNames
    refine (pluginNames_nodup_registerByName h fs name).bind fun res hres => ?_
    obtain ⟨k', err⟩ := res
    cases err with
    | some e => exact SatisfiesM.pure hres
    | none => exact ih hres

theorem pluginNames_nodup_unregisterPlugin (h : k.pluginNames.Nodup) {name : String}
    {k' : Kernel} (hk : k.unregisterPlugin name = .ok k') : k'.pluginNames.Nodup := by
  unfold Kernel.unregisterPlugin at hk
  split at hk
  · injection hk with hk
    subst hk
    exact h.sublist (List.eraseP_sublist.map _)
  · cases hk

/-- どの操作も、名前が互いに異なることを保つ。 -/
theorem pluginNames_nodup_run (h : k.pluginNames.Nodup) (op : PluginOp) :
    SatisfiesM (fun k' : Kernel => k'.pluginNames.Nodup) (PluginOp.run k op) := by
  cases op with
  | register p => exact (pluginNames_nodup_registerPlugin h p).map id
  | registerByName fs name =>
    exact (pluginNames_nodup_registerByName h fs name).map id
  | registerConfigured fs =>
    exact (pluginNames_nodup_registerNames fs _ h).map id
  | unregister name =>
    refine SatisfiesM.pure ?_
    split
    · next k' hk => exact pluginNames_nodup_unregisterPlugin h hk
    · exact h
  | clear => exact SatisfiesM.pure List.nodup_nil

theorem pluginNames_nodup_runAll (ops : List PluginOp) (h : k.pluginNames.Nodup) :
    SatisfiesM (fun k' : Kernel => k'.pluginNames.Nodup) (PluginOp.runAll k ops) := by
  induction ops generalizing k with
  | nil => exact SatisfiesM.pure h
  | cons op ops ih => exact (pluginNames_nodup_run h op).bind fun _ hk' => ih hk'

end Distinct

/-! ## 一つの操作の振る舞い -/

/-- 鍵が互いに異なれば、列のなかの一つの要素の鍵はほかのどの要素の鍵でもない。 -/
theorem key_not_mem_of_nodup {α : Type} {key : α → String} {pre post : List α} {y : α}
    (h : ((pre ++ y :: post).map key).Nodup) : key y ∉ (pre ++ post).map key := by
  rw [List.map_append, List.map_cons, List.nodup_middle, List.nodup_cons] at h
  rw [List.map_append]
  exact h.1

section Step

variable {k : Kernel}

theorem any_name_eq_iff (name : String) :
    k.plugins.any (·.name == name) = true ↔ name ∈ k.pluginNames := by
  simp [Kernel.pluginNames]

/-- 登録の解除は、その名前のプラグインがないときに限って失敗する。 -/
theorem unregisterPlugin_eq_error_iff (name : String) :
    k.unregisterPlugin name = .error (.pluginNotRegistered name) ↔ name ∉ k.pluginNames := by
  rw [← any_name_eq_iff]
  unfold Kernel.unregisterPlugin
  split
  · next hany => simp [hany]
  · next hany => simp [hany]

/-- 名前のプラグインがあれば、登録の解除は最初のその名前のプラグインだけを除く。 -/
theorem unregisterPlugin_of_mem {name : String} (h : name ∈ k.pluginNames) :
    ∃ pre q post, k.plugins = pre ++ q :: post ∧ q.name = name ∧ name ∉ pre.map (·.name) ∧
      k.unregisterPlugin name = .ok { k with plugins := pre ++ post } := by
  obtain ⟨q₀, hq₀, hname⟩ := List.mem_map.mp h
  obtain ⟨q, pre, post, hpre, hq, hsplit, herase⟩ :=
    List.exists_of_eraseP hq₀ (p := fun q : Plugin => q.name == name) (beq_iff_eq.mpr hname)
  refine ⟨pre, q, post, hsplit, beq_iff_eq.mp hq, fun hmem => ?_, ?_⟩
  · obtain ⟨b, hb, hbname⟩ := List.mem_map.mp hmem
    exact hpre b hb (beq_iff_eq.mpr hbname)
  · unfold Kernel.unregisterPlugin
    rw [if_pos ((any_name_eq_iff name).mpr h), herase]

/-- 初期化に成功した登録は、同じ名前のプラグインをその位置で置き換えるか、なければ最後に足す。 -/
theorem registerPlugin_of_init_ok {p : Plugin} {r : Runtime} (hf : (p.init.run r).1 = none) :
    (∃ pre q post, k.plugins = pre ++ q :: post ∧ q.name = p.name ∧ p.name ∉ pre.map (·.name) ∧
        ((k.registerPlugin p).run r).1 = ({ k with plugins := pre ++ p :: post }, none)) ∨
      (p.name ∉ k.pluginNames ∧
        ((k.registerPlugin p).run r).1 = ({ k with plugins := k.plugins ++ [p] }, none)) := by
  rw [registerPlugin_run, hf]
  by_cases hp : p.name ∈ k.pluginNames
  · obtain ⟨pre, q, post, hk, hq, hpre, heq⟩ := @replaceOrAppend_of_mem Plugin (·.name) p k.plugins hp
    exact Or.inl ⟨pre, q, post, hk, hq, hpre, by rw [heq]⟩
  · exact Or.inr ⟨hp, by rw [@replaceOrAppend_of_not_mem Plugin (·.name) p k.plugins hp]⟩

end Step

/-! ## 操作を重ねた連なり -/

/-- プラグインの連なりの法則：名前は互いに異なり、次の登録と登録の解除は次のように振る舞う。 -/
structure PluginChainLaws (k : Kernel) : Prop where
  /-- 名前は互いに異なる。 -/
  distinct : k.pluginNames.Nodup
  /-- 初期化に失敗した登録は核を変えず、その失敗をプラグインの誤りとして返す。 -/
  initFails : ∀ (p : Plugin) (r : Runtime) (f : PluginFailure), (p.init.run r).1 = some f →
    ((k.registerPlugin p).run r).1 = (k, some (.plugin p.name f))
  /-- 成功した登録は、同じ名前のプラグインをその位置で置き換え（ほかの位置は変わらない）、
  なければ最後に足す。 -/
  registers : ∀ (p : Plugin) (r : Runtime), (p.init.run r).1 = none →
    (∃ pre q post, k.plugins = pre ++ q :: post ∧ q.name = p.name ∧
        p.name ∉ (pre ++ post).map (·.name) ∧
        ((k.registerPlugin p).run r).1 = ({ k with plugins := pre ++ p :: post }, none)) ∨
      (p.name ∉ k.pluginNames ∧
        ((k.registerPlugin p).run r).1 = ({ k with plugins := k.plugins ++ [p] }, none))
  /-- 登録の解除は、その名前のプラグインがないときに限って `pluginNotRegistered` で失敗する。 -/
  unregisterFails : ∀ name : String,
    k.unregisterPlugin name = .error (.pluginNotRegistered name) ↔ name ∉ k.pluginNames
  /-- その名前のプラグインがあれば、登録の解除はそれだけを除き、ほかの順を保つ。 -/
  unregisters : ∀ name : String, name ∈ k.pluginNames →
    ∃ pre q post, k.plugins = pre ++ q :: post ∧ q.name = name ∧
      name ∉ (pre ++ post).map (·.name) ∧
      k.unregisterPlugin name = .ok { k with plugins := pre ++ post }

/-- 名前が互いに異なる連なりは、法則のすべてを満たす。 -/
theorem PluginChainLaws.of_nodup {k : Kernel} (h : k.pluginNames.Nodup) : PluginChainLaws k where
  distinct := h
  initFails p r f hf := by rw [registerPlugin_run, hf]
  registers p r hf := by
    rcases registerPlugin_of_init_ok (k := k) hf with ⟨pre, q, post, hk, hq, -, hreg⟩ | hnew
    · have hnd : ((pre ++ q :: post).map (·.name)).Nodup := by rw [← hk]; exact h
      exact Or.inl ⟨pre, q, post, hk, hq, hq ▸ key_not_mem_of_nodup hnd, hreg⟩
    · exact Or.inr hnew
  unregisterFails := unregisterPlugin_eq_error_iff
  unregisters name hname := by
    obtain ⟨pre, q, post, hk, hq, -, hun⟩ := unregisterPlugin_of_mem hname
    have hnd : ((pre ++ q :: post).map (·.name)).Nodup := by rw [← hk]; exact h
    exact ⟨pre, q, post, hk, hq, hq ▸ key_not_mem_of_nodup hnd, hun⟩

/-- **プラグインの登録の不変条件。** 空の連なりに、登録（直に、名前で、設定から）、登録の解除、
全解除をどう重ねても、名前は互いに異なり、次の登録と登録の解除は `PluginChainLaws` のとおりに
振る舞う。 -/
theorem plugin_registration_invariant (k₀ : Kernel) (h₀ : k₀.plugins = []) (ops : List PluginOp)
    (r : Runtime) : PluginChainLaws ((PluginOp.runAll k₀ ops).run r).1 := by
  have hnil : k₀.pluginNames.Nodup := by simp [Kernel.pluginNames, h₀]
  exact PluginChainLaws.of_nodup (SatisfiesM.run_fst (pluginNames_nodup_runAll ops hnil) r)

/-- 二つ目の `a` の登録は最初の `a` をその位置で置き換え、`a` の登録の解除は `b` だけを残す。 -/
theorem reregistered_plugin_keeps_order :
    ({} : Kernel).plugins = [] ∧
      PluginChainLaws ((PluginOp.runAll {} [.register { name := "a" }, .register { name := "b" },
        .register { name := "a", failOn := [10] }, .unregister "a"]).run {}).1 :=
  ⟨rfl, plugin_registration_invariant {} rfl _ {}⟩

end Workflow.Kernel
