import Mathlib
import Workflow.Proofs.ResolutionOrder

/-!
# 文書に書いた業務グループで解決し直す

核は文書をタスクに入れるとき（`enterTask`）、タスクの業務グループ（属するプロセスの名前、
`Graph.groupOf`）が空でなければ `$workflowgroup` に書く。解決（`Registry.resolve`）は、版でも
正規表現でも決まらない文書を、この業務グループを持つ最も大きい版へ移す。

モデルの業務グループ（`Graph.groups`）は、コラボレーション図なら非公開のプロセスの、
そうでなければ公開のプロセスの、空でない名前である（`mem_groups_iff`）。要素の属する
プロセスは種類を問わない（`Graph.owner?`）。そこで、

1. タスクの業務グループが空でなく、コラボレーション図ではタスクが非公開のプロセス（プール）に
   属するなら、それはモデルの業務グループに入る（`groupOf_mem_groups`）。コラボレーション図で
   なければプロセスはどれも公開なので、条件はいつも成り立つ。
2. そのモデルが登録されていれば、そのタスクに入った文書は、版で決まらなくても業務グループで
   解決し直せ、そのモデルの版以上の、同じ業務グループを持つ版に移る（`stamped_group_resolves`）。
3. コラボレーション図の公開のプロセスに属するタスクの業務グループは、モデルの業務グループに
   入らない（`public_task_group_not_listed`）。
-/

namespace Workflow.Model

/-! ## 名前を昇順に並べて重複を除く -/

theorem mem_insertSorted {x s : String} {l : List String} :
    x ∈ insertSorted s l ↔ x = s ∨ x ∈ l := by
  induction l with
  | nil => simp [insertSorted]
  | cons t ts ih =>
    unfold insertSorted
    split
    · simp
    · split
      · next heq =>
        have hst : s = t := by simpa using heq
        subst hst
        simp
      · simp only [List.mem_cons, ih]
        tauto

theorem mem_foldl_insertSorted {x : String} (xs : List String) :
    ∀ acc : List String, x ∈ xs.foldl (fun acc s => insertSorted s acc) acc ↔ x ∈ xs ∨ x ∈ acc := by
  induction xs with
  | nil => simp
  | cons s ss ih =>
    intro acc
    rw [List.foldl_cons, ih, mem_insertSorted, List.mem_cons]
    tauto

@[simp] theorem mem_sortDistinct {x : String} {xs : List String} : x ∈ sortDistinct xs ↔ x ∈ xs := by
  unfold sortDistinct
  rw [mem_foldl_insertSorted]
  simp

theorem ProcessKind.beq_iff {a b : ProcessKind} : (a == b) = true ↔ a = b := by
  cases a <;> cases b <;> decide

namespace Graph

variable {g : Graph} {el : ElementDecl}

/-! ## 要素の属するプロセスと業務グループ -/

/-- 要素の属するプロセス：参照するプロセス。参照がなく、プロセスがちょうど一つならそれ。 -/
def owner? (g : Graph) (el : ElementDecl) : Option ProcessDecl :=
  match el.process with
  | some id => g.decl.processes.find? (·.id == id)
  | none => match g.decl.processes with
    | [p] => some p
    | _ => none

theorem groupOf_eq_owner (g : Graph) (el : ElementDecl) :
    g.groupOf el = ((g.owner? el).map (·.name)).getD "" := rfl

theorem owner?_mem {p : ProcessDecl} (h : g.owner? el = some p) : p ∈ g.processes := by
  unfold owner? at h
  split at h
  · exact List.mem_of_find?_eq_some h
  · split at h
    · next q hq =>
      cases h
      simp [processes, hq]
    · cases h

/-- 業務グループが空でなければ、要素の属するプロセスがあり、業務グループはその名前である。 -/
theorem exists_owner_of_groupOf_ne (h : g.groupOf el ≠ "") :
    ∃ p, g.owner? el = some p ∧ g.groupOf el = p.name := by
  rw [groupOf_eq_owner] at h ⊢
  cases hp : g.owner? el with
  | none =>
    rw [hp] at h
    exact absurd rfl h
  | some p => exact ⟨p, rfl, rfl⟩

/-- 業務グループとして数えるプロセスの種類：コラボレーション図なら非公開、そうでなければ公開。 -/
def groupKind (g : Graph) : ProcessKind :=
  if g.isCollaboration then .privateProcess else .publicProcess

/-- コラボレーション図でなければ、どのプロセスも公開である。 -/
theorem kind_of_not_collaboration (h : g.isCollaboration = false) {p : ProcessDecl}
    (hp : p ∈ g.processes) : p.kind = .publicProcess := by
  unfold isCollaboration at h
  have hk : ¬ (p.kind == .privateProcess) = true := List.any_eq_false.mp h p hp
  cases hkind : p.kind with
  | publicProcess => rfl
  | privateProcess =>
    rw [hkind] at hk
    exact absurd rfl hk

/-- 業務グループの一覧に入る名前は、数える種類のプロセスの空でない名前である。 -/
theorem mem_groups_iff {gs : List String} (h : g.groups = .ok gs) (x : String) :
    x ∈ gs ↔ ∃ p ∈ g.processes, p.kind = g.groupKind ∧ p.name = x ∧ x ≠ "" := by
  unfold Graph.groups at h
  split at h
  · cases h
  · cases h
    simp only [mem_sortDistinct, List.mem_map, List.mem_filter, Bool.and_eq_true, ProcessKind.beq_iff,
      Bool.not_eq_true', groupKind]
    constructor
    · rintro ⟨p, ⟨hp, hk, hn⟩, rfl⟩
      exact ⟨p, hp, hk, rfl, fun he => by simp [he] at hn⟩
    · rintro ⟨p, hp, hk, rfl, hx⟩
      exact ⟨p, ⟨hp, hk, by simpa using hx⟩, rfl⟩

/-- タスクの業務グループが空でなく、コラボレーション図ではタスクがプールに属するなら、それは
モデルの業務グループに入る。 -/
theorem groupOf_mem_groups (hne : g.groupOf el ≠ "")
    (hpool : g.isCollaboration = true → ∀ p, g.owner? el = some p → p.kind = .privateProcess) :
    ∃ gs, g.groups = .ok gs ∧ g.groupOf el ∈ gs := by
  obtain ⟨p, hp, hname⟩ := exists_owner_of_groupOf_ne hne
  have hmem := owner?_mem hp
  have hkind : p.kind = g.groupKind := by
    unfold groupKind
    cases hc : g.isCollaboration with
    | true => exact hpool hc p hp
    | false => exact kind_of_not_collaboration hc hmem
  have hgroups : g.groups = .ok (sortDistinct ((g.processes.filter fun p =>
      p.kind == g.groupKind && !p.name.isEmpty).map (·.name))) := by
    have hne' : g.processes.isEmpty = false := List.isEmpty_eq_false_iff_exists_mem.mpr ⟨p, hmem⟩
    simp only [Graph.groups, hne', groupKind, Bool.false_eq_true, if_false]
  refine ⟨_, hgroups, (mem_groups_iff hgroups _).mpr ⟨p, hmem, hkind, hname.symm, hne⟩⟩

theorem group_of_taskEntity? {t : Task} (h : g.taskEntity? el = some t) : t.group = g.groupOf el := by
  unfold taskEntity? at h
  obtain ⟨_, -, rfl⟩ := Option.map_eq_some_iff.mp h
  rfl

end Graph

/-! ## タスクに入った文書 -/

section Stamp

open Workflow.Document

variable {d : Document} {t : Task}

/-- タスクに入るときに書く項目（タスク、状態名、業務グループ、文書の型）と正規化した名前の
違う項目は変わらない。 -/
theorem get_enterTask_of_ne {n : String} (h₁ : normalize ItemName.taskId ≠ normalize n)
    (h₂ : normalize ItemName.workflowStatus ≠ normalize n)
    (h₃ : normalize ItemName.workflowGroup ≠ normalize n)
    (h₄ : normalize ItemName.docType ≠ normalize n) (d : Document) (t : Task) :
    (Kernel.enterTask d t).get n = d.get n := by
  unfold Kernel.enterTask Document.setTaskId
  split <;> split <;>
    simp only [get_setItem_of_ne h₁, get_setItem_of_ne h₂, get_setItem_of_ne h₃,
      get_setItem_of_ne h₄]

/-- タスクに入れても、文書の版は変わらない。 -/
theorem modelVersion_enterTask (d : Document) (t : Task) :
    (Kernel.enterTask d t).modelVersion = d.modelVersion := by
  have hget := get_enterTask_of_ne (n := ItemName.modelVersion) (by decide +kernel)
    (by decide +kernel) (by decide +kernel) (by decide +kernel) d t
  unfold Document.modelVersion Document.getString Document.first?
  rw [hget]

/-- タスクに入った文書の業務グループは、空でなければタスクの業務グループである。 -/
theorem workflowGroup_enterTask (d : Document) (h : t.group ≠ "") :
    (Kernel.enterTask d t).workflowGroup = t.group := by
  have hty : normalize ItemName.docType ≠ normalize ItemName.workflowGroup := by decide +kernel
  have hget : (Kernel.enterTask d t).get ItemName.workflowGroup = [.text t.group] := by
    have he : t.group.isEmpty = false := by simpa using h
    unfold Kernel.enterTask
    simp only [he, Bool.false_eq_true, if_false]
    split
    · rw [get_setItem_of_ne hty, get_setItem_self]
    · exact get_setItem_self _
  unfold Document.workflowGroup Document.getString Document.first?
  rw [hget]
  rfl

end Stamp

/-! ## 業務グループで解決し直す -/

namespace Registry

variable {r : Registry}

/-- 版で決まらないことは、文書の版だけで決まる。 -/
theorem unversioned_of_modelVersion_eq {d d' : Document} (h : d'.modelVersion = d.modelVersion)
    (hd : r.Unversioned d) : r.Unversioned d' := by
  unfold Unversioned at hd ⊢
  rw [h]
  exact hd

/-- 登録されたモデル `g` が業務グループ `grp` を持てば、`grp` を持つ版の一覧は空でなく、その
先頭は `g` の版以上で、`grp` を持つ登録済みのモデルの版である。 -/
theorem versionsInGroup_head_of_registered (hwf : r.WellFormed) (hinv : r.CacheInv) {g : Graph}
    (hreg : r.find? g.version = some g) {grp : String} (hgrp : ∃ gs, g.groups = .ok gs ∧ grp ∈ gs) :
    ∃ w ws, (r.versionsInGroup grp).1 = w :: ws ∧ g.version ≤ w ∧ r.InGroup grp w := by
  have hmem : (g.version, g) ∈ r.models := mem_of_lookup_eq_some hreg
  have hin : (g.version, g) ∈ r.models.filter fun p => p.2.hasGroup grp :=
    List.mem_filter.mpr ⟨hmem, Graph.hasGroup_iff.mpr hgrp⟩
  cases hc : (r.versionsInGroup grp).1 with
  | nil =>
    -- 一覧が空なら `g` も業務グループを持たないはずである。
    exact absurd ⟨g, hreg, hgrp⟩ (versionsInGroup_eq_nil hwf hinv hc g.version)
  | cons w ws =>
    have hw := versionsInGroup_eq_cons hwf hinv hc
    exact ⟨w, ws, rfl, hw.2 ⟨g, hreg, hgrp⟩, hw.1⟩

end Registry

/-- **タスクに書いた業務グループで解決し直せる。** `g` のタスク要素 `el` の業務グループが
空でなく、`g` がコラボレーション図ならタスクがプール（非公開のプロセス）に属するとする。

* その業務グループは、登録簿が控えを通して引く `g` の業務グループに入る。
* タスクに入った文書の `$workflowgroup` はその業務グループである。
* `g` が整った登録簿（控えが合っている）に登録されていれば、版でも正規表現でも決まらない
  文書は、そのタスクに入ったあと、業務グループで `g` の版以上の版 `g'` に解決される。`g'` も
  その業務グループを持ち、文書の版は `g'` の版になり、移し替えが知らされる。 -/
theorem stamped_group_resolves {g : Graph} {el : ElementDecl} {t : Task}
    (ht : g.taskEntity? el = some t) (hne : g.groupOf el ≠ "")
    (hpool : g.isCollaboration = true → ∀ p, g.owner? el = some p → p.kind = .privateProcess)
    {r : Registry} (hwf : r.WellFormed) (hinv : r.CacheInv) (hreg : r.find? g.version = some g)
    {d : Document} (hd : r.Unversioned d) :
    (∃ gs, (r.findGroups g).1 = .ok gs ∧ g.groupOf el ∈ gs) ∧
      (Kernel.enterTask d t).workflowGroup = g.groupOf el ∧
      ∃ g', (r.resolve (Kernel.enterTask d t)).result = .ok g' ∧ g.version ≤ g'.version ∧
        (∃ gs, g'.groups = .ok gs ∧ g.groupOf el ∈ gs) ∧
        (r.resolve (Kernel.enterTask d t)).doc.modelVersion = g'.version ∧
        (r.resolve (Kernel.enterTask d t)).migration =
          some ⟨d.modelVersion, g'.version, g.groupOf el⟩ := by
  have hgrp := Graph.groupOf_mem_groups hne hpool
  have htg := Graph.group_of_taskEntity? ht
  have hstamp : (Kernel.enterTask d t).workflowGroup = g.groupOf el := by
    rw [workflowGroup_enterTask d (htg ▸ hne), htg]
  have hcached : (r.findGroups g).1 = g.groups :=
    (Registry.findGroups_spec hinv (Registry.current_of_find? hreg)).1
  refine ⟨hcached ▸ hgrp, hstamp, ?_⟩
  have hby : r.Unversioned (Kernel.enterTask d t) :=
    Registry.unversioned_of_modelVersion_eq (modelVersion_enterTask d t) hd
  obtain ⟨w, ws, hc, hle, g', hfind, hgrp'⟩ :=
    Registry.versionsInGroup_head_of_registered hwf hinv hreg hgrp
  rw [← hstamp] at hc
  -- 探したあとの登録簿も同じモデルを持つので、先頭の版で `g'` が引ける。
  have hfind' : (r.versionsInGroup (Kernel.enterTask d t).workflowGroup).2.find? w = some g' := by
    rw [Registry.find?, (Registry.versionsInGroup_spec hwf hinv _).1]
    exact hfind
  have hv : g'.version = w := (hwf.find?_version hfind).1
  subst hv
  rw [Registry.resolve_of_versionsInGroup hby (hstamp ▸ hne) hc hfind']
  refine ⟨g', rfl, hle, hgrp', Document.modelVersion_setModelVersion _ _, ?_⟩
  rw [modelVersion_enterTask, hstamp]

/-! ## 例：コラボレーション図のタスク -/

/-- プール `Sales`（非公開）に属するタスク。 -/
def poolTask : ElementDecl :=
  { id := "t", kind := .task, name := "Quote", process := some "pool", task := some { id := 1 } }

/-- 公開のプロセス `Intake` に属するタスク。 -/
def deskTask : ElementDecl :=
  { id := "d", kind := .task, name := "Review", process := some "desk", task := some { id := 2 } }

/-- プール `Sales` と公開のプロセス `Intake` を持つコラボレーション図。 -/
def intakeModel : ModelDecl where
  version := "2.0"
  processes := [{ id := "pool", name := "Sales", kind := .privateProcess },
    { id := "desk", name := "Intake", kind := .publicProcess }]
  elements := [poolTask, deskTask]

/-- `intakeModel` の版 `2.0` のモデル。 -/
def intakeGraph : Graph where
  decl := intakeModel
  checksum := "c"
  definition := { items := [] }

/-- `poolTask` のタスク実体。 -/
def poolTaskEntity : Task :=
  { id := 1, elementId := "t", name := "Quote", group := "Sales", docType := none,
    items := itemsDocument [] }

/-- `intakeGraph` だけを登録した登録簿。 -/
def intakeRegistry : Registry := Registry.publish [("2.0", intakeGraph)]

/-- 登録されていない版 `0.9` の文書。 -/
def retiredDocument : Document := { items := [(ItemName.modelVersion, [.text "0.9"])] }

theorem intakeRegistry_wellFormed : intakeRegistry.WellFormed where
  versions := by simp [intakeRegistry, Registry.publish, Graph.version, intakeGraph, intakeModel]
  sorted := List.pairwise_singleton _ _
  distinctIds := by
    simp only [intakeRegistry, Registry.publish, List.mem_singleton, forall_eq]
    decide +kernel

/-- 版 `0.9` の文書がプールのタスクに入ると、業務グループ `Sales` で版 `2.0` に解決し直される。 -/
theorem pool_task_group_resolves :
    intakeGraph.taskEntity? poolTask = some poolTaskEntity ∧ intakeGraph.isCollaboration = true ∧
      intakeRegistry.Unversioned retiredDocument ∧
      (∃ gs, (intakeRegistry.findGroups intakeGraph).1 = .ok gs ∧ intakeGraph.groupOf poolTask ∈ gs) ∧
      (Kernel.enterTask retiredDocument poolTaskEntity).workflowGroup = intakeGraph.groupOf poolTask ∧
      ∃ g', (intakeRegistry.resolve (Kernel.enterTask retiredDocument poolTaskEntity)).result = .ok g' ∧
        intakeGraph.version ≤ g'.version ∧
        (∃ gs, g'.groups = .ok gs ∧ intakeGraph.groupOf poolTask ∈ gs) ∧
        (intakeRegistry.resolve (Kernel.enterTask retiredDocument poolTaskEntity)).doc.modelVersion =
          g'.version ∧
        (intakeRegistry.resolve (Kernel.enterTask retiredDocument poolTaskEntity)).migration =
          some ⟨retiredDocument.modelVersion, g'.version, intakeGraph.groupOf poolTask⟩ := by
  have ht : intakeGraph.taskEntity? poolTask = some poolTaskEntity := rfl
  have hne : intakeGraph.groupOf poolTask ≠ "" := by decide +kernel
  have hpool : intakeGraph.isCollaboration = true →
      ∀ p, intakeGraph.owner? poolTask = some p → p.kind = .privateProcess := by
    intro _ p hp
    have ho : intakeGraph.owner? poolTask =
        some { id := "pool", name := "Sales", kind := .privateProcess } := rfl
    rw [ho] at hp
    cases hp
    rfl
  have hv : retiredDocument.modelVersion = "0.9" := by decide +kernel
  have hd : intakeRegistry.Unversioned retiredDocument := by
    refine .inr ⟨?_, ?_⟩
    · rw [hv]
      rfl
    · rw [hv]
      decide +kernel
  exact ⟨ht, rfl, hd, stamped_group_resolves ht hne hpool intakeRegistry_wellFormed
    (Registry.cacheInv_publish _) rfl hd⟩

/-- 検査を通ったコラボレーション図でも、公開のプロセスに属するタスクの業務グループは、
モデルの業務グループに入らない。`intakeModel` の `deskTask` の業務グループは `Intake` だが、
モデルの業務グループは `Sales` だけである。 -/
theorem public_task_group_not_listed :
    ¬ ∀ (m : ModelDecl) (g : Graph), Graph.ofDecl m = .ok g → ∀ el ∈ g.elements, el.kind = .task →
      g.groupOf el ≠ "" → ∃ gs, g.groups = .ok gs ∧ g.groupOf el ∈ gs := by
  intro h
  have hok : (Graph.ofDecl intakeModel).toBool = true := by decide +kernel
  cases hg : Graph.ofDecl intakeModel with
  | error e =>
    rw [hg] at hok
    cases hok
  | ok g =>
    obtain ⟨decl, checksum, definition⟩ := g
    have hdecl : decl = intakeModel := (Graph.ofDecl_sealed hg).1
    subst hdecl
    have hgroup : Graph.groupOf ⟨intakeModel, checksum, definition⟩ deskTask = "Intake" := rfl
    have hgroups : Graph.groups ⟨intakeModel, checksum, definition⟩ = .ok ["Sales"] := rfl
    have hel : deskTask ∈ Graph.elements ⟨intakeModel, checksum, definition⟩ := by
      simp [Graph.elements, intakeModel]
    obtain ⟨gs, hgs, hmem⟩ := h _ _ hg deskTask hel rfl (by rw [hgroup]; decide)
    rw [hgroups] at hgs
    cases hgs
    rw [hgroup] at hmem
    exact absurd hmem (by decide)

end Workflow.Model
