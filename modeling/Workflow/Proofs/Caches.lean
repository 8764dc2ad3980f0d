import Workflow.Model.Registry

/-!
# 控えは透過である

登録簿は、タスク・タスクのイベントの一覧・イベント・業務グループを引いた結果を、版を含む鍵で
控える。控えを使うかどうかは、引くのに渡したモデルがその版の登録済みのモデルと同じ指紋を
持つかで決まる。

* `CacheInv` — どの控えも、鍵の版に登録されたモデルで引き直した値に等しい。
  登録と取り除きは控えを捨てるので保たれる。
* `findTask_spec` ほか — `CacheInv` のもとで、渡したモデルが登録済みのモデルそのものか、
  指紋が違う古いモデルなら（`Current`）、控えを通した結果は控えなしで引いた結果に等しく、
  `CacheInv` も保たれる。
* `lookups_match_uncached` — 登録・取り除き・引くことの列のどの答えも、控えを空にして引いた答えに
  等しい。条件は、古いモデルが登録済みのモデルと指紋を共有したまま引かれないこと
  （`StaleFree`）。指紋が衝突すると、古いモデルは登録済みのモデルの控えを読み、書く。
-/

namespace Workflow.Model

/-! ## 連想リストの控え -/

theorem mem_of_lookup_eq_some {κ α : Type} [BEq κ] [LawfulBEq κ] {l : List (κ × α)} {k : κ}
    {v : α} (h : l.lookup k = some v) : (k, v) ∈ l := by
  obtain ⟨l₁, l₂, rfl, -⟩ := List.lookup_eq_some_iff.mp h
  simp

/-- 控えに足しても、どの件も前からあるか足した件である。 -/
theorem forall_mem_remember {κ α : Type} [BEq κ] {P : κ × α → Prop} {k : κ} {v : α}
    {l : List (κ × α)} (hl : ∀ e ∈ l, P e) (hkv : P (k, v)) : ∀ e ∈ remember k v l, P e := by
  intro e he
  unfold remember at he
  split at he
  · exact hl e he
  · rcases List.mem_cons.mp he with rfl | he
    · exact hkv
    · exact hl e he

/-! ## 控えなしで引く値 -/

/-- タスクがなければ、起こせるイベントは空である。 -/
theorem Graph.eventsOfTask_of_taskElement?_eq_none {g : Graph} {taskId : Int}
    (h : g.taskElement? taskId = none) : g.eventsOfTask taskId = .ok [] := by
  simp [Graph.eventsOfTask, h]

/-- イベントは、タスクで起こせるイベントの一覧から id で探したものである。 -/
theorem Graph.eventOf?_eq (g : Graph) (taskId eventId : Int) :
    g.eventOf? taskId eventId = (g.eventsOfTask taskId).map (·.find? (·.id == eventId)) := by
  simp only [Graph.eventOf?]
  cases g.eventsOfTask taskId <;> rfl

namespace Registry

/-! ## 控えの不変条件 -/

/-- 控えが登録簿と合っている：どの控えも、鍵の版に登録されたモデルで引いた値である。 -/
structure CacheInv (r : Registry) : Prop where
  tasks : ∀ e ∈ r.caches.tasks, ∃ g, r.find? e.1.1 = some g ∧ g.taskOf? e.1.2 = some e.2
  taskEvents : ∀ e ∈ r.caches.taskEvents,
    ∃ g, r.find? e.1.1 = some g ∧ g.eventsOfTask e.1.2 = .ok e.2
  events : ∀ e ∈ r.caches.events,
    ∃ g, r.find? e.1.1 = some g ∧ g.eventOf? e.1.2.1 e.1.2.2 = .ok (some e.2)
  groups : ∀ e ∈ r.caches.groups, ∃ g, r.find? e.1 = some g ∧ g.groups = .ok e.2

/-- 引くのに渡したモデル `h` は、その版の登録済みのモデルと指紋が同じなら、そのモデル
そのものである。指紋が違う古いモデルは控えに触れない。 -/
def Current (r : Registry) (h : Graph) : Prop :=
  r.usesCaches h = true → r.find? h.version = some h

@[simp] theorem withCaches_models (r : Registry) (c : Caches) : (r.withCaches c).models = r.models :=
  rfl

@[simp] theorem withCaches_caches (r : Registry) (c : Caches) : (r.withCaches c).caches = c := rfl

@[simp] theorem find?_withCaches (r : Registry) (c : Caches) (v : String) :
    (r.withCaches c).find? v = r.find? v := rfl

@[simp] theorem publish_models (ms : List (String × Graph)) : (publish ms).models = ms := rfl

/-- 入れた版を引けば、入れたモデルである。 -/
theorem lookup_insertModel_self (v : String) (g : Graph) :
    ∀ ms : List (String × Graph), (insertModel v g ms).lookup v = some g
  | [] => by simp [insertModel]
  | (w, h) :: rest => by
    simp only [insertModel]
    split
    · simp
    · split
      · simp
      · next heq =>
        have hne : (v == w) = false := by simpa using heq
        simp only [List.lookup_cons, hne]
        exact lookup_insertModel_self v g rest

/-- 控えを捨てた登録簿は `CacheInv` を満たす。 -/
theorem cacheInv_publish (ms : List (String × Graph)) : (publish ms).CacheInv where
  tasks := by simp [publish]
  taskEvents := by simp [publish]
  events := by simp [publish]
  groups := by simp [publish]

/-- 登録済みのモデルそのものは `Current` である。 -/
theorem current_of_find? {r : Registry} {g : Graph} (h : r.find? g.version = some g) :
    r.Current g :=
  fun _ => h

/-! ## 控えを通して引く -/

section Lookups

variable {r : Registry} {h : Graph}

/-- 引いても登録されたモデルは変わらない。 -/
@[simp] theorem findTask_models (taskId : Int) : (r.findTask h taskId).2.models = r.models := by
  simp only [findTask]
  split
  · rfl
  · split <;> (try split) <;> rfl

@[simp] theorem findEvents_models (taskId : Int) :
    (r.findEvents h taskId).2.models = r.models := by
  simp only [findEvents]
  split
  · rfl
  · split
    · rfl
    · split <;> (try split) <;> rfl

@[simp] theorem findEvent_models (taskId eventId : Int) :
    (r.findEvent h taskId eventId).2.models = r.models := by
  have hm : (r.findEvents h taskId).2.models = r.models := findEvents_models taskId
  simp only [findEvent]
  split
  · rfl
  · split
    · next hf =>
      rw [hf] at hm
      exact hm
    · next hf =>
      rw [hf] at hm
      split <;> (try split) <;> exact hm

@[simp] theorem findGroups_models : (r.findGroups h).2.models = r.models := by
  simp only [findGroups]
  split
  · rfl
  · split
    · rfl
    · split <;> rfl

/-- タスクを引く：控えを通しても、控えなしで引いた値であり、`CacheInv` を保つ。 -/
theorem findTask_spec (taskId : Int) (hinv : r.CacheInv) (hcur : r.Current h) :
    (r.findTask h taskId).1 = h.taskOf? taskId ∧ (r.findTask h taskId).2.models = r.models ∧
      (r.findTask h taskId).2.CacheInv := by
  simp only [findTask]
  cases hu : r.usesCaches h with
  | false =>
    simp only [Bool.false_eq_true, if_false]
    cases h.taskOf? taskId <;> exact ⟨rfl, rfl, hinv⟩
  | true =>
    have hreg := hcur hu
    simp only [if_true]
    cases hc : r.caches.tasks.lookup (h.version, taskId) with
    | some t =>
      obtain ⟨g, hg, ht⟩ := hinv.tasks _ (mem_of_lookup_eq_some hc)
      rw [hreg] at hg
      cases hg
      exact ⟨ht.symm, rfl, hinv⟩
    | none =>
      cases ht : h.taskOf? taskId with
      | none => exact ⟨rfl, rfl, hinv⟩
      | some t => exact ⟨rfl, rfl, { hinv with tasks := forall_mem_remember hinv.tasks ⟨h, hreg, ht⟩ }⟩

/-- タスクのイベントの一覧を引く：控えを通しても控えなしの値であり、`CacheInv` を保つ。 -/
theorem findEvents_spec (taskId : Int) (hinv : r.CacheInv) (hcur : r.Current h) :
    (r.findEvents h taskId).1 = h.eventsOfTask taskId ∧
      (r.findEvents h taskId).2.models = r.models ∧ (r.findEvents h taskId).2.CacheInv := by
  simp only [findEvents]
  cases hu : r.usesCaches h with
  | false =>
    simp only [Bool.false_eq_true, if_false]
    cases ht : h.taskElement? taskId with
    | none => exact ⟨(Graph.eventsOfTask_of_taskElement?_eq_none ht).symm, rfl, hinv⟩
    | some _ => cases h.eventsOfTask taskId <;> exact ⟨rfl, rfl, hinv⟩
  | true =>
    have hreg := hcur hu
    simp only [if_true]
    cases hc : r.caches.taskEvents.lookup (h.version, taskId) with
    | some evs =>
      obtain ⟨g, hg, he⟩ := hinv.taskEvents _ (mem_of_lookup_eq_some hc)
      rw [hreg] at hg
      cases hg
      exact ⟨he.symm, rfl, hinv⟩
    | none =>
      cases ht : h.taskElement? taskId with
      | none => exact ⟨(Graph.eventsOfTask_of_taskElement?_eq_none ht).symm, rfl, hinv⟩
      | some _ =>
        cases he : h.eventsOfTask taskId with
        | error e => exact ⟨rfl, rfl, hinv⟩
        | ok evs =>
          exact ⟨rfl, rfl,
            { hinv with taskEvents := forall_mem_remember hinv.taskEvents ⟨h, hreg, he⟩ }⟩

/-- イベントを引く：控えを通しても控えなしの値であり、`CacheInv` を保つ。 -/
theorem findEvent_spec (taskId eventId : Int) (hinv : r.CacheInv) (hcur : r.Current h) :
    (r.findEvent h taskId eventId).1 = h.eventOf? taskId eventId ∧
      (r.findEvent h taskId eventId).2.models = r.models ∧
      (r.findEvent h taskId eventId).2.CacheInv := by
  -- 控えになければ、一覧を引いてから探す。一覧を引くことは `findEvents_spec` に任せる。
  obtain ⟨hevs, hmod, hinv'⟩ := findEvents_spec taskId hinv hcur
  have hreg' : r.Current h → r.usesCaches h = true →
      (r.findEvents h taskId).2.find? h.version = some h := by
    intro hc hu
    rw [find?, hmod]
    exact hc hu
  simp only [findEvent]
  generalize r.findEvents h taskId = fe at hevs hmod hinv' hreg'
  obtain ⟨res, r'⟩ := fe
  simp only at hevs hmod
  subst hevs
  rw [Graph.eventOf?_eq]
  cases hu : r.usesCaches h with
  | false =>
    simp only [Bool.false_eq_true, if_false]
    cases h.eventsOfTask taskId with
    | error e => exact ⟨rfl, hmod, hinv'⟩
    | ok evs =>
      simp only [Except.map]
      split
      next hf => exact ⟨by rw [hf], hmod, hinv'⟩
      next hf => exact ⟨by rw [hf], hmod, hinv'⟩
  | true =>
    have hreg := hcur hu
    simp only [if_true]
    cases hc : r.caches.events.lookup (h.version, taskId, eventId) with
    | some ev =>
      obtain ⟨g, hg, he⟩ := hinv.events _ (mem_of_lookup_eq_some hc)
      rw [hreg] at hg
      cases hg
      rw [Graph.eventOf?_eq] at he
      exact ⟨he.symm, rfl, hinv⟩
    | none =>
      cases he : h.eventsOfTask taskId with
      | error e => exact ⟨rfl, hmod, hinv'⟩
      | ok evs =>
        simp only [Except.map]
        split
        next hf => exact ⟨by rw [hf], hmod, hinv'⟩
        next ev hf =>
          have hentry : h.eventOf? taskId eventId = .ok (some ev) := by
            rw [Graph.eventOf?_eq, he, Except.map, hf]
          exact ⟨by rw [hf], hmod,
            { hinv' with events := forall_mem_remember hinv'.events ⟨h, hreg' hcur hu, hentry⟩ }⟩

/-- 業務グループを引く：控えを通しても控えなしの値であり、`CacheInv` を保つ。 -/
theorem findGroups_spec (hinv : r.CacheInv) (hcur : r.Current h) :
    (r.findGroups h).1 = h.groups ∧ (r.findGroups h).2.models = r.models ∧
      (r.findGroups h).2.CacheInv := by
  simp only [findGroups]
  cases hu : r.usesCaches h with
  | false =>
    simp only [Bool.false_eq_true, if_false]
    cases h.groups <;> exact ⟨rfl, rfl, hinv⟩
  | true =>
    have hreg := hcur hu
    simp only [if_true]
    cases hc : r.caches.groups.lookup h.version with
    | some gs =>
      obtain ⟨g, hg, he⟩ := hinv.groups _ (mem_of_lookup_eq_some hc)
      rw [hreg] at hg
      cases hg
      exact ⟨he.symm, rfl, hinv⟩
    | none =>
      cases he : h.groups with
      | error e => exact ⟨rfl, rfl, hinv⟩
      | ok gs => exact ⟨rfl, rfl, { hinv with groups := forall_mem_remember hinv.groups ⟨h, hreg, he⟩ }⟩

end Lookups

end Registry

/-! ## 登録簿の操作の列 -/

/-- 登録簿への操作：登録、取り除き、控えを通して引く四つ。引く操作は、引くのに使うモデルを
持つ。それは登録済みのモデルでも、登録し直す前に受け取った古いモデルでもよい。 -/
inductive RegistryOp where
  | add (g : Graph)
  | remove (version : String)
  | findTask (g : Graph) (taskId : Int)
  | findEvents (g : Graph) (taskId : Int)
  | findEvent (g : Graph) (taskId eventId : Int)
  | findGroups (g : Graph)

/-- 操作の答え。 -/
inductive RegistryAnswer where
  | added (result : Except Error Bool)
  | removed
  | task (t : Option Task)
  | events (result : Except Error (List Event))
  | event (result : Except Error (Option Event))
  | groups (result : Except Error (List String))

/-- 引く操作が使うモデル。 -/
def RegistryOp.handle? : RegistryOp → Option Graph
  | .findTask g _ | .findEvents g _ | .findEvent g _ _ | .findGroups g => some g
  | .add _ | .remove _ => none

namespace Registry

/-- 操作を一つ行う。 -/
def apply (r : Registry) : RegistryOp → RegistryAnswer × Registry
  | .add g =>
    match r.add g with
    | .ok (changed, r') => (.added (.ok changed), r')
    | .error e => (.added (.error e), r)
  | .remove v => (.removed, r.remove v)
  | .findTask g t => let (a, r') := r.findTask g t; (.task a, r')
  | .findEvents g t => let (a, r') := r.findEvents g t; (.events a, r')
  | .findEvent g t e => let (a, r') := r.findEvent g t e; (.event a, r')
  | .findGroups g => let (a, r') := r.findGroups g; (.groups a, r')

/-- 操作を順に行い、答えを並べる。 -/
def run : Registry → List RegistryOp → List RegistryAnswer × Registry
  | r, [] => ([], r)
  | r, op :: ops =>
    let (a, r') := r.apply op
    let (as, r'') := r'.run ops
    (a :: as, r'')

/-- 控えを空にした登録簿。 -/
def withoutCaches (r : Registry) : Registry := { models := r.models }

/-- どの操作も、その時の登録簿の控えを空にしてから行ったときの答え。 -/
def runWithoutCaches : Registry → List RegistryOp → List RegistryAnswer
  | _, [] => []
  | r, op :: ops =>
    let (a, r') := r.withoutCaches.apply op
    a :: r'.runWithoutCaches ops

/-- 列のどの引く操作でも、使うモデルはその時の登録簿について `Current` である。 -/
def StaleFree : Registry → List RegistryOp → Prop
  | _, [] => True
  | r, op :: ops => (∀ h, op.handle? = some h → r.Current h) ∧ StaleFree (r.apply op).2 ops

theorem cacheInv_withoutCaches (r : Registry) : r.withoutCaches.CacheInv :=
  cacheInv_publish r.models

/-- 控えを空にした答えは、登録されたモデルだけで決まる。 -/
theorem runWithoutCaches_congr {r r' : Registry} (h : r.models = r'.models) (ops : List RegistryOp) :
    r.runWithoutCaches ops = r'.runWithoutCaches ops := by
  have hw : r.withoutCaches = r'.withoutCaches := by simp [withoutCaches, h]
  cases ops with
  | nil => rfl
  | cons op ops => simp only [runWithoutCaches, hw]

/-- 登録は控えを読まない：答えと登録されたモデルは控えによらず、`CacheInv` は保たれる。 -/
theorem apply_add_spec {r : Registry} (g : Graph) (hinv : r.CacheInv) :
    (r.apply (.add g)).1 = (r.withoutCaches.apply (.add g)).1 ∧
      (r.apply (.add g)).2.models = (r.withoutCaches.apply (.add g)).2.models ∧
      (r.apply (.add g)).2.CacheInv := by
  have hf : r.withoutCaches.find? g.version = r.find? g.version := rfl
  by_cases hb : Text.isBlankText g.version = true
  · simp only [apply, add, hb, if_true]
    exact ⟨trivial, rfl, hinv⟩
  · cases ho : r.find? g.version with
    | none =>
      simp only [apply, add, hb, hf, ho]
      exact ⟨rfl, rfl, cacheInv_publish _⟩
    | some old =>
      by_cases hc : (old.checksum == g.checksum) = true
      · simp only [apply, add, hb, hf, ho, hc, if_true]
        exact ⟨rfl, rfl, hinv⟩
      · simp only [apply, add, hb, hf, ho, hc]
        exact ⟨rfl, rfl, cacheInv_publish _⟩

/-- 操作を一つ行う：`CacheInv` のもとで、使うモデルが `Current` なら、答えは控えを空にして
行った答えに等しく、登録されたモデルも同じになり、`CacheInv` は保たれる。 -/
theorem apply_spec {r : Registry} {op : RegistryOp} (hinv : r.CacheInv)
    (hcur : ∀ h, op.handle? = some h → r.Current h) :
    (r.apply op).1 = (r.withoutCaches.apply op).1 ∧
      (r.apply op).2.models = (r.withoutCaches.apply op).2.models ∧ (r.apply op).2.CacheInv := by
  -- 控えを空にした登録簿も同じモデルを持つので、引く操作の両辺に同じ spec が使える。
  have hnil := cacheInv_withoutCaches r
  cases op with
  | add g => exact apply_add_spec g hinv
  | remove v => exact ⟨rfl, rfl, cacheInv_publish _⟩
  | findTask g t =>
    obtain ⟨h₁, h₂, h₃⟩ := findTask_spec t hinv (hcur g rfl)
    obtain ⟨h₁', h₂', -⟩ := findTask_spec (r := r.withoutCaches) t hnil (hcur g rfl)
    exact ⟨by simp only [apply, h₁, h₁'], by simp only [apply, h₂, h₂']; rfl, h₃⟩
  | findEvents g t =>
    obtain ⟨h₁, h₂, h₃⟩ := findEvents_spec t hinv (hcur g rfl)
    obtain ⟨h₁', h₂', -⟩ := findEvents_spec (r := r.withoutCaches) t hnil (hcur g rfl)
    exact ⟨by simp only [apply, h₁, h₁'], by simp only [apply, h₂, h₂']; rfl, h₃⟩
  | findEvent g t e =>
    obtain ⟨h₁, h₂, h₃⟩ := findEvent_spec t e hinv (hcur g rfl)
    obtain ⟨h₁', h₂', -⟩ := findEvent_spec (r := r.withoutCaches) t e hnil (hcur g rfl)
    exact ⟨by simp only [apply, h₁, h₁'], by simp only [apply, h₂, h₂']; rfl, h₃⟩
  | findGroups g =>
    obtain ⟨h₁, h₂, h₃⟩ := findGroups_spec hinv (hcur g rfl)
    obtain ⟨h₁', h₂', -⟩ := findGroups_spec (r := r.withoutCaches) hnil (hcur g rfl)
    exact ⟨by simp only [apply, h₁, h₁'], by simp only [apply, h₂, h₂']; rfl, h₃⟩

/-- 操作の列を通して、どの答えも控えを空にして行った答えに等しく、`CacheInv` は保たれる。
列の長さについての帰納法で、一歩は `apply_spec` である。 -/
theorem run_spec : ∀ {r : Registry} {ops : List RegistryOp}, r.CacheInv → r.StaleFree ops →
    (r.run ops).1 = r.runWithoutCaches ops ∧ (r.run ops).2.CacheInv
  | r, [], hinv, _ => ⟨rfl, hinv⟩
  | r, op :: ops, hinv, ⟨hcur, hrest⟩ => by
    obtain ⟨ha, hm, hinv'⟩ := apply_spec hinv hcur
    obtain ⟨ih, hinv''⟩ := run_spec hinv' hrest
    refine ⟨?_, hinv''⟩
    simp only [run, runWithoutCaches]
    rw [ha, ih, runWithoutCaches_congr hm]

/-- **控えは透過である。** 作ったばかりの登録簿から、登録・取り除き・控えを通して引くことを
どの順に行っても、古いモデルが登録済みのモデルと指紋を共有したまま引かれない限り、どの答えも
その時に控えを空にして引いた答えに等しく、残る控えはどれも登録済みのモデルで引き直した値である。 -/
theorem lookups_match_uncached (ops : List RegistryOp) (h : StaleFree {} ops) :
    (({} : Registry).run ops).1 = ({} : Registry).runWithoutCaches ops ∧
      (({} : Registry).run ops).2.CacheInv :=
  run_spec (cacheInv_publish []) h

/-- 登録したモデルでタスクを二度引く列：二度目は控えから読まれ、どちらも控えなしの答えに等しい。 -/
theorem lookups_match_uncached_after_add :
    let g : Graph :=
      { decl := { version := "1.0", elements := [] }, checksum := "c", definition := { items := [] } }
    StaleFree {} [.add g, .findTask g 1, .findTask g 1] ∧
      (({} : Registry).run [.add g, .findTask g 1, .findTask g 1]).1 =
        ({} : Registry).runWithoutCaches [.add g, .findTask g 1, .findTask g 1] ∧
      (({} : Registry).run [.add g, .findTask g 1, .findTask g 1]).2.CacheInv := by
  intro g
  have hadd : (({} : Registry).apply (.add g)).2 = publish (insertModel "1.0" g []) := by
    have hb : Text.isBlankText "1.0" = false := by decide +kernel
    simp [apply, add, Graph.version, hb, find?, g]
  have hreg : (({} : Registry).apply (.add g)).2.find? g.version = some g := by
    rw [hadd]
    exact lookup_insertModel_self _ _ []
  have hstale : StaleFree {} [.add g, .findTask g 1, .findTask g 1] := by
    refine ⟨fun _ hh => by simp [RegistryOp.handle?] at hh, ?_, ?_, trivial⟩
    · intro h hh
      simp only [RegistryOp.handle?, Option.some.injEq] at hh
      subst hh
      exact current_of_find? hreg
    · intro h hh
      simp only [RegistryOp.handle?, Option.some.injEq] at hh
      subst hh
      exact current_of_find? (by simp only [find?, apply, findTask_models]; exact hreg)
  exact ⟨hstale, lookups_match_uncached _ hstale⟩

end Registry

end Workflow.Model
