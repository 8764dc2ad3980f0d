import Mathlib
import Workflow.Proofs.Reregistration
import Workflow.Kernel.Loader

/-!
# ディレクトリのモデルを読み込む

`loadModels` は、設定のディレクトリの名前のうち拡張子がちょうど `json` のものを昇順に並べ
（`modelNames`）、その順にファイルを読んで登録する。ファイルの木を状態に持つ実装
（`StateM Tree`）で、ディレクトリがあって一覧できれば、次が成り立つ（`load_directory`）。

1. 読むのは、拡張子が `json` の名前を昇順に並べたファイルである。
2. 読めないファイルを飛ばす設定では、ファイルごとにちょうど一つの報告を残す（`FileSteps`）：
   読めない、JSON でない、検査を通らないファイル（`Tree.modelAt`）は理由とともに飛ばし、
   ほかは登録して、登録が登録簿を替えたなら「読み込んだ」、`false` なら「変わらず」に入れる。
3. 登録簿の版ごとのモデルは、その版を定義する最後の正しいファイルのモデルと宣言が同じである。
   ただし、登録は宣言ではなく指紋を比べるので、登録簿のモデルと正しいファイルのモデルに指紋の
   衝突がないとき（`CollisionFree`）に限る。どのファイルも定義しない版は元のままである。
4. 版が昇順の登録簿なら、同じディレクトリをもう一度読み込んでも登録簿は変わらない。
5. 読めないファイルで止まる設定では、最初の読めないファイルで `modelFile` の誤りになり、
   登録簿にはそれより前のファイルだけが登録されている。読めないファイルがなければ、飛ばす
   設定と同じ答えである。

読み込みは、正しいファイルのモデルを順に登録する操作の列（`Registry.run`）に等しい
（`FileSteps.registry`）。4 はそこから `Registry.run_adds_twice` で、3 は版ごとのモデルの
畳み込み（`Registry.find?_run_adds`）から出る。
-/

namespace Workflow.Files

open Workflow.Model

/-- 道筋のファイルのモデル。読めない、JSON でない、検査を通らないなら、その理由。 -/
def Tree.modelAt (t : Tree) (path : String) : Except String Graph :=
  match t.readBytes path with
  | .error e => .error e.message
  | .ok bytes =>
    match Json.parseBytes .stream bytes with
    | .error e => .error e.message
    | .ok v =>
      match Graph.ofJson v with
      | .error e => .error e.message
      | .ok g => .ok g

/-- 正しいファイルのモデルは、版が空白でない。 -/
theorem Tree.modelAt_version {t : Tree} {path : String} {g : Graph} (h : t.modelAt path = .ok g) :
    Text.isBlankText g.version = false := by
  unfold Tree.modelAt at h
  split at h
  · cases h
  · split at h
    · cases h
    · split at h
      · cases h
      · next g' hg =>
        cases h
        unfold Graph.ofJson at hg
        split at hg
        · exact (Graph.ofDecl_sealed hg).2.2
        · cases hg

end Workflow.Files

namespace Workflow.Model.Registry

/-! ## 登録の列の後の版ごとのモデル -/

/-- 版が空白でないモデルの登録の列では、版 `v` の最後に成功した登録は、版 `v` の最後のモデル
である。そのようなモデルがなければ始めのまま。 -/
theorem foldl_lastAddedStep_adds (v : String) :
    ∀ (gs : List Graph) (c : Option Graph), (∀ g ∈ gs, Text.isBlankText g.version = false) →
      (gs.map .add).foldl (lastAddedStep v) c = ((gs.filter (·.version == v)).getLast?).or c
  | [], _, _ => rfl
  | g :: gs, c, hgs => by
    rw [List.map_cons, List.foldl_cons,
      foldl_lastAddedStep_adds v gs _ fun g' hg' => hgs g' (List.mem_cons_of_mem _ hg')]
    by_cases hv : g.version = v
    · -- `g` が版 `v` の最後のモデルの候補になる
      subst hv
      have hstep : lastAddedStep g.version c (.add g) = some g := by
        simp [lastAddedStep, hgs g List.mem_cons_self]
      have hf : (g :: gs).filter (·.version == g.version) = g :: gs.filter (·.version == g.version) :=
        List.filter_cons_of_pos (beq_self_eq_true _)
      rw [hstep, hf, List.getLast?_cons]
      cases (gs.filter (·.version == g.version)).getLast? <;> rfl
    · simp [lastAddedStep, hv]

@[simp] theorem addedGraphs_adds (gs : List Graph) : RegistryOp.addedGraphs (gs.map .add) = gs := by
  induction gs with
  | nil => rfl
  | cons g gs ih => simp [ih, RegistryOp.added?]

/-- 登録簿のモデルと登録するモデルに指紋の衝突がなければ、登録の列の後の版 `v` のモデルは、版
`v` の最後のモデルと指紋も宣言も同じである。そのようなモデルがなければ始めのモデルと同じ。 -/
theorem run_adds_same {r : Registry} {gs : List Graph} (hgs : ∀ g ∈ gs, Text.isBlankText g.version = false)
    (hcol : CollisionFree (r.models.map Prod.snd ++ gs)) (v : String) :
    Option.Rel Graph.Same ((r.run (gs.map .add)).2.find? v) (((gs.filter (·.version == v)).getLast?).or (r.find? v)) := by
  rw [← foldl_lastAddedStep_adds v gs _ hgs]
  -- 始めの登録簿の版 `v` のモデルは、登録簿のモデルの一つである
  have hstart : (r.find? v).toList ⊆ r.models.map Prod.snd := by
    intro g hg
    have hfind : r.models.lookup v = some g := Option.mem_toList.mp hg
    exact List.mem_map.mpr ⟨(v, g), mem_of_lookup_eq_some hfind, rfl⟩
  refine run_agrees v (gs.map .add) r (r.find? v) ?_ ?_
  · rw [addedGraphs_adds]
    exact hcol.mono (List.append_subset.mpr
      ⟨List.Subset.trans hstart (List.subset_append_left _ _), List.subset_append_right _ _⟩)
  · cases r.find? v with
    | none => exact .none
    | some g => exact .some ⟨rfl, rfl⟩

/-- どのモデルも版 `v` でなければ、版 `v` のモデルの畳み込みは始めのままである。 -/
theorem foldl_keptStep_of_ne {v : String} :
    ∀ (gs : List Graph) (c : Option Graph), (∀ g ∈ gs, g.version ≠ v) → gs.foldl (keptStep v) c = c
  | [], _, _ => rfl
  | g :: gs, c, hgs => by
    rw [List.foldl_cons, keptStep, if_neg (hgs g List.mem_cons_self)]
    exact foldl_keptStep_of_ne gs c fun g' hg' => hgs g' (List.mem_cons_of_mem _ hg')

end Workflow.Model.Registry

namespace Workflow.Kernel

open Workflow.Model Workflow.Files

/-! ## 読むファイル -/

/-- 読み込むファイルの名前：拡張子がちょうど `json` の名前を昇順に並べたもの。 -/
def modelNames (names : List String) : List String :=
  (names.filter fun n => extension? n == some "json").mergeSort fun a b => decide (a ≤ b)

/-- ディレクトリ `dir` で読み込むファイルの道筋（名前の順）。 -/
def modelPaths (dir : String) (names : List String) : List String :=
  (modelNames names).map (joinPath dir)

theorem modelNames_perm (names : List String) :
    (modelNames names).Perm (names.filter fun n => extension? n == some "json") :=
  List.mergeSort_perm _ _

theorem modelNames_sorted (names : List String) : (modelNames names).Pairwise (· ≤ ·) := by
  have h := @List.pairwise_mergeSort _ (fun a b : String => decide (a ≤ b))
    (fun a b c hab hbc => by simp only [decide_eq_true_eq] at *; exact le_trans hab hbc)
    (fun a b => by simpa only [Bool.or_eq_true, decide_eq_true_eq] using le_total a b)
    (names.filter fun n => extension? n == some "json")
  simpa only [modelNames, decide_eq_true_eq] using h

/-! ## 報告 -/

/-- 一つのファイルの報告。 -/
inductive FileRecord where
  /-- 登録簿を替えた版。 -/
  | loaded (version : String)
  /-- 同じ指紋のモデルがすでにあった版。 -/
  | unchanged (version : String)
  /-- 読めなかったファイルと理由。 -/
  | skipped (path reason : String)

namespace FileRecord

def loaded? : FileRecord → Option String
  | .loaded v => some v
  | .unchanged _ | .skipped _ _ => none

def unchanged? : FileRecord → Option String
  | .unchanged v => some v
  | .loaded _ | .skipped _ _ => none

def skipped? : FileRecord → Option (String × String)
  | .skipped p r => some (p, r)
  | .loaded _ | .unchanged _ => none

/-- 登録の答え `b` による、正しいファイルの報告。 -/
def ofAdd (b : Bool) (version : String) : FileRecord :=
  if b then .loaded version else .unchanged version

end FileRecord

/-- 読み込みの報告に、ファイルの報告を順に書き足す。 -/
def LoadReport.extend (report : LoadReport) (recs : List FileRecord) : LoadReport where
  loaded := report.loaded ++ recs.filterMap FileRecord.loaded?
  unchanged := report.unchanged ++ recs.filterMap FileRecord.unchanged?
  skipped := report.skipped ++ recs.filterMap FileRecord.skipped?

/-- ファイルの報告だけからなる読み込みの報告。 -/
def LoadReport.ofRecords (recs : List FileRecord) : LoadReport := ({} : LoadReport).extend recs

@[simp] theorem LoadReport.extend_nil (report : LoadReport) : report.extend [] = report := by
  simp [LoadReport.extend]

theorem LoadReport.extend_cons (report : LoadReport) (rec : FileRecord) (recs : List FileRecord) :
    report.extend (rec :: recs) = (report.extend [rec]).extend recs := by
  cases rec <;> simp [LoadReport.extend, List.filterMap_cons, FileRecord.loaded?, FileRecord.unchanged?,
    FileRecord.skipped?]

theorem LoadReport.extend_loaded (report : LoadReport) (v : String) :
    report.extend [.loaded v] = { report with loaded := report.loaded ++ [v] } := by
  simp [LoadReport.extend, FileRecord.loaded?, FileRecord.unchanged?, FileRecord.skipped?]

theorem LoadReport.extend_unchanged (report : LoadReport) (v : String) :
    report.extend [.unchanged v] = { report with unchanged := report.unchanged ++ [v] } := by
  simp [LoadReport.extend, FileRecord.loaded?, FileRecord.unchanged?, FileRecord.skipped?]

theorem LoadReport.extend_skipped (report : LoadReport) (p reason : String) :
    report.extend [.skipped p reason] = { report with skipped := report.skipped ++ [(p, reason)] } := by
  simp [LoadReport.extend, FileRecord.loaded?, FileRecord.unchanged?, FileRecord.skipped?]

/-! ## 一つのファイル -/

/-- ファイルを読んで登録する一歩は、ファイルの木を変えない。 -/
theorem loadFile_run (t : Tree) (path : String) (reg : Registry) :
    (loadFile path reg : StateM Tree _).run t =
      ((match t.readBytes path with
        | .error e => .error e.message
        | .ok bytes => registerBytes bytes reg), t) := by
  simp only [loadFile, FileAccess.readBytes]
  simp only [StateT.run, bind, StateT.bind, get, getThe, MonadStateOf.get, StateT.get, pure, StateT.pure]
  cases t.readBytes path <;> rfl

variable {t : Tree} {path : String} {reg : Registry}

/-- 正しいファイルは登録され、版と登録の答えを返す。 -/
theorem loadFile_of_ok (reg : Registry) {g : Graph} (h : t.modelAt path = .ok g) :
    ∃ b reg', reg.add g = .ok (b, reg') ∧
      (loadFile path reg : StateM Tree _).run t = (.ok (g.version, b, reg'), t) := by
  obtain ⟨b, reg', hadd⟩ := Registry.add_ok_of_not_blank reg (Tree.modelAt_version h)
  refine ⟨b, reg', hadd, ?_⟩
  rw [loadFile_run]
  unfold Tree.modelAt at h
  cases hr : t.readBytes path with
  | error e => simp only [hr] at h; cases h
  | ok bytes =>
    simp only [hr] at h
    simp only [registerBytes]
    cases hp : Json.parseBytes .stream bytes with
    | error e => simp only [hp] at h; cases h
    | ok v =>
      simp only [hp] at h
      cases hg : Graph.ofJson v with
      | error e => simp only [hg] at h; cases h
      | ok g' =>
        simp only [hg, Except.ok.injEq] at h
        subst h
        simp only [hg, hadd]

/-- 読めない、JSON でない、検査を通らないファイルは、その理由を返す。 -/
theorem loadFile_of_error {reason : String} (h : t.modelAt path = .error reason) :
    (loadFile path reg : StateM Tree _).run t = (.error reason, t) := by
  rw [loadFile_run]
  unfold Tree.modelAt at h
  cases hr : t.readBytes path with
  | error e => simp only [hr, Except.error.injEq] at h; simp only [h]
  | ok bytes =>
    simp only [hr] at h
    simp only [registerBytes]
    cases hp : Json.parseBytes .stream bytes with
    | error e => simp only [hp, Except.error.injEq] at h; simp only [h]
    | ok v =>
      simp only [hp] at h
      cases hg : Graph.ofJson v with
      | error e => simp only [hg, Except.error.injEq] at h; simp only [hg, h]
      | ok g' => simp only [hg] at h; cases h

/-! ## ファイルの列 -/

variable {fo : Bool} {p : String} {ps : List String} {report : LoadReport}

theorem loadFiles_cons_of_ok {v : String} {b : Bool} {reg' : Registry}
    (hx : (loadFile p reg : StateM Tree _).run t = (.ok (v, b, reg'), t)) :
    (loadFiles fo (p :: ps) report reg : StateM Tree _).run t =
      (loadFiles fo ps (report.extend [FileRecord.ofAdd b v]) reg' : StateM Tree _).run t := by
  rw [loadFiles, StateT.run_bind, hx]
  cases b
  · rw [FileRecord.ofAdd, if_neg Bool.false_ne_true, LoadReport.extend_unchanged]
    rfl
  · rw [FileRecord.ofAdd, if_pos rfl, LoadReport.extend_loaded]
    rfl

theorem loadFiles_cons_skip {reason : String} (hx : (loadFile p reg : StateM Tree _).run t = (.error reason, t)) :
    (loadFiles false (p :: ps) report reg : StateM Tree _).run t =
      (loadFiles false ps (report.extend [.skipped p reason]) reg : StateM Tree _).run t := by
  rw [loadFiles, StateT.run_bind, hx, LoadReport.extend_skipped]
  rfl

theorem loadFiles_cons_stop {reason : String} (hx : (loadFile p reg : StateM Tree _).run t = (.error reason, t)) :
    (loadFiles true (p :: ps) report reg : StateM Tree _).run t = ((.error (.modelFile p reason), reg), t) := by
  rw [loadFiles, StateT.run_bind, hx]
  rfl

/-! ## 飛ばす設定の読み込み -/

/-- 一つのファイルの読み込み：ファイル `path` は、登録簿 `r` の下で報告を一つ残し、登録簿を
`r'` にする。 -/
inductive FileStep (t : Tree) (path : String) : Registry → FileRecord → Registry → Prop
  /-- 読めない、JSON でない、検査を通らないファイルは理由とともに飛ばし、登録簿はそのまま。 -/
  | skipped {r : Registry} {reason : String} : t.modelAt path = .error reason →
      FileStep t path r (.skipped path reason) r
  /-- 正しいファイルのモデルは登録し、登録の答えで「読み込んだ」か「変わらず」に入れる。 -/
  | added {r r' : Registry} {g : Graph} {b : Bool} : t.modelAt path = .ok g → r.add g = .ok (b, r') →
      FileStep t path r (.ofAdd b g.version) r'

/-- ファイルの列の読み込み：ファイルごとに、順に、ちょうど一つの報告を残す。 -/
inductive FileSteps (t : Tree) : List String → Registry → List FileRecord → Registry → Prop
  | nil {r : Registry} : FileSteps t [] r [] r
  | cons {p : String} {ps : List String} {r r₁ r₂ : Registry} {rec : FileRecord} {recs : List FileRecord} :
      FileStep t p r rec r₁ → FileSteps t ps r₁ recs r₂ → FileSteps t (p :: ps) r (rec :: recs) r₂

/-- 列のうち正しいファイルのモデル（列の順）。 -/
def validModels (t : Tree) (ps : List String) : List Graph :=
  ps.filterMap fun p => (t.modelAt p).toOption

theorem validModels_cons_of_ok {g : Graph} (hm : t.modelAt p = .ok g) :
    validModels t (p :: ps) = g :: validModels t ps := by
  simp only [validModels, List.filterMap_cons, hm]
  rfl

theorem validModels_cons_of_error {reason : String} (hm : t.modelAt p = .error reason) :
    validModels t (p :: ps) = validModels t ps := by
  simp only [validModels, List.filterMap_cons, hm]
  rfl

theorem validModels_version {g : Graph} (hg : g ∈ validModels t ps) : Text.isBlankText g.version = false := by
  obtain ⟨p, -, hp⟩ := List.mem_filterMap.mp hg
  cases hm : t.modelAt p with
  | error e => rw [hm] at hp; cases hp
  | ok g' =>
    rw [hm] at hp
    cases hp
    exact Tree.modelAt_version hm

/-- 飛ばす設定では、ファイルの列の読み込みは必ず終わり、ファイルごとに一つの報告を書き足す。 -/
theorem loadFiles_skipping (t : Tree) :
    ∀ (ps : List String) (report : LoadReport) (reg : Registry),
      ∃ recs reg', FileSteps t ps reg recs reg' ∧
        (loadFiles false ps report reg : StateM Tree _).run t = ((.ok (report.extend recs), reg'), t)
  | [], report, reg => ⟨[], reg, .nil, by rw [LoadReport.extend_nil]; rfl⟩
  | p :: ps, report, reg => by
    cases hm : t.modelAt p with
    | error reason =>
      obtain ⟨recs, reg', hs, hrun⟩ := loadFiles_skipping t ps (report.extend [.skipped p reason]) reg
      refine ⟨.skipped p reason :: recs, reg', .cons (.skipped hm) hs, ?_⟩
      rw [loadFiles_cons_skip (loadFile_of_error hm), hrun, ← LoadReport.extend_cons]
    | ok g =>
      obtain ⟨b, reg₁, hadd, hx⟩ := loadFile_of_ok reg hm
      obtain ⟨recs, reg', hs, hrun⟩ := loadFiles_skipping t ps (report.extend [.ofAdd b g.version]) reg₁
      refine ⟨.ofAdd b g.version :: recs, reg', .cons (.added hm hadd) hs, ?_⟩
      rw [loadFiles_cons_of_ok hx, hrun, ← LoadReport.extend_cons]

/-- ファイルの列の読み込みの後の登録簿は、正しいファイルのモデルを順に登録した登録簿である。
読み込みの列についての帰納法で、飛ばしたファイルは登録簿を変えない。 -/
theorem FileSteps.registry {r r' : Registry} {recs : List FileRecord} (h : FileSteps t ps r recs r') :
    r' = (r.run ((validModels t ps).map .add)).2 := by
  induction h with
  | nil => rfl
  | cons hstep _ ih =>
    cases hstep with
    | skipped hm => rw [validModels_cons_of_error hm]; exact ih
    | added hm hadd => rw [ih, validModels_cons_of_ok hm, Registry.run_adds_cons, Registry.apply_add_of_ok hadd]

/-! ## 止まる設定の読み込み -/

/-- 止まる設定では、正しいファイルは飛ばす設定と同じように読み込まれる。 -/
theorem loadFiles_stop_of_valid :
    ∀ (ps : List String) (report : LoadReport) (reg : Registry), (∀ q ∈ ps, ∃ g, t.modelAt q = .ok g) →
      (loadFiles true ps report reg : StateM Tree _).run t = (loadFiles false ps report reg : StateM Tree _).run t
  | [], _, _, _ => rfl
  | p :: ps, report, reg, hall => by
    obtain ⟨g, hm⟩ := hall p List.mem_cons_self
    obtain ⟨b, reg₁, -, hx⟩ := loadFile_of_ok reg hm
    rw [loadFiles_cons_of_ok hx, loadFiles_cons_of_ok hx]
    exact loadFiles_stop_of_valid ps _ reg₁ fun q hq => hall q (List.mem_cons_of_mem _ hq)

/-- 止まる設定では、最初の読めないファイルで `modelFile` の誤りになり、登録簿にはそれより前の
ファイルのモデルだけが登録されている。 -/
theorem loadFiles_stop_at {reason : String} {post : List String} (hp : t.modelAt p = .error reason) :
    ∀ (pre : List String) (report : LoadReport) (reg : Registry), (∀ q ∈ pre, ∃ g, t.modelAt q = .ok g) →
      (loadFiles true (pre ++ p :: post) report reg : StateM Tree _).run t =
        ((.error (.modelFile p reason), (reg.run ((validModels t pre).map .add)).2), t)
  | [], report, reg, _ => loadFiles_cons_stop (loadFile_of_error hp)
  | q :: pre, report, reg, hall => by
    obtain ⟨g, hm⟩ := hall q List.mem_cons_self
    obtain ⟨b, reg₁, hadd, hx⟩ := loadFile_of_ok reg hm
    rw [List.cons_append, loadFiles_cons_of_ok hx,
      loadFiles_stop_at hp pre _ reg₁ fun q' hq' => hall q' (List.mem_cons_of_mem _ hq'),
      validModels_cons_of_ok hm, Registry.run_adds_cons, Registry.apply_add_of_ok hadd]

/-! ## ディレクトリ -/

/-- ディレクトリがあって一覧できれば、読み込みは `modelPaths` のファイルの列の読み込みである。 -/
theorem loadModels_run {dir : String} {names : List String} (fo : Bool) (reg : Registry)
    (hdir : t.exists? dir = true) (hlist : t.list dir = .ok names) :
    (loadModels { dir := dir, failOnInvalid := fo } reg : StateM Tree _).run t =
      (loadFiles fo (modelPaths dir names) {} reg : StateM Tree _).run t := by
  simp only [loadModels, FileAccess.pathExists, FileAccess.listDir]
  simp only [StateT.run, bind, StateT.bind, get, getThe, MonadStateOf.get, StateT.get, pure, StateT.pure,
    hdir, hlist, Bool.not_true, Bool.false_eq_true, if_false]
  rfl

/-- ファイルの木 `t` の上で、ディレクトリ `dir` のモデルを登録簿 `reg` に読み込む。`fo` は読めない
ファイルで止まるか。 -/
def loadModelsIn (t : Tree) (dir : String) (fo : Bool) (reg : Registry) :
    (Except KernelError LoadReport × Registry) × Tree :=
  (loadModels { dir := dir, failOnInvalid := fo } reg : StateM Tree _).run t

/-- ディレクトリ `dir` の正しいファイルのモデルを、名前の順に `reg` に登録した登録簿。 -/
def loadedRegistry (t : Tree) (dir : String) (names : List String) (reg : Registry) : Registry :=
  (reg.run ((validModels t (modelPaths dir names)).map .add)).2

/-- 一覧が `names` のディレクトリ `dir` を登録簿 `reg` に読み込むときの約束。 -/
structure LoadsDirectory (t : Tree) (dir : String) (names : List String) (reg : Registry) : Prop where
  /-- 読むのは、拡張子がちょうど `json` の名前を昇順に並べたファイルである。 -/
  paths : ∃ js : List String, modelPaths dir names = js.map (joinPath dir) ∧
    js.Perm (names.filter fun n => extension? n == some "json") ∧ js.Pairwise (· ≤ ·)
  /-- 飛ばす設定では、ファイルごとに順にちょうど一つの報告を残し、正しいファイルのモデルを順に
  登録する。 -/
  reports : ∃ recs, FileSteps t (modelPaths dir names) reg recs (loadedRegistry t dir names reg) ∧
    loadModelsIn t dir false reg = ((.ok (.ofRecords recs), loadedRegistry t dir names reg), t)
  /-- 指紋の衝突がなければ、ファイルが定義する版のモデルは、その版を定義する最後の正しいファイルの
  モデルと指紋も宣言も同じである。 -/
  lastWins : CollisionFree (reg.models.map Prod.snd ++ validModels t (modelPaths dir names)) →
    ∀ v l, ((validModels t (modelPaths dir names)).filter (·.version == v)).getLast? = some l →
      ∃ g', (loadedRegistry t dir names reg).find? v = some g' ∧ Graph.Same g' l
  /-- どのファイルも定義しない版は元のままである。 -/
  frame : ∀ v, (∀ g ∈ validModels t (modelPaths dir names), g.version ≠ v) →
    (loadedRegistry t dir names reg).find? v = reg.find? v
  /-- 版が昇順の登録簿なら、もう一度読み込んでも登録簿は変わらない。 -/
  reload : reg.models.Pairwise (fun a b => a.1 < b.1) →
    ∃ recs, loadModelsIn t dir false (loadedRegistry t dir names reg) =
      ((.ok (.ofRecords recs), loadedRegistry t dir names reg), t)
  /-- 止まる設定では、最初の読めないファイルで止まり、それより前のファイルだけが登録されている。 -/
  stops : ∀ pre p post reason, modelPaths dir names = pre ++ p :: post →
    (∀ q ∈ pre, ∃ g, t.modelAt q = .ok g) → t.modelAt p = .error reason →
    loadModelsIn t dir true reg = ((.error (.modelFile p reason), (reg.run ((validModels t pre).map .add)).2), t)
  /-- 読めないファイルがなければ、止まる設定も飛ばす設定と同じ答えである。 -/
  allValid : (∀ q ∈ modelPaths dir names, ∃ g, t.modelAt q = .ok g) →
    loadModelsIn t dir true reg = loadModelsIn t dir false reg

/-- **ディレクトリの読み込み。** ディレクトリ `dir` があって一覧 `names` が読めれば、どの登録簿
への読み込みも `LoadsDirectory` の約束を守る。 -/
theorem load_directory {dir : String} {names : List String} (reg : Registry)
    (hdir : t.exists? dir = true) (hlist : t.list dir = .ok names) : LoadsDirectory t dir names reg := by
  have hrun : ∀ fo reg, loadModelsIn t dir fo reg = (loadFiles fo (modelPaths dir names) {} reg : StateM Tree _).run t :=
    fun fo reg => loadModels_run fo reg hdir hlist
  have hgs : ∀ g ∈ validModels t (modelPaths dir names), Text.isBlankText g.version = false :=
    fun _ hg => validModels_version hg
  -- 飛ばす設定の読み込みは、報告の列と、正しいファイルのモデルを順に登録した登録簿に行き着く
  have hskip : ∀ reg, ∃ recs, FileSteps t (modelPaths dir names) reg recs (loadedRegistry t dir names reg) ∧
      loadModelsIn t dir false reg = ((.ok (.ofRecords recs), loadedRegistry t dir names reg), t) := by
    intro reg
    obtain ⟨recs, reg', hs, hx⟩ := loadFiles_skipping t (modelPaths dir names) {} reg
    have hreg : reg' = loadedRegistry t dir names reg := hs.registry
    subst hreg
    exact ⟨recs, hs, (hrun false reg).trans hx⟩
  refine ⟨⟨modelNames names, rfl, modelNames_perm names, modelNames_sorted names⟩, hskip reg, ?_, ?_, ?_, ?_, ?_⟩
  · intro hcol v l hl
    have h := Registry.run_adds_same hgs hcol v
    rw [hl, Option.some_or] at h
    exact Graph.exists_of_rel_some h
  · intro v hv
    rw [loadedRegistry, Registry.find?_run_adds v _ reg hgs, Registry.foldl_keptStep_of_ne _ _ hv]
  · intro hs
    obtain ⟨recs, hsteps, hx⟩ := hskip (loadedRegistry t dir names reg)
    -- 二度目の登録も同じモデルの列なので、登録簿は変わらない
    have htwice : loadedRegistry t dir names (loadedRegistry t dir names reg) = loadedRegistry t dir names reg :=
      Registry.run_adds_twice _ hs hgs
    rw [htwice] at hx
    exact ⟨recs, hx⟩
  · intro pre p post reason hpaths hpre hp
    rw [hrun, hpaths]
    exact loadFiles_stop_at hp pre {} reg hpre
  · intro hall
    rw [hrun, hrun]
    exact loadFiles_stop_of_valid _ {} reg hall

/-! ## 例：モデルのファイルとほかのファイル -/

/-- ディレクトリ `m` に、モデルのファイル `a.json` とほかのファイル `notes.txt` がある木。 -/
def sampleTree : Tree := ⟨[(["m", "a.json"], .file []), (["m", "notes.txt"], .file [])]⟩

/-- 道筋 `m` は名前一つである。`String.splitOn` は整礎な再帰なので、一歩ずつ開く。 -/
theorem components_m : components "m" = some ["m"] := by
  unfold components String.splitOn
  rw [if_neg (by decide +kernel), if_neg (by decide +kernel)]
  rw [String.splitOnAux.eq_1, if_neg (by decide +kernel), if_neg (by decide +kernel)]
  rw [String.splitOnAux.eq_1, if_pos (by decide +kernel)]
  rfl

/-- `sampleTree` のディレクトリ `m` は一覧でき、空の登録簿への読み込みは約束を守る。 -/
theorem sample_directory_loads : sampleTree.exists? "m" = true ∧
    sampleTree.list "m" = .ok ["a.json", "notes.txt"] ∧ LoadsDirectory sampleTree "m" ["a.json", "notes.txt"] {} := by
  have hdir : sampleTree.exists? "m" = true := by
    rw [Tree.exists?, Tree.find, if_neg (by decide), components_m]
    rfl
  have hlist : sampleTree.list "m" = .ok ["a.json", "notes.txt"] := by
    rw [Tree.list, components_m]
    rfl
  exact ⟨hdir, hlist, load_directory {} hdir hlist⟩

end Workflow.Kernel
