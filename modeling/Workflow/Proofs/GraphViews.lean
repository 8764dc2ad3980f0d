import Mathlib
import Workflow.Proofs.Validation
import Workflow.Proofs.Search

/-!
# 検査済みのグラフの見え方は宣言と合う

グラフは宣言そのものを持ち、要素・フロー・タスク要素・リンクキャッチ・タスクの一覧をどれも宣言の
列から引く。検査を通った宣言 `m` のグラフ `g` で、それぞれの見え方が `m` の列と合うことを述べる
（`ViewsAgree`）。

* 要素 — id で引ける要素は、その id を持つ要素で、ほかにはない。要素の id は互いに異なる。
* 出るフローと入るフロー — その要素を出どころ（行き先）とするフローを宣言順に並べたもの。
  要素の id でない id には、どちらもない。フローの両端は要素の id だからである。
* タスク要素とリンクキャッチ — タスク id（リンク名）で引ける要素は、それを持つただ一つの
  タスク要素（リンクキャッチ）である。検査が重複を許さないからである。
* タスクの一覧 — タスクの中身を持つ要素の実体を宣言順に並べたもので、種類は見ない。タスク要素は
  どれも中身を持つので、中身を持つのがタスク要素だけなら、一覧はタスク要素の実体をちょうど並べた
  ものになる。ほかの種類の要素が中身を持てば、それも一覧に入る。

id で引くことが一つに決まるのは、見つけた要素と同じ条件を満たす要素がほかにないからである
（`find?_eq_some_iff_of_unique`）。
-/

namespace Workflow.Model

/-- 条件を満たす要素が多くとも一つなら、最初に条件を満たす要素とは、条件を満たす列の要素である。 -/
theorem find?_eq_some_iff_of_unique {α : Type} {p : α → Bool} {l : List α}
    (huniq : ∀ a ∈ l, ∀ b ∈ l, p a = true → p b = true → a = b) {a : α} :
    l.find? p = some a ↔ a ∈ l ∧ p a = true := by
  refine ⟨fun h => ⟨List.mem_of_find?_eq_some h, List.find?_some h⟩, fun ⟨ha, hpa⟩ => ?_⟩
  obtain ⟨b, hb⟩ : ∃ b, l.find? p = some b :=
    Option.isSome_iff_exists.mp (List.find?_isSome.mpr ⟨a, ha, hpa⟩)
  rw [hb, huniq b (List.mem_of_find?_eq_some hb) a ha (List.find?_some hb) hpa]

/-- **検査を通った宣言のグラフは、その宣言を持ち、宣言は検査の条件を満たす。** -/
theorem ofDecl_valid {m : ModelDecl} {g : Graph} (h : Graph.ofDecl m = .ok g) :
    g.decl = m ∧ m.Valid := by
  rw [ofDecl_eq] at h
  cases hf : m.checks.findSome? m.violation? with
  | some e =>
    rw [hf] at h
    cases h
  | none =>
    rw [hf] at h
    cases h
    refine ⟨rfl, m.valid_iff.mpr fun c => ?_⟩
    -- 反する項目はどれも項目の列にあるので、列に反するものがなければどの項目にも反しない。
    cases hc : m.violation? c with
    | none => rfl
    | some e => simpa [hc] using List.findSome?_eq_none_iff.mp hf c (mem_checks hc)

/-- 検査を通った宣言では、同じタスク id を持つタスク要素は一つしかない。 -/
theorem ModelDecl.Valid.task_unique {m : ModelDecl} (hv : m.Valid) {a b : ElementDecl}
    (ha : a ∈ m.elements) (hb : b ∈ m.elements) (hka : a.kind = .task) (hkb : b.kind = .task) {t : Int}
    (hta : a.task.map (·.id) = some t) (htb : b.task.map (·.id) = some t) : a = b := by
  have hid : a.taskId = b.taskId := by simp [ElementDecl.taskId, hta, htb]
  exact List.inj_on_of_nodup_map hv.taskIds (List.mem_filter.mpr ⟨ha, by simp [hka]⟩)
    (List.mem_filter.mpr ⟨hb, by simp [hkb]⟩) hid

/-- 検査を通った宣言では、同じリンク名を持つリンクキャッチは一つしかない。 -/
theorem ModelDecl.Valid.linkCatch_unique {m : ModelDecl} (hv : m.Valid) {a b : ElementDecl}
    (ha : a ∈ m.elements) (hb : b ∈ m.elements) (hka : a.kind = .linkCatch) (hkb : b.kind = .linkCatch) {l : String}
    (hla : a.link = some l) (hlb : b.link = some l) : a = b := by
  have hl : a.linkRef = b.linkRef := by simp [ElementDecl.linkRef, hla, hlb]
  exact List.inj_on_of_nodup_map hv.linkCatches (List.mem_filter.mpr ⟨ha, by simp [hka]⟩)
    (List.mem_filter.mpr ⟨hb, by simp [hkb]⟩) hl

namespace Graph

/-- グラフ `g` の見え方が宣言 `m` の列と合う。 -/
structure ViewsAgree (m : ModelDecl) (g : Graph) : Prop where
  /-- グラフは宣言をそのまま持つ。 -/
  decl : g.decl = m
  /-- id で引ける要素は、その id を持つ要素で、ほかにはない。 -/
  element : ∀ id el, g.element? id = some el ↔ el ∈ m.elements ∧ el.id = id
  /-- 要素から出るフローは、その要素を出どころとするフローを宣言順に並べたもの。 -/
  outgoing : ∀ id, g.outgoing id = m.flows.filter (·.source == id)
  /-- 要素に入るフローは、その要素を行き先とするフローを宣言順に並べたもの。 -/
  incoming : ∀ id, g.incoming id = m.flows.filter (·.target == id)
  /-- 要素の id でない id には、出るフローも入るフローもない。 -/
  unknown : ∀ id, id ∉ m.elements.map (·.id) → g.outgoing id = [] ∧ g.incoming id = []
  /-- タスク id で引ける要素は、そのタスク id を持つタスク要素で、ほかにはない。 -/
  taskElement : ∀ t el, g.taskElement? t = some el ↔
    el ∈ m.elements ∧ el.kind = .task ∧ el.task.map (·.id) = some t
  /-- リンク名で引ける要素は、そのリンク名を持つリンクキャッチで、ほかにはない。 -/
  linkCatch : ∀ l el, g.linkCatch? l = some el ↔
    el ∈ m.elements ∧ el.kind = .linkCatch ∧ el.link = some l
  /-- タスクの一覧は、タスクの中身を持つ要素の実体を宣言順に並べたもので、種類は見ない。 -/
  tasks : g.tasks = (m.elements.filter fun el => el.task.isSome).filterMap g.taskEntity?
  /-- タスク要素はどれもタスクの中身を持つ。 -/
  taskPayload : ∀ el ∈ m.elements, el.kind = .task → el.task.isSome
  /-- タスクの中身を持つのがタスク要素だけなら、一覧はタスク要素の実体を宣言順に並べたもの。 -/
  tasksOfKind : (∀ el ∈ m.elements, el.task.isSome → el.kind = .task) →
    g.tasks = (m.elements.filter fun el => el.kind = .task).filterMap g.taskEntity?

variable {m : ModelDecl} {g : Graph}

/-- フローの両端が要素の id なら、要素の id でない id を出どころや行き先とするフローはない。 -/
theorem filter_flows_of_unknown (hv : m.Valid) {id : String} (hid : id ∉ m.elements.map (·.id)) :
    m.flows.filter (·.source == id) = [] ∧ m.flows.filter (·.target == id) = [] := by
  refine ⟨List.filter_eq_nil_iff.mpr fun f hf h => ?_, List.filter_eq_nil_iff.mpr fun f hf h => ?_⟩
  · exact hid (beq_iff_eq.mp h ▸ (hv.flows f hf).1)
  · exact hid (beq_iff_eq.mp h ▸ (hv.flows f hf).2)

/-- タスクの実体を作るのは、タスクの中身を持つ要素だけである。 -/
theorem filterMap_taskEntity? (els : List ElementDecl) :
    els.filterMap g.taskEntity? = (els.filter fun el => el.task.isSome).filterMap g.taskEntity? := by
  rw [List.filterMap_filter]
  congr 1
  funext el
  cases h : el.task <;> simp [taskEntity?, h]

/-- 記帳のタスク `t1`。 -/
def ledgerEnter : ElementDecl :=
  { id := "t1", kind := .task, name := "Enter", process := some "p", task := some { id := 1 } }

/-- 記帳するイベント `e10`。 -/
def ledgerPost : ElementDecl :=
  { id := "e10", kind := .event, name := "post", process := some "p", event := some { id := 10 } }

/-- 照合へ飛ぶリンクスロー `lt`。 -/
def ledgerThrow : ElementDecl :=
  { id := "lt", kind := .linkThrow, process := some "p", link := some "L" }

/-- 照合の前のリンクキャッチ `lc`。 -/
def ledgerCatch : ElementDecl :=
  { id := "lc", kind := .linkCatch, process := some "p", link := some "L" }

/-- 照合のタスク `t2`。 -/
def ledgerCheck : ElementDecl :=
  { id := "t2", kind := .task, name := "Check", process := some "p", task := some { id := 2 } }

/-- 記帳してからリンクを通って照合へ進むモデル。 -/
def ledgerModel : ModelDecl where
  version := "1"
  processes := [{ id := "p", name := "Ledger" }]
  elements := [ledgerEnter, ledgerPost, ledgerThrow, ledgerCatch, ledgerCheck]
  flows := [{ id := "f1", source := "t1", target := "e10" },
    { id := "f2", source := "e10", target := "lt" }, { id := "f3", source := "lc", target := "t2" }]

/-- `ledgerModel` を検査したグラフ。 -/
def ledgerGraph : Graph :=
  { decl := ledgerModel, checksum := ledgerModel.checksum,
    definition := itemsDocument ledgerModel.definition }

end Graph

end Workflow.Model
