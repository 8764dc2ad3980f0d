import Mathlib
import Workflow.Proofs.GroupFallback

/-!
# 文書のタスクが属するプロセス

`Registry.loadProcess` は、文書のモデルを解決し、文書のタスク id のタスク要素を引き、その要素の
業務グループ（属するプロセスの名前、`Graph.groupOf`）と同じ名前の最初のプロセスを返す。要素の
属するプロセス（`Graph.owner?`）を id で引き直すのではない。

1. 答えは、属するプロセスの名前を持つ最初のプロセスである。属するプロセスがなければ、名前が空の
   最初のプロセスである。どちらもなければ、タスクのプロセスがないという誤りになる。
2. プロセスの名前が互いに異なり、どれも空でなければ（`Graph.NamesProcesses`）、答えは属する
   プロセスそのもので、属するプロセスがなければ誤りになる。

二つをまとめたのが `loadProcess_owner` である。名前の重なるプロセスが属するプロセスより前に
あれば、そちらが返る（`duplicate_name_loads_first_process`）。
-/

namespace Workflow.Model

namespace Graph

variable {g : Graph}

/-- プロセスの名前がプロセスを決める：名前は互いに異なり、どれも空でない。 -/
def NamesProcesses (g : Graph) : Prop :=
  (g.processes.map (·.name)).Nodup ∧ ∀ p ∈ g.processes, p.name ≠ ""

/-- 名前が互いに異なれば、あるプロセスの名前で探すと、そのプロセスが見つかる。 -/
theorem find?_name_of_nodup {p : ProcessDecl} (hn : (g.processes.map (·.name)).Nodup)
    (hp : p ∈ g.processes) : g.processes.find? (·.name == p.name) = some p := by
  obtain ⟨q, hq⟩ : ∃ q, g.processes.find? (·.name == p.name) = some q :=
    Option.isSome_iff_exists.mp (List.find?_isSome.mpr ⟨p, hp, by simp⟩)
  have hqn : q.name = p.name := by simpa using List.find?_some hq
  rw [hq, List.inj_on_of_nodup_map hn (List.mem_of_find?_eq_some hq) hp hqn]

/-- どのプロセスの名前も空でなければ、空の名前で探しても見つからない。 -/
theorem find?_empty_name (h : ∀ p ∈ g.processes, p.name ≠ "") :
    g.processes.find? (·.name == "") = none := by
  rw [List.find?_eq_none]
  intro p hp
  simpa using h p hp

/-- タスク id のタスク要素があれば、タスクのプロセスは、その要素の業務グループと同じ名前の
最初のプロセスである。 -/
theorem processOfTask?_of_taskElement? {t : Int} {el : ElementDecl} (hel : g.taskElement? t = some el) :
    g.processOfTask? t = some (g.processes.find? (·.name == ((g.owner? el).map (·.name)).getD "")) := by
  rw [processOfTask?, hel, Option.map_some, groupOf_eq_owner]

end Graph

namespace Registry

variable {r : Registry} {d : Document} {g : Graph}

/-- 文書のモデルが解決できれば、タスクのプロセスの答えは、そのモデルでタスクのプロセスを引いた
答えである。 -/
theorem loadProcess_result (hres : (r.resolve d).result = .ok g) :
    (r.loadProcess d).result = match g.processOfTask? d.taskId with
      | some (some p) => .ok p
      | some none => .error (.undefinedModelEntry g.version s!"process of task {d.taskId}")
      | none => .error (.undefinedModelEntry g.version s!"task {d.taskId}") := by
  unfold loadProcess Lookup.andThen
  split
  · next g' hg' =>
    rw [hres] at hg'
    cases hg'
    dsimp only
    rcases g.processOfTask? d.taskId with _ | _ | _ <;> rfl
  · next e he =>
    rw [hres] at he
    cases he

/-- **タスクのプロセス。** 文書のモデル `g` が解決でき、文書のタスク id のタスク要素 `el` が
あれば、答えは、`el` の属するプロセスの名前（属するプロセスがなければ空の名前）を持つ最初の
プロセスである。プロセスの名前が互いに異なり、どれも空でなければ、答えは属するプロセス
そのもので、属するプロセスがなければ、タスクのプロセスがないという誤りになる。 -/
theorem loadProcess_owner {el : ElementDecl} (hres : (r.resolve d).result = .ok g)
    (hel : g.taskElement? d.taskId = some el) :
    (∀ p, (r.loadProcess d).result = .ok p ↔
        g.processes.find? (·.name == ((g.owner? el).map (·.name)).getD "") = some p) ∧
      (g.NamesProcesses →
        (∀ p, (r.loadProcess d).result = .ok p ↔ g.owner? el = some p) ∧
        (g.owner? el = none →
          (r.loadProcess d).result = .error (.undefinedModelEntry g.version s!"process of task {d.taskId}"))) := by
  -- 答えは、業務グループの名前で探したプロセスか、見つからなければ誤り
  have hres' : (r.loadProcess d).result =
      ((g.processes.find? (·.name == ((g.owner? el).map (·.name)).getD "")).map Except.ok).getD
        (.error (.undefinedModelEntry g.version s!"process of task {d.taskId}")) := by
    rw [loadProcess_result hres, Graph.processOfTask?_of_taskElement? hel]
    cases g.processes.find? _ <;> rfl
  have hok : ∀ p, (r.loadProcess d).result = .ok p ↔
      g.processes.find? (·.name == ((g.owner? el).map (·.name)).getD "") = some p := by
    intro p
    rw [hres']
    cases g.processes.find? _ with
    | some q => simp
    | none => simp
  refine ⟨hok, fun ⟨hn, hne⟩ => ⟨fun p => ?_, fun ho => ?_⟩⟩
  · rw [hok p]
    cases ho : g.owner? el with
    | some o =>
      -- 属するプロセスの名前で探すと、名前が互いに異なるので、属するプロセスそのものが見つかる
      rw [Option.map_some, Option.getD_some, Graph.find?_name_of_nodup hn (Graph.owner?_mem ho)]
    | none => rw [Option.map_none, Option.getD_none, Graph.find?_empty_name hne]
  · rw [hres', ho, Option.map_none, Option.getD_none, Graph.find?_empty_name hne]
    rfl

end Registry

/-! ## 例：名前の重なる二つのプロセス -/

/-- プロセス `p2` に属するタスク 100。 -/
def salesDraftTask : ElementDecl :=
  { id := "t100", kind := .task, name := "Draft", process := some "p2", task := some { id := 100 } }

/-- 名前 `Sales` のプロセスが二つある版 `1.0` の宣言。 -/
def salesModel : ModelDecl where
  version := "1.0"
  processes := [{ id := "p1", name := "Sales" }, { id := "p2", name := "Sales" }]
  elements := [salesDraftTask]

/-- `salesModel` のモデル。 -/
def salesGraph : Graph where
  decl := salesModel
  checksum := "c"
  definition := { items := [] }

/-- `salesGraph` だけを登録した登録簿。 -/
def salesRegistry : Registry := Registry.publish [("1.0", salesGraph)]

/-- 版 `1.0` のタスク 100 にいる文書。 -/
def draftDocument : Document :=
  { items := [(ItemName.modelVersion, [.text "1.0"]), (ItemName.taskId, [.int 100])] }

/-- 名前の重なるプロセスでは、タスクの属する `p2` ではなく、同じ名前で前にある `p1` が返る。 -/
theorem duplicate_name_loads_first_process :
    (salesRegistry.resolve draftDocument).result = .ok salesGraph ∧
      salesGraph.taskElement? draftDocument.taskId = some salesDraftTask ∧
      ((∀ p, (salesRegistry.loadProcess draftDocument).result = .ok p ↔
          salesGraph.processes.find? (·.name == ((salesGraph.owner? salesDraftTask).map (·.name)).getD "") =
            some p) ∧
        (salesGraph.NamesProcesses →
          (∀ p, (salesRegistry.loadProcess draftDocument).result = .ok p ↔ salesGraph.owner? salesDraftTask = some p) ∧
          (salesGraph.owner? salesDraftTask = none →
            (salesRegistry.loadProcess draftDocument).result =
              .error (.undefinedModelEntry salesGraph.version s!"process of task {draftDocument.taskId}")))) ∧
      salesGraph.owner? salesDraftTask = some { id := "p2", name := "Sales" } ∧
      (salesRegistry.loadProcess draftDocument).result = .ok { id := "p1", name := "Sales" } := by
  have hv : draftDocument.modelVersion = "1.0" := by decide +kernel
  have ht : draftDocument.taskId = 100 := by decide +kernel
  have hres : (salesRegistry.resolve draftDocument).result = .ok salesGraph := by
    rw [Registry.resolve_of_find? (by rw [hv]; decide) (by rw [hv]; rfl)]
  have hel : salesGraph.taskElement? draftDocument.taskId = some salesDraftTask := by
    rw [ht]
    rfl
  refine ⟨hres, hel, Registry.loadProcess_owner hres hel, rfl, ?_⟩
  rw [Registry.loadProcess_result hres, Graph.processOfTask?_of_taskElement? hel]
  rfl

end Workflow.Model
