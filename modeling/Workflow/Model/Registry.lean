import Workflow.Model.Navigation
import Workflow.Pattern.Match

/-!
# モデルの登録簿と解決

登録簿は版ごとに一つのモデルを持つ。同じ版を同じ指紋で登録し直しても何も変わらず、
違う指紋なら置き換える。

## 文書のモデルの解決

文書の `$modelversion` からモデルを次の順に探す。

1. 版が空でなく、その版が登録されていれば、それ。
2. 版が空でなく、版を正規表現として当たる登録済みの版があれば、そのうち最も大きい
   （バイト順）もの。文書の版をそれに書き換える。
3. 文書の `$workflowgroup` が空でなく、その業務グループを持つ版があれば、そのうち最も大きい
   もの。文書の版をそれに書き換え、移し替え（`Migration`）として知らせる。
4. どれもなければ、版が登録されていない誤り。

業務グループは、コラボレーション図なら非公開のプロセスの、そうでなければ公開のプロセスの
空でない名前である。プロセスがなければ誤り。

## 引いた結果の控え

タスク・タスクのイベントの一覧・イベント・業務グループを引くと、結果を版を含む鍵で控えておき、
次からは控えを返す。モデルを登録し直すか取り除くと、控えはすべて捨てる。

控えを使うのは、引くのに渡したモデルが、その版の登録済みのモデルと同じ指紋を持つときだけで
ある。登録し直す前に受け取った古いモデルで引いても、指紋が違えば控えを読まず書かない。
指紋が同じなら、中身が違っても同じ控えを使う。
-/

namespace Workflow.Model

/-- 文字列を昇順に並べた重複のない列に 1 つ入れる。 -/
def insertSorted (s : String) : List String → List String
  | [] => [s]
  | t :: ts => if s < t then s :: t :: ts else if s == t then t :: ts else t :: insertSorted s ts

/-- 文字列を昇順に並べ、重複を除く。 -/
def sortDistinct (xs : List String) : List String :=
  xs.foldl (fun acc s => insertSorted s acc) []

/-- モデルの業務グループ（昇順）。プロセスがなければ誤り。 -/
def Graph.groups (g : Graph) : Except Error (List String) :=
  if g.processes.isEmpty then .error (.invalidModel g.version "no process defined")
  else
    let kind : ProcessKind := if g.isCollaboration then .privateProcess else .publicProcess
    .ok (sortDistinct ((g.processes.filter fun p => p.kind == kind && !p.name.isEmpty).map (·.name)))

/-- タスク id のタスクが属するプロセス。業務グループと同じ名前の最初のプロセスである。 -/
def Graph.processOfTask? (g : Graph) (taskId : Int) : Option (Option ProcessDecl) :=
  (g.taskElement? taskId).map fun el => g.processes.find? (·.name == g.groupOf el)

/-- 引いた結果の控え。鍵はどれも版を含む。 -/
structure Caches where
  /-- （版、タスク id）のタスク。 -/
  tasks : List ((String × Int) × Task) := []
  /-- （版、タスク id、イベント id）のイベント。 -/
  events : List ((String × Int × Int) × Event) := []
  /-- （版、タスク id）のタスクで起こせるイベント。 -/
  taskEvents : List ((String × Int) × List Event) := []
  /-- 版の業務グループ。 -/
  groups : List (String × List String) := []

/-- 控えのイベントの数：イベントの控えの件数と、タスクのイベントの控えの件数とその長さの和。 -/
def Caches.eventCount (c : Caches) : Nat :=
  c.events.length + c.taskEvents.length + (c.taskEvents.flatMap fun (_, evs) => evs).length

/-- 鍵がまだなければ控える。すでにあれば前の値を残す。 -/
def remember {κ α : Type} [BEq κ] (key : κ) (v : α) (entries : List (κ × α)) : List (κ × α) :=
  if (entries.lookup key).isSome then entries else (key, v) :: entries

/-- モデルの登録簿。 -/
structure Registry where
  /-- 版の昇順に並べた、版とモデルの組。 -/
  models : List (String × Graph) := []
  /-- 引いた結果の控え。 -/
  caches : Caches := {}

/-- 業務グループによる版の移し替え。 -/
structure Migration where
  /-- 文書にあった版（空のこともある）。 -/
  source : String
  /-- 移し替えた先の版。 -/
  target : String
  /-- 業務グループ。 -/
  group : String

/-- 文書から引いた結果：答えか誤り、版を書き換えたあとの文書、移し替えがあればその記録、
控えの増えた登録簿。 -/
structure Lookup (α : Type) where
  result : Except Error α
  doc : Document
  migration : Option Migration
  registry : Registry

/-- 引いた答えからさらに引く。文書と移し替えはそのまま。 -/
def Lookup.andThen {α β : Type} (l : Lookup α) (f : Registry → α → Except Error β × Registry) :
    Lookup β :=
  match l.result with
  | .ok a =>
    let (b, r) := f l.registry a
    { result := b, doc := l.doc, migration := l.migration, registry := r }
  | .error e => { result := .error e, doc := l.doc, migration := l.migration, registry := l.registry }

namespace Registry

/-- 版とモデルの組を、版の昇順を保って入れる。同じ版は置き換える。 -/
def insertModel (v : String) (g : Graph) : List (String × Graph) → List (String × Graph)
  | [] => [(v, g)]
  | (w, h) :: rest =>
    if v < w then (v, g) :: (w, h) :: rest
    else if v == w then (v, g) :: rest
    else (w, h) :: insertModel v g rest

/-- 版のモデル。 -/
def find? (r : Registry) (version : String) : Option Graph :=
  r.models.lookup version

/-- 版のモデル。なければ誤り。 -/
def get (r : Registry) (version : String) : Except Error Graph :=
  match r.find? version with
  | some g => .ok g
  | none => .error (.undefinedModelVersion version)

/-- 登録簿を変え、控えを捨てる。 -/
def publish (models : List (String × Graph)) : Registry :=
  { models }

/-- モデルを登録する。登録して変わったか（同じ版が同じ指紋でなかったか）を返す。 -/
def add (r : Registry) (g : Graph) : Except Error (Bool × Registry) :=
  if Text.isBlankText g.version then .error (.invalidDefinition "model version must not be empty")
  else match r.find? g.version with
    | some old =>
      if old.checksum == g.checksum then .ok (false, r)
      else .ok (true, publish (insertModel g.version g r.models))
    | none => .ok (true, publish (insertModel g.version g r.models))

/-- JSON のモデルを検査して登録する。 -/
def addJson (r : Registry) (v : Json.Value) : Except Error (Bool × Registry) :=
  Graph.ofJson v >>= r.add

/-- 版を取り除く。登録されていない版でも控えは捨てる。 -/
def remove (r : Registry) (version : String) : Registry :=
  publish (r.models.filter fun (v, _) => v != version)

/-- 登録済みの版（昇順）。 -/
def versions (r : Registry) : List String :=
  r.models.map (·.1)

/-- 正規表現 `pattern` がどこかに当たる版（降順）。読めない正規表現はどれにも当たらない。 -/
def versionsMatching (r : Registry) (pattern : String) : List String :=
  match Pattern.parse pattern with
  | .ok n => (r.versions.filter n.isMatch).reverse
  | .error _ => []

/-! ## 控えを通して引く -/

/-- 控えを使えるか：`g` がその版の登録済みのモデルと同じ指紋を持つ。 -/
def usesCaches (r : Registry) (g : Graph) : Bool :=
  match r.find? g.version with
  | some m => m.checksum == g.checksum
  | none => false

/-- 控えを差し替える。 -/
def withCaches (r : Registry) (c : Caches) : Registry :=
  { r with caches := c }

/-- タスク id のタスク。 -/
def findTask (r : Registry) (g : Graph) (taskId : Int) : Option Task × Registry :=
  let key := (g.version, taskId)
  let use := r.usesCaches g
  match (if use then r.caches.tasks.lookup key else none) with
  | some t => (some t, r)
  | none =>
    match g.taskOf? taskId with
    | none => (none, r)
    | some t =>
      (some t, if use then r.withCaches { r.caches with tasks := remember key t r.caches.tasks } else r)

/-- タスク id のタスクで起こせるイベント。タスクがなければ空で、控えない。 -/
def findEvents (r : Registry) (g : Graph) (taskId : Int) : Except Error (List Event) × Registry :=
  let key := (g.version, taskId)
  let use := r.usesCaches g
  match (if use then r.caches.taskEvents.lookup key else none) with
  | some evs => (.ok evs, r)
  | none =>
    match g.taskElement? taskId with
    | none => (.ok [], r)
    | some _ =>
      match g.eventsOfTask taskId with
      | .error e => (.error e, r)
      | .ok evs =>
        (.ok evs,
          if use then r.withCaches { r.caches with taskEvents := remember key evs r.caches.taskEvents }
          else r)

/-- タスク id とイベント id のイベント。見つからなければ控えない。 -/
def findEvent (r : Registry) (g : Graph) (taskId eventId : Int) :
    Except Error (Option Event) × Registry :=
  let key := (g.version, taskId, eventId)
  let use := r.usesCaches g
  match (if use then r.caches.events.lookup key else none) with
  | some ev => (.ok (some ev), r)
  | none =>
    match r.findEvents g taskId with
    | (.error e, r) => (.error e, r)
    | (.ok evs, r) =>
      match evs.find? (·.id == eventId) with
      | none => (.ok none, r)
      | some ev =>
        (.ok (some ev),
          if use then r.withCaches { r.caches with events := remember key ev r.caches.events } else r)

/-- モデルの業務グループ。プロセスがなければ誤りで、控えない。 -/
def findGroups (r : Registry) (g : Graph) : Except Error (List String) × Registry :=
  let use := r.usesCaches g
  match (if use then r.caches.groups.lookup g.version else none) with
  | some gs => (.ok gs, r)
  | none =>
    match g.groups with
    | .error e => (.error e, r)
    | .ok gs =>
      (.ok gs,
        if use then r.withCaches { r.caches with groups := remember g.version gs r.caches.groups }
        else r)

/-- 業務グループを探す一歩：モデルの業務グループを引き、`group` を含めばその版を前に足す。 -/
def groupStep (group : String) (acc : List String × Registry) (p : String × Graph) :
    List String × Registry :=
  match acc.2.findGroups p.2 with
  | (.ok gs, r) => (if gs.contains group then p.2.version :: acc.1 else acc.1, r)
  | (.error _, r) => (acc.1, r)

/-- 業務グループ `group` を持つ版（降順）。登録済みのモデルを版の昇順に引いていく。 -/
def versionsInGroup (r : Registry) (group : String) : List String × Registry :=
  r.models.foldl (groupStep group) ([], r)

/-! ## 文書から引く -/

/-- 文書のモデルを探す。 -/
def resolve (r : Registry) (d : Document) : Lookup Graph :=
  let version := d.modelVersion
  let byVersion : Option (Graph × Document) :=
    if version.isEmpty then none
    else match r.find? version with
      | some g => some (g, d)
      | none => match r.versionsMatching version with
        | v :: _ => (r.find? v).map fun g => (g, d.setModelVersion v)
        | [] => none
  match byVersion with
  | some (g, d) => { result := .ok g, doc := d, migration := none, registry := r }
  | none =>
    let group := d.workflowGroup
    let (candidates, r) := if group.isEmpty then ([], r) else r.versionsInGroup group
    match candidates.head?.bind fun v => (r.find? v).map (v, ·) with
    | some (v, g) =>
      { result := .ok g, doc := d.setModelVersion v,
        migration := some { source := version, target := v, group }, registry := r }
    | none =>
      { result := .error (.undefinedModelVersion version), doc := d, migration := none, registry := r }

/-- 文書のタスク。 -/
def loadTask (r : Registry) (d : Document) : Lookup Task :=
  let taskId := d.taskId
  (r.resolve d).andThen fun r g =>
    match r.findTask g taskId with
    | (some t, r) => (.ok t, r)
    | (none, r) => (.error (.undefinedModelEntry g.version s!"task {taskId}"), r)

/-- 文書のイベント。 -/
def loadEvent (r : Registry) (d : Document) : Lookup Event :=
  let (taskId, eventId) := (d.taskId, d.eventId)
  (r.resolve d).andThen fun r g =>
    match r.findEvent g taskId eventId with
    | (.ok (some e), r) => (.ok e, r)
    | (.ok none, r) => (.error (.undefinedModelEntry g.version s!"{taskId}.{eventId}"), r)
    | (.error e, r) => (.error e, r)

/-- 文書のタスクが属するプロセス。 -/
def loadProcess (r : Registry) (d : Document) : Lookup ProcessDecl :=
  let taskId := d.taskId
  (r.resolve d).andThen fun r g =>
    match g.processOfTask? taskId with
    | some (some p) => (.ok p, r)
    | some none => (.error (.undefinedModelEntry g.version s!"process of task {taskId}"), r)
    | none => (.error (.undefinedModelEntry g.version s!"task {taskId}"), r)

/-- 文書のモデル全体の項目。 -/
def loadDefinition (r : Registry) (d : Document) : Lookup Document :=
  (r.resolve d).andThen fun r g => (.ok g.definition, r)

end Registry

end Workflow.Model
