import Workflow.Kernel.Extension
import Workflow.Kernel.Config

/-!
# 文書の処理

核は文書を、そのタスクで起きたイベントに従って進める。一度の処理の流れは次のとおり。

1. 文書を検査する：項目があり、タスク id とイベント id が正であること。
2. 識別子がなければ作り、処理の識別子を新しくし、元のタスクを `$lasttask` に残し、
   前の処理のアダプタの失敗を消す。
3. 遷移を繰り返す。イベント id が正でなければ保留中のイベントを一つ取り出し、なければ終わる。
   文書のモデルを解決し、同じ遷移（`タスク.イベント`）が二度目ならループである。イベントを
   モデル（なければ連鎖で見つけたイベント）から引き、アダプタとプラグインを動かし、次の要素へ
   進む：タスクなら文書の状態をそのタスクにし、イベントなら保留中に足す。後続イベントとモデルの
   切り替えを施し、遷移を記録に足す。

評価（`eval`）は同じ遷移を、拡張を動かさず文書の写しの上で行い、行き着くタスクを答える。

## 停止性

遷移が続くのは、（タスク id、イベント id）の組が一度も繰り返さないときだけである。イベントは
登録簿（控えを含む）か、前の遷移で連鎖して見つけたものからしか引けないので、組は登録された
モデルの要素と控えのイベントから作れるものに限る。その数の 2 乗より多い燃料を与える。
-/

namespace Workflow.Kernel

open Workflow.Model

/-- 一度の処理の結果。 -/
structure ProcessResult where
  /-- 処理の前のタスク。 -/
  previousTask : Int
  /-- 処理のあとのタスク。 -/
  task : Int
  /-- 処理のあとの版。 -/
  modelVersion : String
  /-- 行った遷移。 -/
  history : List String

/-- 核：登録簿、設定、アダプタ、プラグイン、直前の処理の遷移。 -/
structure Kernel where
  registry : Registry := {}
  config : KernelConfig := {}
  adapters : List Adapter := []
  plugins : List Plugin := []
  history : List String := []

/-- 連鎖で見つけたイベント。鍵は（版、タスク id、イベント id）。 -/
abbrev Chained := List ((String × Int × Int) × Event)

/-- 文書を検査する。 -/
def validateDocument (d : Document) : Option KernelError :=
  if d.isEmpty then some .undefinedDocument
  else if d.taskId ≤ 0 then some (.undefinedTask d.taskId)
  else if d.eventId ≤ 0 then some (.undefinedEvent d.eventId)
  else none

/-- 文書の状態をタスクにする：タスク id、状態名、業務グループ、文書の型。 -/
def enterTask (d : Document) (t : Task) : Document :=
  let d := d.setTaskId t.id
  let d := d.setItem ItemName.workflowStatus (.text t.name)
  let d := if t.group.isEmpty then d else d.setItem ItemName.workflowGroup (.text t.group)
  match t.docType with
  | some ty => d.setItem ItemName.docType (.text ty)
  | none => d

/-- 文書のモデルを解決し、移し替えを知らせる。 -/
def resolveModel (reg : Registry) (d : Document) : Run (Except Error Graph × Document × Registry) := do
  let lk := reg.resolve d
  Runtime.migratedIf lk.migration
  pure (lk.result, lk.doc, lk.registry)

/-- モデルの切り替え：版を変えて解決し、タスクがあればそこへ入り、イベントを置く。 -/
def switchModel (reg : Registry) (d : Document) (sw : ModelSwitch) :
    Run (Document × Registry × Option KernelError) := do
  let (g, d, reg) ← resolveModel reg (d.setModelVersion sw.version)
  match g with
  | .error e => pure (d, reg, some (.model e))
  | .ok g =>
    match sw.task with
    | some tid =>
      match reg.findTask g tid with
      | (some t, reg) => pure ((enterTask d t).setEventId sw.event, reg, none)
      | (none, reg) => pure (d, reg, some (.model (.undefinedModelEntry g.version s!"task {tid}")))
    | none => pure (d.setEventId sw.event, reg, none)

/-- イベントにモデルの切り替えがあれば行う。 -/
def applySwitch (reg : Registry) (d : Document) :
    Option ModelSwitch → Run (Document × Registry × Option KernelError)
  | some sw => switchModel reg d sw
  | none => pure (d, reg, none)

/-- 遷移の記録に一行足す：時刻、版、遷移、次のタスク、あれば注釈。注釈の項目は消す。
件数の上限を超えた古い行は捨てる。 -/
def appendLogEntry (config : KernelConfig) (d : Document) (version transition : String)
    (nextTask : Int) : Run Document := do
  let stamp := (← Runtime.now).rfc3339
  let (removed, d) := d.removeItem config.logCommentItem
  let comment := ((removed.bind List.head?).map ItemValue.display).getD ""
  let entry := s!"{stamp}|{version}|{transition}|{nextTask}"
  let entry := if comment.isEmpty then entry else entry ++ "|" ++ comment
  let log := d.get ItemName.transitionLog ++ [.text entry]
  let log :=
    if config.maxLogEntries > 0 && log.length > config.maxLogEntries then
      log.drop (log.length - config.maxLogEntries)
    else log
  pure (d.setItems ItemName.transitionLog log)

/-- 遷移の名前 `タスク.イベント`。 -/
def transitionName (t e : Int) : String := s!"{t}.{e}"

/-- 遷移の繰り返しに与える燃料。同じ遷移は二度起きず、遷移のタスク id とイベント id は登録された
モデルの要素か控えのイベントから来るので、その数の 2 乗より一つ多ければ足りる。 -/
def transitionFuel (reg : Registry) : Nat :=
  let n := (reg.models.flatMap fun (_, g) => g.decl.elements).length + reg.caches.eventCount
  n * n + 1

/-- 遷移の繰り返しの状態：文書、行った遷移、連鎖で見つけたイベント、登録簿。 -/
structure LoopState where
  doc : Document
  history : List String
  chained : Chained
  /-- 登録簿。モデルは変わらず、引いた結果の控えだけが増える。 -/
  registry : Registry

/-- イベントを引く：モデルにあればそれ、なければ連鎖で見つけたもの。 -/
def lookupEvent (reg : Registry) (g : Graph) (chained : Chained) (t e : Int) :
    Except Error Event × Registry :=
  match reg.findEvent g t e with
  | (.error err, reg) => (.error err, reg)
  | (.ok (some ev), reg) => (.ok ev, reg)
  | (.ok none, reg) =>
    match chained.lookup (g.version, t, e) with
    | some ev => (.ok ev, reg)
    | none => (.error (.undefinedModelEntry g.version (transitionName t e)), reg)

/-- 連鎖で見つけたイベントを覚える。同じ鍵は置き換える。 -/
def rememberChained (chained : Chained) (key : String × Int × Int) (ev : Event) : Chained :=
  (key, ev) :: chained.filter fun (k, _) => k != key

/-- 一つの遷移の結末。 -/
inductive StepOutcome where
  /-- 保留中のイベントがなく、処理を終える。 -/
  | done
  /-- 誤りで止まる。 -/
  | failed (e : KernelError)
  /-- 遷移を一つ行い、続ける。 -/
  | next

/-- 遷移するイベントを決める：イベント id が正ならそのまま、でなければ保留中のイベントを一つ
取り出して置く。取り出すものがなければ、保留中の項目を書き直した文書で終わる（`.inl`）。 -/
def takeEvent (d : Document) : Document ⊕ Document :=
  if d.eventId ≤ 0 then
    match d.popPendingEvent with
    | (some pending, rest) => .inr (rest.setEventId pending)
    | (none, rest) => .inl rest
  else .inr d

/-- 探索した次の要素へ進む：タスクなら文書をそのタスクにし、イベントなら保留中に足し、
（版、遷移のタスク id、イベント id）を鍵に連鎖に覚える。 -/
def applyNext (version : String) (t : Int) (d : Document) (chained : Chained) :
    Option NextElement → Document × Chained
  | some (.task task) => (enterTask d task, chained)
  | some (.event following) =>
    (d.appendPendingEvent following.id, rememberChained chained (version, t, following.id) following)
  | none => (d, chained)

/-- 拡張のあとの遷移の残り：次の要素、後続イベント、モデルの切り替え、記録の一行。
`st` は遷移を記録に足し、イベント id を 0 にした状態。 -/
def finishTransition (config : KernelConfig) (g : Graph) (ev : Event) (t : Int)
    (transition : String) (st : LoopState) : Run (LoopState × StepOutcome) := do
  let current := st.doc
  match ← (Graph.nextElement (fun c => Runtime.evaluate c current) g ev).run with
  | .error err => pure (st, .failed (.model err))
  | .ok next =>
    let (d, chained) := applyNext g.version t st.doc st.chained next
    let d := match ev.followUpEvent with
      | some f => d.appendPendingEvent f
      | none => d
    let (d, registry, err) ← applySwitch st.registry d ev.modelSwitch
    let st := { st with doc := d, chained, registry }
    match err with
    | some err => pure (st, .failed err)
    | none => do
      let d ← appendLogEntry config st.doc g.version transition st.doc.taskId
      pure ({ st with doc := d }, .next)

/-- 解決したモデル `g` で遷移を一つ行う。同じ遷移が二度目ならループとして止め、イベントを
引かず拡張も動かさない。 -/
def runTransition (config : KernelConfig)
    (execute : String → Document → Event → Run (Document × Option KernelError))
    (g : Graph) (st : LoopState) : Run (LoopState × StepOutcome) := do
  let (t, e) := (st.doc.taskId, st.doc.eventId)
  let transition := transitionName t e
  if st.history.contains transition then
    pure (st, .failed (.loopDetected transition st.history))
  else
    match lookupEvent st.registry g st.chained t e with
    | (.error err, registry) => pure ({ st with registry }, .failed (.model err))
    | (.ok ev, registry) => do
      let d := st.doc.setItem ItemName.lastEvent (.int ev.id)
      let d := d.setItem ItemName.lastEventDate (.time (← Runtime.now))
      match ← execute g.version d ev with
      | (d, some err) => pure ({ st with doc := d, registry }, .failed err)
      | (d, none) =>
        finishTransition config g ev t transition
          { st with doc := d.setEventId 0, history := st.history ++ [transition], registry }

/-- 遷移を一つ行う。`execute` は遷移ごとの拡張の処理。 -/
def transitionStep (config : KernelConfig)
    (execute : String → Document → Event → Run (Document × Option KernelError))
    (st : LoopState) : Run (LoopState × StepOutcome) :=
  match takeEvent st.doc with
  | .inl rest => pure ({ st with doc := rest }, .done)
  | .inr d => do
    let (found, d, registry) ← resolveModel st.registry d
    match found with
    | .error e => pure ({ st with doc := d, registry }, .failed (.model e))
    | .ok g => runTransition config execute g { st with doc := d, registry }

/-- 遷移を繰り返す。誤りで止まれば、その時点の状態と誤りを返す。 -/
def transitionLoop (config : KernelConfig)
    (execute : String → Document → Event → Run (Document × Option KernelError)) :
    Nat → LoopState → Run (LoopState × Option KernelError)
  | 0, st => pure (st, none)
  | fuel + 1, st => do
    match ← transitionStep config execute st with
    | (st, .done) => pure (st, none)
    | (st, .failed e) => pure (st, some e)
    | (st, .next) => transitionLoop config execute fuel st

/-- 処理の前に文書を整える：識別子がなければ作り、処理の識別子を新しくし、元のタスクを
`$lasttask` に残し、前の処理のアダプタの失敗を消す。元のタスクと整えた文書を返す。 -/
def prepareDocument (d : Document) : Run (Int × Document) := do
  let mut d := d
  if d.uniqueId.isEmpty then
    d := d.setItem ItemName.uniqueId (.text (← newUniqueId))
  if !d.hasItem ItemName.workitemId then
    d := d.setItem ItemName.workitemId (.text (← newUniqueId))
  d := d.setItem ItemName.transactionId (.text (← newTransactionId))
  let previous := d.taskId
  d := d.setItem ItemName.lastTask (.int previous)
  pure (previous, clearAdapterErrors d)

namespace Kernel

/-- 遷移ごとの拡張の処理：アダプタ、続いてプラグイン。 -/
def executeExtensions (k : Kernel) (version : String) (d : Document) (ev : Event) :
    Run (Document × Option KernelError) := do
  let (d, err) ← executeAdapters k.adapters version d ev
  if err.isSome then return (d, err)
  executePlugins k.plugins d ev

/-- 文書を処理する。文書は誤りで止まってもそこまでの変更を持つ。核は行った遷移を覚える。 -/
def process (k : Kernel) (d : Document) :
    Run (Except KernelError ProcessResult × Document × Kernel) := do
  let k := { k with history := [] }
  if let some e := validateDocument d then return (.error e, d, k)
  let (previous, d) ← prepareDocument d
  let (st, err) ← transitionLoop k.config k.executeExtensions (transitionFuel k.registry)
    { doc := d, history := [], chained := [], registry := k.registry }
  let k := { k with history := st.history, registry := st.registry }
  match err with
  | some e => pure (.error e, st.doc, k)
  | none =>
    pure (.ok { previousTask := previous, task := st.doc.taskId,
                modelVersion := st.doc.modelVersion, history := st.history }, st.doc, k)

/-- 文書の写しで遷移をたどり、行き着くタスクを答える。拡張は動かさない。登録簿の控えは増える。 -/
def eval (k : Kernel) (d : Document) : Run (Except KernelError Int × Kernel) := do
  if let some e := validateDocument d then return (.error e, k)
  let (st, err) ← transitionLoop k.config (fun _ d _ => pure (d, none)) (transitionFuel k.registry)
    { doc := d, history := [], chained := [], registry := k.registry }
  let k := { k with registry := st.registry }
  match err with
  | some e => pure (.error e, k)
  | none => pure (.ok st.doc.taskId, k)

/-- プラグインを登録する：初期化し、同じ名前があれば置き換え、なければ最後に足す。
初期化に失敗すれば核は変わらない。 -/
def registerPlugin (k : Kernel) (p : Plugin) : Run (Kernel × Option KernelError) := do
  match ← p.init with
  | some f => pure (k, some (.plugin p.name f))
  | none => pure ({ k with plugins := replaceOrAppend (·.name) p k.plugins }, none)

/-- 工場でプラグインを作って登録する。 -/
def registerByName (k : Kernel) (fs : Factories) (name : String) :
    Run (Kernel × Option KernelError) :=
  match fs.create name with
  | .error e => pure (k, some e)
  | .ok p => k.registerPlugin p

/-- 名前の並びのプラグインを順に登録し、最初の誤りで止める。 -/
def registerNames (fs : Factories) : Kernel → List String → Run (Kernel × Option KernelError)
  | k, [] => pure (k, none)
  | k, name :: rest => do
    match ← k.registerByName fs name with
    | (k, some e) => pure (k, some e)
    | (k, none) => registerNames fs k rest

/-- 設定にあるプラグインを登録する。 -/
def registerConfigured (k : Kernel) (fs : Factories) : Run (Kernel × Option KernelError) :=
  registerNames fs k k.config.plugins

/-- プラグインの登録を外す。 -/
def unregisterPlugin (k : Kernel) (name : String) : Except KernelError Kernel :=
  if k.plugins.any (·.name == name) then .ok { k with plugins := k.plugins.eraseP (·.name == name) }
  else .error (.pluginNotRegistered name)

/-- プラグインの登録をすべて外す。 -/
def unregisterAllPlugins (k : Kernel) : Kernel := { k with plugins := [] }

/-- プラグインの名前（登録順）。 -/
def pluginNames (k : Kernel) : List String := k.plugins.map (·.name)

/-- アダプタを登録する：同じ id があれば置き換え、なければ最後に足す。 -/
def registerAdapter (k : Kernel) (a : Adapter) : Kernel :=
  { k with adapters := replaceOrAppend (·.id) a k.adapters }

/-- アダプタの id（登録順）。 -/
def adapterIds (k : Kernel) : List String := k.adapters.map (·.id)

end Kernel

end Workflow.Kernel
