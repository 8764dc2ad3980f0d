import Workflow.Model.Graph

/-!
# 次の要素の探索

イベントのあとに文書が進む先を、シーケンスフローをたどって求める。

* **止まる要素** はタスク、イベント、並行ゲートウェイである。ほかの要素（開始・終了・
  中間スローイベント、排他・包含・イベントベースのゲートウェイ、リンクキャッチ）は素通りする。
  リンクスローは同じリンク名のリンクキャッチへ飛ぶ。
* 要素から出るフローのうち、宣言順で最初に条件の成り立つものだけをたどる。どれも成り立たなければ、
  条件のないフローをすべてたどる。
* 止まる要素が二つ以上見つかれば曖昧である。並行ゲートウェイは主流（タスクへ向かうフロー、
  なければ条件の成り立つ最初のフロー）の先へ進む。

条件の評価は呼び手が与える。評価は状態を持ってよいので（式の控えや記録）、探索は任意の
モナド `m` の中で書く。

タスクに届くイベントの一覧（`eventsOfTask`）と、開始イベントから届くタスク（`startTasks`）も
ここに置く。

## 停止性

どの探索も、要素を訪問済みの集合に加えてからでないと先へ進まない。訪問済みの集合は要素の id
からなるので、深さや繰り返しの回数は要素の数で抑えられる。関数には燃料 `fuel` を渡し、
要素の数より一つ多い燃料を与える（`startTasks` はフローの数も足す）。燃料が尽きる前に
探索は終わる。
-/

namespace Workflow.Model

open Workflow.Json

/-- 探索が止まる要素か：タスク、イベント、並行ゲートウェイ。 -/
def ElementDecl.isStop (el : ElementDecl) : Bool :=
  match el.kind with
  | .task | .event => true
  | .gateway => el.gateway == some .parallel
  | _ => false

/-- 並行ゲートウェイか。 -/
def ElementDecl.isParallelGateway (el : ElementDecl) : Bool :=
  el.kind == .gateway && el.gateway == some .parallel

namespace Graph

/-- 要素 `start` からの探索で止まる要素が二つ以上見つかったときの誤り。 -/
def ambiguousFlow (g : Graph) (start : String) (many : List ElementDecl) : Error :=
  let ids := ", ".intercalate (many.map (·.id))
  .invalidModel g.version
    s!"ambiguous sequence flow from '{start}': {many.length} reachable elements ({ids})"

/-- イベント `ev` のあとに文書が進む要素 `next` の実体：タスクならその実体、イベントなら `ev` の
タスク id を持つ実体。 -/
def nextEntity? (g : Graph) (ev : Event) (next : ElementDecl) : Option NextElement :=
  match next.kind with
  | .task => (g.taskEntity? next).map .task
  | .event => (next.eventEntity? ev.taskId).map .event
  | _ => none

/-- 探索に与える燃料：要素の数より一つ多い。 -/
def searchFuel (g : Graph) : Nat := g.decl.elements.length + 1

/-- リンクスローの行き先のリンクキャッチ。 -/
def catchOf? (g : Graph) (el : ElementDecl) : Option ElementDecl :=
  el.link.bind g.linkCatch?

section Navigation

variable {m : Type → Type} [Monad m] (judge : String → m (Except Error Bool)) (g : Graph)

/-- フロー `f` の条件 `c` が成り立つか。評価の誤りはそのフローを名指すモデルの誤りにする。 -/
def conditionHolds (f : FlowDecl) (c : String) : ExceptT Error m Bool := do
  match ← ExceptT.lift (judge c) with
  | .ok b => pure b
  | .error e =>
    let detail := e.message
    throw (.invalidModel g.version s!"invalid condition on sequence flow '{f.id}': {detail}")

/-- 宣言順で最初に条件の成り立つフロー。 -/
def firstHolding : List FlowDecl → ExceptT Error m (Option FlowDecl)
  | [] => pure none
  | f :: fs =>
    match f.activeCondition with
    | some c => do
      if ← conditionHolds judge g f c then pure (some f) else firstHolding fs
    | none => firstHolding fs

/-- 要素からたどるフロー：条件の成り立つ最初のもの、なければ条件のないものすべて。 -/
def takenFlows (node : String) : ExceptT Error m (List FlowDecl) := do
  let flows := g.outgoing node
  match ← firstHolding judge g flows with
  | some f => pure [f]
  | none => pure (flows.filter fun f => f.activeCondition.isNone)

/-- フローの行き先を一つ訪ねる。組は見つけた要素（見つけた順）と訪問済みの id。訪問済みでなければ
訪問済みに加え、止まる要素なら見つけた要素に足し、リンクスローならリンクキャッチから、ほかの
要素ならそこから、`recur` で探索を続ける。 -/
def visitTarget
    (recur : String → List ElementDecl × List String →
      ExceptT Error m (List ElementDecl × List String))
    (acc : List ElementDecl × List String) (f : FlowDecl) :
    ExceptT Error m (List ElementDecl × List String) :=
  let (found, visited) := acc
  match g.element? f.target with
  | none => pure (found, visited)
  | some t =>
    if visited.contains t.id then pure (found, visited)
    else
      let visited := t.id :: visited
      if t.isStop then
        pure (if found.any (·.id == t.id) then found else found ++ [t], visited)
      else if t.kind == .linkThrow then
        match g.catchOf? t with
        | some c =>
          if visited.contains c.id then pure (found, visited)
          else recur c.id (found, c.id :: visited)
        | none => pure (found, visited)
      else recur t.id (found, visited)

/-- 要素から届く止まる要素を集める。組は見つけた要素（見つけた順）と訪問済みの id。 -/
def collect : Nat → String → List ElementDecl × List String →
    ExceptT Error m (List ElementDecl × List String)
  | 0, _, acc => pure acc
  | fuel + 1, node, acc => do
    let flows ← takenFlows judge g node
    flows.foldlM (g.visitTarget (collect fuel)) acc

/-- 並行ゲートウェイから出るフローの主流の行き先：タスクへ向かうフローがあればそのタスク、
なければ条件がないか成り立つ最初のフローの行き先。 -/
def mainFlow (gw : ElementDecl) : ExceptT Error m (Option ElementDecl) :=
  go (g.outgoing gw.id) none
where
  /-- フローを宣言順に見る。`first` は条件を満たした最初の行き先。 -/
  go : List FlowDecl → Option ElementDecl → ExceptT Error m (Option ElementDecl)
    | [], first => pure first
    | f :: fs, first =>
      match g.element? f.target with
      | none => go fs first
      | some t =>
        if t.kind == .task then pure (some t)
        else if first.isSome then go fs first
        else do
          let qualifies ← match f.activeCondition with
            | none => pure true
            | some c => conditionHolds judge g f c
          go fs (if qualifies then some t else none)

/-- 並行ゲートウェイを主流に沿って越える。答えが決まれば `.inl`、そこから探索を続ける要素が
あれば `.inr`（その id と訪問済みの id）。 -/
def crossParallel : Nat → ElementDecl → List String →
    ExceptT Error m (Option ElementDecl ⊕ (String × List String))
  | 0, _, _ => pure (.inl none)
  | fuel + 1, next, visited =>
    if !next.isParallelGateway then pure (.inl (some next))
    else do
      match ← mainFlow judge g next with
      | none => pure (.inl none)
      | some t =>
        if visited.contains t.id then pure (.inl none)
        else if t.isStop then crossParallel fuel t (t.id :: visited)
        else pure (.inr (t.id, t.id :: visited))

/-- 止まる要素がただ一つ見つかったあと。並行ゲートウェイなら主流に沿って越え、そこから探索を
続ける要素があれば `resume` で続ける。 -/
def settle (resume : String → List String → ExceptT Error m (Option ElementDecl))
    (single : ElementDecl) (visited : List String) : ExceptT Error m (Option ElementDecl) := do
  match ← crossParallel judge g g.searchFuel single visited with
  | .inl r => pure r
  | .inr (next, visited) => resume next visited

/-- 要素 `start` から進む先の止まる要素。並行ゲートウェイは越えた先を答える。 -/
def resolveFrom (start : String) : ExceptT Error m (Option ElementDecl) :=
  loop g.searchFuel start [start]
where
  /-- `current` から止まる要素を集め、一つなら並行ゲートウェイを越える。 -/
  loop : Nat → String → List String → ExceptT Error m (Option ElementDecl)
    | 0, _, _ => pure none
    | fuel + 1, current, visited => do
      let (found, visited) ← collect judge g g.searchFuel current ([], visited)
      match found with
      | [] => pure none
      | [single] => settle judge g (loop fuel) single visited
      | many => throw (g.ambiguousFlow start many)

/-- イベント `ev` のあとに文書が進む先。タスクならその実体、イベントなら `ev` のタスク id を
持つイベントの実体。`ev` の要素がモデルになければ項目の欠落である。 -/
def nextElement (ev : Event) : ExceptT Error m (Option NextElement) := do
  if (g.element? ev.elementId).isNone then
    throw (.undefinedModelEntry g.version s!"{ev.taskId}.{ev.id}")
  let next ← resolveFrom judge g ev.elementId
  pure (next.bind (g.nextEntity? ev))

end Navigation

/-! ## タスクに届くイベント -/

/-- イベントを集める歩みで、フローの行き先を一つ訪ねる。組は次に調べる要素・訪問済みの id・
見つけたイベント。イベントは集め、タスクでは止まり、リンクスローはリンクキャッチへ飛び、ほかの
要素は次に調べる。 -/
def visitEvent (g : Graph) (acc : List String × List String × List ElementDecl) (f : FlowDecl) :
    List String × List String × List ElementDecl :=
  let (stack, visited, found) := acc
  match g.element? f.target with
  | none => (stack, visited, found)
  | some t =>
    if visited.contains t.id then (stack, visited, found)
    else
      let visited := t.id :: visited
      match t.kind with
      | .event => (stack, visited, found ++ [t])
      | .task => (stack, visited, found)
      | .linkThrow =>
        match g.catchOf? t with
        | some c =>
          if visited.contains c.id then (stack, visited, found)
          else (c.id :: stack, c.id :: visited, found)
        | none => (stack, visited, found)
      | _ => (t.id :: stack, visited, found)

/-- タスクから、タスクとイベントの手前まで、止まらない要素を通って届くイベントを集める。
`stack` は次に調べる要素（先頭から取る）。 -/
def walkEvents (g : Graph) : Nat → List String → List String → List ElementDecl → List ElementDecl
  | 0, _, _, found => found
  | _, [], _, found => found
  | fuel + 1, node :: stack, visited, found =>
    let (stack, visited, found) := (g.outgoing node).foldl g.visitEvent (stack, visited, found)
    walkEvents g fuel stack visited found

/-- タスクから出て届くイベント（要素の宣言順）。 -/
def outgoingEvents (g : Graph) (task : ElementDecl) : List ElementDecl :=
  let found := g.walkEvents g.searchFuel [task.id] [task.id] []
  g.decl.elements.filter fun el => found.any (·.id == el.id)

/-- 初期イベントか：入るフローがないか、ただ一つで開始イベントから来るイベント。 -/
def isInitEvent (g : Graph) (el : ElementDecl) : Bool :=
  el.kind == .event &&
    match g.incoming el.id with
    | [] => true
    | [single] => match g.element? single.source with
      | some s => s.kind == .startEvent
      | none => false
    | _ => false

/-- さかのぼる探索で、入るフロー `f` の出どころを一つ訪ねる。初期イベントなら（まだ集めていなければ）
集め、初期イベントでないイベントなら、さかのぼってきた道筋 `path` にあれば循環の誤り、なければ
`recur` でそこからさかのぼる。ほかの要素では止まる。 -/
def visitInit (g : Graph)
    (recur : String → List String → List ElementDecl → Except Error (List ElementDecl))
    (path : List String) (found : List ElementDecl) (f : FlowDecl) :
    Except Error (List ElementDecl) :=
  match g.element? f.source with
  | none => .ok found
  | some s =>
    if g.isInitEvent s then .ok (if found.any (·.id == s.id) then found else found ++ [s])
    else if s.kind == .event then
      if path.contains s.id then .error (.invalidModel g.version s!"cyclic event chain at '{s.id}'")
      else recur s.id (s.id :: path) found
    else .ok found

/-- 要素へ入るフローをさかのぼり、イベントの連なりの先頭にある初期イベントを集める。
`path` はさかのぼってきたイベントで、同じイベントに戻れば循環である。 -/
def collectInit (g : Graph) : Nat → String → List String → List ElementDecl →
    Except Error (List ElementDecl)
  | 0, _, _, found => .ok found
  | fuel + 1, node, path, found =>
    (g.incoming node).foldlM (g.visitInit (g.collectInit fuel) path) found

/-- 要素の手前にある初期イベント。 -/
def initEvents (g : Graph) (node : ElementDecl) : Except Error (List ElementDecl) :=
  g.collectInit g.searchFuel node.id [node.id] []

/-- 要素の列から、同じ id の二度目以降を除く。 -/
def distinctById : List ElementDecl → List String → List ElementDecl
  | [], _ => []
  | el :: rest, seen =>
    if seen.contains el.id then distinctById rest seen else el :: distinctById rest (el.id :: seen)

/-- タスク id のタスクで起こせるイベント：出ていくイベント（宣言順）のあとに初期イベント。
どのイベントの実体もそのタスク id を持つ。タスクがなければ空。 -/
def eventsOfTask (g : Graph) (taskId : Int) : Except Error (List Event) :=
  match g.taskElement? taskId with
  | none => .ok []
  | some t => do
    let init ← g.initEvents t
    pure ((distinctById (g.outgoingEvents t ++ init) []).filterMap fun el => el.eventEntity? taskId)

/-- タスク id とイベント id のイベント。 -/
def eventOf? (g : Graph) (taskId eventId : Int) : Except Error (Option Event) := do
  pure ((← g.eventsOfTask taskId).find? (·.id == eventId))

/-- タスク id のタスクの実体。 -/
def taskOf? (g : Graph) (taskId : Int) : Option Task :=
  (g.taskElement? taskId).bind g.taskEntity?

/-! ## 開始タスク -/

/-- 開始タスクを探す歩みで、フローの行き先を一つ訪ねる。組は次に調べる要素と届いたタスクの id。
タスクは集め、終了イベントでは止まり、ほかの要素は次に調べる。 -/
def visitStart (g : Graph) (acc : List String × List String) (f : FlowDecl) :
    List String × List String :=
  let (stack, ids) := acc
  match g.element? f.target with
  | none => (stack, ids)
  | some t =>
    match t.kind with
    | .task => (stack, t.id :: ids)
    | .endEvent => (stack, ids)
    | _ => (t.id :: stack, ids)

/-- 開始イベントから、タスクと終了イベントの手前まで進み、届いたタスクの id を集める。 -/
def walkStart (g : Graph) : Nat → List String → List String → List String → List String
  | 0, _, _, ids => ids
  | _, [], _, ids => ids
  | fuel + 1, node :: stack, visited, ids =>
    if visited.contains node then g.walkStart fuel stack visited ids
    else
      let (stack, ids) := (g.outgoing node).foldl g.visitStart (stack, ids)
      g.walkStart fuel stack (node :: visited) ids

/-- グループの開始イベントから届くタスク（要素の宣言順）。 -/
def startTasks (g : Graph) (group : String) : List Task :=
  let starts := (g.decl.elements.filter fun el => el.kind == .startEvent && g.groupOf el == group).map
    (·.id)
  let ids := g.walkStart (starts.length + g.decl.flows.length + 1) starts.reverse [] []
  (g.decl.elements.filter fun el => ids.contains el.id).filterMap g.taskEntity?

end Graph

end Workflow.Model
