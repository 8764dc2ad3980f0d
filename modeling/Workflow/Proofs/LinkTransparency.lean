import Mathlib
import Workflow.Proofs.NextElement

/-!
# リンクを付け替えたモデル

リンクスロー `lt` とそのリンクキャッチ `lc` があるモデルで、`lt` へ入るフローをすべて `lc` へ
付け替えたグラフ（`retarget`）を考える。要素の列は変わらず、フローの行き先だけが変わる。

* タスクから出ていくイベント（`outgoingEvents`）は変わらない（`outgoingEvents_retarget`）。
  歩みはリンクスローからリンクキャッチへ飛ぶので、付け替えたグラフの歩みは、もとの歩みの訪問済み
  から `lt` を除いたものを持ってそのままなぞる。
* 開始タスク（`startTasks`）は、グループの開始イベントからの歩みが `lt` に届かなければ変わらない
  （`startTasks_retarget`）。この歩みはリンクスローを飛ばずにそのまま進むので、`lt` に届けば
  `lt` から出るフローをたどり、付け替えたグラフでは `lc` から出るフローをたどる。
* 次の要素（`nextElement`）は、並行ゲートウェイから `lt` へ入るフローがなければ、どの条件の
  評価でも変わらない（`nextElement_retarget`）。探索（`collect`）はリンクスローから
  リンクキャッチへ飛ぶが、並行ゲートウェイを越えたあとの続きは主流の行き先そのものから探索する。
-/

namespace Workflow.Model

/-- フローの行き先が `src` なら `dst` に付け替える。 -/
def FlowDecl.retarget (src dst : String) (f : FlowDecl) : FlowDecl :=
  if f.target = src then { f with target := dst } else f

namespace FlowDecl

variable (a b : String)

@[simp] theorem source_retarget (f : FlowDecl) : (f.retarget a b).source = f.source := by
  unfold retarget
  split <;> rfl

@[simp] theorem id_retarget (f : FlowDecl) : (f.retarget a b).id = f.id := by
  unfold retarget
  split <;> rfl

@[simp] theorem activeCondition_retarget (f : FlowDecl) :
    (f.retarget a b).activeCondition = f.activeCondition := by
  unfold retarget
  split <;> rfl

/-- `a` へ入らないフローは付け替えで変わらない。 -/
theorem retarget_of_ne {f : FlowDecl} (h : f.target ≠ a) : f.retarget a b = f := by
  simp [retarget, h]

end FlowDecl

namespace Graph

/-- `src` へ入るフローをすべて `dst` へ付け替えたグラフ。 -/
def retarget (g : Graph) (src dst : String) : Graph :=
  { g with decl := { g.decl with flows := g.decl.flows.map (FlowDecl.retarget src dst) } }

/-- 開始タスクを探す歩みが、グループ `group` の開始イベントから着く要素の id。開始イベントと、
着いた要素から出るフローの行き先のうちタスクでも終了イベントでもないもの。 -/
inductive StartWalk (g : Graph) (group : String) : String → Prop
  | start {el : ElementDecl} : el ∈ g.decl.elements → el.kind = .startEvent → g.groupOf el = group →
      StartWalk g group el.id
  | step {x : String} {f : FlowDecl} {t : ElementDecl} : StartWalk g group x → f ∈ g.outgoing x →
      g.element? f.target = some t → t.kind ≠ .task → t.kind ≠ .endEvent → StartWalk g group t.id

/-! ## 付け替えで変わらないもの -/

section Retarget

variable (g : Graph) (a b : String)

@[simp] theorem retarget_elements : (g.retarget a b).decl.elements = g.decl.elements := rfl

@[simp] theorem retarget_flows_length : (g.retarget a b).decl.flows.length = g.decl.flows.length := by
  simp [retarget]

@[simp] theorem version_retarget : (g.retarget a b).version = g.version := rfl

@[simp] theorem element?_retarget : (g.retarget a b).element? = g.element? := rfl

@[simp] theorem catchOf?_retarget : (g.retarget a b).catchOf? = g.catchOf? := rfl

@[simp] theorem groupOf_retarget : (g.retarget a b).groupOf = g.groupOf := rfl

@[simp] theorem taskEntity?_retarget : (g.retarget a b).taskEntity? = g.taskEntity? := rfl

@[simp] theorem nextEntity?_retarget : (g.retarget a b).nextEntity? = g.nextEntity? := rfl

@[simp] theorem searchFuel_retarget : (g.retarget a b).searchFuel = g.searchFuel := rfl

@[simp] theorem visitStart_retarget : (g.retarget a b).visitStart = g.visitStart := rfl

/-- 付け替えたグラフで要素から出るフローは、もとのフローを付け替えたものである。 -/
theorem outgoing_retarget (x : String) :
    (g.retarget a b).outgoing x = (g.outgoing x).map (FlowDecl.retarget a b) := by
  simp only [outgoing, retarget, List.filter_map]
  congr 1
  exact List.filter_congr fun f _ => by simp

end Retarget

/-- 訪問済み `V` に `a` があれば `b` もある。リンクスローを訪ねた歩みは、そのリンクキャッチも
訪ねている。 -/
def CatchVisited (a b : String) (V : List String) : Prop := a ∈ V → b ∈ V

/-- `a` でない id を訪ねても、比べ方は保たれる。 -/
theorem CatchVisited.cons {a b x : String} {V : List String} (hV : CatchVisited a b V)
    (hx : x ≠ a) : CatchVisited a b (x :: V) := fun h =>
  List.mem_cons_of_mem _ (hV ((List.mem_cons.mp h).resolve_left (Ne.symm hx)))

/-- `a` でない id を先に足してから `a` を除いても同じである。 -/
@[simp] theorem filter_cons_of_ne {a x : String} {V : List String} (hx : x ≠ a) :
    (x :: V).filter (· != a) = x :: V.filter (· != a) := by
  simp [hx]

/-- イベントを集める歩みの状態から、訪問済みの `a` を除く。 -/
def forgetVisited (a : String) (acc : List String × List String × List ElementDecl) :
    List String × List String × List ElementDecl :=
  (acc.1, acc.2.1.filter (· != a), acc.2.2)

/-- 探索の状態が付け替えの比べ方に合う：見つけた要素はモデルの要素で、`a` を訪ねていれば `b` も
訪ねている。 -/
def SearchState (g : Graph) (a b : String) (acc : List ElementDecl × List String) : Prop :=
  acc.1 ⊆ g.decl.elements ∧ CatchVisited a b acc.2

/-- 探索の状態から、訪問済みの `a` を除く。 -/
def dropVisited (a : String) (acc : List ElementDecl × List String) :
    List ElementDecl × List String :=
  (acc.1, acc.2.filter (· != a))

/-- 並行ゲートウェイを越えた結果から、続きの探索の訪問済みの `a` を除く。 -/
def dropCrossing (a : String) :
    Option ElementDecl ⊕ (String × List String) → Option ElementDecl ⊕ (String × List String)
  | .inl r => .inl r
  | .inr (next, V) => .inr (next, V.filter (· != a))

/-! ## 開始タスク -/

section StartTasks

variable {g : Graph} {group : String}

/-- 歩みが着いた要素からのフローの訪問は、歩みが着く要素だけを積む。 -/
theorem foldl_visitStart_walk {x : String} (hx : g.StartWalk group x) :
    ∀ (flows : List FlowDecl), (∀ f ∈ flows, f ∈ g.outgoing x) →
      ∀ (acc : List String × List String), (∀ y ∈ acc.1, g.StartWalk group y) →
        ∀ y ∈ (flows.foldl g.visitStart acc).1, g.StartWalk group y
  | [], _, _, hacc => hacc
  | f :: fs, hfs, (stack, ids), hacc => by
    refine foldl_visitStart_walk hx fs (fun f' hf' => hfs f' (List.mem_cons_of_mem f hf')) _ ?_
    unfold visitStart
    cases ht : g.element? f.target with
    | none => exact hacc
    | some t =>
      simp only
      -- タスクと終了イベントは積まない。ほかの行き先は歩みが着く要素である。
      split
      · exact hacc
      · exact hacc
      · next hk1 hk2 =>
        intro y hy
        rcases List.mem_cons.mp hy with rfl | hy
        · exact .step hx (hfs f List.mem_cons_self) ht (fun h => hk1 h) (fun h => hk2 h)
        · exact hacc y hy

variable (hnd : (g.decl.elements.map (·.id)).Nodup) {lt : ElementDecl}
  (hlt : lt ∈ g.decl.elements) (hk : lt.kind = .linkThrow) (hwalk : ¬ g.StartWalk group lt.id)
include hnd hlt hk hwalk

/-- 歩みが `lt` に届かなければ、歩みが着く要素から出るフローは付け替えで変わらない。 -/
theorem outgoing_retarget_of_walk (b : String) {x : String} (hx : g.StartWalk group x) :
    (g.retarget lt.id b).outgoing x = g.outgoing x := by
  rw [outgoing_retarget]
  refine List.map_congr_left (fun f hf => FlowDecl.retarget_of_ne _ _ fun htarget => hwalk ?_)
    |>.trans (List.map_id _)
  -- `lt` はタスクでも終了イベントでもないので、`lt` へ入るフローがあれば歩みは `lt` に着く。
  exact .step hx hf (htarget ▸ element?_of_mem hnd hlt) (by simp [hk]) (by simp [hk])

/-- 歩みが `lt` に届かなければ、付け替えたグラフの歩みはもとの歩みと同じである。 -/
theorem walkStart_retarget (b : String) :
    ∀ (fuel : Nat) (stack visited ids : List String), (∀ y ∈ stack, g.StartWalk group y) →
      (g.retarget lt.id b).walkStart fuel stack visited ids = g.walkStart fuel stack visited ids
  | 0, _, _, _, _ => rfl
  | _ + 1, [], _, _, _ => rfl
  | fuel + 1, node :: stack, visited, ids, h => by
    have hnode := h node List.mem_cons_self
    have hstack : ∀ y ∈ stack, g.StartWalk group y := fun y hy => h y (List.mem_cons_of_mem _ hy)
    simp only [walkStart]
    split
    · exact walkStart_retarget b fuel stack visited ids hstack
    · rw [outgoing_retarget_of_walk hnd hlt hk hwalk b hnode, visitStart_retarget]
      have hstack' := foldl_visitStart_walk hnode _ (fun f hf => hf) (stack, ids) hstack
      generalize (g.outgoing node).foldl g.visitStart (stack, ids) = acc at hstack' ⊢
      exact walkStart_retarget b fuel acc.1 _ acc.2 hstack'

/-- **開始タスクは、歩みが `lt` に届かなければ付け替えで変わらない。** -/
theorem startTasks_retarget (b : String) :
    (g.retarget lt.id b).startTasks group = g.startTasks group := by
  unfold startTasks
  simp only [retarget_elements, groupOf_retarget, retarget_flows_length, taskEntity?_retarget]
  rw [walkStart_retarget hnd hlt hk hwalk]
  intro y hy
  simp only [List.mem_reverse, List.mem_map, List.mem_filter, Bool.and_eq_true, beq_iff_eq] at hy
  obtain ⟨el, ⟨hel, hkind, hgroup⟩, rfl⟩ := hy
  exact .start hel hkind hgroup

end StartTasks

/-! ## 出ていくイベント -/

section Links

variable {g : Graph} (hnd : (g.decl.elements.map (·.id)).Nodup) {lt lc : ElementDecl}
  (hlt : lt ∈ g.decl.elements) (hk : lt.kind = .linkThrow) (hc : g.catchOf? lt = some lc)
include hnd hlt hk

/-- リンクスローでない要素の id は `lt` の id ではない。 -/
theorem id_ne_of_kind {x : ElementDecl} (hx : x ∈ g.decl.elements) (hxk : x.kind ≠ .linkThrow) :
    x.id ≠ lt.id := fun h => hxk (eq_of_id_eq hnd hx hlt h ▸ hk)

include hc

/-- 付け替えたグラフの歩みの一歩は、訪問済みから `lt` を除いたもとの一歩である。 -/
theorem visitEvent_retarget {stack V : List String} {F : List ElementDecl}
    (hV : CatchVisited lt.id lc.id V) (f : FlowDecl) :
    (g.retarget lt.id lc.id).visitEvent (stack, V.filter (· != lt.id), F)
        (f.retarget lt.id lc.id) = forgetVisited lt.id (g.visitEvent (stack, V, F) f) ∧
      CatchVisited lt.id lc.id (g.visitEvent (stack, V, F) f).2.1 := by
  obtain ⟨hlc, hlck⟩ := catchOf?_spec hc
  have hne : lc.id ≠ lt.id := id_ne_of_kind hnd hlt hk hlc (by simp [hlck])
  unfold visitEvent
  by_cases htarget : f.target = lt.id
  -- `lt` へ入るフロー：もとの歩みは `lt` を訪ねてリンクキャッチへ飛び、付け替えた歩みは
  -- リンクキャッチを直に訪ねる。
  · simp only [FlowDecl.retarget, htarget, if_true, element?_retarget,
      element?_of_mem hnd hlt, element?_of_mem hnd hlc]
    by_cases ha : lt.id ∈ V
    · simp [forgetVisited, CatchVisited, ha, hV ha, hne]
    · by_cases hb : lc.id ∈ V
      · simp [forgetVisited, CatchVisited, ha, hb, hne, hk, hc]
      · simp [forgetVisited, CatchVisited, ha, hb, hne, hk, hc, hlck]
  -- ほかのフローは変わらず、行き先も `lt` ではない。
  · rw [FlowDecl.retarget_of_ne _ _ htarget, element?_retarget]
    cases ht : g.element? f.target with
    | none => exact ⟨rfl, hV⟩
    | some t =>
      obtain ⟨htel, htid⟩ := element?_spec ht
      have htne : t.id ≠ lt.id := htid ▸ htarget
      have hV' : CatchVisited lt.id lc.id (t.id :: V) := hV.cons htne
      by_cases htV : t.id ∈ V
      · simp [forgetVisited, htV, htne, hV]
      · cases htk : t.kind
        case linkThrow =>
          cases hct : g.catchOf? t with
          | none => simp [forgetVisited, htV, htne, htk, hct, hV']
          | some c =>
            obtain ⟨hcel, hck⟩ := catchOf?_spec hct
            have hcne : c.id ≠ lt.id := id_ne_of_kind hnd hlt hk hcel (by simp [hck])
            have hV'' : CatchVisited lt.id lc.id (c.id :: t.id :: V) := hV'.cons hcne
            by_cases hcV : c.id ∈ t.id :: V
            · simp only [List.mem_cons] at hcV
              simp [forgetVisited, htV, htne, htk, hct, hcV, hcne, hV']
            · simp only [List.mem_cons, not_or] at hcV
              simp [forgetVisited, htV, htne, htk, hct, hcV, hcne, hV'']
        all_goals simp [forgetVisited, htV, htne, htk, hV']

/-- フローを順に訪ねる畳み込みでも、付け替えたグラフの歩みはもとの歩みをなぞる。 -/
theorem foldl_visitEvent_retarget :
    ∀ (flows : List FlowDecl) (acc : List String × List String × List ElementDecl),
      CatchVisited lt.id lc.id acc.2.1 →
        (flows.map (FlowDecl.retarget lt.id lc.id)).foldl (g.retarget lt.id lc.id).visitEvent
            (forgetVisited lt.id acc) = forgetVisited lt.id (flows.foldl g.visitEvent acc) ∧
          CatchVisited lt.id lc.id (flows.foldl g.visitEvent acc).2.1
  | [], _, h => ⟨rfl, h⟩
  | f :: fs, (stack, V, F), h => by
    obtain ⟨hstep, hV⟩ := visitEvent_retarget hnd hlt hk hc h f
    simp only [List.map_cons, List.foldl_cons]
    rw [show forgetVisited lt.id (stack, V, F) = (stack, V.filter (· != lt.id), F) from rfl, hstep]
    exact foldl_visitEvent_retarget fs _ hV

/-- イベントを集める歩みは、訪問済みから `lt` を除けば、付け替えたグラフでも同じイベントを
集める。 -/
theorem walkEvents_retarget :
    ∀ (fuel : Nat) (stack V : List String) (F : List ElementDecl), CatchVisited lt.id lc.id V →
      (g.retarget lt.id lc.id).walkEvents fuel stack (V.filter (· != lt.id)) F =
        g.walkEvents fuel stack V F
  | 0, _, _, _, _ => rfl
  | _ + 1, [], _, _, _ => rfl
  | fuel + 1, node :: stack, V, F, h => by
    obtain ⟨hfold, hV⟩ := foldl_visitEvent_retarget hnd hlt hk hc (g.outgoing node) (stack, V, F) h
    simp only [walkEvents]
    rw [outgoing_retarget, show (stack, V.filter (· != lt.id), F) = forgetVisited lt.id (stack, V, F)
      from rfl, hfold]
    generalize (g.outgoing node).foldl g.visitEvent (stack, V, F) = acc at hV ⊢
    exact walkEvents_retarget fuel acc.1 acc.2.1 acc.2.2 hV

/-- **出ていくイベントは付け替えで変わらない。** -/
theorem outgoingEvents_retarget {t : ElementDecl} (ht : t.id ≠ lt.id) :
    (g.retarget lt.id lc.id).outgoingEvents t = g.outgoingEvents t := by
  have hwalk := walkEvents_retarget hnd hlt hk hc g.searchFuel [t.id] [t.id] []
    (fun h => absurd (List.mem_singleton.mp h) (Ne.symm ht))
  simp only [List.filter_cons, List.filter_nil, bne_iff_ne, ne_eq, ht, not_false_eq_true,
    if_true] at hwalk
  simp only [outgoingEvents, retarget_elements, searchFuel_retarget, hwalk]

end Links

/-! ## フローの選び方 -/

section Flows

variable {m : Type → Type} [Monad m] [LawfulMonad m] (judge : String → m (Except Error Bool))
  (g : Graph) (a b : String)

omit [LawfulMonad m] in
theorem conditionHolds_retarget (f : FlowDecl) (c : String) :
    conditionHolds judge (g.retarget a b) (f.retarget a b) c = conditionHolds judge g f c := by
  simp [conditionHolds]

theorem firstHolding_retarget : ∀ flows : List FlowDecl,
    firstHolding judge (g.retarget a b) (flows.map (FlowDecl.retarget a b)) =
      Option.map (FlowDecl.retarget a b) <$> firstHolding judge g flows
  | [] => by simp [firstHolding]
  | f :: fs => by
    simp only [List.map_cons, firstHolding, FlowDecl.activeCondition_retarget]
    cases f.activeCondition with
    | none => exact firstHolding_retarget fs
    | some c =>
      simp only [conditionHolds_retarget, map_bind]
      congr 1
      funext q
      cases q <;> simp [firstHolding_retarget fs]

/-- 付け替えたグラフでたどるフローは、もとのグラフでたどるフローを付け替えたものである。
条件の評価は同じフローの同じ条件について同じ順に行う。 -/
theorem takenFlows_retarget (x : String) :
    takenFlows judge (g.retarget a b) x =
      List.map (FlowDecl.retarget a b) <$> takenFlows judge g x := by
  simp only [takenFlows, outgoing_retarget, firstHolding_retarget, bind_map_left, map_bind]
  congr 1
  funext o
  cases o with
  | some f => simp
  | none => simp [List.filter_map, Function.comp_def]

omit [LawfulMonad m] in
theorem mainFlow_go_retarget : ∀ (flows : List FlowDecl) (first : Option ElementDecl),
    mainFlow.go judge (g.retarget a b) flows first = mainFlow.go judge g flows first
  | [], _ => rfl
  | f :: fs, first => by
    simp only [mainFlow.go, element?_retarget]
    cases g.element? f.target with
    | none => exact mainFlow_go_retarget fs first
    | some t =>
      simp only [mainFlow_go_retarget fs]
      rfl

omit [LawfulMonad m] in
/-- 並行ゲートウェイから出るフローが付け替えで変わらなければ、その主流の行き先も変わらない。 -/
theorem mainFlow_retarget {gw : ElementDecl}
    (h : (g.retarget a b).outgoing gw.id = g.outgoing gw.id) :
    mainFlow judge (g.retarget a b) gw = mainFlow judge g gw := by
  simp only [mainFlow, h, mainFlow_go_retarget]

end Flows

/-! ## 止まる要素の探索 -/

section Search

variable {m : Type → Type} [Monad m] [LawfulMonad m] (judge : String → m (Except Error Bool))
  {g : Graph} (hnd : (g.decl.elements.map (·.id)).Nodup) {lt lc : ElementDecl}
  (hlt : lt ∈ g.decl.elements) (hk : lt.kind = .linkThrow) (hc : g.catchOf? lt = some lc)
include hnd hlt hk hc

/-- **フローの行き先を一つ訪ねる一歩の比べ方。** 探索を続ける `recur` が付け替えたグラフで
訪問済みから `lt` を除いてもとの探索をなぞるなら、一歩もそうである。`lt` へ入るフローでは、
もとの探索は `lt` を訪ねてリンクキャッチから続け、付け替えた探索はリンクキャッチを直に訪ねて
そこから続ける。 -/
theorem visitTarget_retarget
    {recur recur' : String → List ElementDecl × List String →
      ExceptT Error m (List ElementDecl × List String)}
    (hrec : ∀ x acc, g.SearchState lt.id lc.id acc →
      recur' x (dropVisited lt.id acc) = dropVisited lt.id <$> recur x acc ∧
        SatisfiesM (g.SearchState lt.id lc.id) (recur x acc))
    {acc : List ElementDecl × List String} (hacc : g.SearchState lt.id lc.id acc) (f : FlowDecl) :
    (g.retarget lt.id lc.id).visitTarget recur' (dropVisited lt.id acc) (f.retarget lt.id lc.id) =
        dropVisited lt.id <$> g.visitTarget recur acc f ∧
      SatisfiesM (g.SearchState lt.id lc.id) (g.visitTarget recur acc f) := by
  obtain ⟨F, V⟩ := acc
  obtain ⟨hF, hV⟩ := hacc
  obtain ⟨hlc, hlck⟩ := catchOf?_spec hc
  have hne : lc.id ≠ lt.id := id_ne_of_kind hnd hlt hk hlc (by simp [hlck])
  unfold visitTarget
  simp only [dropVisited]
  by_cases htarget : f.target = lt.id
  · simp only [FlowDecl.retarget, htarget, if_true, element?_retarget,
      element?_of_mem hnd hlt, element?_of_mem hnd hlc]
    have hlts : lt.isStop = false := by simp [ElementDecl.isStop, hk]
    have hlcs : lc.isStop = false := by simp [ElementDecl.isStop, hlck]
    by_cases ha : lt.id ∈ V
    · have hb := hV ha
      refine ⟨by simp [dropVisited, ha, hb, hne], ?_⟩
      simp only [List.contains_iff_mem, ha, if_true]
      exact SatisfiesM.pure ⟨hF, hV⟩
    · by_cases hb : lc.id ∈ V
      · refine ⟨by simp [dropVisited, ha, hb, hne, hlts, hk, hc], ?_⟩
        simp only [List.contains_iff_mem, ha, if_false, hlts, hk, hc, List.mem_cons, hb, or_true,
          if_true, Bool.false_eq_true, beq_self_eq_true]
        exact SatisfiesM.pure ⟨hF, fun _ => List.mem_cons_of_mem _ hb⟩
      · -- リンクキャッチがまだなら、両方ともリンクキャッチから探索を続ける。
        have hrun := hrec lc.id (F, lc.id :: lt.id :: V) ⟨hF, fun _ => List.mem_cons_self⟩
        simp only [dropVisited, List.filter_cons, bne_iff_ne, ne_eq, hne, not_false_eq_true,
          if_true, not_true_eq_false, if_false] at hrun
        refine ⟨?_, ?_⟩
        · simp [ha, hb, hne, hlts, hk, hc, hlcs, hlck, hrun.1]
        · simp [ha, hb, hne, hlts, hk, hc, hrun.2]
  -- ほかのフローは変わらない。行き先は `lt` ではないので、訪問済みの比べ方は保たれる。
  · rw [FlowDecl.retarget_of_ne _ _ htarget, element?_retarget]
    cases ht : g.element? f.target with
    | none => exact ⟨by simp [dropVisited], SatisfiesM.pure ⟨hF, hV⟩⟩
    | some t =>
      obtain ⟨htel, htid⟩ := element?_spec ht
      have htne : t.id ≠ lt.id := htid ▸ htarget
      have hV' : CatchVisited lt.id lc.id (t.id :: V) := hV.cons htne
      simp only
      by_cases htV : t.id ∈ V
      · refine ⟨by simp [dropVisited, htV, htne], ?_⟩
        simp only [List.contains_iff_mem, htV, if_true]
        exact SatisfiesM.pure ⟨hF, hV⟩
      by_cases hts : t.isStop = true
      · refine ⟨by simp [dropVisited, htV, htne, hts], ?_⟩
        simp only [List.contains_iff_mem, htV, if_false, hts, if_true]
        refine SatisfiesM.pure ⟨?_, hV'⟩
        split
        · exact hF
        · exact List.append_subset.mpr ⟨hF, List.cons_subset.mpr ⟨htel, List.nil_subset _⟩⟩
      have hstay : SatisfiesM (g.SearchState lt.id lc.id)
          (pure (F, t.id :: V) : ExceptT Error m (List ElementDecl × List String)) :=
        SatisfiesM.pure ⟨hF, hV'⟩
      by_cases htk : t.kind = .linkThrow
      · cases hct : g.catchOf? t with
        | none =>
          exact ⟨by simp [dropVisited, htV, htne, hts, htk, hct], by simpa [htV, hts, htk, hct]⟩
        | some c =>
          obtain ⟨hcel, hck⟩ := catchOf?_spec hct
          have hcne : c.id ≠ lt.id := id_ne_of_kind hnd hlt hk hcel (by simp [hck])
          by_cases hcV : c.id ∈ t.id :: V
          · refine ⟨?_, by simpa [htV, hts, htk, hct, hcV]⟩
            simp only [List.mem_cons] at hcV
            simp [dropVisited, htV, htne, hts, htk, hct, hcV, hcne]
          · have hrun := hrec c.id (F, c.id :: t.id :: V) ⟨hF, hV'.cons hcne⟩
            simp only [dropVisited, filter_cons_of_ne hcne, filter_cons_of_ne htne] at hrun
            simp only [List.mem_cons, not_or] at hcV
            exact ⟨by simp [htV, htne, hts, htk, hct, hcV, hcne, hrun.1],
              by simpa [htV, hts, htk, hct, hcV] using hrun.2⟩
      · have hrun := hrec t.id (F, t.id :: V) ⟨hF, hV'⟩
        simp only [dropVisited, filter_cons_of_ne htne] at hrun
        exact ⟨by simp [htV, htne, hts, htk, hrun.1],
          by simpa [htV, hts, htk] using hrun.2⟩

/-- フローを順に訪ねる畳み込みの比べ方。 -/
theorem foldlM_visitTarget_retarget
    {recur recur' : String → List ElementDecl × List String →
      ExceptT Error m (List ElementDecl × List String)}
    (hrec : ∀ x acc, g.SearchState lt.id lc.id acc →
      recur' x (dropVisited lt.id acc) = dropVisited lt.id <$> recur x acc ∧
        SatisfiesM (g.SearchState lt.id lc.id) (recur x acc)) :
    ∀ (flows : List FlowDecl) (acc : List ElementDecl × List String),
      g.SearchState lt.id lc.id acc →
        (flows.map (FlowDecl.retarget lt.id lc.id)).foldlM
            ((g.retarget lt.id lc.id).visitTarget recur') (dropVisited lt.id acc) =
          dropVisited lt.id <$> flows.foldlM (g.visitTarget recur) acc ∧
        SatisfiesM (g.SearchState lt.id lc.id) (flows.foldlM (g.visitTarget recur) acc)
  | [], acc, h => ⟨by simp, SatisfiesM.pure h⟩
  | f :: fs, acc, h => by
    obtain ⟨hstep, hsat⟩ := visitTarget_retarget hnd hlt hk hc hrec h f
    simp only [List.map_cons, List.foldlM_cons, hstep, bind_map_left, map_bind]
    exact ⟨bind_congr_of_satisfiesM hsat fun acc' h' =>
        (foldlM_visitTarget_retarget hrec fs acc' h').1,
      SatisfiesM.bind hsat fun acc' h' => (foldlM_visitTarget_retarget hrec fs acc' h').2⟩

/-- **探索の比べ方。** 付け替えたグラフの探索は、訪問済みから `lt` を除けば、もとの探索と同じ
要素を同じ順に見つける。条件の評価も同じ順に行う。 -/
theorem collect_retarget : ∀ (fuel : Nat) (x : String) (acc : List ElementDecl × List String),
    g.SearchState lt.id lc.id acc →
      collect judge (g.retarget lt.id lc.id) fuel x (dropVisited lt.id acc) =
          dropVisited lt.id <$> collect judge g fuel x acc ∧
        SatisfiesM (g.SearchState lt.id lc.id) (collect judge g fuel x acc)
  | 0, _, _, h => ⟨by simp [collect], SatisfiesM.pure h⟩
  | fuel + 1, x, acc, h => by
    have hfold := foldlM_visitTarget_retarget hnd hlt hk hc
      (fun y acc' h' => collect_retarget fuel y acc' h')
    simp only [collect, takenFlows_retarget, bind_map_left, map_bind]
    exact ⟨congrArg (_ >>= ·) (funext fun flows => (hfold flows acc h).1),
      SatisfiesM.bind SatisfiesM.trivial fun flows _ => (hfold flows acc h).2⟩

end Search

/-! ## 並行ゲートウェイを越える続き -/

section Crossing

variable {m : Type → Type} [Monad m] [LawfulMonad m] (judge : String → m (Except Error Bool))
  {g : Graph} (hnd : (g.decl.elements.map (·.id)).Nodup) {lt lc : ElementDecl}
  (hlt : lt ∈ g.decl.elements) (hk : lt.kind = .linkThrow) (hc : g.catchOf? lt = some lc)
  (hgw : ∀ p ∈ g.decl.elements, p.isParallelGateway = true → ∀ f ∈ g.outgoing p.id,
    f.target ≠ lt.id)
include hgw

/-- **並行ゲートウェイを越える比べ方。** 並行ゲートウェイから `lt` へ入るフローがなければ、
主流の行き先は両方のグラフで同じで、`lt` ではない。 -/
theorem crossParallel_retarget : ∀ (fuel : Nat) (s : ElementDecl) (V : List String),
    s ∈ g.decl.elements → CatchVisited lt.id lc.id V →
      crossParallel judge (g.retarget lt.id lc.id) fuel s (V.filter (· != lt.id)) =
          dropCrossing lt.id <$> crossParallel judge g fuel s V ∧
        SatisfiesM (fun r => ∀ next W, r = .inr (next, W) → CatchVisited lt.id lc.id W)
          (crossParallel judge g fuel s V)
  | 0, _, _, _, _ => ⟨by simp [crossParallel, dropCrossing], SatisfiesM.pure (by simp)⟩
  | fuel + 1, s, V, hs, hV => by
    simp only [crossParallel]
    split
    · exact ⟨by simp [dropCrossing], SatisfiesM.pure (by simp)⟩
    · next hgwS =>
      have hp : s.isParallelGateway = true := by simpa using hgwS
      have hout : (g.retarget lt.id lc.id).outgoing s.id = g.outgoing s.id := by
        rw [outgoing_retarget]
        exact (List.map_congr_left fun f hf => FlowDecl.retarget_of_ne _ _ (hgw s hs hp f hf)).trans
          (List.map_id _)
      -- 主流の行き先はゲートウェイから出るフローの行き先なので、モデルの要素で `lt` ではない。
      have hmain : SatisfiesM (fun r : Option ElementDecl => ∀ t ∈ r,
          t ∈ g.decl.elements ∧ t.id ≠ lt.id) (mainFlow judge g s) :=
        mainFlow_go_sat judge g _ _ none (fun f hf t ht =>
          ⟨(element?_spec ht).1, (element?_spec ht).2 ▸ hgw s hs hp f hf⟩) (by simp)
      rw [mainFlow_retarget judge _ _ _ hout, map_bind]
      refine ⟨bind_congr_of_satisfiesM hmain fun r hr => ?_, SatisfiesM.bind hmain fun r hr => ?_⟩
      all_goals cases r with
        | none => first | exact SatisfiesM.pure (by simp) | simp [dropCrossing]
        | some t => ?_
      all_goals
        obtain ⟨htel, htne⟩ := hr t rfl
        have hV' : CatchVisited lt.id lc.id (t.id :: V) := hV.cons htne
        have ih := crossParallel_retarget fuel t (t.id :: V) htel hV'
        simp only [filter_cons_of_ne htne] at ih
      · by_cases htV : t.id ∈ V
        · simp [htV, htne, dropCrossing]
        · by_cases hts : t.isStop = true
          · simp [htV, htne, hts, ih.1]
          · simp [htV, htne, hts, dropCrossing]
      · by_cases htV : t.id ∈ V
        · simpa [htV] using SatisfiesM.pure (m := ExceptT Error m)
            (p := fun r : Option ElementDecl ⊕ (String × List String) =>
              ∀ next W, r = .inr (next, W) → CatchVisited lt.id lc.id W) (a := .inl none) (by simp)
        · by_cases hts : t.isStop = true
          · simpa [htV, hts] using ih.2
          · simpa [htV, hts] using SatisfiesM.pure (m := ExceptT Error m)
              (p := fun r : Option ElementDecl ⊕ (String × List String) =>
                ∀ next W, r = .inr (next, W) → CatchVisited lt.id lc.id W)
              (a := .inr (t.id, t.id :: V)) (by simpa using hV')

/-- 止まる要素がただ一つ見つかったあとの比べ方。続きの探索がなぞるなら、`settle` もなぞる。 -/
theorem settle_retarget
    {resume resume' : String → List String → ExceptT Error m (Option ElementDecl)}
    (hres : ∀ next W, CatchVisited lt.id lc.id W → resume' next (W.filter (· != lt.id)) =
      resume next W)
    {s : ElementDecl} (hs : s ∈ g.decl.elements) {V : List String}
    (hV : CatchVisited lt.id lc.id V) :
    (g.retarget lt.id lc.id).settle judge resume' s (V.filter (· != lt.id)) =
      g.settle judge resume s V := by
  obtain ⟨hcross, hsat⟩ := crossParallel_retarget judge hgw g.searchFuel s V hs hV
  simp only [settle, searchFuel_retarget, hcross, bind_map_left]
  refine bind_congr_of_satisfiesM hsat fun r hr => ?_
  cases r with
  | inl r => rfl
  | inr p => exact hres p.1 p.2 (hr p.1 p.2 rfl)

include hnd hlt hk hc

/-- **解決の比べ方。** 並行ゲートウェイから `lt` へ入るフローがなければ、付け替えたグラフの解決は、
訪問済みから `lt` を除けば、もとの解決と同じ答えを返す。 -/
theorem loop_retarget (start : String) (fuel : Nat) : ∀ (current : String) (V : List String),
    CatchVisited lt.id lc.id V →
      resolveFrom.loop judge (g.retarget lt.id lc.id) start fuel current (V.filter (· != lt.id)) =
        resolveFrom.loop judge g start fuel current V := by
  induction fuel with
  | zero => intro _ _ _; rfl
  | succ fuel ih =>
    intro current V hV
    obtain ⟨hcol, hsat⟩ := collect_retarget judge hnd hlt hk hc g.searchFuel current ([], V)
      ⟨List.nil_subset _, hV⟩
    simp only [resolveFrom.loop, searchFuel_retarget]
    rw [show (([] : List ElementDecl), V.filter (· != lt.id)) = dropVisited lt.id ([], V) from rfl,
      hcol, bind_map_left]
    refine bind_congr_of_satisfiesM hsat fun r hr => ?_
    obtain ⟨found, W⟩ := r
    obtain ⟨hF, hW⟩ := hr
    simp only [dropVisited]
    -- 見つけた止まる要素の数で分ける。一つなら続きは帰納法の仮定でなぞる。
    rcases found with _ | ⟨s, _ | ⟨s', rest⟩⟩
    · rfl
    · exact settle_retarget judge hgw ih (hF List.mem_cons_self) hW
    · rfl

/-- **次の要素は付け替えで変わらない。** `lt` を要素に持たないイベントなら、条件の評価が何であれ。 -/
theorem nextElement_retarget (ev : Event) (hev : ev.elementId ≠ lt.id) :
    (g.retarget lt.id lc.id).nextElement judge ev = g.nextElement judge ev := by
  have hloop := loop_retarget judge hnd hlt hk hc hgw ev.elementId g.searchFuel ev.elementId
    [ev.elementId] (fun h => absurd (List.mem_singleton.mp h) (Ne.symm hev))
  simp only [List.filter_cons, List.filter_nil, bne_iff_ne, ne_eq, hev, not_false_eq_true,
    if_true] at hloop
  simp only [nextElement, element?_retarget, version_retarget, nextEntity?_retarget, resolveFrom,
    searchFuel_retarget, hloop]

end Crossing

/-- **リンクの付け替えで変わらないもの。** 検査済みのモデルで、リンクスロー `lt` のリンクに
リンクキャッチ `lc` があるとき、`lt` へ入るフローをすべて `lc` へ付け替えても、

* `lt` を要素に持たないイベントのあとに進む先は、並行ゲートウェイから `lt` へ入るフローがなければ、
  どの条件の評価でも変わらず、
* `lt` 以外の要素から出ていくイベントは変わらず、
* グループの開始タスクは、開始イベントからの歩みが `lt` に届かなければ変わらない。 -/
theorem retarget_link_preserves_navigation {decl : ModelDecl} {g : Graph}
    (hg : Graph.ofDecl decl = .ok g) {lt lc : ElementDecl} (hlt : lt ∈ g.decl.elements)
    (hk : lt.kind = .linkThrow) (hc : g.catchOf? lt = some lc) :
    (∀ {μ : Type → Type} [Monad μ] [LawfulMonad μ] (judge : String → μ (Except Error Bool))
        (ev : Event), ev.elementId ≠ lt.id →
        (∀ p ∈ g.decl.elements, p.isParallelGateway = true → ∀ f ∈ g.outgoing p.id,
          f.target ≠ lt.id) →
        (g.retarget lt.id lc.id).nextElement judge ev = g.nextElement judge ev) ∧
      (∀ t : ElementDecl, t.id ≠ lt.id →
        (g.retarget lt.id lc.id).outgoingEvents t = g.outgoingEvents t) ∧
      ∀ group, ¬ g.StartWalk group lt.id →
        (g.retarget lt.id lc.id).startTasks group = g.startTasks group := by
  have hnd := ofDecl_ids_nodup hg
  exact ⟨fun judge ev hev hgw => nextElement_retarget judge hnd hlt hk hc hgw ev hev,
    fun _ ht => outgoingEvents_retarget hnd hlt hk hc ht,
    fun _ hwalk => startTasks_retarget hnd hlt hk hwalk lc.id⟩

/-- 開始イベント。 -/
def startEvent : ElementDecl := { id := "start", kind := .startEvent, process := some "p" }

/-- リンク `L` のリンクスロー `lt`。 -/
def linkThrowL : ElementDecl :=
  { id := "lt", kind := .linkThrow, link := some "L", process := some "p" }

/-- リンク `L` のリンクキャッチ `lc`。 -/
def linkCatchL : ElementDecl :=
  { id := "lc", kind := .linkCatch, link := some "L", process := some "p" }

/-- タスク `t1` のイベント `e10` からリンク `L` を通ってタスク `t2` へ進むモデル。 -/
def linkModel : ModelDecl where
  version := "l"
  processes := [{ id := "p", name := "P" }]
  elements := [startEvent, taskOne, eventGo, linkThrowL, linkCatchL, taskTwo]
  flows := [{ id := "f0", source := "start", target := "t1" },
    { id := "f1", source := "t1", target := "e10" }, { id := "f2", source := "e10", target := "lt" },
    { id := "f3", source := "lc", target := "t2" }]

/-- `linkModel` を検査したグラフ。 -/
def linkGraph : Graph :=
  { decl := linkModel, checksum := linkModel.checksum,
    definition := itemsDocument linkModel.definition }

/-- `linkModel` には並行ゲートウェイがないので、イベント `e10` のあとに進む先はリンクを付け替えても
変わらない。 -/
theorem nextElement_after_link_retarget :
    (linkGraph.retarget linkThrowL.id linkCatchL.id).nextElement (pureJudge fun _ => false)
      goEvent = linkGraph.nextElement (pureJudge fun _ => false) goEvent := by
  have hl : Text.isBlankText "l" = false := by decide +kernel
  have hL : Text.isBlankText "L" = false := by decide +kernel
  have hg : Graph.ofDecl linkModel = .ok linkGraph := by
    have hce : checkElements "l" (linkModel.processes.map (·.id)) [] [] [] linkModel.elements =
        .ok () := by
      simp [checkElements, linkModel, startEvent, taskOne, eventGo, linkThrowL, linkCatchL, taskTwo,
        hL]
    simp only [Graph.ofDecl, linkModel, hl] at hce ⊢
    rw [hce]
    rfl
  refine (retarget_link_preserves_navigation hg (by simp [linkGraph, linkModel]) rfl rfl).1
    _ goEvent (by decide) ?_
  intro p hp hpar
  simp only [linkGraph, linkModel, List.mem_cons, List.not_mem_nil, or_false] at hp
  rcases hp with rfl | rfl | rfl | rfl | rfl | rfl <;>
    simp [ElementDecl.isParallelGateway, startEvent, taskOne, eventGo, linkThrowL, linkCatchL,
      taskTwo] at hpar

end Graph

end Workflow.Model
