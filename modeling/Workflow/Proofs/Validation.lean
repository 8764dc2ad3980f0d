import Mathlib
import Workflow.Model.Graph

/-!
# 宣言の検査は、最初に反した項目の誤りを返す

`Graph.ofDecl` は宣言を一度だけ先頭から調べ、途中で見た id を記録しながら、最初に破れた条件の
誤りで止まる。ここでは検査の項目を一つずつ名前のある値（`Check`）にし、項目ごとの誤りを
記録なしで述べる（`ModelDecl.violation?`）：`i` 番目のプロセスや要素は、その前の `i` 個とだけ
比べる。項目は版、プロセス、要素、フローの順に並び、要素の中は `ElementCheck` の順に並ぶ。

* `ofDecl_first_violation` — 宣言が検査を通るのは、条件をまとめた `ModelDecl.Valid` が成り立つ
  ときに限る。通らなければ、誤りは最初に反した項目の誤りで、それはモデルの切り替えの項目なら
  モデルが使えないという誤り、ほかの項目なら定義の誤りである。

証明は三段である。先頭から調べる検査を一つの形 `firstFailure` で述べ、それが添字の順に
項目を引くのと同じであることを示す（`firstFailure_eq_findSome`）。`checkElements` などの
コードがその形であることを、記録が前の要素の列と合うという不変条件（`Seen`）で示す。最後に、
項目の列が検査の順に並び（`checks_pairwise`）、誤りのある項目をすべて含む（`mem_checks`）
ことから、列で最初に見つかる誤りが、順序で最初の誤りになる（`findSome?_eq_some_iff_least`）。
-/

namespace Workflow.Model

/-! ## 列を先頭から調べる検査 -/

section Scan

variable {α β ε : Type}

/-- 列を先頭から調べて最初に出た誤り。`test before x` は、前の要素の列が `before` のときの
要素 `x` の誤りである。 -/
def firstFailure (test : List α → α → Option ε) (before : List α) : List α → Option ε
  | [] => none
  | x :: xs => (test before x).or (firstFailure test (before ++ [x]) xs)

/-- 列の `i` 番目の要素の誤り。前の要素の列は、その前の `i` 個である。 -/
def failureAt (test : List α → α → Option ε) (xs : List α) (i : Nat) : Option ε :=
  xs[i]?.bind (test (xs.take i))

/-- 先頭から調べた誤りは、添字の順に `failureAt` を引いて最初に出た誤りである。 -/
theorem firstFailure_eq_findSome_aux (test : List α → α → Option ε) :
    ∀ (before xs : List α), firstFailure test before xs =
      (List.range xs.length).findSome? fun i => failureAt test (before ++ xs) (before.length + i)
  | _, [] => rfl
  | before, x :: xs => by
    have hhead : failureAt test (before ++ x :: xs) (before.length + 0) = test before x := by
      simp [failureAt]
    -- 残りの列の添字は一つずれ、前の要素の列に `x` が加わる。
    have htail : (fun i => failureAt test ((before ++ [x]) ++ xs) ((before ++ [x]).length + i)) =
        fun i => failureAt test (before ++ x :: xs) (before.length + (i + 1)) := by
      funext i
      simp [Nat.add_comm i 1, ← Nat.add_assoc]
    rw [firstFailure, firstFailure_eq_findSome_aux test (before ++ [x]) xs, htail,
      List.length_cons, List.range_succ_eq_map, List.findSome?_cons, List.findSome?_map, hhead]
    cases test before x <;> rfl

theorem firstFailure_eq_findSome (test : List α → α → Option ε) (xs : List α) :
    firstFailure test [] xs = (List.range xs.length).findSome? (failureAt test xs) := by
  simpa using firstFailure_eq_findSome_aux test [] xs

/-- 前の要素によらない検査は、どの要素も通れば通る。 -/
theorem firstFailure_eq_none_of_local {test : List α → α → Option ε} {q : α → Prop}
    (htest : ∀ b x, test b x = none ↔ q x) :
    ∀ (before xs : List α), firstFailure test before xs = none ↔ ∀ x ∈ xs, q x
  | _, [] => by simp [firstFailure]
  | before, x :: xs => by
    simp [firstFailure, htest, firstFailure_eq_none_of_local htest (before ++ [x]) xs]

/-- 前に同じ値があれば破れる検査は、値の列に重複がなければ通る。値を持つのは `p` を満たす要素で、
その値は `f` である。 -/
theorem firstFailure_eq_none_of_fresh {test : List α → α → Option ε} {p : α → Bool} {f : α → β}
    (htest : ∀ b x, test b x = none ↔ (p x = true → f x ∉ (b.filter p).map f)) :
    ∀ (before xs : List α), ((before.filter p).map f).Nodup →
      (firstFailure test before xs = none ↔ (((before ++ xs).filter p).map f).Nodup)
  | before, [], hb => by simpa [firstFailure] using hb
  | before, x :: xs, hb => by
    by_cases hx : p x = true → f x ∉ (before.filter p).map f
    · -- `x` が通れば、前の要素の列に `x` を加えても値に重複はない。
      have hb' : (((before ++ [x]).filter p).map f).Nodup := by
        by_cases hp : p x = true
        · have hsnoc : ((before ++ [x]).filter p).map f = (before.filter p).map f ++ [f x] := by
            simp [List.filter_append, hp]
          rw [hsnoc, List.nodup_append]
          refine ⟨hb, List.nodup_singleton _, fun a ha c hc => ?_⟩
          rw [List.mem_singleton.mp hc]
          exact fun h => hx hp (h ▸ ha)
        · simpa [List.filter_append, hp] using hb
      have hih := firstFailure_eq_none_of_fresh htest (before ++ [x]) xs hb'
      rw [List.append_cons before x xs, ← hih]
      simp [firstFailure, (htest before x).mpr hx]
    · -- `x` の値は前の要素の値と重なるので、値の列に重複がある。
      obtain ⟨hp, hmem⟩ := Classical.not_imp.mp hx
      have hnd : ¬ (((before ++ x :: xs).filter p).map f).Nodup := by
        intro hnd
        have hnd' : (((before.filter p).map f) ++ (f x :: (xs.filter p).map f)).Nodup := by
          simpa [List.filter_append, List.filter_cons, hp] using hnd
        exact (List.nodup_append.mp hnd').2.2 _ (not_not.mp hmem) _ List.mem_cons_self rfl
      have hfail : test before x ≠ none := fun h => hx ((htest before x).mp h)
      simp only [firstFailure, Option.or_eq_none_iff, hnd, iff_false, not_and]
      exact fun h => absurd h hfail

/-- 位置 `i` に誤りがあれば、そこに要素があり、その前の要素の列のあとで誤りになる。 -/
theorem failureAt_eq_some {test : List α → α → Option ε} {xs : List α} {i : Nat} {e : ε}
    (h : failureAt test xs i = some e) : ∃ x, xs[i]? = some x ∧ test (xs.take i) x = some e :=
  Option.bind_eq_some_iff.mp h

theorem lt_length_of_failureAt_eq_some {test : List α → α → Option ε} {xs : List α} {i : Nat}
    {e : ε} (h : failureAt test xs i = some e) : i < xs.length := by
  obtain ⟨x, hx, -⟩ := failureAt_eq_some h
  exact (List.getElem?_eq_some_iff.mp hx).1

/-- 先頭から調べて誤りがないのは、どの位置にも誤りがないときである。 -/
theorem firstFailure_eq_none_iff {test : List α → α → Option ε} {xs : List α} :
    firstFailure test [] xs = none ↔ ∀ i, failureAt test xs i = none := by
  rw [firstFailure_eq_findSome, List.findSome?_eq_none_iff]
  refine ⟨fun h i => ?_, fun h i _ => h i⟩
  cases hi : failureAt test xs i with
  | none => rfl
  | some e => simp [← hi, h i (List.mem_range.mpr (lt_length_of_failureAt_eq_some hi))]

end Scan

/-! ## 順に並べた候補のうち最初のもの -/

theorem findSome?_flatMap {α β γ : Type} (f : β → Option γ) (g : α → List β) (l : List α) :
    (l.flatMap g).findSome? f = l.findSome? fun a => (g a).findSome? f := by
  induction l with
  | nil => rfl
  | cons a l ih =>
    rw [List.flatMap_cons, List.findSome?_append, ih, List.findSome?_cons]
    cases (g a).findSome? f <;> rfl

/-- 狭義の全順序で並んだ列に、値を持つ候補がすべて入っていれば、列で最初に値を持つ候補の値は、
順序で最初に値を持つ候補の値である。 -/
theorem findSome?_eq_some_iff_least {κ β : Type} [LinearOrder κ] {f : κ → Option β} {l : List κ}
    (hl : l.Pairwise (· < ·)) (hc : ∀ k b, f k = some b → k ∈ l) {b : β} :
    l.findSome? f = some b ↔ ∃ k, f k = some b ∧ ∀ k' < k, f k' = none := by
  have hfirst : ∀ {b}, l.findSome? f = some b → ∃ k, f k = some b ∧ ∀ k' < k, f k' = none := by
    intro b h
    obtain ⟨l₁, k, l₂, rfl, hk, hl₁⟩ := List.findSome?_eq_some_iff.mp h
    refine ⟨k, hk, fun k' hlt => ?_⟩
    cases hk' : f k' with
    | none => rfl
    | some b' =>
      -- 値を持つ `k'` は列にあり、`k` より前にも、`k` にも、`k` より後にもありえない。
      have hafter : ∀ y ∈ l₂, k < y := by
        have := (List.pairwise_append.mp hl).2.1
        exact (List.pairwise_cons.mp this).1
      rcases List.mem_append.mp (hc k' b' hk') with h₁ | h₂
      · simp [hl₁ k' h₁] at hk'
      · rcases List.mem_cons.mp h₂ with rfl | h₂
        · exact absurd hlt (lt_irrefl _)
        · exact absurd (hafter k' h₂) (not_lt.mpr hlt.le)
  refine ⟨hfirst, fun ⟨k, hk, hmin⟩ => ?_⟩
  cases h : l.findSome? f with
  | none => simp [List.findSome?_eq_none_iff.mp h k (hc k b hk)] at hk
  | some b' =>
    obtain ⟨k₂, hk₂, hmin₂⟩ := hfirst h
    rcases lt_trichotomy k k₂ with hlt | rfl | hlt
    · simp [hmin₂ k hlt] at hk
    · rw [hk] at hk₂
      exact hk₂.symm ▸ rfl
    · simp [hmin k₂ hlt] at hk₂

/-! ## 検査の項目 -/

/-- タスクの中身の id。中身がなければ 0。 -/
def ElementDecl.taskId (el : ElementDecl) : Int := (el.task.map (·.id)).getD 0

/-- イベントの中身の id。中身がなければ 0。 -/
def ElementDecl.eventId (el : ElementDecl) : Int := (el.event.map (·.id)).getD 0

/-- イベントの中身のモデルの切り替え。 -/
def ElementDecl.modelSwitch? (el : ElementDecl) : Option ModelSwitch :=
  el.event.bind (·.modelSwitch)

/-- プロセスの参照。参照がなければ空の文字列。 -/
def ElementDecl.processRef (el : ElementDecl) : String := el.process.getD ""

/-- リンク名。なければ空の文字列。 -/
def ElementDecl.linkRef (el : ElementDecl) : String := el.link.getD ""

/-- 要素の列のタスク要素のタスク id（宣言順）。 -/
def taskIdsOf (els : List ElementDecl) : List Int :=
  (els.filter fun el => decide (el.kind = .task)).map (·.taskId)

/-- 要素の列のリンクキャッチのリンク名（宣言順）。 -/
def linkCatchNames (els : List ElementDecl) : List String :=
  (els.filter fun el => decide (el.kind = .linkCatch)).map (·.linkRef)

/-- 要素ごとの検査の項目。検査する順に並べる。 -/
inductive ElementCheck where
  /-- id が前の要素と異なる。 -/
  | freshId
  /-- プロセスの参照が宣言されたプロセスを指す。 -/
  | knownProcess
  /-- タスクは正のタスク id を持つ。 -/
  | taskId
  /-- タスク id が前のタスクと異なる。 -/
  | freshTaskId
  /-- イベントは正のイベント id を持つ。 -/
  | eventId
  /-- モデルの切り替えは、空白でない版と正のイベントを持つ。 -/
  | modelSwitch
  /-- ゲートウェイは種類を持つ。 -/
  | gatewayKind
  /-- リンクイベントは空白でないリンク名を持つ。 -/
  | linkName
  /-- リンクキャッチのリンク名が前のリンクキャッチと異なる。 -/
  | freshLinkCatch
  deriving DecidableEq, Repr

namespace ElementCheck

/-- 要素の検査の項目を、検査する順に並べた列。 -/
def all : List ElementCheck :=
  [freshId, knownProcess, taskId, freshTaskId, eventId, modelSwitch, gatewayKind, linkName,
    freshLinkCatch]

/-- 要素の中での検査の順番。 -/
def rank : ElementCheck → Nat
  | freshId => 0
  | knownProcess => 1
  | taskId => 2
  | freshTaskId => 3
  | eventId => 4
  | modelSwitch => 5
  | gatewayKind => 6
  | linkName => 7
  | freshLinkCatch => 8

theorem rank_injective : Function.Injective rank := by
  intro a b h
  cases a <;> cases b <;> simp [rank] at h ⊢

theorem mem_all (c : ElementCheck) : c ∈ all := by
  cases c <;> simp [all]

theorem all_pairwise : all.Pairwise fun a b => a.rank < b.rank := by
  simp [all, rank]

/-- 要素 `el` が、前の要素の列 `before` のあとで項目に反するか。`ps` は宣言されたプロセスの id。 -/
def fails (ps : List String) (before : List ElementDecl) (el : ElementDecl) : ElementCheck → Bool
  | freshId => decide (el.id ∈ before.map (·.id))
  | knownProcess => el.process.any fun p => decide (p ∉ ps)
  | taskId => decide (el.kind = .task ∧ el.taskId ≤ 0)
  | freshTaskId => decide (el.kind = .task ∧ el.taskId ∈ taskIdsOf before)
  | eventId => decide (el.kind = .event ∧ el.eventId ≤ 0)
  | modelSwitch => decide (el.kind = .event) &&
      el.modelSwitch?.any fun sw => Text.isBlankText sw.version || decide (sw.event ≤ 0)
  | gatewayKind => decide (el.kind = .gateway ∧ el.gateway = none)
  | linkName => decide (el.kind = .linkThrow ∨ el.kind = .linkCatch) && el.link.all Text.isBlankText
  | freshLinkCatch => decide (el.kind = .linkCatch ∧ el.linkRef ∈ linkCatchNames before)

/-- 項目に反したときの誤り。モデルの切り替えの項目だけが、モデルが使えないという誤りになる。 -/
def error (version : String) (el : ElementDecl) : ElementCheck → Error
  | freshId => .invalidDefinition s!"duplicate element id '{el.id}'"
  | knownProcess =>
    .invalidDefinition s!"element '{el.id}' references unknown process '{el.processRef}'"
  | taskId => .invalidDefinition s!"task '{el.id}' has no positive task id"
  | freshTaskId => .invalidDefinition s!"duplicate task id {el.taskId}"
  | eventId => .invalidDefinition s!"event '{el.id}' has no positive event id"
  | modelSwitch =>
    .invalidModel version s!"event '{el.id}' switches model without a target version and event"
  | gatewayKind => .invalidDefinition s!"gateway '{el.id}' has no gateway kind"
  | linkName => .invalidDefinition s!"link event '{el.id}' has no link name"
  | freshLinkCatch => .invalidDefinition s!"duplicate link catch event for link '{el.linkRef}'"

/-- 項目に反すればその誤り。 -/
def failure (v : String) (ps : List String) (c : ElementCheck) (before : List ElementDecl)
    (el : ElementDecl) : Option Error :=
  if c.fails ps before el then some (c.error v el) else none

end ElementCheck

/-- 要素の誤り：要素の検査の項目を順に調べて、最初に反した項目の誤り。 -/
def elementFailure (v : String) (ps : List String) (before : List ElementDecl) (el : ElementDecl) :
    Option Error :=
  ElementCheck.all.findSome? fun c => c.failure v ps before el

/-- 宣言の検査の項目。`process i` と `flow i` は `i` 番目のプロセスとフロー、`element i c` は
`i` 番目の要素の項目 `c` である。 -/
inductive Check where
  | version
  | process (i : Nat)
  | element (i : Nat) (c : ElementCheck)
  | flow (i : Nat)
  deriving DecidableEq, Repr

namespace Check

/-- 検査の順の鍵：版、プロセス、要素、フローの順で、その中は宣言順、要素の中は項目の順。 -/
def key : Check → ℕ ×ₗ ℕ ×ₗ ℕ
  | version => toLex (0, toLex (0, 0))
  | process i => toLex (1, toLex (i, 0))
  | element i c => toLex (2, toLex (i, c.rank))
  | flow i => toLex (3, toLex (i, 0))

theorem key_injective : Function.Injective key := by
  intro a b h
  cases a <;> cases b <;> simp [key] at h ⊢
  all_goals first | exact h | exact ⟨h.1, ElementCheck.rank_injective h.2⟩

/-- 検査の項目は、検査する順に並ぶ。 -/
instance : LinearOrder Check := LinearOrder.lift' key key_injective

theorem lt_iff_key {a b : Check} : a < b ↔ a.key < b.key := Iff.rfl

@[simp] theorem process_lt_process {i j : Nat} : process i < process j ↔ i < j := by
  simp [lt_iff_key, key, Prod.Lex.toLex_lt_toLex]

@[simp] theorem element_lt_element {i j : Nat} {c d : ElementCheck} :
    element i c < element j d ↔ i < j ∨ i = j ∧ c.rank < d.rank := by
  simp [lt_iff_key, key, Prod.Lex.toLex_lt_toLex]

@[simp] theorem flow_lt_flow {i j : Nat} : flow i < flow j ↔ i < j := by
  simp [lt_iff_key, key, Prod.Lex.toLex_lt_toLex]

/-- モデルの切り替えの項目か。 -/
def isModelSwitch : Check → Bool
  | element _ .modelSwitch => true
  | _ => false

end Check

/-- プロセスの誤り：id が前のプロセスにあれば、重複の誤り。 -/
def processFailure (before : List ProcessDecl) (p : ProcessDecl) : Option Error :=
  if p.id ∈ before.map (·.id) then some (.invalidDefinition s!"duplicate process id '{p.id}'")
  else none

/-- フローの誤り：両端のどちらかが要素の id `ids` になければ、その誤り。 -/
def flowFailure (ids : List String) (_before : List FlowDecl) (f : FlowDecl) : Option Error :=
  if f.source ∈ ids ∧ f.target ∈ ids then none
  else some (.invalidDefinition
    s!"sequence flow '{f.id}' references unknown element ({f.source} -> {f.target})")

/-- 宣言が検査の項目に反すれば、その誤り。反しないか、項目の位置に何もなければ `none`。
プロセスと要素は、その前のプロセスと要素とだけ比べる。 -/
def ModelDecl.violation? (m : ModelDecl) : Check → Option Error
  | .version =>
    if Text.isBlankText m.version then some (.invalidDefinition "model version must not be empty")
    else none
  | .process i => failureAt processFailure m.processes i
  | .element i c => failureAt (c.failure m.version (m.processes.map (·.id))) m.elements i
  | .flow i => failureAt (flowFailure (m.elements.map (·.id))) m.flows i

/-- 宣言の検査の項目を、検査する順に並べた列。 -/
def ModelDecl.checks (m : ModelDecl) : List Check :=
  .version :: ((List.range m.processes.length).map .process ++
    (List.range m.elements.length).flatMap (fun i => ElementCheck.all.map (.element i)) ++
    (List.range m.flows.length).map .flow)

/-- `e` は最初に反した項目の誤りである：項目 `c` に `e` で反し、`c` より前の項目にはどれも
反しない。 -/
def ModelDecl.FirstViolation (m : ModelDecl) (e : Error) : Prop :=
  ∃ c, m.violation? c = some e ∧ ∀ c' < c, m.violation? c' = none

/-- 検査を通る宣言の条件。 -/
structure ModelDecl.Valid (m : ModelDecl) : Prop where
  /-- 版は空白だけではない。 -/
  version : Text.isBlankText m.version = false
  /-- プロセスの id は互いに異なる。 -/
  processIds : (m.processes.map (·.id)).Nodup
  /-- 要素の id は互いに異なる。 -/
  elementIds : (m.elements.map (·.id)).Nodup
  /-- 要素のプロセスの参照は、宣言されたプロセスの id である。 -/
  processRefs : ∀ el ∈ m.elements, ∀ p, el.process = some p → p ∈ m.processes.map (·.id)
  /-- タスク要素は、正の id のタスクの中身を持つ。 -/
  tasks : ∀ el ∈ m.elements, el.kind = .task → ∃ t, el.task = some t ∧ 0 < t.id
  /-- タスク要素のタスク id は互いに異なる。 -/
  taskIds : (taskIdsOf m.elements).Nodup
  /-- イベント要素は、正の id のイベントの中身を持ち、モデルの切り替えがあれば、その版は
  空白だけでなく、切り替え先のイベントは正である。 -/
  events : ∀ el ∈ m.elements, el.kind = .event → ∃ ev, el.event = some ev ∧ 0 < ev.id ∧
    ∀ sw, ev.modelSwitch = some sw → Text.isBlankText sw.version = false ∧ 0 < sw.event
  /-- ゲートウェイ要素は種類を持つ。 -/
  gateways : ∀ el ∈ m.elements, el.kind = .gateway → el.gateway.isSome
  /-- リンクイベントは空白だけでないリンク名を持つ。 -/
  links : ∀ el ∈ m.elements, (el.kind = .linkThrow ∨ el.kind = .linkCatch) →
    ∃ l, el.link = some l ∧ Text.isBlankText l = false
  /-- リンクキャッチのリンク名は互いに異なる。 -/
  linkCatches : (linkCatchNames m.elements).Nodup
  /-- フローの両端は要素の id である。 -/
  flows : ∀ f ∈ m.flows, f.source ∈ m.elements.map (·.id) ∧ f.target ∈ m.elements.map (·.id)

/-! ## 宣言の検査は、先頭から調べる検査である -/

/-- 誤りがあればそれで終わる検査の結果。 -/
def ofFailure : Option Error → Except Error Unit
  | some e => .error e
  | none => .ok ()

/-- 要素の検査の途中の記録 `ids`・`tasks`・`links` が、前の要素の列 `before` の要素 id、タスク id、
リンクキャッチのリンク名を、順を問わず持つ。 -/
structure Seen (before : List ElementDecl) (ids : List String) (tasks : List Int)
    (links : List String) : Prop where
  ids : ∀ x, x ∈ ids ↔ x ∈ before.map (·.id)
  tasks : ∀ t, t ∈ tasks ↔ t ∈ taskIdsOf before
  links : ∀ l, l ∈ links ↔ l ∈ linkCatchNames before

theorem Seen.nil : Seen [] [] [] [] := ⟨by simp, by simp [taskIdsOf], by simp [linkCatchNames]⟩

theorem Seen.snoc {before : List ElementDecl} {ids : List String} {tasks : List Int}
    {links : List String} (h : Seen before ids tasks links) (el : ElementDecl) :
    Seen (before ++ [el]) (el.id :: ids) (if el.kind = .task then el.taskId :: tasks else tasks)
      (if el.kind = .linkCatch then el.linkRef :: links else links) where
  ids x := by simp [h.ids, or_comm]
  tasks t := by by_cases hk : el.kind = .task <;> simp [hk, h.tasks, taskIdsOf, or_comm]
  links l := by by_cases hk : el.kind = .linkCatch <;> simp [hk, h.links, linkCatchNames, or_comm]

theorem ElementKind.beq_eq_decide (a b : ElementKind) : (a == b) = decide (a = b) := by
  cases a <;> cases b <;> rfl

/-- 要素の検査の一歩：先頭の要素が項目のどれかに反すれば、最初に反した項目の誤りで終わり、
どれにも反しなければ、その要素を記録に加えて残りの要素へ進む。 -/
theorem checkElements_cons {v : String} {ps : List String} {before : List ElementDecl}
    {ids : List String} {tasks : List Int} {links : List String} (hs : Seen before ids tasks links)
    (el : ElementDecl) (rest : List ElementDecl) :
    checkElements v ps ids tasks links (el :: rest) =
      match elementFailure v ps before el with
      | some e => .error e
      | none => checkElements v ps (el.id :: ids)
          (if el.kind = .task then el.taskId :: tasks else tasks)
          (if el.kind = .linkCatch then el.linkRef :: links else links) rest := by
  rw [checkElements]
  simp only [bind, Except.bind, throw, throwThe, MonadExceptOf.throw, List.contains_eq_mem, hs.ids,
    hs.tasks, hs.links]
  simp only [elementFailure, ElementCheck.all, List.findSome?_cons, List.findSome?_nil,
    ElementCheck.failure, ElementCheck.fails, ElementCheck.error, ElementDecl.taskId,
    ElementDecl.eventId, ElementDecl.modelSwitch?, ElementDecl.linkRef, ElementDecl.processRef]
  obtain ⟨id, kind, name, process, gateway, link, task, event⟩ := el
  by_cases hfresh : id ∈ before.map (·.id)
  · simp [hfresh]
  simp only [hfresh, decide_false, if_false, Bool.false_eq_true]
  by_cases hknown : ∀ p, process = some p → p ∈ ps
  swap
  · -- 参照が宣言にないプロセスを指せば、その誤りで終わる。
    obtain ⟨p, rfl, hp⟩ : ∃ p, process = some p ∧ p ∉ ps := by simpa using hknown
    simp [hp]
  -- 参照が宣言されたプロセスを指すときも、参照がないときも、種類ごとの検査が続く。
  cases process
  all_goals
    simp only [Option.any_none, Option.any_some, decide_not] at hknown ⊢
    cases kind <;> simp [hknown, ElementKind.beq_eq_decide]
    case task =>
      by_cases hpos : (task.map (·.id)).getD 0 ≤ 0
      · simp [hpos]
      by_cases hdup : (task.map (·.id)).getD 0 ∈ taskIdsOf before <;> simp [hpos, hdup]
    case event =>
      by_cases hpos : (event.map (·.id)).getD 0 ≤ 0
      · simp [hpos]
      cases hsw : event.bind (·.modelSwitch) with
      | none => simp [hpos]
      | some sw =>
        by_cases hbad : Text.isBlankText sw.version = true ∨ sw.event ≤ 0 <;> simp [hpos, hbad]
    case gateway =>
      by_cases hnone : gateway = none <;> simp [hnone]
    case linkThrow =>
      cases link with
      | none => simp
      | some l => by_cases hblank : Text.isBlankText l = true <;> simp [hblank]
    case linkCatch =>
      cases link with
      | none => simp
      | some l =>
        by_cases hblank : Text.isBlankText l = true
        · simp [hblank]
        by_cases hdup : l ∈ linkCatchNames before <;> simp [hblank, hdup]

/-- 記録が前の要素の列と合っていれば、要素の検査は、要素を先頭から調べて最初に出た要素の誤りで
終わる。 -/
theorem checkElements_eq_firstFailure {v : String} {ps : List String} :
    ∀ {before : List ElementDecl} {ids : List String} {tasks : List Int} {links : List String}
      (els : List ElementDecl), Seen before ids tasks links →
      checkElements v ps ids tasks links els =
        ofFailure (firstFailure (elementFailure v ps) before els)
  | _, _, _, _, [], _ => rfl
  | before, ids, tasks, links, el :: rest, hs => by
    rw [checkElements_cons hs, firstFailure]
    cases elementFailure v ps before el with
    | some e => rfl
    | none => exact checkElements_eq_firstFailure rest (hs.snoc el)


/-- プロセスの id の重複の検査は、プロセスを先頭から調べて最初に出たプロセスの誤りで終わる。
`seen` は、それまでに見たプロセスの列 `before` の id を持つ。 -/
theorem firstDuplicate_eq_firstFailure :
    ∀ {seen : List String} {before : List ProcessDecl} (ps : List ProcessDecl),
      (∀ x, x ∈ seen ↔ x ∈ before.map (·.id)) →
      (firstDuplicate seen (ps.map (·.id))).map
          (fun p => Error.invalidDefinition s!"duplicate process id '{p}'") =
        firstFailure processFailure before ps
  | _, _, [], _ => rfl
  | seen, before, p :: ps, hseen => by
    by_cases hdup : p.id ∈ before.map (·.id)
    · simp [firstDuplicate, firstFailure, processFailure, hseen, hdup]
    · have hseen' : ∀ x, x ∈ p.id :: seen ↔ x ∈ (before ++ [p]).map (·.id) := by
        simp [hseen, or_comm]
      simp only [firstDuplicate, List.map_cons, List.contains_eq_mem, hseen, hdup, decide_false,
        Bool.false_eq_true, if_false, firstFailure, processFailure, Option.none_or]
      exact firstDuplicate_eq_firstFailure ps hseen'

/-- フローの検査は、フローを先頭から調べて最初に出たフローの誤りで終わる。 -/
theorem checkFlows_eq_firstFailure (ids : List String) :
    ∀ (before fs : List FlowDecl),
      checkFlows ids fs = ofFailure (firstFailure (flowFailure ids) before fs)
  | _, [] => rfl
  | before, f :: fs => by
    by_cases hok : f.source ∈ ids ∧ f.target ∈ ids
    · simp only [checkFlows, firstFailure, flowFailure, List.contains_eq_mem, hok, decide_true,
        Bool.and_self, if_true]
      exact checkFlows_eq_firstFailure ids (before ++ [f]) fs
    · simp [checkFlows, firstFailure, flowFailure, ofFailure, hok]

/-- 添字の順に要素の項目を引いて最初に出る誤りは、要素を先頭から調べて最初に出る要素の誤りである。 -/
theorem findSome?_elementChecks (m : ModelDecl) :
    ((List.range m.elements.length).flatMap fun i => ElementCheck.all.map (.element i)).findSome?
        m.violation? =
      firstFailure (elementFailure m.version (m.processes.map (·.id))) [] m.elements := by
  rw [findSome?_flatMap, firstFailure_eq_findSome]
  congr 1
  funext i
  rw [List.findSome?_map]
  -- 位置 `i` に要素があれば、その要素の項目を順に調べることになる。
  cases hel : m.elements[i]? with
  | none => simp [Function.comp_def, ModelDecl.violation?, failureAt, hel]
  | some el => simp [Function.comp_def, ModelDecl.violation?, failureAt, hel, elementFailure]

/-- **宣言の検査は、検査の項目を順に調べて、最初に反した項目の誤りで終わる。** -/
theorem ofDecl_eq (m : ModelDecl) : Graph.ofDecl m =
    match m.checks.findSome? m.violation? with
    | some e => .error e
    | none =>
      .ok { decl := m, checksum := m.checksum, definition := itemsDocument m.definition } := by
  have hprocs : ((List.range m.processes.length).map Check.process).findSome? m.violation? =
      firstFailure processFailure [] m.processes := by
    rw [List.findSome?_map, firstFailure_eq_findSome]
    rfl
  have hflows : ((List.range m.flows.length).map Check.flow).findSome? m.violation? =
      firstFailure (flowFailure (m.elements.map (·.id))) [] m.flows := by
    rw [List.findSome?_map, firstFailure_eq_findSome]
    rfl
  have hdup := @firstDuplicate_eq_firstFailure [] [] m.processes (by simp)
  rw [Graph.ofDecl]
  simp only [bind, Except.bind, throw, throwThe, MonadExceptOf.throw, pure, Except.pure,
    checkElements_eq_firstFailure m.elements Seen.nil, checkFlows_eq_firstFailure _ [] m.flows]
  simp only [ModelDecl.checks, List.findSome?_cons, List.findSome?_append, hprocs,
    findSome?_elementChecks, hflows, ← hdup]
  -- 版、プロセス、要素、フローの順に、誤りが出たところで止まる。
  by_cases hv : Text.isBlankText m.version = true
  · simp [ModelDecl.violation?, hv]
  simp only [ModelDecl.violation?, hv, if_false, Bool.false_eq_true]
  cases firstDuplicate [] (m.processes.map (·.id)) with
  | some p => rfl
  | none =>
    cases firstFailure (elementFailure m.version (m.processes.map (·.id))) [] m.elements with
    | some e => rfl
    | none =>
      cases firstFailure (flowFailure (m.elements.map (·.id))) [] m.flows <;> rfl

/-! ## 項目の列は検査の順に並ぶ -/

theorem checks_pairwise (m : ModelDecl) : m.checks.Pairwise (· < ·) := by
  -- 鍵の第一成分は段（版、プロセス、要素、フローの順に 0 から 3）で、段が前の項目は前に並ぶ。
  have hstage : ∀ {a b : Check}, (ofLex a.key).1 < (ofLex b.key).1 → a < b :=
    fun h => Check.lt_iff_key.mpr (Prod.Lex.lt_iff.mpr (Or.inl h))
  have hprocs : ∀ c ∈ (List.range m.processes.length).map Check.process, (ofLex c.key).1 = 1 := by
    simp [Check.key]
  have helems : ∀ c ∈ (List.range m.elements.length).flatMap
      (fun i => ElementCheck.all.map (Check.element i)), (ofLex c.key).1 = 2 := by
    simp only [List.mem_flatMap, List.mem_map]
    rintro c ⟨i, -, d, -, rfl⟩
    rfl
  have hflows : ∀ c ∈ (List.range m.flows.length).map Check.flow, (ofLex c.key).1 = 3 := by
    simp [Check.key]
  rw [ModelDecl.checks, List.pairwise_cons, List.pairwise_append, List.pairwise_append]
  refine ⟨fun c hc => hstage ?_, ⟨⟨?_, ?_, fun a ha b hb => hstage ?_⟩, ?_,
    fun a ha b hb => hstage ?_⟩⟩
  · rcases List.mem_append.mp hc with hc | hc
    · rcases List.mem_append.mp hc with hc | hc
      · rw [hprocs c hc]; decide
      · rw [helems c hc]; decide
    · rw [hflows c hc]; decide
  · -- 区間の中は添字の順に並ぶ。
    exact List.pairwise_map.mpr (List.pairwise_lt_range.imp Check.process_lt_process.mpr)
  · refine List.pairwise_flatMap.mpr ⟨fun i _ => ?_, List.pairwise_lt_range.imp fun h => ?_⟩
    · exact List.pairwise_map.mpr (ElementCheck.all_pairwise.imp fun h => by simp [h])
    · simp [h]
  · rw [hprocs a ha, helems b hb]; decide
  · exact List.pairwise_map.mpr (List.pairwise_lt_range.imp Check.flow_lt_flow.mpr)
  · rcases List.mem_append.mp ha with ha | ha
    · rw [hprocs a ha, hflows b hb]; decide
    · rw [helems a ha, hflows b hb]; decide

/-- 誤りのある項目は、項目の列にある。 -/
theorem mem_checks {m : ModelDecl} {c : Check} {e : Error} (h : m.violation? c = some e) :
    c ∈ m.checks := by
  cases c with
  | version => simp [ModelDecl.checks]
  | process i =>
    have hi := lt_length_of_failureAt_eq_some h
    simp [ModelDecl.checks, hi]
  | element i c =>
    have hi := lt_length_of_failureAt_eq_some h
    simp [ModelDecl.checks, hi, ElementCheck.mem_all]
  | flow i =>
    have hi := lt_length_of_failureAt_eq_some h
    simp [ModelDecl.checks, hi]

/-! ## 検査を通る条件 -/

/-- 要素の検査の項目が、要素の列 `els` 全体で成り立つという条件。`ps` は宣言されたプロセスの id。 -/
def ElementCheck.holds (ps : List String) (els : List ElementDecl) : ElementCheck → Prop
  | .freshId => (els.map (·.id)).Nodup
  | .knownProcess => ∀ el ∈ els, ∀ p, el.process = some p → p ∈ ps
  | .taskId => ∀ el ∈ els, el.kind = .task → 0 < el.taskId
  | .freshTaskId => (taskIdsOf els).Nodup
  | .eventId => ∀ el ∈ els, el.kind = .event → 0 < el.eventId
  | .modelSwitch => ∀ el ∈ els, el.kind = .event → ∀ sw, el.modelSwitch? = some sw →
      Text.isBlankText sw.version = false ∧ 0 < sw.event
  | .gatewayKind => ∀ el ∈ els, el.kind = .gateway → el.gateway.isSome
  | .linkName => ∀ el ∈ els, (el.kind = .linkThrow ∨ el.kind = .linkCatch) →
      ∃ l, el.link = some l ∧ Text.isBlankText l = false
  | .freshLinkCatch => (linkCatchNames els).Nodup

theorem ElementCheck.failure_eq_none {v : String} {ps : List String} {c : ElementCheck}
    {before : List ElementDecl} {el : ElementDecl} :
    c.failure v ps before el = none ↔ c.fails ps before el = false := by
  unfold failure
  cases c.fails ps before el <;> simp

/-- 要素の項目は、要素を先頭から調べて反するものがなければ、要素の列全体で成り立つ。 -/
theorem firstFailure_elementCheck_eq_none_iff (v : String) (ps : List String)
    (els : List ElementDecl) (c : ElementCheck) :
    firstFailure (c.failure v ps) [] els = none ↔ c.holds ps els := by
  -- 項目は、前の要素によらないものと、前の要素に同じ値がないことを求めるものとに分かれる。
  have hlocal : ∀ {c : ElementCheck} {q : ElementDecl → Prop},
      (∀ b x, c.fails ps b x = false ↔ q x) →
        (firstFailure (c.failure v ps) [] els = none ↔ ∀ x ∈ els, q x) := fun h =>
    firstFailure_eq_none_of_local (fun b x => ElementCheck.failure_eq_none.trans (h b x)) [] els
  have hfresh : ∀ {c : ElementCheck} {β : Type} {p : ElementDecl → Bool} {f : ElementDecl → β},
      (∀ b x, c.fails ps b x = false ↔ (p x = true → f x ∉ (b.filter p).map f)) →
        (firstFailure (c.failure v ps) [] els = none ↔ ((els.filter p).map f).Nodup) := fun h =>
    firstFailure_eq_none_of_fresh (fun b x => ElementCheck.failure_eq_none.trans (h b x)) [] els
      (by simp)
  cases c with
  | freshId =>
    have htest : ∀ b x, ElementCheck.freshId.fails ps b x = false ↔
        ((fun _ => true) x = true → x.id ∉ (b.filter fun _ => true).map (·.id)) := by
      simp [ElementCheck.fails]
    simpa [ElementCheck.holds] using hfresh htest
  | knownProcess => exact hlocal (by simp [ElementCheck.fails, Option.any_eq_false])
  | taskId => exact hlocal (by simp [ElementCheck.fails])
  | freshTaskId =>
    have htest : ∀ b x, ElementCheck.freshTaskId.fails ps b x = false ↔
        (decide (x.kind = .task) = true → x.taskId ∉ taskIdsOf b) := by
      simp [ElementCheck.fails]
    exact hfresh htest
  | eventId => exact hlocal (by simp [ElementCheck.fails])
  | modelSwitch => exact hlocal (by simp [ElementCheck.fails, Option.any_eq_false])
  | gatewayKind => exact hlocal (by simp [ElementCheck.fails, Option.isSome_iff_ne_none])
  | linkName => exact hlocal (by simp [ElementCheck.fails, Option.all_eq_false])
  | freshLinkCatch =>
    have htest : ∀ b x, ElementCheck.freshLinkCatch.fails ps b x = false ↔
        (decide (x.kind = .linkCatch) = true → x.linkRef ∉ linkCatchNames b) := by
      simp [ElementCheck.fails]
    exact hfresh htest

theorem ElementDecl.taskId_pos_iff (el : ElementDecl) :
    0 < el.taskId ↔ ∃ t, el.task = some t ∧ 0 < t.id := by
  cases h : el.task <;> simp [ElementDecl.taskId, h]

theorem ElementDecl.event_valid_iff (el : ElementDecl) :
    (0 < el.eventId ∧ ∀ sw, el.modelSwitch? = some sw →
        Text.isBlankText sw.version = false ∧ 0 < sw.event) ↔
      ∃ ev, el.event = some ev ∧ 0 < ev.id ∧
        ∀ sw, ev.modelSwitch = some sw → Text.isBlankText sw.version = false ∧ 0 < sw.event := by
  cases h : el.event <;> simp [ElementDecl.eventId, ElementDecl.modelSwitch?, h]

/-- 宣言の要素の条件は、要素の項目がどれも要素の列全体で成り立つことである。 -/
theorem ModelDecl.valid_iff_holds (m : ModelDecl) : m.Valid ↔
    Text.isBlankText m.version = false ∧ (m.processes.map (·.id)).Nodup ∧
      (∀ c : ElementCheck, c.holds (m.processes.map (·.id)) m.elements) ∧
      ∀ f ∈ m.flows, f.source ∈ m.elements.map (·.id) ∧ f.target ∈ m.elements.map (·.id) := by
  constructor
  · intro hv
    refine ⟨hv.version, hv.processIds, fun c => ?_, hv.flows⟩
    cases c with
    | freshId => exact hv.elementIds
    | knownProcess => exact hv.processRefs
    | taskId => exact fun el hel hk => el.taskId_pos_iff.mpr (hv.tasks el hel hk)
    | freshTaskId => exact hv.taskIds
    | eventId => exact fun el hel hk => (el.event_valid_iff.mpr (hv.events el hel hk)).1
    | modelSwitch => exact fun el hel hk => (el.event_valid_iff.mpr (hv.events el hel hk)).2
    | gatewayKind => exact hv.gateways
    | linkName => exact hv.links
    | freshLinkCatch => exact hv.linkCatches
  · rintro ⟨hv, hp, hc, hf⟩
    exact {
      version := hv
      processIds := hp
      elementIds := hc .freshId
      processRefs := hc .knownProcess
      tasks := fun el hel hk => el.taskId_pos_iff.mp (hc .taskId el hel hk)
      taskIds := hc .freshTaskId
      events := fun el hel hk =>
        el.event_valid_iff.mp ⟨hc .eventId el hel hk, hc .modelSwitch el hel hk⟩
      gateways := hc .gatewayKind
      links := hc .linkName
      linkCatches := hc .freshLinkCatch
      flows := hf }

/-- **宣言が検査の条件を満たすのは、どの項目にも反しないときである。** -/
theorem ModelDecl.valid_iff (m : ModelDecl) : m.Valid ↔ ∀ c, m.violation? c = none := by
  rw [m.valid_iff_holds]
  have hversion : m.violation? .version = none ↔ Text.isBlankText m.version = false := by
    simp [ModelDecl.violation?]
  have hprocs : (∀ i, m.violation? (.process i) = none) ↔ (m.processes.map (·.id)).Nodup := by
    have h := @firstFailure_eq_none_of_fresh _ _ _ processFailure (fun _ => true) (·.id)
      (by simp [processFailure]) [] m.processes (by simp)
    rw [List.nil_append, List.filter_true] at h
    exact firstFailure_eq_none_iff.symm.trans h
  have helems : ∀ c : ElementCheck, (∀ i, m.violation? (.element i c) = none) ↔
      c.holds (m.processes.map (·.id)) m.elements := fun c =>
    firstFailure_eq_none_iff.symm.trans (firstFailure_elementCheck_eq_none_iff _ _ _ c)
  have hflows : (∀ i, m.violation? (.flow i) = none) ↔
      ∀ f ∈ m.flows, f.source ∈ m.elements.map (·.id) ∧ f.target ∈ m.elements.map (·.id) := by
    have htest : ∀ b f, flowFailure (m.elements.map (·.id)) b f = none ↔
        f.source ∈ m.elements.map (·.id) ∧ f.target ∈ m.elements.map (·.id) := by
      intro b f
      unfold flowFailure
      split
      · next hok => exact ⟨fun _ => hok, fun _ => rfl⟩
      · next hbad => exact ⟨fun h => by simp at h, fun h => absurd h hbad⟩
    exact firstFailure_eq_none_iff.symm.trans (firstFailure_eq_none_of_local htest [] m.flows)
  constructor
  · rintro ⟨hv, hp, hc, hf⟩ c
    cases c with
    | version => exact hversion.mpr hv
    | process i => exact hprocs.mpr hp i
    | element i c => exact (helems c).mpr (hc c) i
    | flow i => exact hflows.mpr hf i
  · intro h
    exact ⟨hversion.mp (h _), hprocs.mp fun _ => h _, fun c => (helems c).mp fun _ => h _,
      hflows.mp fun _ => h _⟩

/-! ## 誤りの種類 -/

/-- 項目に反したときの誤りは、モデルの切り替えの項目ならモデルが使えないという誤り、ほかの項目なら
定義の誤りである。 -/
theorem ModelDecl.violation?_kind {m : ModelDecl} {c : Check} {e : Error}
    (h : m.violation? c = some e) :
    (c.isModelSwitch = true → ∃ r, e = .invalidModel m.version r) ∧
      (c.isModelSwitch = false → ∃ r, e = .invalidDefinition r) := by
  cases c with
  | version =>
    simp only [ModelDecl.violation?, Option.ite_none_right_eq_some, Option.some.injEq] at h
    obtain ⟨-, rfl⟩ := h
    simp [Check.isModelSwitch]
  | process i =>
    obtain ⟨p, -, hp⟩ := failureAt_eq_some h
    simp only [processFailure, Option.ite_none_right_eq_some, Option.some.injEq] at hp
    obtain ⟨-, rfl⟩ := hp
    simp [Check.isModelSwitch]
  | element i c =>
    obtain ⟨el, -, hel⟩ := failureAt_eq_some h
    simp only [ElementCheck.failure, Option.ite_none_right_eq_some, Option.some.injEq] at hel
    obtain ⟨-, rfl⟩ := hel
    -- 誤りの種類は項目だけで決まる。
    cases c <;> simp [Check.isModelSwitch, ElementCheck.error]
  | flow i =>
    obtain ⟨f, -, hf⟩ := failureAt_eq_some h
    simp only [flowFailure, Option.ite_none_left_eq_some, Option.some.injEq] at hf
    obtain ⟨-, rfl⟩ := hf
    simp [Check.isModelSwitch]

/-! ## 主定理 -/

/-- **宣言の検査は、条件を満たす宣言だけを通し、通さないときは最初に反した項目の誤りを返す。**
その誤りは、モデルの切り替えの項目ならモデルが使えないという誤り、ほかの項目なら定義の誤りで
ある。 -/
theorem ofDecl_first_violation (m : ModelDecl) :
    ((∃ g, Graph.ofDecl m = .ok g) ↔ m.Valid) ∧
      (∀ e, Graph.ofDecl m = .error e ↔ m.FirstViolation e) ∧
      ∀ c e, m.violation? c = some e →
        (c.isModelSwitch = true → ∃ r, e = .invalidModel m.version r) ∧
          (c.isModelSwitch = false → ∃ r, e = .invalidDefinition r) := by
  refine ⟨?_, fun e => ?_, fun c e h => m.violation?_kind h⟩
  · -- 誤りのある項目はどれも項目の列にあるので、列に誤りがなければどの項目にも誤りはない。
    have hnone : m.checks.findSome? m.violation? = none ↔ ∀ c, m.violation? c = none := by
      rw [List.findSome?_eq_none_iff]
      refine ⟨fun h c => ?_, fun h c _ => h c⟩
      cases hc : m.violation? c with
      | none => rfl
      | some e => simp [← hc, h c (mem_checks hc)]
    rw [ofDecl_eq, m.valid_iff, ← hnone]
    cases m.checks.findSome? m.violation? <;> simp
  · rw [ofDecl_eq, ModelDecl.FirstViolation,
      ← findSome?_eq_some_iff_least (checks_pairwise m) (fun _ _ => mem_checks)]
    cases m.checks.findSome? m.violation? <;> simp

/-- 切り替え先のイベントのないイベントは、そのあとのフローの誤りより先に、モデルが使えないという
誤りになる。 -/
example : (match Graph.ofDecl
    { version := "1"
      elements := [{ id := "e", kind := .event,
                     event := some { id := 1, modelSwitch := some { version := "2", event := 0 } } }]
      flows := [{ source := "e", target := "x" }] } with
    | .error e => e.kindName
    | .ok _ => "") = "InvalidModel" := by
  decide +kernel

end Workflow.Model
