import Mathlib
import Workflow.Proofs.Caches

/-!
# 登録簿の約束

作ったばかりの登録簿に、登録・取り除き・引く操作をどの順に何度行っても、版 `v` ごとに
次が成り立つ（`registry_contract`）。

* 版を引いて誤りになるのは、最後に `v` を取り除いてから `v` の登録が一度も成功していない
  ときだけである。
* そうでなければ、引いたモデルの宣言は、`v` の最後に成功した登録で渡したモデルの宣言に等しい。
* 次に登録するモデルについて、登録が `false` を返すのは、その版に宣言の同じモデルが
  もう登録されているときだけで、そうでなければ `true` を返して渡したモデルを登録する。

登録は宣言どうしではなく宣言の指紋（CRC-32C）を比べる。そのため後の二つは、登録に渡した
モデルのどの二つも、指紋が同じなら宣言も同じであるとき（`CollisionFree`）に限って成り立つ。
衝突があれば、宣言の違うモデルの登録が `false` を返し、古いモデルが残る。

証明は、登録簿の版 `v` のモデルと、操作の列だけから決まる「最後に成功した登録」
（`lastAdded`）とが、指紋も宣言も同じであるという不変条件による。一歩は `apply_agrees`、
列についての帰納法が `run_agrees` である。
-/

namespace Workflow.Model

/-- 指紋が自分の宣言の指紋であるモデル。宣言を検査して作ったモデルはどれもそうである。 -/
def Graph.Sealed (g : Graph) : Prop :=
  g.checksum = g.decl.checksum

/-- 検査を通った宣言から作ったモデルは、宣言がそれで、版が空白でなく、指紋が宣言の指紋である。 -/
theorem Graph.ofDecl_sealed {m : ModelDecl} {g : Graph} (h : Graph.ofDecl m = .ok g) :
    g.decl = m ∧ g.Sealed ∧ Text.isBlankText g.version = false := by
  unfold Graph.ofDecl at h
  simp only [bind, Except.bind, throw, throwThe, MonadExceptOf.throw] at h
  repeat' split at h
  all_goals try cases h
  exact ⟨rfl, rfl, by simpa [Graph.version] using ‹¬Text.isBlankText m.version = true›⟩

/-- モデルの列に指紋の衝突がない：指紋が同じなら宣言も同じである。 -/
def CollisionFree (gs : List Graph) : Prop :=
  ∀ g ∈ gs, ∀ g' ∈ gs, g.checksum = g'.checksum → g.decl = g'.decl

theorem CollisionFree.mono {gs gs' : List Graph} (h : CollisionFree gs) (hs : gs' ⊆ gs) :
    CollisionFree gs' :=
  fun g hg g' hg' => h g (hs hg) g' (hs hg')

/-- 指紋も宣言も同じモデル。 -/
def Graph.Same (g g' : Graph) : Prop :=
  g.checksum = g'.checksum ∧ g.decl = g'.decl

/-- 登録に渡すモデル。 -/
def RegistryOp.added? : RegistryOp → Option Graph
  | .add g => some g
  | _ => none

/-- 操作の列のうち、登録に渡したモデル。 -/
def RegistryOp.addedGraphs (ops : List RegistryOp) : List Graph :=
  ops.filterMap RegistryOp.added?

@[simp] theorem RegistryOp.addedGraphs_nil : RegistryOp.addedGraphs [] = [] := rfl

@[simp] theorem RegistryOp.addedGraphs_cons (op : RegistryOp) (ops : List RegistryOp) :
    RegistryOp.addedGraphs (op :: ops) = op.added?.toList ++ RegistryOp.addedGraphs ops := by
  cases op <;> rfl

/-- 右が `some` の対応から、左のモデルを取り出す。 -/
theorem Graph.exists_of_rel_some {a : Option Graph} {l : Graph} (h : Option.Rel Graph.Same a (some l)) :
    ∃ g, a = some g ∧ Graph.Same g l := by
  cases h with
  | some hs => exact ⟨_, rfl, hs⟩

theorem Graph.exists_of_some_rel {g : Graph} {b : Option Graph} (h : Option.Rel Graph.Same (some g) b) :
    ∃ l, b = some l ∧ Graph.Same g l := by
  cases h with
  | some hs => exact ⟨_, rfl, hs⟩

namespace Registry

/-! ## 最後に成功した登録 -/

/-- 版 `v` の最後に成功した登録を、操作を一つ見て改める。登録は版が空白でなければ成功し、
`v` の取り除きはそれを消す。引く操作は何も変えない。 -/
def lastAddedStep (v : String) (last : Option Graph) : RegistryOp → Option Graph
  | .add g => if g.version = v ∧ Text.isBlankText g.version = false then some g else last
  | .remove w => if w = v then none else last
  | _ => last

/-- 操作の列の中で、版 `v` の最後に成功した登録。その後に `v` を取り除いていれば `none`。 -/
def lastAdded (v : String) (ops : List RegistryOp) : Option Graph :=
  ops.foldl (lastAddedStep v) none

/-- 一歩の後の最後の登録は、前の最後の登録か、その一歩で登録に渡したモデルである。 -/
theorem lastAddedStep_subset (v : String) (last : Option Graph) (op : RegistryOp) :
    (lastAddedStep v last op).toList ⊆ last.toList ++ op.added?.toList := by
  intro g hg
  have h := Option.mem_toList.mp hg
  cases op with
  | add g' =>
    simp only [lastAddedStep] at h
    split at h
    · cases h
      simp [RegistryOp.added?]
    · simp [h]
  | remove w =>
    simp only [lastAddedStep] at h
    split at h
    · cases h
    · simp [h]
  | _ =>
    simp only [lastAddedStep] at h
    simp [h]

/-- 一歩を挟んだ列の登録も、一歩の前の列の登録に含まれる。 -/
theorem lastAddedStep_append_subset (v : String) (last : Option Graph) (op : RegistryOp)
    (rest : List Graph) :
    (lastAddedStep v last op).toList ++ rest ⊆ last.toList ++ op.added?.toList ++ rest :=
  List.append_subset.mpr ⟨List.Subset.trans (lastAddedStep_subset v last op) (List.subset_append_left _ _),
    List.subset_append_right _ _⟩

/-! ## 登録簿の操作 -/

/-- 入れた版と違う版を引けば、入れる前と同じである。 -/
theorem lookup_insertModel_of_ne {v w : String} (hne : v ≠ w) (g : Graph) :
    ∀ ms : List (String × Graph), (insertModel w g ms).lookup v = ms.lookup v
  | [] => by simp [insertModel, List.lookup, beq_false_of_ne hne]
  | (x, h) :: rest => by
    have hvw : (v == w) = false := beq_false_of_ne hne
    simp only [insertModel]
    split
    · simp only [List.lookup, hvw]
    · split
      · next hwx =>
        have hwx : w = x := by simpa using hwx
        subst hwx
        simp only [List.lookup, hvw]
      · by_cases hvx : v = x
        · subst hvx
          simp [List.lookup]
        · simp only [List.lookup, beq_false_of_ne hvx]
          exact lookup_insertModel_of_ne hne g rest

/-- 版を取り除いた登録簿では、その版は引けず、ほかの版は元のままである。 -/
theorem find?_remove (r : Registry) (v w : String) :
    (r.remove w).find? v = if v = w then none else r.find? v := by
  unfold Registry.remove Registry.find?
  simp only [publish_models]
  induction r.models with
  | nil => simp
  | cons e rest ih =>
    obtain ⟨x, h⟩ := e
    by_cases hx : x = w
    · -- 取り除く版の組は捨てられる
      subst hx
      simp only [List.filter_cons, bne_self_eq_false, Bool.false_eq_true, if_false, ih]
      by_cases hvx : v = x
      · simp [hvx]
      · simp [hvx, List.lookup, beq_false_of_ne hvx]
    · have hxw : (x != w) = true := bne_iff_ne.mpr hx
      simp only [List.filter_cons, hxw, if_true]
      by_cases hvx : v = x
      · subst hvx
        simp [List.lookup, hx]
      · simp only [List.lookup, beq_false_of_ne hvx, ih]

/-- 引く操作は登録されたモデルを変えない。 -/
theorem find?_apply_lookup {r : Registry} {op : RegistryOp} (hop : op.added? = none)
    (hrm : ∀ w, op ≠ .remove w) (v : String) : (r.apply op).2.find? v = r.find? v := by
  cases op with
  | add g => simp [RegistryOp.added?] at hop
  | remove w => exact absurd rfl (hrm w)
  | findTask g t => simp only [find?, apply, findTask_models]
  | findEvents g t => simp only [find?, apply, findEvents_models]
  | findEvent g t e => simp only [find?, apply, findEvent_models]
  | findGroups g => simp only [find?, apply, findGroups_models]

/-- **登録の答え。** 版が空白なら誤り。同じ版に指紋の同じモデルがあれば `false` で、登録簿は
そのまま。それ以外は `true` で、版 `g.version` だけが `g` に替わる。 -/
theorem add_cases (r : Registry) (g : Graph) :
    (Text.isBlankText g.version = true ∧ ∃ e, r.add g = .error e) ∨
    (Text.isBlankText g.version = false ∧
      ∃ old, r.find? g.version = some old ∧ old.checksum = g.checksum ∧ r.add g = .ok (false, r)) ∨
    (Text.isBlankText g.version = false ∧
      (∀ old, r.find? g.version = some old → old.checksum ≠ g.checksum) ∧
      ∃ r', r.add g = .ok (true, r') ∧ ∀ v, r'.find? v = if v = g.version then some g else r.find? v) := by
  -- 取り替えた登録簿の版 `v` は、`g` の版なら `g`、それ以外は元のまま
  have hins : ∀ v, (publish (insertModel g.version g r.models)).find? v =
      if v = g.version then some g else r.find? v := by
    intro v
    unfold find?
    split
    · next hv => subst hv; exact lookup_insertModel_self _ _ _
    · next hv => exact lookup_insertModel_of_ne hv _ _
  cases hb : Text.isBlankText g.version with
  | true => exact .inl ⟨rfl, .invalidDefinition "model version must not be empty", by simp [add, hb]⟩
  | false =>
    cases ho : r.find? g.version with
    | none =>
      refine .inr (.inr ⟨rfl, by simp, _, by simp [add, hb, ho], hins⟩)
    | some old =>
      by_cases hc : old.checksum = g.checksum
      · exact .inr (.inl ⟨rfl, old, rfl, hc, by simp [add, hb, ho, hc]⟩)
      · refine .inr (.inr ⟨rfl, ?_, _, by simp [add, hb, ho, hc], hins⟩)
        intro old' ho'
        cases ho'
        exact hc

/-! ## 登録簿と最後に成功した登録 -/

/-- 一歩：登録簿の版 `v` のモデルと最後に成功した登録が指紋も宣言も同じなら、操作を一つ
行った後もそうである。登録で指紋が一致して登録簿が変わらないときに、衝突がないことを使う。 -/
theorem apply_agrees {r : Registry} {v : String} {last : Option Graph} (op : RegistryOp)
    (hcol : CollisionFree (last.toList ++ op.added?.toList))
    (h : Option.Rel Graph.Same (r.find? v) last) :
    Option.Rel Graph.Same ((r.apply op).2.find? v) (lastAddedStep v last op) := by
  cases op with
  | add g =>
    rcases add_cases r g with ⟨hb, e, he⟩ | ⟨hb, old, ho, hc, he⟩ | ⟨hb, -, r', he, hfind⟩
    · simpa [apply, he, lastAddedStep, hb] using h
    · simp only [apply, he, lastAddedStep, hb, and_true]
      split
      · next hv =>
        -- 登録簿はそのままで `old` が残る。`old` と同じ最後の登録は `g` と指紋が同じなので、
        -- 衝突がなければ宣言も同じ
        subst hv
        rw [ho] at h
        obtain ⟨l, rfl, hsame⟩ := Graph.exists_of_some_rel h
        have hdecl : l.decl = g.decl :=
          hcol l (by simp) g (by simp [RegistryOp.added?]) (hsame.1.symm.trans hc)
        exact ho ▸ .some ⟨hc, hsame.2.trans hdecl⟩
      · exact h
    · simp only [apply, he, lastAddedStep, hb, and_true, hfind]
      split
      · next hv => simp only [hv, if_true]; exact .some ⟨rfl, rfl⟩
      · next hv => simp only [Ne.symm hv, if_false]; exact h
  | remove w =>
    simp only [apply, find?_remove, lastAddedStep]
    split
    · next hv => simp only [hv, if_true]; exact .none
    · next hv => simp only [Ne.symm hv, if_false]; exact h
  | findTask g t => rw [find?_apply_lookup rfl (by simp) v]; exact h
  | findEvents g t => rw [find?_apply_lookup rfl (by simp) v]; exact h
  | findEvent g t e => rw [find?_apply_lookup rfl (by simp) v]; exact h
  | findGroups g => rw [find?_apply_lookup rfl (by simp) v]; exact h

theorem run_snd_cons (r : Registry) (op : RegistryOp) (ops : List RegistryOp) :
    (r.run (op :: ops)).2 = ((r.apply op).2.run ops).2 := rfl

/-- 列：操作の列を通して、登録簿の版 `v` のモデルと最後に成功した登録は指紋も宣言も同じで
ある。列の長さについての帰納法で、一歩は `apply_agrees`。 -/
theorem run_agrees (v : String) :
    ∀ (ops : List RegistryOp) (r : Registry) (last : Option Graph),
      CollisionFree (last.toList ++ RegistryOp.addedGraphs ops) →
      Option.Rel Graph.Same (r.find? v) last →
      Option.Rel Graph.Same ((r.run ops).2.find? v) (ops.foldl (lastAddedStep v) last)
  | [], _, _, _, h => h
  | op :: ops, r, last, hcol, h => by
    rw [run_snd_cons, List.foldl_cons]
    rw [RegistryOp.addedGraphs_cons, ← List.append_assoc] at hcol
    exact run_agrees v ops _ _ (hcol.mono (lastAddedStep_append_subset v last op _))
      (apply_agrees op (hcol.mono (List.subset_append_left _ _)) h)

/-- 最後に成功した登録は、登録に渡したモデルのどれかである。 -/
theorem foldl_lastAddedStep_mem (v : String) :
    ∀ (ops : List RegistryOp) (last : Option Graph) {l : Graph},
      ops.foldl (lastAddedStep v) last = some l → l ∈ last.toList ++ RegistryOp.addedGraphs ops
  | [], last, l, h => by simp only [List.foldl_nil] at h; simp [h]
  | op :: ops, last, l, h => by
    rw [RegistryOp.addedGraphs_cons, ← List.append_assoc]
    exact lastAddedStep_append_subset v last op _ (foldl_lastAddedStep_mem v ops _ h)

theorem lastAdded_mem {v : String} {ops : List RegistryOp} {l : Graph} (h : lastAdded v ops = some l) :
    l ∈ RegistryOp.addedGraphs ops := by
  simpa using foldl_lastAddedStep_mem v ops none h

/-- 登録簿の版 `v` のモデルと最後の登録が指紋も宣言も同じなら、版を引いた答えはその登録で
決まる：登録がなければ誤り、あれば宣言の同じモデル。 -/
theorem get_of_agrees {r : Registry} {v : String} {last : Option Graph}
    (h : Option.Rel Graph.Same (r.find? v) last) :
    (r.get v = .error (.undefinedModelVersion v) ↔ last = none) ∧
      ∀ l, last = some l → ∃ g', r.get v = .ok g' ∧ Graph.Same g' l := by
  unfold get
  cases ha : r.find? v <;> cases hb : last <;> simp_all

theorem get_eq_ok_iff (r : Registry) (v : String) (g : Graph) :
    r.get v = .ok g ↔ r.find? v = some g := by
  unfold get
  split <;> simp_all

/-- **登録簿の約束。** 作ったばかりの登録簿に操作の列 `ops` を行った登録簿 `r` と、次に登録する
モデル `g` について、どのモデルも指紋が宣言の指紋であり、登録に渡したモデルに指紋の衝突が
なければ：

* 版 `v` を引いて誤りになるのは、`v` の最後に成功した登録がないときに限る。
* あれば、引いたモデルの宣言はその登録で渡したモデルの宣言に等しい。
* 版が空白でない `g` の登録が `false` を返して登録簿を変えないのは、その版に宣言の同じ
  モデルがあるときに限り、なければ `true` を返して `g` を登録する。 -/
theorem registry_contract (ops : List RegistryOp) (g : Graph)
    (hsealed : ∀ h ∈ g :: RegistryOp.addedGraphs ops, h.Sealed)
    (hcol : CollisionFree (g :: RegistryOp.addedGraphs ops)) :
    let r := (({} : Registry).run ops).2
    (∀ v, (r.get v = .error (.undefinedModelVersion v) ↔ lastAdded v ops = none) ∧
      ∀ l, lastAdded v ops = some l → ∃ g', r.get v = .ok g' ∧ g'.decl = l.decl) ∧
    (Text.isBlankText g.version = false →
      (r.add g = .ok (false, r) ↔ ∃ old, r.get g.version = .ok old ∧ old.decl = g.decl) ∧
      ((¬ ∃ old, r.get g.version = .ok old ∧ old.decl = g.decl) →
        ∃ r', r.add g = .ok (true, r') ∧ r'.get g.version = .ok g)) := by
  intro r
  have hcol' : CollisionFree (RegistryOp.addedGraphs ops) := hcol.mono (List.subset_cons_self _ _)
  have hagree : ∀ v, Option.Rel Graph.Same (r.find? v) (lastAdded v ops) := fun v =>
    run_agrees v ops {} none (by simpa using hcol') (by simp [find?])
  refine ⟨fun v => ⟨(get_of_agrees (hagree v)).1, fun l hl => ?_⟩, fun hb => ?_⟩
  · obtain ⟨g', hg', hs⟩ := (get_of_agrees (hagree v)).2 l hl
    exact ⟨g', hg', hs.2⟩
  · -- 登録済みのモデルと指紋が同じことは、宣言が同じことと同じである
    have hiff : ∀ old, r.find? g.version = some old → (old.checksum = g.checksum ↔ old.decl = g.decl) := by
      intro old ho
      have h := hagree g.version
      rw [ho] at h
      obtain ⟨l, hl, hs⟩ := Graph.exists_of_some_rel h
      have hlmem : l ∈ g :: RegistryOp.addedGraphs ops := List.mem_cons_of_mem _ (lastAdded_mem hl)
      constructor
      · intro hc
        exact hs.2.trans (hcol l hlmem g List.mem_cons_self (hs.1.symm.trans hc))
      · intro hd
        calc old.checksum = l.checksum := hs.1
          _ = l.decl.checksum := hsealed l hlmem
          _ = g.decl.checksum := by rw [← hs.2, hd]
          _ = g.checksum := (hsealed g List.mem_cons_self).symm
    rcases add_cases r g with ⟨hb', -⟩ | ⟨-, old, ho, hc, he⟩ | ⟨-, hne, r', he, hfind⟩
    · simp [hb] at hb'
    · have hold : ∃ old, r.get g.version = .ok old ∧ old.decl = g.decl :=
        ⟨old, (get_eq_ok_iff _ _ _).mpr ho, (hiff old ho).mp hc⟩
      exact ⟨iff_of_true he hold, fun hn => absurd hold hn⟩
    · refine ⟨iff_of_false (by simp [he]) ?_, fun _ => ⟨r', he, ?_⟩⟩
      · rintro ⟨old, hg, hd⟩
        have ho := (get_eq_ok_iff _ _ _).mp hg
        exact hne old ho ((hiff old ho).mpr hd)
      · rw [get_eq_ok_iff, hfind, if_pos rfl]

/-- 登録して引き、取り除いてまた登録した同じモデルは、引けば宣言がそれで、もう一度登録しても
`false` を返して登録簿を変えない。 -/
theorem readd_after_remove_unchanged :
    let m : ModelDecl := { version := "1.0", elements := [] }
    let g : Graph := { decl := m, checksum := m.checksum, definition := { items := [] } }
    let ops := [RegistryOp.add g, .findTask g 1, .remove "1.0", .add g]
    let r := (({} : Registry).run ops).2
    (∀ h ∈ g :: RegistryOp.addedGraphs ops, h.Sealed) ∧ CollisionFree (g :: RegistryOp.addedGraphs ops) ∧
      (∃ g', r.get "1.0" = .ok g' ∧ g'.decl = m) ∧ r.add g = .ok (false, r) := by
  intro m g ops r
  have hgs : ∀ h ∈ g :: RegistryOp.addedGraphs ops, h = g := by
    simp [ops, RegistryOp.added?]
  have hs : ∀ h ∈ g :: RegistryOp.addedGraphs ops, h.Sealed := fun h hh => hgs h hh ▸ rfl
  have hc : CollisionFree (g :: RegistryOp.addedGraphs ops) := fun a ha b hb _ => by
    rw [hgs a ha, hgs b hb]
  have hb : Text.isBlankText "1.0" = false := by decide +kernel
  have hl : lastAdded "1.0" ops = some g := by
    simp [lastAdded, lastAddedStep, ops, g, m, Graph.version, hb]
  have hcon := registry_contract ops g hs hc
  obtain ⟨g', hg', hd⟩ := (hcon.1 "1.0").2 g hl
  exact ⟨hs, hc, ⟨g', hg', hd⟩, ((hcon.2 hb).1).mpr ⟨g', hg', hd⟩⟩

end Registry

end Workflow.Model
