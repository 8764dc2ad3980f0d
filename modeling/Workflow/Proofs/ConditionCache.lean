import Mathlib
import Workflow.Proofs.Stamps

/-!
# 条件式の控えは答えを変えない

評価器は読めた条件式を字面ごとに控え、同じ字面を二度は読まない。作ったばかりの評価器に
式と文書の組をどの順に何度渡しても、どの呼び出しについても次が成り立つ
（`evaluate_cache_transparent`）。

* 答えは、その字面を読み直して文書について評価したものである。読めなければ読んだときの誤り。
* 呼び出しの後の控えの数は、それまでに渡した字面のうち読めるものの、相異なるものの数である。

読めない字面は控えない。そのため控えの数は渡した字面の数でも、相異なる字面の数でもない。

証明は、控えが「渡した字面のうち読めるもの」をちょうど一度ずつ、読み直した式とともに持つと
いう不変条件（`Tracks`）による。一歩は `Tracks.evaluate`、呼び出しの列は `tracks_evaluateAll`。
-/

namespace Workflow.Condition

namespace Evaluator

/-- 式と文書の組を順に評価したあとの評価器。 -/
def evaluateAll (ev : Evaluator) (calls : List (String × Document)) : Evaluator :=
  calls.foldl (fun ev call => (ev.evaluate call.1 call.2).2) ev

@[simp] theorem evaluateAll_nil (ev : Evaluator) : ev.evaluateAll [] = ev := rfl

theorem evaluateAll_append (ev : Evaluator) (calls : List (String × Document)) (e : String)
    (d : Document) : ev.evaluateAll (calls ++ [(e, d)]) = ((ev.evaluateAll calls).evaluate e d).2 := by
  simp [evaluateAll, List.foldl_append]

/-- 控えの字面。 -/
def keys (ev : Evaluator) : List String := ev.cache.map Prod.fst

theorem cached_eq_length_keys (ev : Evaluator) : ev.cached = ev.keys.length := by
  simp [cached, keys]

theorem lookup_eq_none_iff_not_mem_keys {ev : Evaluator} {s : String} :
    ev.cache.lookup s = none ↔ s ∉ ev.keys := by
  simp only [List.lookup_eq_none_iff, keys, List.mem_map, not_exists, not_and, bne_iff_ne, ne_eq]
  constructor
  · rintro h ⟨x, c⟩ hx rfl
    exact h _ hx rfl
  · rintro h ⟨x, c⟩ hx rfl
    exact h _ hx rfl

/-- 控えが、渡した字面 `seen` のうち読めるものを、ちょうど一度ずつ、読み直した式とともに持つ。 -/
structure Tracks (ev : Evaluator) (seen : List String) : Prop where
  parsed : ev.Parsed
  nodup : ev.keys.Nodup
  mem_keys : ∀ s, s ∈ ev.keys ↔ s ∈ seen ∧ (parse s).isOk = true

theorem tracks_empty : Tracks {} [] :=
  ⟨fun _ h => (by cases h), List.nodup_nil, fun s => by simp [keys]⟩

variable {ev : Evaluator} {seen : List String}

/-- 控えの数は、渡した字面のうち読めるものの、相異なるものの数である。 -/
theorem Tracks.cached_eq (h : ev.Tracks seen) : ev.cached = (seen.filter fun s => (parse s).isOk).toFinset.card := by
  have hset : ev.keys.toFinset = (seen.filter fun s => (parse s).isOk).toFinset := by
    ext s
    simp [h.mem_keys s]
  rw [cached_eq_length_keys, ← List.toFinset_card_of_nodup h.nodup, hset]

/-- 控えにある字面か読めない字面を渡しても、控えは変わらず、渡した字面に追いついている。 -/
theorem Tracks.snoc_of_known (h : ev.Tracks seen) {s : String} (hs : (parse s).isOk = true → s ∈ ev.keys) :
    ev.Tracks (seen ++ [s]) := by
  refine ⟨h.parsed, h.nodup, fun x => ?_⟩
  rw [h.mem_keys x, List.mem_append, List.mem_singleton]
  constructor
  · exact fun ⟨hx, hp⟩ => ⟨.inl hx, hp⟩
  · rintro ⟨hx | rfl, hp⟩
    · exact ⟨hx, hp⟩
    · exact (h.mem_keys x).mp (hs hp)

/-- 控えにない字面が読めれば、その字面と式が控えの末尾に加わる。 -/
theorem Tracks.snoc_fresh (h : ev.Tracks seen) {s : String} {c : Condition} (hs : s ∉ ev.keys)
    (hp : parse s = .ok c) : Tracks { cache := ev.cache ++ [(s, c)] } (seen ++ [s]) := by
  have hkeys : keys { cache := ev.cache ++ [(s, c)] } = ev.keys ++ [s] := by simp [keys]
  refine ⟨?_, ?_, fun x => ?_⟩
  · intro p hmem
    rcases List.mem_append.mp hmem with hmem | hmem
    · exact h.parsed p hmem
    · rw [List.mem_singleton.mp hmem]
      exact hp
  · rw [hkeys, List.nodup_append]
    exact ⟨h.nodup, List.nodup_singleton s, fun a ha b hb => by
      rw [List.mem_singleton.mp hb]
      rintro rfl
      exact hs ha⟩
  · rw [hkeys, List.mem_append, List.mem_singleton, h.mem_keys x, List.mem_append, List.mem_singleton]
    constructor
    · rintro (⟨hx, hpx⟩ | rfl)
      · exact ⟨.inl hx, hpx⟩
      · exact ⟨.inr rfl, by rw [hp]; rfl⟩
    · rintro ⟨hx | rfl, hpx⟩
      · exact .inl ⟨hx, hpx⟩
      · exact .inr rfl

/-- 一歩：式を一つ読んだ後も、控えは渡した字面に追いついている。控えにあれば何も変わらず、
なければ読めたときだけ末尾に一つ増える。 -/
theorem Tracks.condition (h : ev.Tracks seen) (s : String) : (ev.condition s).2.Tracks (seen ++ [s]) := by
  unfold Evaluator.condition
  cases hl : ev.cache.lookup s with
  | some c =>
    have hs : s ∈ ev.keys := List.mem_map.mpr ⟨(s, c), Model.mem_of_lookup_eq_some hl, rfl⟩
    exact h.snoc_of_known fun _ => hs
  | none =>
    dsimp only
    cases hp : parse s with
    | ok c => exact h.snoc_fresh (lookup_eq_none_iff_not_mem_keys.mp hl) hp
    | error e =>
      refine h.snoc_of_known fun hok => ?_
      rw [hp] at hok
      exact absurd hok Bool.false_ne_true

theorem Tracks.evaluate (h : ev.Tracks seen) (s : String) (d : Document) :
    (ev.evaluate s d).2.Tracks (seen ++ [s]) :=
  h.condition s

/-- 列：作ったばかりの評価器に式の列を渡した後、控えはそれまでに渡した字面に追いついている。
呼び出しの列の長さについての帰納法で、一歩は `Tracks.evaluate`。 -/
theorem tracks_evaluateAll : ∀ calls : List (String × Document),
    (({} : Evaluator).evaluateAll calls).Tracks (calls.map Prod.fst) := by
  intro calls
  induction calls using List.reverseRecOn with
  | nil => exact tracks_empty
  | append_singleton calls call ih =>
    rw [evaluateAll_append, List.map_append, List.map_singleton]
    exact ih.evaluate call.1 call.2

/-- **控えは答えを変えない。** 作ったばかりの評価器に式と文書の組の列 `calls` を渡した後、次の
呼び出し（式 `e`、文書 `d`）の答えは `e` を読み直して `d` について評価したもの（読めなければ
その誤り）で、呼び出しの後の控えの数は、`calls` と `e` の字面のうち読めるものの、相異なるものの
数である。 -/
theorem evaluate_cache_transparent (calls : List (String × Document)) (e : String) (d : Document) :
    let ev := ({} : Evaluator).evaluateAll calls
    (ev.evaluate e d).1 = (parse e).map (·.eval d) ∧
      (ev.evaluate e d).2.cached = ((calls.map Prod.fst ++ [e]).filter fun s => (parse s).isOk).toFinset.card := by
  intro ev
  have h := tracks_evaluateAll calls
  exact ⟨h.parsed.evaluate_fst e d, (h.evaluate e d).cached_eq⟩

end Evaluator

end Workflow.Condition
