import Mathlib
import Workflow.Document.Basic

/-!
# 項目名の正規化は冪等である

文書は項目名を、前後の空白を落として小文字にした形（`Document.normalize`）で持つ。
正規化した名前をもう一度正規化しても変わらない（`Document.normalize_normalize`）。
文書に入った名前がいつも正規化済みであることは、これによる。

二つの事実に分かれる。

* 小文字化は空白を作らず、消さない（`isBlank_lowerSimple`）。前後に空白のない名前は、
  小文字にしても前後に空白がない（`trimmed_lowerChars`）。
* 小文字化した文字はもう動かない（`lowerSimple_lowerSimple`）。`Σ` と `İ` は小文字化の
  結果に現れないので、二度目の小文字化では文脈によらず 1 文字ずつの写像だけが働く
  （`lowerChars_of_fixed`）。

小文字化の表の規則が動かす code point は 1432 個ある。その行き先がどの規則にもかからず、
空白でも `Σ` でも `İ` でもないことは、規則ごとに区間で確かめる（`lowerRules_stable`）。
行き先の区間と重なる規則があるときだけ、行き先を一つずつ調べる。二分探索は表から
規則を返すことだけを使い（`findRule_sound`）、表の並びには頼らない。
-/

namespace Workflow.Text

/-- 正しい code point から作った文字は、その code point を持つ。 -/
theorem toNat_charOfNat {n : Nat} (h : n.isValidChar) : (Char.ofNat n).toNat = n := by
  simp [Char.ofNat, h, Char.ofNatAux, Char.toNat]

/-! ## 二分探索が返すもの -/

/-- 規則の二分探索が返すのは、表の規則のうち先頭が `c` 以下のものか、初めに渡した候補である。 -/
theorem findRule_sound (t : Array (Nat × Nat × Int × Nat)) (c lo hi : Nat)
    (best : Option (Nat × Nat × Int × Nat)) {r : Nat × Nat × Int × Nat}
    (h : findRule t c lo hi best = some r) : (r ∈ t.toList ∧ r.1 ≤ c) ∨ best = some r := by
  revert h
  fun_induction findRule t c lo hi best with
  | case1 lo hi best hlt mid hmid => intro h; exact .inr h
  | case2 lo hi best hlt mid r' hmid hc ih => exact ih
  | case3 lo hi best hlt mid r' hmid hc ih =>
    intro h
    rcases ih h with hm | heq
    · exact .inl hm
    · cases heq
      exact .inl ⟨by simpa using Array.mem_of_getElem? hmid, Nat.le_of_not_lt hc⟩
  | case4 lo hi best hge => intro h; exact .inr h

/-- 区間表の二分探索が当たりを返すなら、`c` を含む区間が表にある。 -/
theorem contains_go_sound (t : RangeTable) (c lo hi : Nat) (h : RangeTable.contains.go t c lo hi = true) :
    ∃ p ∈ t.ranges.toList, p.1 ≤ c ∧ c ≤ p.2 := by
  revert h
  fun_induction RangeTable.contains.go t c lo hi with
  | case1 => simp
  | case2 lo hi hlt mid a b hmid hca ih => exact ih
  | case3 lo hi hlt mid a b hmid hca hbc ih => exact ih
  | case4 lo hi hlt mid a b hmid hca hbc =>
    intro _
    exact ⟨(a, b), by simpa using Array.mem_of_getElem? hmid, Nat.le_of_not_lt hca, Nat.le_of_not_lt hbc⟩
  | case5 => simp

theorem isBlank_sound {c : Char} (h : isBlank c = true) :
    ∃ b ∈ blankTable.ranges.toList, b.1 ≤ c.toNat ∧ c.toNat ≤ b.2 :=
  contains_go_sound _ _ _ _ h

/-! ## 小文字化の表の検査 -/

/-- 規則 `(lo, hi, delta, step)` が code point `q` を動かすか：`q` は `[lo, hi]` にあり、
`lo` から `step` おきの位置にある。 -/
def lowerRuleHits (q : Nat) (r : Nat × Nat × Int × Nat) : Bool :=
  r.1 ≤ q && q ≤ r.2.1 && (q - r.1) % r.2.2.2 == 0

/-- 規則が code point `p` を送る先：`p + delta`。 -/
def lowerImage (p : Nat) (r : Nat × Nat × Int × Nat) : Nat :=
  ((p : Int) + r.2.2.1).toNat

/-- 閉区間 `[a, b]` と `[c, d]` が重なるか。 -/
def intervalsMeet (a b c d : Nat) : Bool :=
  a ≤ d && c ≤ b

/-- 規則が安定である：動かす区間も行き先の区間も空白の区間と重ならず、行き先の区間は
`Σ`（U+03A3）と `İ`（U+0130）を含まず、正しい code point からなる。行き先の区間と重なる
規則には、行き先のどれもかからない。 -/
def lowerRuleStable : Nat × Nat × Int × Nat → Bool
  | r@(lo, hi, _, step) =>
    let qlo := lowerImage lo r
    let qhi := lowerImage hi r
    (0 ≤ (lo : Int) + r.2.2.1 && 0 < step) &&
    blankTable.ranges.toList.all (fun b => !intervalsMeet lo hi b.1 b.2 && !intervalsMeet qlo qhi b.1 b.2) &&
    (!intervalsMeet qlo qhi 0x3A3 0x3A3 && !intervalsMeet qlo qhi 0x130 0x130) &&
    (qhi < 0xD800 || 0xE000 ≤ qlo && qhi < 0x110000) &&
    (lowerRules.toList.filter fun r' => intervalsMeet qlo qhi r'.1 r'.2.1).all fun r' =>
      (List.range ((hi - lo) / step + 1)).all fun k => !lowerRuleHits (lowerImage (lo + k * step) r) r'

/-- 小文字化の表のどの規則も安定である。 -/
theorem lowerRules_stable : lowerRules.toList.all lowerRuleStable = true := by
  decide +kernel

/-- 規則が動かす code point `p` の行き先は、どの規則にもかからず、`Σ` でも `İ` でもない
正しい code point で、空白ではない。`p` 自身も空白ではない。 -/
theorem lowerRule_image {r : Nat × Nat × Int × Nat} (hr : r ∈ lowerRules.toList) {p : Nat}
    (hp : lowerRuleHits p r = true) :
    (∀ r' ∈ lowerRules.toList, lowerRuleHits (lowerImage p r) r' = false) ∧
      lowerImage p r ≠ 0x3A3 ∧ lowerImage p r ≠ 0x130 ∧ (lowerImage p r).isValidChar ∧
      (∀ b ∈ blankTable.ranges.toList, ¬ (b.1 ≤ lowerImage p r ∧ lowerImage p r ≤ b.2)) ∧
      (∀ b ∈ blankTable.ranges.toList, ¬ (b.1 ≤ p ∧ p ≤ b.2)) := by
  obtain ⟨lo, hi, delta, step⟩ := r
  have hs := List.all_eq_true.mp lowerRules_stable _ hr
  simp only [lowerRuleStable, Bool.and_eq_true, List.all_eq_true, Bool.not_eq_true', intervalsMeet,
    decide_eq_true_eq, Bool.or_eq_true, List.mem_filter, List.mem_range, Bool.and_eq_false_imp,
    decide_eq_false_iff_not, Nat.not_le] at hs
  simp only [lowerRuleHits, Bool.and_eq_true, decide_eq_true_eq, beq_iff_eq] at hp
  obtain ⟨⟨hlo, hhi⟩, hal⟩ := hp
  obtain ⟨⟨⟨⟨⟨hpos, hstep⟩, hblank⟩, hsig, hdot⟩, hvalid⟩, hrules⟩ := hs
  -- `p` は `lo` から `k` 歩目の位置である。
  obtain ⟨k, hk⟩ : ∃ k, p = lo + k * step := ⟨(p - lo) / step, by
    have := Nat.div_add_mod (p - lo) step; rw [hal, Nat.mul_comm] at this; omega⟩
  have hkr : k < (hi - lo) / step + 1 := by
    have : k * step ≤ hi - lo := by omega
    have := (Nat.le_div_iff_mul_le hstep).mpr this
    omega
  have hq : lowerImage lo (lo, hi, delta, step) ≤ lowerImage p (lo, hi, delta, step) ∧
      lowerImage p (lo, hi, delta, step) ≤ lowerImage hi (lo, hi, delta, step) := by
    simp only [lowerImage]; omega
  refine ⟨?_, ?_, ?_, ?_, ?_, ?_⟩
  · intro r' hr'
    by_cases hov : lowerImage lo (lo, hi, delta, step) ≤ r'.2.1 ∧ r'.1 ≤ lowerImage hi (lo, hi, delta, step)
    · have := hrules r' ⟨hr', hov⟩ k hkr
      rwa [← hk] at this
    · cases hh : lowerRuleHits (lowerImage p (lo, hi, delta, step)) r' with
      | false => rfl
      | true =>
        simp only [lowerRuleHits, Bool.and_eq_true, decide_eq_true_eq] at hh
        exact absurd ⟨by omega, by omega⟩ hov
  · omega
  · omega
  · simp only [Nat.isValidChar]; omega
  · intro b hb
    have := hblank b hb
    omega
  · intro b hb
    have := hblank b hb
    omega

/-! ## 1 文字の小文字化 -/

/-- 1 文字の小文字化は、文字を動かさないか、その文字を動かす規則の行き先に送る。 -/
theorem lowerSimple_cases (c : Char) :
    lowerSimple c = c ∨ ∃ r ∈ lowerRules.toList, lowerRuleHits c.toNat r = true ∧
      lowerSimple c = Char.ofNat (lowerImage c.toNat r) := by
  unfold lowerSimple
  split
  · next lo hi delta step hf =>
    rcases findRule_sound _ _ _ _ _ hf with ⟨hmem, hle⟩ | hnone
    · split
      · next hcond =>
        right
        refine ⟨_, hmem, ?_, rfl⟩
        simp only [Bool.and_eq_true, decide_eq_true_eq, beq_iff_eq] at hcond
        simp only [lowerRuleHits, Bool.and_eq_true, decide_eq_true_eq, beq_iff_eq]
        exact ⟨⟨hle, hcond.1⟩, hcond.2⟩
      · exact .inl rfl
    · cases hnone
  · exact .inl rfl

/-- 規則が動かした文字は、もう動かず、元の文字も行き先も空白でない。 -/
theorem lowerSimple_of_hits {r : Nat × Nat × Int × Nat} (hr : r ∈ lowerRules.toList) {c : Char}
    (hc : lowerRuleHits c.toNat r = true) (h : lowerSimple c = Char.ofNat (lowerImage c.toNat r)) :
    (lowerSimple c).toNat = lowerImage c.toNat r ∧ lowerSimple (lowerSimple c) = lowerSimple c ∧
      isBlank c = false ∧ isBlank (lowerSimple c) = false := by
  obtain ⟨hrules, -, -, hvalid, hqb, hpb⟩ := lowerRule_image hr hc
  have hq : (lowerSimple c).toNat = lowerImage c.toNat r := h ▸ toNat_charOfNat hvalid
  refine ⟨hq, ?_, ?_, ?_⟩
  · rcases lowerSimple_cases (lowerSimple c) with hfix | ⟨r', hr', hhit, -⟩
    · exact hfix
    · rw [hq, hrules r' hr'] at hhit
      cases hhit
  · cases hb : isBlank c with
    | false => rfl
    | true =>
      obtain ⟨b, hb, hle⟩ := isBlank_sound hb
      exact absurd hle (hpb b hb)
  · cases hb : isBlank (lowerSimple c) with
    | false => rfl
    | true =>
      obtain ⟨b, hb, hle⟩ := isBlank_sound hb
      rw [hq] at hle
      exact absurd hle (hqb b hb)

/-- 小文字にした文字はもう動かない。 -/
@[simp] theorem lowerSimple_lowerSimple (c : Char) : lowerSimple (lowerSimple c) = lowerSimple c := by
  rcases lowerSimple_cases c with h | ⟨r, hr, hc, h⟩
  · rw [h, h]
  · exact (lowerSimple_of_hits hr hc h).2.1

/-- 小文字化は空白を作らず、消さない。 -/
@[simp] theorem isBlank_lowerSimple (c : Char) : isBlank (lowerSimple c) = isBlank c := by
  rcases lowerSimple_cases c with h | ⟨r, hr, hc, h⟩
  · rw [h]
  · obtain ⟨-, -, h₁, h₂⟩ := lowerSimple_of_hits hr hc h
    rw [h₁, h₂]

/-- `Σ` は 1 文字の小文字化の結果に現れない。 -/
theorem lowerSimple_ne_sigma (c : Char) : lowerSimple c ≠ 'Σ' := by
  rcases lowerSimple_cases c with h | ⟨r, hr, hc, h⟩
  · intro hs
    rw [h] at hs
    subst hs
    have hsigma : lowerSimple 'Σ' = 'σ' := by decide +kernel
    rw [hsigma] at h
    exact absurd h (by decide)
  · have hq := (lowerSimple_of_hits hr hc h).1
    obtain ⟨-, hsig, -⟩ := lowerRule_image hr hc
    intro hs
    rw [hs] at hq
    exact hsig hq.symm

/-- `İ` は、`İ` 自身からしか 1 文字の小文字化の結果に現れない。 -/
theorem lowerSimple_ne_dotted {c : Char} (hc : c ≠ 'İ') : lowerSimple c ≠ 'İ' := by
  rcases lowerSimple_cases c with h | ⟨r, hr, hhit, h⟩
  · rwa [h]
  · have hq := (lowerSimple_of_hits hr hhit h).1
    obtain ⟨-, -, hdot, -⟩ := lowerRule_image hr hhit
    intro hs
    rw [hs] at hq
    exact hdot hq.symm

/-! ## 文字列の小文字化 -/

/-- 二度目の小文字化で動かない文字：`Σ` でも `İ` でもなく、1 文字の小文字化で動かない。 -/
def LowerFixed (d : Char) : Prop :=
  d ≠ 'Σ' ∧ d ≠ 'İ' ∧ lowerSimple d = d

theorem lowerFixed_lowerSimple {c : Char} (hc : c ≠ 'İ') : LowerFixed (lowerSimple c) :=
  ⟨lowerSimple_ne_sigma c, lowerSimple_ne_dotted hc, lowerSimple_lowerSimple c⟩

/-- 小文字化した文字列の文字はどれも、二度目の小文字化で動かない。 -/
theorem lowerFixed_lowerChars (before cs : List Char) : ∀ d ∈ lowerChars before cs, LowerFixed d := by
  induction cs generalizing before with
  | nil => simp [lowerChars]
  | cons c rest ih =>
    intro d hd
    simp only [lowerChars, List.mem_append] at hd
    rcases hd with hd | hd
    · split at hd
      · -- `Σ` は語末かどうかで `ς` か `σ` になる。
        have hs : LowerFixed 'ς' ∧ LowerFixed 'σ' := by
          refine ⟨⟨by decide, by decide, by decide +kernel⟩, ⟨by decide, by decide, by decide +kernel⟩⟩
        simp only [lowerSigma, List.mem_singleton] at hd
        split at hd <;> (subst hd; first | exact hs.1 | exact hs.2)
      · split at hd
        · have hs : LowerFixed 'i' ∧ LowerFixed '̇' := by
            refine ⟨⟨by decide, by decide, by decide +kernel⟩, ⟨by decide, by decide, by decide +kernel⟩⟩
          simp only [List.mem_cons, List.not_mem_nil, or_false] at hd
          rcases hd with rfl | rfl
          · exact hs.1
          · exact hs.2
        · next hdot =>
          rw [List.mem_singleton] at hd
          subst hd
          exact lowerFixed_lowerSimple hdot
    · exact ih _ d hd

/-- 動かない文字だけの列は、前の文字の文脈によらず小文字化で変わらない。 -/
theorem lowerChars_of_fixed {cs : List Char} (h : ∀ d ∈ cs, LowerFixed d) (before : List Char) :
    lowerChars before cs = cs := by
  induction cs generalizing before with
  | nil => rfl
  | cons c rest ih =>
    obtain ⟨hsig, hdot, hfix⟩ := h c List.mem_cons_self
    simp only [lowerChars, hsig, hdot, if_false, hfix, List.singleton_append]
    rw [ih (fun d hd => h d (List.mem_cons_of_mem c hd))]

/-- 文字列の小文字化は冪等である。 -/
@[simp] theorem toLower_toLower (s : String) : toLower (toLower s) = toLower s := by
  simp only [toLower, String.toList_ofList]
  rw [lowerChars_of_fixed (lowerFixed_lowerChars [] s.toList)]

/-! ## 前後の空白 -/

/-- 先頭と末尾の文字が空白でない。 -/
def Trimmed (cs : List Char) : Prop :=
  (∀ c ∈ cs.head?, isBlank c = false) ∧ (∀ c ∈ cs.getLast?, isBlank c = false)

/-- 前後の空白を落とした列は、先頭も末尾も空白でない。 -/
theorem trimList_trimmed (cs : List Char) : Trimmed (trimList cs) := by
  unfold trimList trimEndList trimStartList
  have hd := List.head?_dropWhile_not isBlank cs
  have he := List.head?_dropWhile_not isBlank (cs.dropWhile isBlank).reverse
  obtain ⟨p, hp⟩ := List.dropWhile_suffix isBlank (l := (cs.dropWhile isBlank).reverse)
  constructor
  · intro c hc
    rw [List.head?_reverse] at hc
    -- 末尾から刈った残りの最後の文字は、先頭から刈った列の先頭の文字である。
    have hlast : (cs.dropWhile isBlank).head? = some c := by
      rw [← List.getLast?_reverse, ← hp, List.getLast?_append, hc]
      rfl
    rw [hlast] at hd
    exact hd
  · intro c hc
    rw [List.getLast?_reverse] at hc
    rw [hc] at he
    exact he

/-- 先頭も末尾も空白でない列は、前後の空白を落としても変わらない。 -/
theorem trimList_of_trimmed {cs : List Char} (h : Trimmed cs) : trimList cs = cs := by
  obtain ⟨hhead, hlast⟩ := h
  unfold trimList trimEndList trimStartList
  cases cs with
  | nil => rfl
  | cons c rest =>
    rw [List.dropWhile_cons_of_neg (by simpa using hhead c rfl)]
    cases hr : (c :: rest).reverse with
    | nil => simp at hr
    | cons d ds =>
      have hd : isBlank d = false := by
        apply hlast
        rw [← List.head?_reverse, hr]
        rfl
      rw [List.dropWhile_cons_of_neg (by simpa using hd), ← hr, List.reverse_reverse]

/-- 文字列の小文字化は、先頭の文字を空でない塊に送り、残りを続ける。塊の文字は先頭の
文字と空白かどうかが同じである。 -/
theorem lowerChars_cons_block (before : List Char) (c : Char) (rest : List Char) :
    ∃ blk, blk ≠ [] ∧ (∀ d ∈ blk, isBlank d = isBlank c) ∧
      lowerChars before (c :: rest) = blk ++ lowerChars (c :: before) rest := by
  refine ⟨_, ?_, ?_, rfl⟩
  · split <;> (try split) <;> simp
  · intro d hd
    split at hd
    · next hs =>
      subst hs
      have hb : isBlank 'ς' = false ∧ isBlank 'σ' = false ∧ isBlank 'Σ' = false := by decide +kernel
      simp only [lowerSigma, List.mem_singleton] at hd
      split at hd <;> (subst hd; simp only [hb])
    · split at hd
      · next hi =>
        subst hi
        have hb : isBlank 'i' = false ∧ isBlank '̇' = false ∧ isBlank 'İ' = false := by decide +kernel
        simp only [List.mem_cons, List.not_mem_nil, or_false] at hd
        rcases hd with rfl | rfl <;> simp only [hb]
      · rw [List.mem_singleton] at hd
        subst hd
        exact isBlank_lowerSimple c

theorem lowerChars_ne_nil {cs : List Char} (h : cs ≠ []) (before : List Char) :
    lowerChars before cs ≠ [] := by
  obtain ⟨c, rest, rfl⟩ := List.exists_cons_of_ne_nil h
  obtain ⟨blk, hne, -, heq⟩ := lowerChars_cons_block before c rest
  rw [heq]
  exact List.append_ne_nil_of_left_ne_nil hne _

/-- 小文字化した列の最後の文字は、元の列の最後の文字と空白かどうかが同じである。 -/
theorem getLast?_lowerChars (before cs : List Char) :
    ∀ d ∈ (lowerChars before cs).getLast?, ∃ c ∈ cs.getLast?, isBlank d = isBlank c := by
  induction cs generalizing before with
  | nil => simp [lowerChars]
  | cons c rest ih =>
    intro d hd
    obtain ⟨blk, -, hblk, heq⟩ := lowerChars_cons_block before c rest
    rw [heq, List.getLast?_append] at hd
    cases rest with
    | nil =>
      simp only [lowerChars, List.getLast?_nil, Option.none_or] at hd
      exact ⟨c, rfl, hblk d (List.mem_of_getLast? hd)⟩
    | cons c' rest' =>
      obtain ⟨x, hx⟩ := Option.ne_none_iff_exists'.mp
        (mt List.getLast?_eq_none_iff.mp (lowerChars_ne_nil (List.cons_ne_nil c' rest') (c :: before)))
      rw [hx, Option.some_or, Option.mem_def, Option.some.injEq] at hd
      rw [hd] at hx
      obtain ⟨c'', hc'', hb⟩ := ih (c :: before) d hx
      exact ⟨c'', by simpa [List.getLast?_cons_cons] using hc'', hb⟩

/-- 前後に空白のない列は、小文字にしても前後に空白がない。 -/
theorem trimmed_lowerChars {cs : List Char} (h : Trimmed cs) (before : List Char) :
    Trimmed (lowerChars before cs) := by
  obtain ⟨hhead, hlast⟩ := h
  constructor
  · intro d hd
    cases cs with
    | nil => simp [lowerChars] at hd
    | cons c rest =>
      obtain ⟨blk, hne, hblk, heq⟩ := lowerChars_cons_block before c rest
      rw [heq] at hd
      obtain ⟨x, xs, rfl⟩ := List.exists_cons_of_ne_nil hne
      simp only [List.cons_append, List.head?_cons, Option.mem_def, Option.some.injEq] at hd
      subst hd
      rw [hblk x List.mem_cons_self]
      exact hhead c rfl
  · intro d hd
    obtain ⟨c, hc, hb⟩ := getLast?_lowerChars before cs d hd
    rw [hb]
    exact hlast c hc

end Workflow.Text

namespace Workflow.Document

open Workflow.Text

/-- **項目名の正規化は冪等である。** -/
@[simp] theorem normalize_normalize (s : String) : normalize (normalize s) = normalize s := by
  simp only [normalize, toLower, trim, String.toList_ofList]
  rw [trimList_of_trimmed (trimmed_lowerChars (trimList_trimmed s.toList) []),
    lowerChars_of_fixed (lowerFixed_lowerChars [] _)]

end Workflow.Document
