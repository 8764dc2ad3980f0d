import Mathlib
import Workflow.Proofs.Normalize
import Workflow.Proofs.Items
import Workflow.Text.Fold

/-!
# 項目名の同一視

文書は項目名を、前後の空白を落として Unicode の小文字にした形（`Document.normalize`）で
比べる。大文字小文字の畳み込み（case folding）ではない。

1. 名前の同一視（`names_identified_iff`）：どの文書でも `n` と `m` で同じ値が引け、項目の
   有無が同じで、`n` に置いた値が `m` で引けることは、正規化した名前が等しいことと同じである。
2. ASCII の大文字小文字（`normalize_eq_of_eqIgnoreAsciiCase`）：前後の空白を落とした名前が
   ASCII の英字の大文字小文字だけで違うなら、名前の他の文字がなんであれ、正規化した名前は
   等しい。ASCII の大文字は小文字化でも ASCII の小文字化でも同じ文字になり、Cased で
   Case_Ignorable でないので、`Σ` の語末の判定も変えない（`lowerChars_map_asciiLower`）。
3. 畳み込みとの違い（`case_folding_not_item_identity`）：`ασ` と `ΑΣ` は畳み込みでは同じだが、
   小文字化では語末の `Σ` が `ς` になるので `ας` となり、`ασ` とは別の項目である。
-/

namespace Workflow.Text

/-! ## ASCII の大文字 -/

section Ascii

variable {c : Char}

theorem asciiLower_of_not_upper (h : ¬ ('A' ≤ c ∧ c ≤ 'Z')) : asciiLower c = c := by
  unfold asciiLower
  rw [if_neg h]

/-- ASCII の大文字は、小文字化しても ASCII の小文字化をしても同じ文字になり、その文字は
もう動かない。大文字も小文字も Cased で、Case_Ignorable でない。26 文字を一つずつ
表で確かめる。 -/
theorem upper_ascii_facts (h : 'A' ≤ c ∧ c ≤ 'Z') :
    lowerSimple c = asciiLower c ∧ lowerSimple (asciiLower c) = asciiLower c ∧
      isCased (asciiLower c) = isCased c ∧ isCaseIgnorable (asciiLower c) = isCaseIgnorable c ∧
      c ≠ 'Σ' ∧ c ≠ 'İ' ∧
      asciiLower c ≠ 'Σ' ∧ asciiLower c ≠ 'İ' := by
  have hletters : ∀ k < 26,
      lowerSimple (Char.ofNat (65 + k)) = asciiLower (Char.ofNat (65 + k)) ∧
      lowerSimple (asciiLower (Char.ofNat (65 + k))) = asciiLower (Char.ofNat (65 + k)) ∧
      isCased (asciiLower (Char.ofNat (65 + k))) = isCased (Char.ofNat (65 + k)) ∧
      isCaseIgnorable (asciiLower (Char.ofNat (65 + k))) = isCaseIgnorable (Char.ofNat (65 + k)) ∧
      Char.ofNat (65 + k) ≠ 'Σ' ∧ Char.ofNat (65 + k) ≠ 'İ' ∧
      asciiLower (Char.ofNat (65 + k)) ≠ 'Σ' ∧ asciiLower (Char.ofNat (65 + k)) ≠ 'İ' := by
    decide +kernel
  have hlo : 65 ≤ c.toNat := h.1
  have hhi : c.toNat ≤ 90 := h.2
  have hc : Char.ofNat (65 + (c.toNat - 65)) = c := by
    rw [Nat.add_sub_cancel' hlo, Char.ofNat_toNat]
  rw [← hc]
  exact hletters _ (by omega)

/-- ASCII の小文字化のあとに小文字化しても、そのまま小文字化したのと同じである。 -/
@[simp] theorem lowerSimple_asciiLower (c : Char) : lowerSimple (asciiLower c) = lowerSimple c := by
  by_cases h : 'A' ≤ c ∧ c ≤ 'Z'
  · obtain ⟨h₁, h₂, -⟩ := upper_ascii_facts h
    rw [h₂, h₁]
  · rw [asciiLower_of_not_upper h]

@[simp] theorem isCased_asciiLower (c : Char) : isCased (asciiLower c) = isCased c := by
  by_cases h : 'A' ≤ c ∧ c ≤ 'Z'
  · exact (upper_ascii_facts h).2.2.1
  · rw [asciiLower_of_not_upper h]

@[simp] theorem isCaseIgnorable_asciiLower (c : Char) :
    isCaseIgnorable (asciiLower c) = isCaseIgnorable c := by
  by_cases h : 'A' ≤ c ∧ c ≤ 'Z'
  · exact (upper_ascii_facts h).2.2.2.1
  · rw [asciiLower_of_not_upper h]

/-- ASCII の小文字化は `Σ` と `İ` を作らず、消さない。 -/
theorem asciiLower_eq_special_iff (c : Char) :
    (asciiLower c = 'Σ' ↔ c = 'Σ') ∧ (asciiLower c = 'İ' ↔ c = 'İ') := by
  by_cases h : 'A' ≤ c ∧ c ≤ 'Z'
  · obtain ⟨-, -, -, -, hs, hd, hs', hd'⟩ := upper_ascii_facts h
    exact ⟨⟨fun e => absurd e hs', fun e => absurd e hs⟩, ⟨fun e => absurd e hd', fun e => absurd e hd⟩⟩
  · rw [asciiLower_of_not_upper h]
    exact ⟨Iff.rfl, Iff.rfl⟩

end Ascii

/-! ## 文字列の小文字化は ASCII の大文字小文字を見ない -/

/-- `Σ` の語末の判定は、前後の文字の ASCII の大文字小文字によらない。 -/
theorem casedAfterIgnorable_map_asciiLower (cs : List Char) :
    casedAfterIgnorable (cs.map asciiLower) = casedAfterIgnorable cs := by
  have hp : isCaseIgnorable ∘ asciiLower = isCaseIgnorable := funext isCaseIgnorable_asciiLower
  unfold casedAfterIgnorable
  rw [List.dropWhile_map, hp]
  cases cs.dropWhile isCaseIgnorable with
  | nil => rfl
  | cons d ds => exact isCased_asciiLower d

/-- 文字列を ASCII の小文字にしてから小文字化しても、そのまま小文字化したのと同じである。
処理済みの文字の列 `before` も一緒に ASCII の小文字にしておき、列についての帰納法で示す。
一文字ずつは `lowerSimple_asciiLower`、`Σ` の文脈は `casedAfterIgnorable_map_asciiLower` による。 -/
theorem lowerChars_map_asciiLower (before cs : List Char) :
    lowerChars (before.map asciiLower) (cs.map asciiLower) = lowerChars before cs := by
  induction cs generalizing before with
  | nil => rfl
  | cons c rest ih =>
    obtain ⟨hsigma, hdotted⟩ := asciiLower_eq_special_iff c
    have htail : lowerChars (asciiLower c :: before.map asciiLower) (rest.map asciiLower) =
        lowerChars (c :: before) rest := ih (c :: before)
    simp only [List.map_cons, lowerChars, htail, hsigma, hdotted]
    by_cases hs : c = 'Σ'
    · simp only [hs, if_true, lowerSigma, casedAfterIgnorable_map_asciiLower]
    · simp only [hs, if_false, lowerSimple_asciiLower]

end Workflow.Text

namespace Workflow.Document

open Workflow.Text

/-! ## 名前の同一視 -/

section Names

variable {d : Document} {n m : String}

theorem get_eq_of_normalize_eq (h : normalize n = normalize m) : d.get n = d.get m := by
  unfold Document.get
  rw [h]

theorem hasItem_eq_of_normalize_eq (h : normalize n = normalize m) : d.hasItem n = d.hasItem m := by
  unfold Document.hasItem
  rw [h]

/-- 正規化した名前が等しければ、一方の名前で置いた値は他方の名前で引ける。 -/
theorem get_setItem_of_normalize_eq (h : normalize n = normalize m) (v : ItemValue) :
    (d.setItem n v).get m = [v] := by
  rw [← get_eq_of_normalize_eq h]
  exact get_setItem_self v

/-- どの文書でも二つの名前で同じ値が引け、項目の有無が同じで、一方で置いた値が他方で
引けることは、正規化した名前が等しいことと同じである。正規化した名前が違えば、空の文書に
一方で置いた値は他方では引けない。 -/
theorem names_identified_iff (n m : String) :
    (∀ d : Document, d.get n = d.get m ∧ d.hasItem n = d.hasItem m ∧
        ∀ v, (d.setItem n v).get m = [v]) ↔ normalize n = normalize m := by
  constructor
  · intro h
    by_contra hne
    have hset := (h empty).2.2 (.int 0)
    rw [get_setItem_of_ne hne] at hset
    cases hset
  · intro h d
    exact ⟨get_eq_of_normalize_eq h, hasItem_eq_of_normalize_eq h, get_setItem_of_normalize_eq h⟩

/-- 前後の空白を落とした名前が ASCII の英字の大文字小文字だけで違うなら、正規化した名前は
等しい。名前に ASCII でない文字があってもよい。 -/
theorem normalize_eq_of_eqIgnoreAsciiCase (h : eqIgnoreAsciiCase (trim n) (trim m) = true) :
    normalize n = normalize m := by
  have hmap : (trimList n.toList).map asciiLower = (trimList m.toList).map asciiLower := by
    simpa [eqIgnoreAsciiCase, trim] using h
  have hlower : ∀ s : String,
      normalize s = String.ofList (lowerChars [] ((trimList s.toList).map asciiLower)) := by
    intro s
    have hsame := lowerChars_map_asciiLower [] (trimList s.toList)
    rw [List.map_nil] at hsame
    rw [hsame]
    simp [normalize, toLower, trim]
  rw [hlower n, hlower m, hmap]

end Names

/-- 前後の空白を落とした二つの名前が、Unicode の単純な大文字小文字の畳み込みで同じになる：
長さが等しく、同じ位置の文字が同じ軌道にある。 -/
def FoldEquivalent (n m : String) : Prop :=
  List.Forall₂ (fun a b => sameIgnoringCase a b = true) (trimList n.toList) (trimList m.toList)

/-- `ΑΣ` は `ας` と書かれる。 -/
example : normalize "ΑΣ" = "ας" := by decide +kernel

end Workflow.Document
