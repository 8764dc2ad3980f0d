import Mathlib
import Workflow.Proofs.ConditionTokens

/-!
# 条件式を読む関数と式の文法

`parse` が読めるのは、前後の空白を落とした入力が `ExprLit` の導出を持つときで、そのときに限る。
返す条件は導出の条件である（`parse_eq_ok_iff`）。

## 組み立て

* **一段ずつの読み方**：`parseExpr` から `parsePrimaryAt` までの相互再帰する六つの関数について、
  成功した結果を、呼んだ関数の結果で言い換える（`parseExpr_ok` など）。以後の証明は定義を
  開かず、この六つの補題だけを使う。
* **健全性**：入力の長さについての帰納法。同じ長さの入力では `parsePrimaryAt`、`parseUnary`、
  `andTail`、`parseConj` の順に、呼ぶ先がすでに示されている（`soundBelow`）。
* **完全性**：導出についての帰納法（`ExprLit.rec`）。構成子ごとに一つの補題がある。字句の後ろに
  来る文字の条件（`EndsUnary` など）は、導出の外側から内側へ渡していく。
-/

namespace Workflow.Condition

open Workflow.Text

/-! ## 一段ずつの読み方 -/

theorem parseExpr_ok {total : Nat} {cs : List Char} {c : Condition} {r : Rest cs} :
    parseExpr total cs = .ok (c, r) ↔
      ∃ left r₁ r₂, parseConj total cs = .ok (left, r₁) ∧ orTail total left r₁.val = .ok (c, r₂) ∧
        r.val = r₂.val := by
  rw [parseExpr]
  constructor
  · intro h
    split at h
    · cases h
    · next left r₁ h1 =>
      split at h
      · cases h
      · next c' r₂ h2 => cases h; exact ⟨left, r₁, r₂, h1, h2, rfl⟩
  · rintro ⟨left, r₁, r₂, h1, h2, hr⟩
    rw [h1]
    dsimp only
    rw [h2]
    exact congrArg _ (congrArg _ (Subtype.ext hr.symm))

theorem parseConj_ok {total : Nat} {cs : List Char} {c : Condition} {r : Rest cs} :
    parseConj total cs = .ok (c, r) ↔
      ∃ left r₁ r₂, parseUnary total cs = .ok (left, r₁) ∧ andTail total left r₁.val = .ok (c, r₂) ∧
        r.val = r₂.val := by
  rw [parseConj]
  constructor
  · intro h
    split at h
    · cases h
    · next left r₁ h1 =>
      split at h
      · cases h
      · next c' r₂ h2 => cases h; exact ⟨left, r₁, r₂, h1, h2, rfl⟩
  · rintro ⟨left, r₁, r₂, h1, h2, hr⟩
    rw [h1]
    dsimp only
    rw [h2]
    exact congrArg _ (congrArg _ (Subtype.ext hr.symm))

theorem orTail_ok {total : Nat} {left : Condition} {cs : List Char} {c : Condition} {r : Rest cs} :
    orTail total left cs = .ok (c, r) ↔
      (∃ s right r₁ r₂, cs.dropWhile isBlank = '|' :: '|' :: s ∧
          parseConj total (s.dropWhile isBlank) = .ok (right, r₁) ∧
          orTail total (.or left right) r₁.val = .ok (c, r₂) ∧ r.val = r₂.val) ∨
        ((∀ s, cs.dropWhile isBlank ≠ '|' :: '|' :: s) ∧ c = left ∧ r.val = cs.dropWhile isBlank) := by
  rw [orTail]
  constructor
  · intro h
    split at h
    · next s hs =>
      split at h
      · cases h
      · next right r₁ h1 =>
        split at h
        · cases h
        · next c' r₂ h2 => cases h; exact .inl ⟨s, right, r₁, r₂, hs, h1, h2, rfl⟩
    · next hne => cases h; exact .inr ⟨fun s h' => hne s h', rfl, rfl⟩
  · rintro (⟨s, right, r₁, r₂, hs, h1, h2, hr⟩ | ⟨hne, rfl, hr⟩)
    · split
      · next s' hs' =>
        rw [hs] at hs'
        simp only [List.cons.injEq, true_and] at hs'
        subst hs'
        rw [h1]
        dsimp only
        rw [h2]
        exact congrArg _ (congrArg _ (Subtype.ext hr.symm))
      · next hne => exact absurd hs (hne s)
    · split
      · next s' hs' => exact absurd hs' (hne s')
      · exact congrArg _ (congrArg _ (Subtype.ext hr.symm))

theorem andTail_ok {total : Nat} {left : Condition} {cs : List Char} {c : Condition} {r : Rest cs} :
    andTail total left cs = .ok (c, r) ↔
      (∃ s right r₁ r₂, cs.dropWhile isBlank = '&' :: '&' :: s ∧
          parseUnary total (s.dropWhile isBlank) = .ok (right, r₁) ∧
          andTail total (.and left right) r₁.val = .ok (c, r₂) ∧ r.val = r₂.val) ∨
        ((∀ s, cs.dropWhile isBlank ≠ '&' :: '&' :: s) ∧ c = left ∧ r.val = cs.dropWhile isBlank) := by
  rw [andTail]
  constructor
  · intro h
    split at h
    · next s hs =>
      split at h
      · cases h
      · next right r₁ h1 =>
        split at h
        · cases h
        · next c' r₂ h2 => cases h; exact .inl ⟨s, right, r₁, r₂, hs, h1, h2, rfl⟩
    · next hne => cases h; exact .inr ⟨fun s h' => hne s h', rfl, rfl⟩
  · rintro (⟨s, right, r₁, r₂, hs, h1, h2, hr⟩ | ⟨hne, rfl, hr⟩)
    · split
      · next s' hs' =>
        rw [hs] at hs'
        simp only [List.cons.injEq, true_and] at hs'
        subst hs'
        rw [h1]
        dsimp only
        rw [h2]
        exact congrArg _ (congrArg _ (Subtype.ext hr.symm))
      · next hne => exact absurd hs (hne s)
    · split
      · next s' hs' => exact absurd hs' (hne s')
      · exact congrArg _ (congrArg _ (Subtype.ext hr.symm))

theorem parseUnary_ok {total : Nat} {cs : List Char} {c : Condition} {r : Rest cs} :
    parseUnary total cs = .ok (c, r) ↔
      (∃ s a r₁, cs.dropWhile isBlank = '!' :: s ∧ s.head? ≠ some '=' ∧
          parseUnary total (s.dropWhile isBlank) = .ok (a, r₁) ∧ c = .not a ∧ r.val = r₁.val) ∨
        ((∀ s, cs.dropWhile isBlank = '!' :: s → s.head? = some '=') ∧
          ∃ r₁, parsePrimaryAt total cs (skip cs) = .ok (c, r₁) ∧ r.val = r₁.val) := by
  rw [parseUnary]
  constructor
  · intro h
    split at h
    · next x hx =>
      rw [show (⟨'!' :: '=' :: x, _⟩ : Rest cs) = skip cs from Subtype.ext hx.symm] at h
      refine .inr ⟨fun s hs => ?_, r, h, rfl⟩
      rw [hx] at hs
      cases hs
      rfl
    · next x hne hx =>
      split at h
      · cases h
      · next a r₁ h1 =>
        cases h
        refine .inl ⟨x, a, r₁, hx, fun hx' => ?_, h1, rfl, rfl⟩
        cases x with
        | nil => cases hx'
        | cons b x => cases hx'; exact hne x rfl
    · next hne1 hne2 => exact .inr ⟨fun s hs => absurd hs (hne2 s), r, h, rfl⟩
  · -- 否定でない枝は、どちらも空白を飛ばした位置から一次式を読む
    have primary : ∀ {r₁ : Rest cs}, parsePrimaryAt total cs (skip cs) = .ok (c, r₁) → r.val = r₁.val →
        ∀ p : Rest cs, p.val = cs.dropWhile isBlank → parsePrimaryAt total cs p = .ok (c, r) := by
      intro r₁ h1 hr p hp
      rw [show p = skip cs from Subtype.ext hp, h1, Subtype.ext hr]
    rintro (⟨s, a, r₁, hs, hne, h1, rfl, hr⟩ | ⟨hbang, r₁, h1, hr⟩)
    · split
      · next x hx => rw [hs] at hx; cases hx; exact absurd rfl hne
      · next x _ hx =>
        rw [hs] at hx
        cases hx
        rw [h1]
        exact congrArg _ (congrArg _ (Subtype.ext hr.symm))
      · next _ hne2 => exact absurd hs (hne2 s)
    · split
      · next x hx => exact primary h1 hr _ hx.symm
      · next x hne hx =>
        obtain ⟨y, rfl⟩ : ∃ y, x = '=' :: y := by
          have := hbang x hx
          cases x with
          | nil => cases this
          | cons b y => cases this; exact ⟨y, rfl⟩
        exact absurd rfl (hne y)
      · exact primary h1 hr _ rfl

theorem parsePrimaryAt_ok {total : Nat} {cs : List Char} {s : Rest cs} {c : Condition} {r : Rest cs} :
    parsePrimaryAt total cs s = .ok (c, r) ↔
      (∃ x r₁ t, s.val = '(' :: x ∧ parseExpr total x = .ok (c, r₁) ∧
          r₁.val.dropWhile isBlank = ')' :: t ∧ r.val = t) ∨
        ((∀ x, s.val ≠ '(' :: x) ∧ ∃ r₁, parseComparison total s.val = .ok (c, r₁) ∧ r.val = r₁.val) := by
  rw [parsePrimaryAt]
  constructor
  · intro h
    split at h
    · next x hx =>
      split at h
      · cases h
      · next a r₁ h1 =>
        split at h
        · next t h2 => cases h; exact .inl ⟨x, r₁, t, hx, h1, h2, rfl⟩
        · cases h
    · next hne =>
      split at h
      · cases h
      · next a r₁ h1 => cases h; exact .inr ⟨fun x hx => hne x hx, r₁, h1, rfl⟩
  · rintro (⟨x, r₁, t, hx, h1, h2, hr⟩ | ⟨hne, r₁, h1, hr⟩)
    · split
      · next x' hx' =>
        rw [hx] at hx'
        cases hx'
        rw [h1]
        dsimp only
        split
        · next t' h2' =>
          rw [h2] at h2'
          cases h2'
          exact congrArg _ (congrArg _ (Subtype.ext hr.symm))
        · next hne => exact absurd h2 (hne t)
      · next hne => exact absurd hx (hne x)
    · split
      · next x hx => exact absurd hx (hne x)
      · rw [h1]
        exact congrArg _ (congrArg _ (Subtype.ext hr.symm))

/-! ## 導出の形 -/

theorem dropWhile_dropWhile_blank (s : List Char) :
    (s.dropWhile isBlank).dropWhile isBlank = s.dropWhile isBlank :=
  dropWhile_blank_of_head (head?_dropWhile_false isBlank s)

/-- 空白を飛ばして空でない字面を読んだ後の位置は、元より短い。 -/
theorem length_lt_of_dropWhile {cs p s : List Char} (h : cs.dropWhile isBlank = p ++ s) (hp : p ≠ []) :
    (s.dropWhile isBlank).length < cs.length := by
  have h1 := length_dropWhile_le isBlank s
  have h2 := length_dropWhile_le isBlank cs
  rw [h] at h2
  have h3 : 0 < p.length := List.length_pos_iff.mpr hp
  simp only [List.length_append] at h2
  omega

/-- `||` の列の前に空白を足しても、`||` の列である。 -/
theorem OrTailLit.of_gap {acc c : Condition} {s s' t : List Char} (hg : Gap s s') (h : OrTailLit acc s' c t) :
    ∃ t', OrTailLit acc s c t' ∧ Gap t' t := by
  cases h with
  | stop => exact ⟨s, .stop acc s, hg⟩
  | more hg1 hg2 hc ho => exact ⟨t, .more (hg.trans hg1) hg2 hc ho, Gap.refl t⟩

theorem AndTailLit.of_gap {acc c : Condition} {s s' t : List Char} (hg : Gap s s') (h : AndTailLit acc s' c t) :
    ∃ t', AndTailLit acc s c t' ∧ Gap t' t := by
  cases h with
  | stop => exact ⟨s, .stop acc s, hg⟩
  | more hg1 hg2 hu ha => exact ⟨t, .more (hg.trans hg1) hg2 hu ha, Gap.refl t⟩

theorem blank_symbol {c : Char} (hc : c = '|' ∨ c = '&' ∨ c = '!' ∨ c = ')') : isBlank c = false := by
  rcases hc with rfl | rfl | rfl | rfl <;> exact isBlank_ascii (by decide)

/-- 式の後ろに続く `||` の列の前は、論理積の後ろである。 -/
theorem OrTailLit.ends {acc c : Condition} {s t : List Char} (h : OrTailLit acc s c t) (ht : EndsExpr t) :
    EndsConj s := by
  cases h with
  | stop => exact .inl ht
  | more hg => exact .inr ⟨_, hg.dropWhile_of_head fun a ha => by cases ha; exact blank_symbol (.inl rfl)⟩

/-- 論理積の後ろに続く `&&` の列の前は、否定の項の後ろである。 -/
theorem AndTailLit.ends {acc c : Condition} {s t : List Char} (h : AndTailLit acc s c t) (ht : EndsConj t) :
    EndsUnary s := by
  cases h with
  | stop => exact .inl ht
  | more hg => exact .inr ⟨_, hg.dropWhile_of_head fun a ha => by cases ha; exact blank_symbol (.inr (.inl rfl))⟩

/-! ### 導出の残りは入力の接尾部 -/

theorem FieldLit.suffix {s t : List Char} {name : String} (h : FieldLit s name t) : t <:+ s := by
  cases h with
  | @mk c body t => exact (List.suffix_append body t).trans (List.suffix_cons c _)

theorem NumberLit.suffix {s t : List Char} {f : Float} (h : NumberLit s f t) : t <:+ s := by
  cases h with
  | @mk sign ip frac t => exact List.suffix_append _ t

theorem QuotedLit.suffix {q : Char} {s str t : List Char} (h : QuotedLit q s str t) : t <:+ s := by
  induction h with
  | close t => exact List.suffix_cons q t
  | plain _ _ _ ih => exact ih.trans (List.suffix_cons _ _)
  | escape e _ ih => exact ih.trans ((List.suffix_cons _ _).trans (List.suffix_cons _ _))

theorem ValueLit.suffix {s t : List Char} {o : Operand} (h : ValueLit s o t) : t <:+ s := by
  cases h with
  | true t => exact List.suffix_append ['t', 'r', 'u', 'e'] t
  | false t => exact List.suffix_append ['f', 'a', 'l', 's', 'e'] t
  | null t => exact List.suffix_append ['n', 'u', 'l', 'l'] t
  | text _ hq => exact hq.suffix.trans (List.suffix_cons _ _)
  | number hn => exact hn.suffix

theorem ComparisonLit.suffix {s t : List Char} {c : Condition} (h : ComparisonLit s c t) : t <:+ s := by
  cases h with
  | bare hf => exact hf.suffix
  | eq hf hg1 hg2 hv =>
    exact hv.suffix.trans (hg2.suffix.trans ((List.suffix_append ['=', '='] _).trans (hg1.suffix.trans hf.suffix)))
  | ne hf hg1 hg2 hv =>
    exact hv.suffix.trans (hg2.suffix.trans ((List.suffix_append ['!', '='] _).trans (hg1.suffix.trans hf.suffix)))
  | rel r hf hg1 hg2 hn =>
    exact hn.suffix.trans (hg2.suffix.trans ((List.suffix_append r.symbol _).trans (hg1.suffix.trans hf.suffix)))

/-- 式の導出の残りは入力の接尾部である。導出についての帰納法で、六つの関係を同時に示す。 -/
theorem ExprLit.suffix {s t : List Char} {c : Condition} (h : ExprLit s c t) : t <:+ s :=
  @ExprLit.rec (fun s _ t _ => t <:+ s) (fun _ s _ t _ => t <:+ s) (fun s _ t _ => t <:+ s)
    (fun _ s _ t _ => t <:+ s) (fun s _ t _ => t <:+ s) (fun s _ t _ => t <:+ s)
    (fun _ _ ihc iho => iho.trans ihc)
    (fun _ _ => List.suffix_refl _)
    (fun hg1 hg2 _ _ ihc iho =>
      iho.trans (ihc.trans (hg2.suffix.trans ((List.suffix_append ['|', '|'] _).trans hg1.suffix))))
    (fun _ _ ihu iha => iha.trans ihu)
    (fun _ _ => List.suffix_refl _)
    (fun hg1 hg2 _ _ ihu iha =>
      iha.trans (ihu.trans (hg2.suffix.trans ((List.suffix_append ['&', '&'] _).trans hg1.suffix))))
    (fun _ hg _ ihu => ihu.trans (hg.suffix.trans (List.suffix_cons _ _)))
    (fun _ ihp => ihp)
    (fun hg1 _ hg2 ihe =>
      ((List.suffix_cons _ _).trans hg2.suffix).trans (ihe.trans (hg1.suffix.trans (List.suffix_cons _ _))))
    (fun hc => hc.suffix)
    s c t h

/-! ## 健全性

読めた結果について、空白を飛ばした先に導出があり、返した残りはその導出の残りから空白を
飛ばしたところである。ループ（`orTail`・`andTail`）だけは、呼ばれた位置そのものから導出を取る。 -/

section Sound

variable (total : Nat)

/-- `parseExpr` が `cs` から読めたなら、空白を飛ばした先 `s₀` に式の導出がある。 -/
def ExprSound (cs : List Char) : Prop :=
  ∀ c (r : Rest cs), parseExpr total cs = .ok (c, r) → ∃ s₀ t, Gap cs s₀ ∧ ExprLit s₀ c t ∧ Gap t r.val

/-- `orTail` が読めたなら、呼ばれた位置 `cs` そのものから `||` の列の導出がある。 -/
def OrTailSound (left : Condition) (cs : List Char) : Prop :=
  ∀ c (r : Rest cs), orTail total left cs = .ok (c, r) → ∃ t, OrTailLit left cs c t ∧ Gap t r.val

def ConjSound (cs : List Char) : Prop :=
  ∀ c (r : Rest cs), parseConj total cs = .ok (c, r) → ∃ s₀ t, Gap cs s₀ ∧ ConjLit s₀ c t ∧ Gap t r.val

def AndTailSound (left : Condition) (cs : List Char) : Prop :=
  ∀ c (r : Rest cs), andTail total left cs = .ok (c, r) → ∃ t, AndTailLit left cs c t ∧ Gap t r.val

def UnarySound (cs : List Char) : Prop :=
  ∀ c (r : Rest cs), parseUnary total cs = .ok (c, r) → ∃ s₀ t, Gap cs s₀ ∧ UnaryLit s₀ c t ∧ Gap t r.val

def PrimarySound (cs : List Char) : Prop :=
  ∀ (s : Rest cs) c (r : Rest cs), parsePrimaryAt total cs s = .ok (c, r) →
    ∃ s₀ t, Gap s.val s₀ ∧ PrimaryLit s₀ c t ∧ Gap t r.val

/-- 六つの関数がどれも入力 `cs` について健全である。 -/
structure SoundAt (cs : List Char) : Prop where
  expr : ExprSound total cs
  orTail : ∀ left, OrTailSound total left cs
  conj : ConjSound total cs
  andTail : ∀ left, AndTailSound total left cs
  unary : UnarySound total cs
  primary : PrimarySound total cs

/-- 長さが `n` より短い入力では、六つの関数がどれも健全である。 -/
def SoundBelow (n : Nat) : Prop :=
  ∀ cs : List Char, cs.length < n → SoundAt total cs

variable {total}

theorem SoundBelow.mono {m n : Nat} (h : SoundBelow total n) (hmn : m ≤ n) : SoundBelow total m :=
  fun cs hcs => h cs (by omega)

theorem primarySound_step {cs : List Char} (ih : SoundBelow total cs.length) : PrimarySound total cs := by
  intro s c r h
  rcases parsePrimaryAt_ok.mp h with ⟨x, r₁, t, hx, h1, h2, hr⟩ | ⟨-, r₁, h1, hr⟩
  · have hlen : x.length < cs.length := by
      have := s.property
      rw [hx, List.length_cons] at this
      omega
    obtain ⟨s₀, t₀, hg, he, hgt⟩ := (ih x hlen).expr c r₁ h1
    have hclose : Gap t₀ (')' :: t) := hgt.trans (h2 ▸ gap_dropWhile r₁.val)
    refine ⟨s.val, t, Gap.refl _, ?_, hr ▸ Gap.refl t⟩
    rw [hx]
    exact .paren hg he hclose
  · obtain ⟨s₀, t, hg, hc, hgt⟩ := parseComparison_sound h1
    exact ⟨s₀, t, hg, .comparison hc, hr ▸ hgt⟩

theorem unarySound_step {cs : List Char} (ih : SoundBelow total cs.length) : UnarySound total cs := by
  intro c r h
  rcases parseUnary_ok.mp h with ⟨s, a, r₁, hs, hne, h1, rfl, hr⟩ | ⟨-, r₁, h1, hr⟩
  · obtain ⟨s₀, t, hg, hu, hgt⟩ := (ih _ (length_lt_of_dropWhile (p := ['!']) hs (by simp))).unary a r₁ h1
    exact ⟨'!' :: s, t, hs ▸ gap_dropWhile cs, .not hne ((gap_dropWhile s).trans hg) hu, hr ▸ hgt⟩
  · obtain ⟨s₀, t, hg, hp, hgt⟩ := primarySound_step ih (skip cs) c r₁ h1
    exact ⟨s₀, t, (gap_dropWhile cs).trans hg, .primary hp, hr ▸ hgt⟩

theorem andTailSound_step {cs : List Char} (ih : SoundBelow total cs.length) (left : Condition) :
    AndTailSound total left cs := by
  intro c r h
  rcases andTail_ok.mp h with ⟨s, right, r₁, r₂, hs, h1, h2, hr⟩ | ⟨-, rfl, hr⟩
  · have hlen := length_lt_of_dropWhile (p := ['&', '&']) hs (by simp)
    obtain ⟨s₀, t₁, hg, hu, hgt⟩ := (ih _ hlen).unary right r₁ h1
    obtain ⟨t, ha, hgt'⟩ := (ih _ (lt_of_le_of_lt r₁.property hlen)).andTail (.and left right) c r₂ h2
    -- 右の項の導出の残りと `andTail` が呼ばれた位置の間には空白がある
    obtain ⟨t', ha', hg'⟩ := ha.of_gap hgt
    exact ⟨t', .more (hs ▸ gap_dropWhile cs) ((gap_dropWhile s).trans hg) hu ha', hg'.trans (hr ▸ hgt')⟩
  · exact ⟨cs, .stop c cs, hr ▸ gap_dropWhile cs⟩

theorem conjSound_step {cs : List Char} (ih : SoundBelow total cs.length) : ConjSound total cs := by
  intro c r h
  obtain ⟨left, r₁, r₂, h1, h2, hr⟩ := parseConj_ok.mp h
  obtain ⟨s₀, t₁, hg, hu, hgt⟩ := unarySound_step ih left r₁ h1
  -- `andTail` の入力は元より長くないので、同じ長さでもすでに示してある
  obtain ⟨t, ha, hgt'⟩ := andTailSound_step (ih.mono r₁.property) left c r₂ h2
  obtain ⟨t', ha', hg'⟩ := ha.of_gap hgt
  exact ⟨s₀, t', hg, .mk hu ha', hg'.trans (hr ▸ hgt')⟩

theorem orTailSound_step {cs : List Char} (ih : SoundBelow total cs.length) (left : Condition) :
    OrTailSound total left cs := by
  intro c r h
  rcases orTail_ok.mp h with ⟨s, right, r₁, r₂, hs, h1, h2, hr⟩ | ⟨-, rfl, hr⟩
  · have hlen := length_lt_of_dropWhile (p := ['|', '|']) hs (by simp)
    obtain ⟨s₀, t₁, hg, hc, hgt⟩ := (ih _ hlen).conj right r₁ h1
    obtain ⟨t, ho, hgt'⟩ := (ih _ (lt_of_le_of_lt r₁.property hlen)).orTail (.or left right) c r₂ h2
    obtain ⟨t', ho', hg'⟩ := ho.of_gap hgt
    exact ⟨t', .more (hs ▸ gap_dropWhile cs) ((gap_dropWhile s).trans hg) hc ho', hg'.trans (hr ▸ hgt')⟩
  · exact ⟨cs, .stop c cs, hr ▸ gap_dropWhile cs⟩

theorem exprSound_step {cs : List Char} (ih : SoundBelow total cs.length) : ExprSound total cs := by
  intro c r h
  obtain ⟨left, r₁, r₂, h1, h2, hr⟩ := parseExpr_ok.mp h
  obtain ⟨s₀, t₁, hg, hc, hgt⟩ := conjSound_step ih left r₁ h1
  obtain ⟨t, ho, hgt'⟩ := orTailSound_step (ih.mono r₁.property) left c r₂ h2
  obtain ⟨t', ho', hg'⟩ := ho.of_gap hgt
  exact ⟨s₀, t', hg, .mk hc ho', hg'.trans (hr ▸ hgt')⟩

theorem soundBelow (n : Nat) : SoundBelow total n := by
  induction n with
  | zero => intro cs h; omega
  | succ n ih =>
    intro cs hcs
    have ih' : SoundBelow total cs.length := ih.mono (by omega)
    exact ⟨exprSound_step ih', orTailSound_step ih', conjSound_step ih', andTailSound_step ih',
      unarySound_step ih', primarySound_step ih'⟩

/-- **健全性**：`parseExpr` が読めたなら、空白を飛ばした先に式の導出があり、返した残りは導出の
残りから空白を飛ばしたところである。 -/
theorem parseExpr_sound {cs : List Char} {c : Condition} {r : Rest cs} (h : parseExpr total cs = .ok (c, r)) :
    ∃ s₀ t, Gap cs s₀ ∧ ExprLit s₀ c t ∧ Gap t r.val :=
  (soundBelow (cs.length + 1) cs (Nat.lt_succ_self _)).expr c r h

end Sound

/-! ## 完全性

導出があり、その残りの後ろに来るものが文法の許すもの（`EndsExpr` など）なら、空白を飛ばすと
導出の入力と同じになる位置から読んで、導出の条件を返す。返す残りは導出の残りから空白を
飛ばしたところである。 -/

section Complete

variable (total : Nat)

/-- 導出 `ExprLit s c t` の後ろが式の後ろなら、`parseExpr` はそれを読む。 -/
def ExprReads (s : List Char) (c : Condition) (t : List Char) : Prop :=
  EndsExpr t → ∀ cs : List Char, cs.dropWhile isBlank = s.dropWhile isBlank →
    ∃ r, parseExpr total cs = .ok (c, r) ∧ Gap t r.val

def OrTailReads (acc : Condition) (s : List Char) (c : Condition) (t : List Char) : Prop :=
  EndsExpr t → ∀ cs : List Char, cs.dropWhile isBlank = s.dropWhile isBlank →
    ∃ r, orTail total acc cs = .ok (c, r) ∧ Gap t r.val

def ConjReads (s : List Char) (c : Condition) (t : List Char) : Prop :=
  EndsConj t → ∀ cs : List Char, cs.dropWhile isBlank = s.dropWhile isBlank →
    ∃ r, parseConj total cs = .ok (c, r) ∧ Gap t r.val

def AndTailReads (acc : Condition) (s : List Char) (c : Condition) (t : List Char) : Prop :=
  EndsConj t → ∀ cs : List Char, cs.dropWhile isBlank = s.dropWhile isBlank →
    ∃ r, andTail total acc cs = .ok (c, r) ∧ Gap t r.val

def UnaryReads (s : List Char) (c : Condition) (t : List Char) : Prop :=
  EndsUnary t → ∀ cs : List Char, cs.dropWhile isBlank = s.dropWhile isBlank →
    ∃ r, parseUnary total cs = .ok (c, r) ∧ Gap t r.val

/-- `parsePrimaryAt` は空白を飛ばした位置 `p` を受け取るので、`p` が導出の入力そのものであることを
求める。 -/
def PrimaryReads (s : List Char) (c : Condition) (t : List Char) : Prop :=
  EndsUnary t → ∀ (cs : List Char) (p : Rest cs), p.val = s →
    ∃ r, parsePrimaryAt total cs p = .ok (c, r) ∧ Gap t r.val

variable {total}

theorem exprReads_mk {s s₁ t : List Char} {a c : Condition} (ho : OrTailLit a s₁ c t)
    (ihc : ConjReads total s a s₁) (iho : OrTailReads total a s₁ c t) : ExprReads total s c t := by
  intro ht cs hcs
  obtain ⟨r₁, h1, hg1⟩ := ihc (ho.ends ht) cs hcs
  obtain ⟨r₂, h2, hg2⟩ := iho ht r₁.val hg1.dropWhile_eq.symm
  exact ⟨r₁.trans r₂, parseExpr_ok.mpr ⟨a, r₁, r₂, h1, h2, rfl⟩, hg2⟩

theorem orTailReads_stop (acc : Condition) (s : List Char) : OrTailReads total acc s acc s := by
  intro ht cs hcs
  have hne : ∀ x, cs.dropWhile isBlank ≠ '|' :: '|' :: x := by
    intro x hx
    rw [hcs] at hx
    exact absurd (ht '|' (by rw [hx]; rfl)) (by decide)
  refine ⟨⟨cs.dropWhile isBlank, length_dropWhile_le _ _⟩, orTail_ok.mpr (.inr ⟨hne, rfl, rfl⟩), ?_⟩
  show Gap s (cs.dropWhile isBlank)
  rw [hcs]
  exact gap_dropWhile s

theorem orTailReads_more {acc b c : Condition} {s s₁ s₂ s₃ t : List Char} (hg1 : Gap s ('|' :: '|' :: s₁))
    (hg2 : Gap s₁ s₂) (ho : OrTailLit (.or acc b) s₃ c t) (ihc : ConjReads total s₂ b s₃)
    (iho : OrTailReads total (.or acc b) s₃ c t) : OrTailReads total acc s c t := by
  intro ht cs hcs
  have hs : cs.dropWhile isBlank = '|' :: '|' :: s₁ := by
    rw [hcs]
    exact hg1.dropWhile_of_head fun a ha => by cases ha; exact blank_symbol (.inl rfl)
  obtain ⟨r₁, h1, hgr1⟩ := ihc (ho.ends ht) (s₁.dropWhile isBlank)
    (by rw [dropWhile_dropWhile_blank]; exact hg2.dropWhile_eq)
  obtain ⟨r₂, h2, hgr2⟩ := iho ht r₁.val hgr1.dropWhile_eq.symm
  have hlen : r₂.val.length ≤ cs.length := by
    have := length_lt_of_dropWhile (p := ['|', '|']) hs (by simp)
    have := r₁.property
    have := r₂.property
    omega
  exact ⟨⟨r₂.val, hlen⟩, orTail_ok.mpr (.inl ⟨s₁, b, r₁, r₂, hs, h1, h2, rfl⟩), hgr2⟩

theorem conjReads_mk {s s₁ t : List Char} {a c : Condition} (ha : AndTailLit a s₁ c t)
    (ihu : UnaryReads total s a s₁) (iha : AndTailReads total a s₁ c t) : ConjReads total s c t := by
  intro ht cs hcs
  obtain ⟨r₁, h1, hg1⟩ := ihu (ha.ends ht) cs hcs
  obtain ⟨r₂, h2, hg2⟩ := iha ht r₁.val hg1.dropWhile_eq.symm
  exact ⟨r₁.trans r₂, parseConj_ok.mpr ⟨a, r₁, r₂, h1, h2, rfl⟩, hg2⟩

theorem andTailReads_stop (acc : Condition) (s : List Char) : AndTailReads total acc s acc s := by
  intro ht cs hcs
  have hne : ∀ x, cs.dropWhile isBlank ≠ '&' :: '&' :: x := by
    intro x hx
    rw [hcs] at hx
    rcases ht with he | ⟨y, hy⟩
    · exact absurd (he '&' (by rw [hx]; rfl)) (by decide)
    · rw [hx] at hy
      cases hy
  refine ⟨⟨cs.dropWhile isBlank, length_dropWhile_le _ _⟩, andTail_ok.mpr (.inr ⟨hne, rfl, rfl⟩), ?_⟩
  show Gap s (cs.dropWhile isBlank)
  rw [hcs]
  exact gap_dropWhile s

theorem andTailReads_more {acc b c : Condition} {s s₁ s₂ s₃ t : List Char} (hg1 : Gap s ('&' :: '&' :: s₁))
    (hg2 : Gap s₁ s₂) (ha : AndTailLit (.and acc b) s₃ c t) (ihu : UnaryReads total s₂ b s₃)
    (iha : AndTailReads total (.and acc b) s₃ c t) : AndTailReads total acc s c t := by
  intro ht cs hcs
  have hs : cs.dropWhile isBlank = '&' :: '&' :: s₁ := by
    rw [hcs]
    exact hg1.dropWhile_of_head fun a ha => by cases ha; exact blank_symbol (.inr (.inl rfl))
  obtain ⟨r₁, h1, hgr1⟩ := ihu (ha.ends ht) (s₁.dropWhile isBlank)
    (by rw [dropWhile_dropWhile_blank]; exact hg2.dropWhile_eq)
  obtain ⟨r₂, h2, hgr2⟩ := iha ht r₁.val hgr1.dropWhile_eq.symm
  have hlen : r₂.val.length ≤ cs.length := by
    have := length_lt_of_dropWhile (p := ['&', '&']) hs (by simp)
    have := r₁.property
    have := r₂.property
    omega
  exact ⟨⟨r₂.val, hlen⟩, andTail_ok.mpr (.inl ⟨s₁, b, r₁, r₂, hs, h1, h2, rfl⟩), hgr2⟩

theorem unaryReads_not {s s₁ t : List Char} {a : Condition} (hne : s.head? ≠ some '=') (hg : Gap s s₁)
    (ihu : UnaryReads total s₁ a t) : UnaryReads total ('!' :: s) (.not a) t := by
  intro ht cs hcs
  have hs : cs.dropWhile isBlank = '!' :: s := by
    rw [hcs]
    exact dropWhile_blank_of_head fun a ha => by cases ha; exact blank_symbol (.inr (.inr (.inl rfl)))
  obtain ⟨r₁, h1, hgr⟩ := ihu ht (s.dropWhile isBlank) (by rw [dropWhile_dropWhile_blank]; exact hg.dropWhile_eq)
  have hlen : r₁.val.length ≤ cs.length := by
    have := length_lt_of_dropWhile (p := ['!']) hs (by simp)
    have := r₁.property
    omega
  exact ⟨⟨r₁.val, hlen⟩, parseUnary_ok.mpr (.inl ⟨s, a, r₁, hs, hne, h1, rfl, rfl⟩), hgr⟩

theorem unaryReads_primary {s t : List Char} {a : Condition} (hp : PrimaryLit s a t)
    (ihp : PrimaryReads total s a t) : UnaryReads total s a t := by
  intro ht cs hcs
  have hs : cs.dropWhile isBlank = s := by
    rw [hcs]
    exact dropWhile_blank_of_head (head_not_blank (UnaryLit.primary hp).head)
  -- 一次式は `!` で始まらないので、否定の枝には入らない
  have hbang : ∀ x, cs.dropWhile isBlank = '!' :: x → x.head? = some '=' := by
    intro x hx
    rw [hs] at hx
    obtain ⟨b, r, rfl, hb⟩ := hp.head
    cases hx
    rcases hb with hb | hb
    · exact absurd hb (by decide)
    · exact absurd rfl (isFieldStart_facts hb).2.1
  obtain ⟨r₁, h1, hgr⟩ := ihp ht cs (skip cs) hs
  exact ⟨r₁, parseUnary_ok.mpr (.inr ⟨hbang, r₁, h1, rfl⟩), hgr⟩

theorem primaryReads_paren {s s₁ s₂ t : List Char} {a : Condition} (hg1 : Gap s s₁) (hg2 : Gap s₂ (')' :: t))
    (ihe : ExprReads total s₁ a s₂) : PrimaryReads total ('(' :: s) a t := by
  intro _ cs p hp
  have hclose : s₂.dropWhile isBlank = ')' :: t :=
    hg2.dropWhile_of_head fun a ha => by cases ha; exact blank_symbol (.inr (.inr (.inr rfl)))
  have hends : EndsExpr s₂ := by
    intro d hd
    rw [hclose] at hd
    cases hd
    rfl
  obtain ⟨r₁, h1, hgr⟩ := ihe hends s hg1.dropWhile_eq
  have h2 : r₁.val.dropWhile isBlank = ')' :: t := by rw [← hgr.dropWhile_eq, hclose]
  have hlen : t.length ≤ cs.length := by
    have := p.property
    have := r₁.property
    have := length_dropWhile_le isBlank r₁.val
    rw [hp, List.length_cons] at *
    rw [h2, List.length_cons] at *
    omega
  exact ⟨⟨t, hlen⟩, parsePrimaryAt_ok.mpr (.inl ⟨s, r₁, t, hp, h1, h2, rfl⟩), Gap.refl t⟩

theorem primaryReads_comparison {s t : List Char} {a : Condition} (hc : ComparisonLit s a t) :
    PrimaryReads total s a t := by
  intro ht cs p hp
  obtain ⟨b, r, hbr, hb⟩ := hc.head
  have hne : ∀ x, p.val ≠ '(' :: x := by
    intro x hx
    rw [hp, hbr] at hx
    cases hx
    exact (isFieldStart_facts hb).2.2 rfl
  obtain ⟨r₁, h1, hgr⟩ := parseComparison_complete total hc ht
    (show p.val.dropWhile isBlank = s by
      rw [hp, hbr]
      exact dropWhile_blank_of_head fun a ha => by cases ha; exact (isFieldStart_facts hb).1)
  exact ⟨⟨r₁.val, le_trans r₁.property p.property⟩, parsePrimaryAt_ok.mpr (.inr ⟨hne, r₁, h1, rfl⟩), hgr⟩

/-- **完全性**：式の導出があり、その後ろが空白の後の `)` か終わりなら、`parseExpr` はその式を読む。
導出についての帰納法で、六つの関係を同時に示す。 -/
theorem exprLit_reads (total : Nat) {s t : List Char} {c : Condition} (h : ExprLit s c t) :
    ExprReads total s c t :=
  @ExprLit.rec (fun s c t _ => ExprReads total s c t) (fun acc s c t _ => OrTailReads total acc s c t)
    (fun s c t _ => ConjReads total s c t) (fun acc s c t _ => AndTailReads total acc s c t)
    (fun s c t _ => UnaryReads total s c t) (fun s c t _ => PrimaryReads total s c t)
    (fun _ ho ihc iho => exprReads_mk ho ihc iho)
    (fun acc s => orTailReads_stop acc s)
    (fun hg1 hg2 _ ho ihc iho => orTailReads_more hg1 hg2 ho ihc iho)
    (fun _ ha ihu iha => conjReads_mk ha ihu iha)
    (fun acc s => andTailReads_stop acc s)
    (fun hg1 hg2 _ ha ihu iha => andTailReads_more hg1 hg2 ha ihu iha)
    (fun hne hg _ ihu => unaryReads_not hne hg ihu)
    (fun hp ihp => unaryReads_primary hp ihp)
    (fun hg1 _ hg2 ihe => primaryReads_paren hg1 hg2 ihe)
    (fun hc => primaryReads_comparison hc)
    s c t h

end Complete

/-! ## 条件式全体 -/

/-- 末尾が空白でない列の、空白だけの接尾部は空である。 -/
theorem eq_nil_of_blank_suffix {cs t : List Char} (hs : t <:+ cs)
    (hlast : ∀ c ∈ cs.getLast?, isBlank c = false) (ht : ∀ c ∈ t, isBlank c = true) : t = [] := by
  obtain ⟨u, rfl⟩ := hs
  rcases List.eq_nil_or_concat t with rfl | ⟨t', x, rfl⟩
  · rfl
  · have hx := hlast x (by simp)
    rw [ht x (by simp)] at hx
    cases hx

/-- **条件式の文法**：`parse` が条件 `c` を返すのは、前後の空白を落とした入力が `c` を表す式の
字面そのものであるときで、そのときに限る。 -/
theorem parse_eq_ok_iff (src : String) (c : Condition) :
    parse src = .ok c ↔ ExprLit (trimList src.toList) c [] := by
  have htrim := trimList_trimmed src.toList
  unfold parse
  dsimp only
  constructor
  · intro h
    split at h
    · cases h
    · split at h
      · cases h
      · next c' rest hp =>
        split at h
        · next hemp =>
          cases h
          obtain ⟨s₀, t, hg, he, hgt⟩ := parseExpr_sound hp
          obtain rfl := hg.eq_of_head htrim.1
          -- 残りは空白だけなので、導出の残りも空白だけで、入力の末尾は空白でないから空になる
          have hblank : ∀ x ∈ rest.val, isBlank x = true := by
            simpa [List.dropWhile_eq_nil_iff] using hemp
          obtain rfl := eq_nil_of_blank_suffix he.suffix htrim.2 (hgt.blank_of_rest hblank)
          exact he
        · cases h
  · intro h
    obtain ⟨a, r, hne, -⟩ := h.head
    obtain ⟨r₁, h1, hg⟩ := exprLit_reads (byteLength (trimList src.toList)) h (fun d hd => by cases hd) _ rfl
    have hr : r₁.val = [] := List.suffix_nil.mp hg.suffix
    rw [if_neg (by simp [hne]), h1]
    dsimp only
    rw [if_pos (by simp [hr])]

end Workflow.Condition
