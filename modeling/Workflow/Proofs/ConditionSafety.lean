import Mathlib
import Workflow.Proofs.ConditionParse

/-!
# 条件式を読む関数の安全性

`parse` はどの文字列にも答えを返す。停止性は定義のほうにある：六つの相互再帰する関数は
（残りの長さ, 段）の辞書式順序で減り、`(` と `!` の後の再帰と、`||`・`&&` の後のループの
次の回は、先に一文字以上読んでいる。ここでは答えについて次を示す（`parser_safety`）。

1. 読めなければ誤りは必ず `invalidExpression` で、理由が示す位置（`expectedItemName` と
   `unexpectedInput` のバイト数）は、前後の空白を落とした入力の文字の境目にある。文字の途中を
   指す位置は現れない（`parse_outcome`）。
2. 式と否定の項は、読めればどの入力からも一文字以上読む（`parseExpr_consumes`、
   `parseUnary_consumes`）。ループの各回が読む論理積と否定の項も同じである。

## 組み立て

位置は、その時点の残り `u` から `total - byteLength u` として計算される。そこで「誤りの位置は、
呼ばれた入力のある接尾部の前にある」（`Reason.Within`）を関数ごとに示す。

* 字句：位置を持つ誤りを出すのは `parseField` だけで、その位置は読み始めた残りの前にある。
  数と文字列の誤りは位置を持たない。
* 式：六つの関数の誤りは、呼んだ関数の誤りか `expectedCloseParen` である（`parseExpr_error`
  など）。呼ぶ先の入力は呼ばれた入力の接尾部なので、入力の長さについての帰納法で
  `Reason.Within` が伝わる（`withinBelow`）。
* 全体：`total` が入力全体のバイト数なら、接尾部の前の位置は、その接尾部の手前の部分の
  バイト数で、文字の境目である。

進むことは、読めた結果の導出（`UnaryLit` など）が項目名か `(` か `!` を読むことから出る。
-/

namespace Workflow.Condition

open Workflow.Text

/-! ## 位置と文字の境目 -/

/-- 理由が示す、入力の先頭からのバイト数。 -/
def Reason.offset? : Reason → Option Nat
  | .expectedItemName n | .unexpectedInput n => some n
  | .emptyExpression | .expectedCloseParen | .unterminatedString | .invalidNumberText _
  | .invalidNumberValue _ => none

/-- バイト数 `n` が文字の列 `cs` の UTF-8 での文字の境目である：`cs` の手前の部分のバイト数。 -/
def IsCharBoundary (cs : List Char) (n : Nat) : Prop :=
  ∃ p t, cs = p ++ t ∧ byteLength p = n

@[simp] theorem byteLength_nil : byteLength [] = 0 := rfl

theorem byteLength_append (p t : List Char) : byteLength (p ++ t) = byteLength p + byteLength t := by
  induction p with
  | nil => simp
  | cons c p ih => simp only [List.cons_append, byteLength, List.foldr_cons] at ih ⊢; omega

/-- 接尾部の前の位置は文字の境目である。 -/
theorem isCharBoundary_of_suffix {cs u : List Char} (h : u <:+ cs) :
    IsCharBoundary cs (byteLength cs - byteLength u) := by
  obtain ⟨p, rfl⟩ := h
  exact ⟨p, u, rfl, by rw [byteLength_append]; omega⟩

/-- 誤り `e` の位置は、入力 `cs` のある接尾部 `u` の前（全体のバイト数 `total` から `u` の
バイト数を引いたところ）にある。 -/
def Reason.Within (total : Nat) (cs : List Char) (e : Reason) : Prop :=
  ∀ n ∈ e.offset?, ∃ u, u <:+ cs ∧ n = total - byteLength u

namespace Reason.Within

variable {total : Nat} {cs u : List Char} {e : Reason}

theorem of_offset_none (h : e.offset? = none) : e.Within total cs := by
  intro n hn
  rw [h] at hn
  cases hn

/-- 接尾部について言えれば、元の入力についても言える。 -/
theorem mono (h : e.Within total u) (hu : u <:+ cs) : e.Within total cs := by
  intro n hn
  obtain ⟨v, hv, rfl⟩ := h n hn
  exact ⟨v, hv.trans hu, rfl⟩

/-- 全体のバイト数から測った位置は、文字の境目である。 -/
theorem boundary (h : e.Within (byteLength cs) cs) : ∀ n ∈ e.offset?, IsCharBoundary cs n := by
  intro n hn
  obtain ⟨u, hu, rfl⟩ := h n hn
  exact isCharBoundary_of_suffix hu

end Reason.Within

/-! ## 字句の誤り -/

section Tokens

variable {total : Nat} {cs : List Char} {e : Reason}

/-- 項目名が読めなければ、読み始めた位置を示す。 -/
theorem parseField_error_within (h : parseField total cs = .error e) : e.Within total cs := by
  unfold parseField at h
  split at h
  · next c r =>
    split at h
    · cases h
    · cases h
      intro n hn
      simp only [Reason.offset?, Option.mem_def, Option.some.injEq] at hn
      exact ⟨c :: r, List.suffix_refl _, hn.symm⟩
  · cases h
    intro n hn
    simp only [Reason.offset?, Option.mem_def, Option.some.injEq] at hn
    exact ⟨[], List.nil_suffix, by rw [byteLength_nil, Nat.sub_zero, hn]⟩

/-- 引用符の文字列が読めないのは、閉じ引用符がないときだけである。 -/
theorem stringBody_error {q : Char} {acc : List Char} (h : stringBody q acc cs = .error e) :
    e = .unterminatedString := by
  fun_induction stringBody q acc cs with
  | case1 => cases h; rfl
  | case2 | case3 | case6 => cases h
  | case4 acc e' rest e'' hbody _ ih => cases h; exact ih hbody
  | case5 => cases h; rfl
  | case7 acc c rest _ _ e'' hbody ih => cases h; exact ih hbody

theorem parseNumber_error (h : parseNumber cs = .error e) : e.offset? = none := by
  unfold parseNumber at h
  dsimp only at h
  split at h
  · cases h
  · cases h
    rfl

/-- 等しさの右辺の誤り（閉じない文字列、数でない字面、有限でない数）は位置を持たない。 -/
theorem parseOperand_error (h : parseOperand cs = .error e) : e.offset? = none := by
  unfold parseOperand at h
  dsimp only at h
  split at h
  · cases h
  · cases h
  · cases h
  · split at h
    · split at h
      · cases h
      · next e' hbody => cases h; rw [stringBody_error hbody]; rfl
    · split at h
      · split at h
        · cases h
        · cases h; rfl
      · next e' hnum => cases h; exact parseNumber_error hnum
  · split at h
    · split at h
      · cases h
      · cases h; rfl
    · next e' hnum => cases h; exact parseNumber_error hnum

/-- 比較の誤りの位置は、項目名を読み始めた位置である。 -/
theorem parseComparison_error_within (h : parseComparison total cs = .error e) : e.Within total cs := by
  unfold parseComparison at h
  simp only [bind, Except.bind, pure, Except.pure] at h
  split at h
  · next e' hfield =>
    cases h
    exact (parseField_error_within hfield).mono (gap_dropWhile cs).suffix
  · split at h
    · split at h
      · next e' hval => cases h; exact Reason.Within.of_offset_none (parseOperand_error hval)
      · cases h
    · split at h
      · next e' hval => cases h; exact Reason.Within.of_offset_none (parseOperand_error hval)
      · cases h
    · split at h
      · next e' hnum => cases h; exact Reason.Within.of_offset_none (parseNumber_error hnum)
      · cases h
    · -- 演算子がなければ項目名だけの条件で、誤りにならない
      split_ifs at h

end Tokens

/-! ## 式の誤りは、呼んだ関数の誤り -/

section Split

variable {total : Nat} {cs : List Char} {e : Reason}

theorem parseExpr_error (h : parseExpr total cs = .error e) :
    parseConj total cs = .error e ∨
      ∃ left r, parseConj total cs = .ok (left, r) ∧ orTail total left r.val = .error e := by
  rw [parseExpr] at h
  split at h
  · next e' h1 => cases h; exact .inl h1
  · next left r h1 =>
    split at h
    · next e' h2 => cases h; exact .inr ⟨left, r, h1, h2⟩
    · cases h

theorem orTail_error {left : Condition} (h : orTail total left cs = .error e) :
    ∃ s, cs.dropWhile isBlank = '|' :: '|' :: s ∧
      (parseConj total (s.dropWhile isBlank) = .error e ∨
        ∃ right r, parseConj total (s.dropWhile isBlank) = .ok (right, r) ∧
          orTail total (.or left right) r.val = .error e) := by
  rw [orTail] at h
  split at h
  · next s hs =>
    split at h
    · next e' h1 => cases h; exact ⟨s, hs, .inl h1⟩
    · next right r h1 =>
      split at h
      · next e' h2 => cases h; exact ⟨s, hs, .inr ⟨right, r, h1, h2⟩⟩
      · cases h
  · cases h

theorem parseConj_error (h : parseConj total cs = .error e) :
    parseUnary total cs = .error e ∨
      ∃ left r, parseUnary total cs = .ok (left, r) ∧ andTail total left r.val = .error e := by
  rw [parseConj] at h
  split at h
  · next e' h1 => cases h; exact .inl h1
  · next left r h1 =>
    split at h
    · next e' h2 => cases h; exact .inr ⟨left, r, h1, h2⟩
    · cases h

theorem andTail_error {left : Condition} (h : andTail total left cs = .error e) :
    ∃ s, cs.dropWhile isBlank = '&' :: '&' :: s ∧
      (parseUnary total (s.dropWhile isBlank) = .error e ∨
        ∃ right r, parseUnary total (s.dropWhile isBlank) = .ok (right, r) ∧
          andTail total (.and left right) r.val = .error e) := by
  rw [andTail] at h
  split at h
  · next s hs =>
    split at h
    · next e' h1 => cases h; exact ⟨s, hs, .inl h1⟩
    · next right r h1 =>
      split at h
      · next e' h2 => cases h; exact ⟨s, hs, .inr ⟨right, r, h1, h2⟩⟩
      · cases h
  · cases h

/-- 否定の項の誤りは、`!` の後の否定の項の誤りか、空白を飛ばした位置からの一次式の誤りである。 -/
theorem parseUnary_error (h : parseUnary total cs = .error e) :
    (∃ s, cs.dropWhile isBlank = '!' :: s ∧ parseUnary total (s.dropWhile isBlank) = .error e) ∨
      parsePrimaryAt total cs (skip cs) = .error e := by
  rw [parseUnary] at h
  split at h
  · next x hx =>
    rw [show (⟨'!' :: '=' :: x, _⟩ : Rest cs) = skip cs from Subtype.ext hx.symm] at h
    exact .inr h
  · next x _ hx =>
    split at h
    · next e' h1 => cases h; exact .inl ⟨x, hx, h1⟩
    · cases h
  · exact .inr h

/-- 一次式の誤りは、括弧の中の式の誤りか、閉じ括弧がないか、比較の誤りである。 -/
theorem parsePrimaryAt_error {s : Rest cs} (h : parsePrimaryAt total cs s = .error e) :
    (∃ x, s.val = '(' :: x ∧ (parseExpr total x = .error e ∨ e = .expectedCloseParen)) ∨
      parseComparison total s.val = .error e := by
  rw [parsePrimaryAt] at h
  split at h
  · next x hx =>
    split at h
    · next e' h1 => cases h; exact .inl ⟨x, hx, .inl h1⟩
    · split at h
      · cases h
      · cases h; exact .inl ⟨x, hx, .inr rfl⟩
  · split at h
    · next e' h1 => cases h; exact .inr h1
    · cases h

end Split

/-! ## 誤りの位置は入力の中 -/

section Within

variable {total : Nat}

/-- 空白を飛ばして字面を読んだ後の位置は、元の入力の接尾部である。 -/
theorem suffix_of_dropWhile {cs p s : List Char} (h : cs.dropWhile isBlank = p ++ s) :
    s.dropWhile isBlank <:+ cs :=
  (gap_dropWhile s).suffix.trans ((List.suffix_append p s).trans (h ▸ (gap_dropWhile cs).suffix))

theorem parseExpr_suffix {cs : List Char} {c : Condition} {r : Rest cs} (h : parseExpr total cs = .ok (c, r)) :
    r.val <:+ cs := by
  obtain ⟨s₀, t, hg, he, hgt⟩ := parseExpr_sound h
  exact hgt.suffix.trans (he.suffix.trans hg.suffix)

theorem parseConj_suffix {cs : List Char} {c : Condition} {r : Rest cs} (h : parseConj total cs = .ok (c, r)) :
    r.val <:+ cs := by
  obtain ⟨s₀, t, hg, hconj, hgt⟩ := (soundBelow (cs.length + 1) cs (Nat.lt_succ_self _)).conj c r h
  -- 論理積の導出は、`||` の続かない式の導出でもある
  have he : ExprLit s₀ c t := .mk hconj (.stop c t)
  exact hgt.suffix.trans (he.suffix.trans hg.suffix)

theorem parseUnary_suffix {cs : List Char} {c : Condition} {r : Rest cs} (h : parseUnary total cs = .ok (c, r)) :
    r.val <:+ cs := by
  obtain ⟨s₀, t, hg, hu, hgt⟩ := (soundBelow (cs.length + 1) cs (Nat.lt_succ_self _)).unary c r h
  have he : ExprLit s₀ c t := .mk (.mk hu (.stop c t)) (.stop c t)
  exact hgt.suffix.trans (he.suffix.trans hg.suffix)

variable (total) in
/-- 六つの関数のどれの誤りも、その位置は入力 `cs` の中にある。一次式は、`cs` の接尾部から
読み始めたときに限る。 -/
structure WithinAt (cs : List Char) : Prop where
  expr : ∀ e, parseExpr total cs = .error e → e.Within total cs
  orTail : ∀ left e, orTail total left cs = .error e → e.Within total cs
  conj : ∀ e, parseConj total cs = .error e → e.Within total cs
  andTail : ∀ left e, andTail total left cs = .error e → e.Within total cs
  unary : ∀ e, parseUnary total cs = .error e → e.Within total cs
  primary : ∀ s : Rest cs, s.val <:+ cs → ∀ e, parsePrimaryAt total cs s = .error e → e.Within total cs

variable (total) in
/-- 長さが `n` より短い入力では、六つの関数の誤りの位置が入力の中にある。 -/
def WithinBelow (n : Nat) : Prop :=
  ∀ cs : List Char, cs.length < n → WithinAt total cs

theorem WithinBelow.mono {m n : Nat} (h : WithinBelow total n) (hmn : m ≤ n) : WithinBelow total m :=
  fun cs hcs => h cs (by omega)

variable {cs : List Char}

theorem primaryWithin_step (ih : WithinBelow total cs.length) (s : Rest cs) (hs : s.val <:+ cs) (e : Reason)
    (h : parsePrimaryAt total cs s = .error e) : e.Within total cs := by
  rcases parsePrimaryAt_error h with ⟨x, hx, hexpr | rfl⟩ | hcomp
  · -- 括弧の中は `(` を読んだ後なので、元より短い
    have hlen : x.length < cs.length := by
      have := s.property
      rw [hx, List.length_cons] at this
      omega
    have hsuf : x <:+ cs := (List.suffix_cons '(' x).trans (hx ▸ hs)
    exact ((ih x hlen).expr e hexpr).mono hsuf
  · exact Reason.Within.of_offset_none rfl
  · exact (parseComparison_error_within hcomp).mono hs

theorem unaryWithin_step (ih : WithinBelow total cs.length) (e : Reason) (h : parseUnary total cs = .error e) :
    e.Within total cs := by
  rcases parseUnary_error h with ⟨s, hs, h1⟩ | h1
  · have hlen := length_lt_of_dropWhile (p := ['!']) hs (by simp)
    exact ((ih _ hlen).unary e h1).mono (suffix_of_dropWhile (p := ['!']) hs)
  · exact primaryWithin_step ih (skip cs) (gap_dropWhile cs).suffix e h1

theorem andTailWithin_step (ih : WithinBelow total cs.length) (left : Condition) (e : Reason)
    (h : andTail total left cs = .error e) : e.Within total cs := by
  obtain ⟨s, hs, hcases⟩ := andTail_error h
  have hlen := length_lt_of_dropWhile (p := ['&', '&']) hs (by simp)
  have hsuf := suffix_of_dropWhile (p := ['&', '&']) hs
  rcases hcases with h1 | ⟨right, r, h1, h2⟩
  · exact ((ih _ hlen).unary e h1).mono hsuf
  · -- ループの次の回は、`&&` と右の項を読んだ後の位置から
    exact ((ih _ (lt_of_le_of_lt r.property hlen)).andTail _ e h2).mono ((parseUnary_suffix h1).trans hsuf)

theorem conjWithin_step (ih : WithinBelow total cs.length) (e : Reason) (h : parseConj total cs = .error e) :
    e.Within total cs := by
  rcases parseConj_error h with h1 | ⟨left, r, h1, h2⟩
  · exact unaryWithin_step ih e h1
  · -- `andTail` の入力は元より長くないので、同じ長さでもすでに示してある
    exact (andTailWithin_step (ih.mono r.property) left e h2).mono (parseUnary_suffix h1)

theorem orTailWithin_step (ih : WithinBelow total cs.length) (left : Condition) (e : Reason)
    (h : orTail total left cs = .error e) : e.Within total cs := by
  obtain ⟨s, hs, hcases⟩ := orTail_error h
  have hlen := length_lt_of_dropWhile (p := ['|', '|']) hs (by simp)
  have hsuf := suffix_of_dropWhile (p := ['|', '|']) hs
  rcases hcases with h1 | ⟨right, r, h1, h2⟩
  · exact ((ih _ hlen).conj e h1).mono hsuf
  · exact ((ih _ (lt_of_le_of_lt r.property hlen)).orTail _ e h2).mono ((parseConj_suffix h1).trans hsuf)

theorem exprWithin_step (ih : WithinBelow total cs.length) (e : Reason) (h : parseExpr total cs = .error e) :
    e.Within total cs := by
  rcases parseExpr_error h with h1 | ⟨left, r, h1, h2⟩
  · exact conjWithin_step ih e h1
  · exact (orTailWithin_step (ih.mono r.property) left e h2).mono (parseConj_suffix h1)

/-- 入力の長さについての帰納法。同じ長さの入力では、一次式、否定の項、`&&` の列、論理積、
`||` の列、式の順に、呼ぶ先がすでに示されている。 -/
theorem withinBelow (n : Nat) : WithinBelow total n := by
  induction n with
  | zero => intro cs h; omega
  | succ n ih =>
    intro cs hcs
    have ih' : WithinBelow total cs.length := ih.mono (by omega)
    exact ⟨exprWithin_step ih', orTailWithin_step ih', conjWithin_step ih', andTailWithin_step ih',
      unaryWithin_step ih', primaryWithin_step ih'⟩

theorem parseExpr_error_within {e : Reason} (h : parseExpr total cs = .error e) : e.Within total cs :=
  (withinBelow (cs.length + 1) cs (Nat.lt_succ_self _)).expr e h

end Within

/-! ## 読めば先へ進む -/

section Progress

variable {s t : List Char} {c : Condition}

theorem FieldLit.length_lt {name : String} (h : FieldLit s name t) : t.length < s.length := by
  cases h with
  | @mk c body t => simp only [List.length_cons, List.length_append]; omega

/-- 比較は項目名を読むので、一文字以上読む。 -/
theorem ComparisonLit.length_lt (h : ComparisonLit s c t) : t.length < s.length := by
  cases h with
  | bare hf => exact hf.length_lt
  | eq hf hg1 hg2 hv =>
    have hrest := (hv.suffix.trans (hg2.suffix.trans ((List.suffix_append ['=', '='] _).trans hg1.suffix))).length_le
    have := hf.length_lt
    omega
  | ne hf hg1 hg2 hv =>
    have hrest := (hv.suffix.trans (hg2.suffix.trans ((List.suffix_append ['!', '='] _).trans hg1.suffix))).length_le
    have := hf.length_lt
    omega
  | rel r hf hg1 hg2 hn =>
    have hrest := (hn.suffix.trans (hg2.suffix.trans ((List.suffix_append r.symbol _).trans hg1.suffix))).length_le
    have := hf.length_lt
    omega

theorem PrimaryLit.length_lt (h : PrimaryLit s c t) : t.length < s.length := by
  cases h with
  | paren hg1 he hg2 =>
    have h1 := hg1.suffix.length_le
    have h2 := he.suffix.length_le
    have h3 := hg2.suffix.length_le
    simp only [List.length_cons] at h3 ⊢
    omega
  | comparison hc => exact hc.length_lt

/-- 否定の項は一文字以上読む。`!` の後の項の残りが接尾部であることは、それを `||` も `&&` も
続かない式の導出とみて `ExprLit.suffix` から得る。 -/
theorem UnaryLit.length_lt (h : UnaryLit s c t) : t.length < s.length := by
  cases h with
  | @not s s₁ t a _ hg hu =>
    have he : ExprLit s₁ a t := .mk (.mk hu (.stop a t)) (.stop a t)
    have h1 := he.suffix.length_le
    have h2 := hg.suffix.length_le
    simp only [List.length_cons]
    omega
  | primary hp => exact hp.length_lt

variable {total : Nat} {cs : List Char}

theorem parseUnary_consumes {r : Rest cs} (h : parseUnary total cs = .ok (c, r)) : r.val.length < cs.length := by
  obtain ⟨s₀, t, hg, hu, hgt⟩ := (soundBelow (cs.length + 1) cs (Nat.lt_succ_self _)).unary c r h
  have h1 := hg.suffix.length_le
  have h2 := hgt.suffix.length_le
  have := hu.length_lt
  omega

theorem parseConj_consumes {r : Rest cs} (h : parseConj total cs = .ok (c, r)) : r.val.length < cs.length := by
  obtain ⟨left, r₁, r₂, h1, -, hr⟩ := parseConj_ok.mp h
  -- `&&` の列は元より長くない残りを返す
  have := r₂.property
  have := parseUnary_consumes h1
  rw [hr]
  omega

theorem parseExpr_consumes {r : Rest cs} (h : parseExpr total cs = .ok (c, r)) : r.val.length < cs.length := by
  obtain ⟨left, r₁, r₂, h1, -, hr⟩ := parseExpr_ok.mp h
  have := r₂.property
  have := parseConj_consumes h1
  rw [hr]
  omega

end Progress

/-! ## 条件式全体 -/

/-- **読めないときの答え。** どの文字列 `src` についても、`parse` は条件を返すか、
`invalidExpression` の誤りを返す。誤りの理由が位置を示すなら、その位置は前後の空白を落とした
入力の文字の境目である。 -/
theorem parse_outcome (src : String) :
    (∃ c, parse src = .ok c) ∨
      ∃ (shown : String) (reason : Reason), parse src = .error (.invalidExpression shown reason.text) ∧
        ∀ n ∈ reason.offset?, IsCharBoundary (trimList src.toList) n := by
  unfold parse
  dsimp only
  split
  · exact .inr ⟨src, .emptyExpression, rfl, fun n hn => by cases hn⟩
  · split
    · next r hr => exact .inr ⟨_, r, rfl, (parseExpr_error_within hr).boundary⟩
    · next c rest hp =>
      split
      · exact .inl ⟨c, rfl⟩
      · refine .inr ⟨src, .unexpectedInput _, rfl, Reason.Within.boundary ?_⟩
        -- 残った入力は、読んだ式の後ろから空白を飛ばしたところで、入力の接尾部である
        intro n hn
        simp only [Reason.offset?, Option.mem_def, Option.some.injEq] at hn
        exact ⟨_, (gap_dropWhile rest.val).suffix.trans (parseExpr_suffix hp), hn.symm⟩

end Workflow.Condition
