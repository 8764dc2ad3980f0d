import Mathlib
import Workflow.Proofs.Normalize
import Workflow.Condition.Parser

/-!
# 条件式の文法

条件式の言語を、字句と式の帰納的な導出として述べる。`XLit s x t` は「文字の列 `s` の先頭が
`x` を表す字面で、その後ろが `t`」と読む。入力全体が式であるのは `ExprLit s c []` のとき。

```
expr       := conj ('||' conj)*
conj       := unary ('&&' unary)*
unary      := '!' unary          -- 直後が '=' でない '!'
            | primary
primary    := '(' expr ')' | comparison
comparison := field [ ('==' | '!=') value | ('>=' | '<=' | '>' | '<') number ]
field      := (英字 | '_' | '$') (英数字 | '_' | '.' | '$' | '-')*   -- 取れるだけ取る
value      := 'true' | 'false' | 'null' | 引用符の文字列 | 有限の number
number     := ['-'] 数字* ['.' 数字*]   -- 数字を一つは含む
```

字句の間には空白（Unicode の White_Space）を置ける（`Gap`）。`||` と `&&` は左に結合し、
`&&` は `||` より、`!` は両方より強く結ぶ。項目名は末尾の `.` を落とし、比較のない項目名
`true` と `false` は定数になる（`bareField`）。

字句の境目では文字の種類が交わらないことを使う。英数字は空白でなく
（`isAlphanumeric_of_isBlank`）、ASCII の記号は空白でも英数字でもない。Unicode の表についての
これらの事実は、表の区間どうしが交わらないことを `decide` で確かめて示す。
-/

namespace Workflow.Text

/-! ## 文字の種類 -/

/-- 表のどの区間も `[lo, hi]` と交わらない。 -/
def RangeTable.misses (t : RangeTable) (lo hi : Nat) : Bool :=
  t.ranges.toList.all fun p => !intervalsMeet lo hi p.1 p.2

/-- 表のどの区間とも交わらない範囲の文字は、表に入らない。 -/
theorem RangeTable.containsChar_eq_false {t : RangeTable} {lo hi : Nat} (h : t.misses lo hi = true)
    {c : Char} (hc : lo ≤ c.toNat ∧ c.toNat ≤ hi) : t.containsChar c = false := by
  cases hcon : t.containsChar c with
  | false => rfl
  | true =>
    obtain ⟨p, hp, h1, h2⟩ := contains_go_sound t c.toNat 0 t.ranges.size hcon
    have hm := List.all_eq_true.mp h p hp
    simp only [intervalsMeet, Bool.not_eq_eq_eq_not, Bool.not_true, Bool.and_eq_false_iff,
      decide_eq_false_iff_not, not_le] at hm
    omega

/-- 空白の区間は、英字の区間とも数字の区間とも交わらない。 -/
theorem blank_misses_alphanumeric :
    blankTable.ranges.toList.all
      (fun b => alphabeticTable.misses b.1 b.2 && numericTable.misses b.1 b.2) = true := by
  decide +kernel

/-- 空白は英数字でない。 -/
theorem isAlphanumeric_of_isBlank {c : Char} (h : isBlank c = true) : isAlphanumeric c = false := by
  obtain ⟨b, hb, h1, h2⟩ := isBlank_sound h
  have hm := List.all_eq_true.mp blank_misses_alphanumeric b hb
  simp only [Bool.and_eq_true] at hm
  simp [isAlphanumeric, isAlphabetic, isNumeric, RangeTable.containsChar_eq_false hm.1 ⟨h1, h2⟩,
    RangeTable.containsChar_eq_false hm.2 ⟨h1, h2⟩]

/-- ASCII の表示できる文字は空白でない。 -/
theorem isBlank_ascii {c : Char} (hc : 33 ≤ c.toNat ∧ c.toNat ≤ 126) : isBlank c = false :=
  RangeTable.containsChar_eq_false (t := blankTable) (by decide +kernel) hc

/-- ASCII の記号（`!` から `/`、`:` から `@`、`{` から `~`）は英数字でない。 -/
theorem isAlphanumeric_ascii_symbol {c : Char}
    (hc : (33 ≤ c.toNat ∧ c.toNat ≤ 47) ∨ (58 ≤ c.toNat ∧ c.toNat ≤ 64) ∨
      (123 ≤ c.toNat ∧ c.toNat ≤ 126)) : isAlphanumeric c = false := by
  have ha1 : alphabeticTable.misses 33 47 = true := by decide +kernel
  have ha2 : alphabeticTable.misses 58 64 = true := by decide +kernel
  have ha3 : alphabeticTable.misses 123 126 = true := by decide +kernel
  have hn1 : numericTable.misses 33 47 = true := by decide +kernel
  have hn2 : numericTable.misses 58 64 = true := by decide +kernel
  have hn3 : numericTable.misses 123 126 = true := by decide +kernel
  simp only [isAlphanumeric, isAlphabetic, isNumeric, Bool.or_eq_false_iff]
  rcases hc with hc | hc | hc
  · exact ⟨RangeTable.containsChar_eq_false ha1 hc, RangeTable.containsChar_eq_false hn1 hc⟩
  · exact ⟨RangeTable.containsChar_eq_false ha2 hc, RangeTable.containsChar_eq_false hn2 hc⟩
  · exact ⟨RangeTable.containsChar_eq_false ha3 hc, RangeTable.containsChar_eq_false hn3 hc⟩

end Workflow.Text

namespace Workflow.Condition

open Workflow.Text Workflow.Decimal

/-! ## 字句の文字 -/

theorem isBlank_digit {d : Char} (h : d.isDigit = true) : isBlank d = false := by
  simp only [Char.isDigit, Bool.and_eq_true, decide_eq_true_eq, UInt32.le_iff_toNat_le] at h
  have h0 : ('0' : Char).val.toNat = 48 := rfl
  have h9 : ('9' : Char).val.toNat = 57 := rfl
  exact isBlank_ascii (c := d) ⟨by change 33 ≤ d.val.toNat; omega, by change d.val.toNat ≤ 126; omega⟩

/-- 項目名の文字は空白でない。 -/
theorem isBlank_of_isFieldChar {c : Char} (h : isFieldChar c = true) : isBlank c = false := by
  cases hb : isBlank c with
  | false => rfl
  | true =>
    -- 空白は英数字でないので、残るのは ASCII の `_`・`.`・`$`・`-` だけ
    simp only [isFieldChar, isAlphanumeric_of_isBlank hb, Bool.false_or, Bool.or_eq_true,
      decide_eq_true_eq] at h
    rcases h with ((rfl | rfl) | rfl) | rfl <;> rw [isBlank_ascii (by decide)] at hb <;> cases hb

theorem isFieldChar_of_isFieldStart {c : Char} (h : isFieldStart c = true) : isFieldChar c = true := by
  simp only [isFieldStart, isFieldChar, isAlphanumeric, Bool.or_eq_true] at h ⊢
  tauto

/-- 項目名の先頭の文字は、空白でも `!` でも `(` でもない。 -/
theorem isFieldStart_facts {c : Char} (h : isFieldStart c = true) :
    isBlank c = false ∧ c ≠ '!' ∧ c ≠ '(' := by
  refine ⟨isBlank_of_isFieldChar (isFieldChar_of_isFieldStart h), ?_, ?_⟩
  · rintro rfl
    have ha := isAlphanumeric_ascii_symbol (c := '!') (.inl (by decide))
    simp only [isAlphanumeric, Bool.or_eq_false_iff] at ha
    simp [isFieldStart, ha.1] at h
  · rintro rfl
    have ha := isAlphanumeric_ascii_symbol (c := '(') (.inl (by decide))
    simp only [isAlphanumeric, Bool.or_eq_false_iff] at ha
    simp [isFieldStart, ha.1] at h

/-- 演算子と括弧の記号は項目名の文字でない。 -/
theorem isFieldChar_symbol {c : Char}
    (hc : c = ')' ∨ c = '|' ∨ c = '&' ∨ c = '=' ∨ c = '!' ∨ c = '<' ∨ c = '>' ∨ c = '(') :
    isFieldChar c = false := by
  have ha : isAlphanumeric c = false :=
    isAlphanumeric_ascii_symbol (by rcases hc with rfl | rfl | rfl | rfl | rfl | rfl | rfl | rfl <;> decide)
  simp only [isFieldChar, ha, Bool.false_or, Bool.or_eq_false_iff, decide_eq_false_iff_not]
  rcases hc with rfl | rfl | rfl | rfl | rfl | rfl | rfl | rfl <;> decide

/-- 式の区切りになる文字：空白、`)`、`|`、`&`。 -/
def IsDelimiter (d : Char) : Prop :=
  isBlank d = true ∨ d = ')' ∨ d = '|' ∨ d = '&'

/-- 区切りの文字は、項目名の文字でも数字でも `.` でもない。 -/
theorem IsDelimiter.facts {d : Char} (h : IsDelimiter d) :
    isFieldChar d = false ∧ d.isDigit = false ∧ d ≠ '.' := by
  rcases h with hb | rfl | rfl | rfl
  · refine ⟨?_, ?_, ?_⟩
    · cases hf : isFieldChar d with
      | false => rfl
      | true => rw [isBlank_of_isFieldChar hf] at hb; cases hb
    · cases hd : d.isDigit with
      | false => rfl
      | true => rw [isBlank_digit hd] at hb; cases hb
    · rintro rfl
      rw [isBlank_ascii (by decide)] at hb
      cases hb
  all_goals exact ⟨isFieldChar_symbol (by simp), by decide, by decide⟩

/-! ## 字句の間の空白 -/

/-- `t` は `s` の先頭の空白をいくつか（全部とは限らない）落とした残りである。 -/
def Gap (s t : List Char) : Prop :=
  ∃ w, (∀ c ∈ w, isBlank c = true) ∧ s = w ++ t

theorem Gap.refl (s : List Char) : Gap s s :=
  ⟨[], by simp, rfl⟩

theorem Gap.trans {s t u : List Char} (h₁ : Gap s t) (h₂ : Gap t u) : Gap s u := by
  obtain ⟨w₁, hw₁, rfl⟩ := h₁
  obtain ⟨w₂, hw₂, rfl⟩ := h₂
  refine ⟨w₁ ++ w₂, fun c hc => ?_, by simp⟩
  rcases List.mem_append.mp hc with hc | hc
  · exact hw₁ c hc
  · exact hw₂ c hc

/-- 空白を全部落とした残りも `Gap` である。 -/
theorem gap_dropWhile (s : List Char) : Gap s (s.dropWhile isBlank) :=
  ⟨s.takeWhile isBlank, fun _ hc => List.mem_takeWhile_imp hc, List.takeWhile_append_dropWhile.symm⟩

theorem Gap.suffix {s t : List Char} (h : Gap s t) : t <:+ s := by
  obtain ⟨w, -, rfl⟩ := h
  exact List.suffix_append w t

/-- 空白を落とすと、どちらも同じ残りになる。 -/
theorem Gap.dropWhile_eq {s t : List Char} (h : Gap s t) : s.dropWhile isBlank = t.dropWhile isBlank := by
  obtain ⟨w, hw, rfl⟩ := h
  exact List.dropWhile_append_of_pos hw

/-- 先頭が空白でない列から空白を落としても変わらない。 -/
theorem dropWhile_blank_of_head {t : List Char} (ht : ∀ a ∈ t.head?, isBlank a = false) :
    t.dropWhile isBlank = t := by
  cases t with
  | nil => rfl
  | cons a r => simp [List.dropWhile_cons_of_neg, ht a rfl]

theorem Gap.dropWhile_of_head {s t : List Char} (h : Gap s t) (ht : ∀ a ∈ t.head?, isBlank a = false) :
    s.dropWhile isBlank = t := by
  rw [h.dropWhile_eq, dropWhile_blank_of_head ht]

/-- 先頭が空白でない列からは、何も落とせない。 -/
theorem Gap.eq_of_head {s t : List Char} (h : Gap s t) (hs : ∀ a ∈ s.head?, isBlank a = false) : s = t := by
  obtain ⟨w, hw, rfl⟩ := h
  cases w with
  | nil => rfl
  | cons a w => exact absurd (hw a (by simp)) (by simp [hs a (by simp)])

/-- 残りが空白だけなら、空白を挟んだ手前も空白だけである。 -/
theorem Gap.blank_of_rest {s t : List Char} (h : Gap s t) (ht : ∀ c ∈ t, isBlank c = true) :
    ∀ c ∈ s, isBlank c = true := by
  obtain ⟨w, hw, rfl⟩ := h
  intro c hc
  rcases List.mem_append.mp hc with hc | hc
  · exact hw c hc
  · exact ht c hc

/-! ## 字句 -/

/-- 項目名：先頭の文字は `isFieldStart`、続く `isFieldChar` の文字を取れるだけ取る。
名前は末尾の `.` を落とした字面。 -/
inductive FieldLit : List Char → String → List Char → Prop
  | mk {c : Char} {body t : List Char} : isFieldStart c = true → (∀ d ∈ body, isFieldChar d = true) →
      (∀ d ∈ t.head?, isFieldChar d = false) →
      FieldLit (c :: (body ++ t)) (String.ofList (dropTrailingDots (c :: body))) t

/-- 数：`['-'] 数字* ['.' 数字*]` で数字を一つは含む字面と、それを読んだ double。 -/
inductive NumberLit : List Char → Float → List Char → Prop
  | mk {sign ip frac t : List Char} {f : Float} : (sign = [] ∨ sign = ['-']) →
      (∀ d ∈ ip, d.isDigit = true) →
      (frac = [] ∨ ∃ ds, frac = '.' :: ds ∧ ∀ d ∈ ds, d.isDigit = true) →
      (∃ d ∈ ip ++ frac, d.isDigit = true) → readFloat (String.ofList (sign ++ ip ++ frac)) = some f →
      NumberLit (sign ++ ip ++ frac ++ t) f t

/-- 引用符 `q` の文字列の、開き引用符より後ろ：閉じ引用符までの中身が `str`。`\` の次の
1 文字はそのまま入る。 -/
inductive QuotedLit (q : Char) : List Char → List Char → List Char → Prop
  | close (t : List Char) : QuotedLit q (q :: t) [] t
  | plain {c : Char} {s str t : List Char} : c ≠ q → c ≠ '\\' → QuotedLit q s str t →
      QuotedLit q (c :: s) (c :: str) t
  | escape (e : Char) {s str t : List Char} : QuotedLit q s str t →
      QuotedLit q ('\\' :: e :: s) (e :: str) t

/-- 等しさの右辺：`true`・`false`・`null`、引用符の文字列、有限の数。 -/
inductive ValueLit : List Char → Operand → List Char → Prop
  | true (t : List Char) : ValueLit ('t' :: 'r' :: 'u' :: 'e' :: t) (.bool true) t
  | false (t : List Char) : ValueLit ('f' :: 'a' :: 'l' :: 's' :: 'e' :: t) (.bool false) t
  | null (t : List Char) : ValueLit ('n' :: 'u' :: 'l' :: 'l' :: t) .null t
  | text {q : Char} {s str t : List Char} : (q = '"' ∨ q = '\'') → QuotedLit q s str t →
      ValueLit (q :: s) (.text (String.ofList str)) t
  | number {s t : List Char} {f : Float} : NumberLit s f t → isFiniteFloat f = true →
      ValueLit s (.number f) t

/-- 大小の演算子の字面。 -/
def Relation.symbol : Relation → List Char
  | .ge => ['>', '=']
  | .le => ['<', '=']
  | .gt => ['>']
  | .lt => ['<']

/-- 比較のない項目名の条件：`true` と `false` は定数、ほかは真とみなせるかの判定。 -/
def bareField (name : String) : Condition :=
  if name = "true" then .const true else if name = "false" then .const false else .truthy name

/-- 比較：項目名だけか、項目名と演算子と右辺。 -/
inductive ComparisonLit : List Char → Condition → List Char → Prop
  | bare {s t : List Char} {name : String} : FieldLit s name t → ComparisonLit s (bareField name) t
  | eq {s s₁ s₂ s₃ t : List Char} {name : String} {o : Operand} : FieldLit s name s₁ →
      Gap s₁ ('=' :: '=' :: s₂) → Gap s₂ s₃ → ValueLit s₃ o t → ComparisonLit s (.eq name o) t
  | ne {s s₁ s₂ s₃ t : List Char} {name : String} {o : Operand} : FieldLit s name s₁ →
      Gap s₁ ('!' :: '=' :: s₂) → Gap s₂ s₃ → ValueLit s₃ o t → ComparisonLit s (.ne name o) t
  | rel (r : Relation) {s s₁ s₂ s₃ t : List Char} {name : String} {n : Float} : FieldLit s name s₁ →
      Gap s₁ (r.symbol ++ s₂) → Gap s₂ s₃ → NumberLit s₃ n t → ComparisonLit s (.compare r name n) t

/-! ## 式 -/

mutual

/-- 式：論理積の後に `|| conj` の繰り返し。 -/
inductive ExprLit : List Char → Condition → List Char → Prop
  | mk {s s₁ t : List Char} {a c : Condition} : ConjLit s a s₁ → OrTailLit a s₁ c t → ExprLit s c t

/-- `('||' conj)*`。左の式 `acc` に右の項を左結合で足していく。 -/
inductive OrTailLit : Condition → List Char → Condition → List Char → Prop
  | stop (acc : Condition) (s : List Char) : OrTailLit acc s acc s
  | more {acc b c : Condition} {s s₁ s₂ s₃ t : List Char} : Gap s ('|' :: '|' :: s₁) → Gap s₁ s₂ →
      ConjLit s₂ b s₃ → OrTailLit (.or acc b) s₃ c t → OrTailLit acc s c t

/-- 論理積：否定の項の後に `&& unary` の繰り返し。 -/
inductive ConjLit : List Char → Condition → List Char → Prop
  | mk {s s₁ t : List Char} {a c : Condition} : UnaryLit s a s₁ → AndTailLit a s₁ c t → ConjLit s c t

/-- `('&&' unary)*`。 -/
inductive AndTailLit : Condition → List Char → Condition → List Char → Prop
  | stop (acc : Condition) (s : List Char) : AndTailLit acc s acc s
  | more {acc b c : Condition} {s s₁ s₂ s₃ t : List Char} : Gap s ('&' :: '&' :: s₁) → Gap s₁ s₂ →
      UnaryLit s₂ b s₃ → AndTailLit (.and acc b) s₃ c t → AndTailLit acc s c t

/-- 否定の項：直後が `=` でない `!` と否定の項、または一次式。 -/
inductive UnaryLit : List Char → Condition → List Char → Prop
  | not {s s₁ t : List Char} {a : Condition} : s.head? ≠ some '=' → Gap s s₁ → UnaryLit s₁ a t →
      UnaryLit ('!' :: s) (.not a) t
  | primary {s t : List Char} {a : Condition} : PrimaryLit s a t → UnaryLit s a t

/-- 一次式：括弧で囲んだ式か比較。 -/
inductive PrimaryLit : List Char → Condition → List Char → Prop
  | paren {s s₁ s₂ t : List Char} {a : Condition} : Gap s s₁ → ExprLit s₁ a s₂ → Gap s₂ (')' :: t) →
      PrimaryLit ('(' :: s) a t
  | comparison {s t : List Char} {a : Condition} : ComparisonLit s a t → PrimaryLit s a t

end

/-! ## 字面の先頭の文字 -/

theorem NumberLit.head {s t : List Char} {f : Float} (h : NumberLit s f t) :
    ∃ a r, s = a :: r ∧ (a = '-' ∨ a = '.' ∨ a.isDigit = true) := by
  cases h with
  | @mk sign ip frac t f hsign hip hfrac hd _ =>
    obtain ⟨d, hd, -⟩ := hd
    rcases hsign with rfl | rfl
    · cases ip with
      | cons a r => exact ⟨a, r ++ frac ++ t, by simp, .inr (.inr (hip a (by simp)))⟩
      | nil =>
        rcases hfrac with rfl | ⟨ds, rfl, -⟩
        · simp at hd
        · exact ⟨'.', ds ++ t, by simp, .inr (.inl rfl)⟩
    · exact ⟨'-', ip ++ frac ++ t, by simp, .inl rfl⟩

theorem ComparisonLit.head {s t : List Char} {c : Condition} (h : ComparisonLit s c t) :
    ∃ a r, s = a :: r ∧ isFieldStart a = true := by
  cases h with
  | bare hf | eq hf | ne hf | rel _ hf => obtain ⟨hc, -, -⟩ := hf; exact ⟨_, _, rfl, hc⟩

theorem PrimaryLit.head {s t : List Char} {c : Condition} (h : PrimaryLit s c t) :
    ∃ a r, s = a :: r ∧ (a = '(' ∨ isFieldStart a = true) := by
  cases h with
  | paren => exact ⟨'(', _, rfl, .inl rfl⟩
  | comparison hc =>
    obtain ⟨a, r, rfl, ha⟩ := hc.head
    exact ⟨a, r, rfl, .inr ha⟩

theorem UnaryLit.head {s t : List Char} {c : Condition} (h : UnaryLit s c t) :
    ∃ a r, s = a :: r ∧ (a = '!' ∨ a = '(' ∨ isFieldStart a = true) := by
  cases h with
  | not => exact ⟨'!', _, rfl, .inl rfl⟩
  | primary hp =>
    obtain ⟨a, r, rfl, ha⟩ := hp.head
    exact ⟨a, r, rfl, .inr ha⟩

theorem ConjLit.head {s t : List Char} {c : Condition} (h : ConjLit s c t) :
    ∃ a r, s = a :: r ∧ (a = '!' ∨ a = '(' ∨ isFieldStart a = true) := by
  cases h with
  | mk hu _ => exact hu.head

theorem ExprLit.head {s t : List Char} {c : Condition} (h : ExprLit s c t) :
    ∃ a r, s = a :: r ∧ (a = '!' ∨ a = '(' ∨ isFieldStart a = true) := by
  cases h with
  | mk hc _ => exact hc.head

/-- 式の字面は空白で始まらない。 -/
theorem head_not_blank {s : List Char}
    (h : ∃ a r, s = a :: r ∧ (a = '!' ∨ a = '(' ∨ isFieldStart a = true)) :
    ∀ a ∈ s.head?, isBlank a = false := by
  obtain ⟨a, r, rfl, ha⟩ := h
  intro b hb
  simp only [List.head?_cons, Option.mem_def, Option.some.injEq] at hb
  subst hb
  rcases ha with rfl | rfl | ha
  · exact isBlank_ascii (by decide)
  · exact isBlank_ascii (by decide)
  · exact (isFieldStart_facts ha).1

end Workflow.Condition
