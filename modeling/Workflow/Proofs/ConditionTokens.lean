import Mathlib
import Workflow.Proofs.ConditionGrammar

/-!
# 字句を読む関数と字句の文法

`Workflow.Proofs.ConditionGrammar` の字句の導出と、それを読む関数が一致することを示す。
どの関数についても二つの向きがある。

* **健全性**（`parseX_sound`）：読めたなら、入力の先頭の空白を落としたところから導出があり、
  返した残りがその導出の残りである。
* **完全性**（`parseX_complete`）：導出があり、その後ろに来る文字が字句を伸ばせないなら、
  関数はその字句を読んで導出の残りを返す。

後ろの文字についての条件は、取れるだけ取る字句（項目名と数）のためにある。式の中で字句の後ろに
来るのは空白、`)`、`||`、`&&` か入力の終わりなので（`EndsUnary`）、その条件は式の導出から出る。
-/

namespace Workflow.Condition

open Workflow.Text Workflow.Decimal

@[simp] theorem skip_val (cs : List Char) : (skip cs).val = cs.dropWhile isBlank := rfl

@[simp] theorem Rest.trans_val {cs : List Char} (r : Rest cs) (r' : Rest r.val) :
    (r.trans r').val = r'.val := rfl

/-! ## 取れるだけ取る -/

/-- 述語を満たす列の後ろに満たさない文字が来れば、`takeWhile` と `dropWhile` はそこで切る。 -/
theorem takeWhile_dropWhile_stop {p : Char → Bool} {l t : List Char} (hl : ∀ a ∈ l, p a = true)
    (ht : ∀ a ∈ t.head?, p a = false) : (l ++ t).takeWhile p = l ∧ (l ++ t).dropWhile p = t := by
  rw [List.takeWhile_append_of_pos hl, List.dropWhile_append_of_pos hl]
  cases t with
  | nil => simp
  | cons a r => simp [ht a rfl]

theorem head?_dropWhile_false (p : Char → Bool) (l : List Char) :
    ∀ a ∈ (l.dropWhile p).head?, p a = false := by
  intro a ha
  have h := List.head?_dropWhile_not p l
  rw [Option.mem_def.mp ha] at h
  exact h

/-! ## 項目名 -/

theorem parseField_sound {total : Nat} {cs : List Char} {name : String} {r : Rest cs}
    (h : parseField total cs = .ok (name, r)) : FieldLit cs name r.val := by
  unfold parseField at h
  split at h
  · next c rest =>
    split at h
    · next hc =>
      cases h
      have hf := FieldLit.mk hc (fun d (hd : d ∈ rest.takeWhile isFieldChar) => List.mem_takeWhile_imp hd)
        (head?_dropWhile_false isFieldChar rest)
      rwa [List.takeWhile_append_dropWhile] at hf
    · cases h
  · cases h

theorem parseField_complete (total : Nat) {s t : List Char} {name : String} (h : FieldLit s name t) :
    ∃ r, parseField total s = .ok (name, r) ∧ r.val = t := by
  cases h with
  | @mk c body t hc hbody ht =>
    obtain ⟨h1, h2⟩ := takeWhile_dropWhile_stop hbody ht
    refine ⟨⟨t, ?_⟩, ?_, rfl⟩
    · simp only [List.length_cons, List.length_append]; omega
    · simp only [parseField, hc, if_true, h1, h2]

/-! ## 数の字面 -/

/-- `numberSpan` の場合分け：符号を取り、整数部の数字を取り、`.` があれば小数部の数字を取る。 -/
theorem numberSpan_cases (cs : List Char) :
    ∃ sign r1 : List Char, ((sign = ['-'] ∧ cs = '-' :: r1) ∨ (sign = [] ∧ r1 = cs ∧ ∀ r, cs ≠ '-' :: r)) ∧
      ((∃ r, r1.dropWhile Char.isDigit = '.' :: r ∧
          (numberSpan cs).1 = sign ++ r1.takeWhile Char.isDigit ++ '.' :: r.takeWhile Char.isDigit ∧
          (numberSpan cs).2.val = r.dropWhile Char.isDigit) ∨
        ((∀ r, r1.dropWhile Char.isDigit ≠ '.' :: r) ∧
          (numberSpan cs).1 = sign ++ r1.takeWhile Char.isDigit ∧
          (numberSpan cs).2.val = r1.dropWhile Char.isDigit)) := by
  unfold numberSpan
  split
  next sign r1 heq =>
    refine ⟨sign, r1.val, ?_, ?_⟩
    · split at heq
      · next r => cases heq; exact .inl ⟨rfl, rfl⟩
      · next other hne => cases heq; exact .inr ⟨rfl, rfl, fun r h => hne r h⟩
    · dsimp only
      split
      · next r h => exact .inl ⟨r, h, rfl, rfl⟩
      · next h => exact .inr ⟨fun r h' => h r h', rfl, rfl⟩

/-- 数の字面の形：符号、整数部の数字、小数部。 -/
structure NumberShape (sign ip frac : List Char) : Prop where
  sign : sign = [] ∨ sign = ['-']
  int : ∀ d ∈ ip, d.isDigit = true
  frac : frac = [] ∨ ∃ ds, frac = '.' :: ds ∧ ∀ d ∈ ds, d.isDigit = true

/-- `numberSpan` が切り出すのは数の字面の形で、残りはその後ろである。 -/
theorem numberSpan_sound (cs : List Char) :
    ∃ sign ip frac, NumberShape sign ip frac ∧ (numberSpan cs).1 = sign ++ ip ++ frac ∧
      cs = sign ++ ip ++ frac ++ (numberSpan cs).2.val := by
  obtain ⟨sign, r1, hsign, hfrac⟩ := numberSpan_cases cs
  have hcs : cs = sign ++ r1 := by
    rcases hsign with ⟨rfl, rfl⟩ | ⟨rfl, rfl, -⟩ <;> rfl
  have hsign' : sign = [] ∨ sign = ['-'] := by
    rcases hsign with ⟨rfl, -⟩ | ⟨rfl, -⟩
    · exact .inr rfl
    · exact .inl rfl
  have hip : ∀ d ∈ r1.takeWhile Char.isDigit, d.isDigit = true := fun _ hd => List.mem_takeWhile_imp hd
  have hsplit := (List.takeWhile_append_dropWhile (p := Char.isDigit) (l := r1)).symm
  rcases hfrac with ⟨r, hr, h1, h2⟩ | ⟨-, h1, h2⟩
  · refine ⟨sign, _, '.' :: r.takeWhile Char.isDigit,
      ⟨hsign', hip, .inr ⟨_, rfl, fun _ hd => List.mem_takeWhile_imp hd⟩⟩, h1, ?_⟩
    have hr1 : r1 = r1.takeWhile Char.isDigit ++ '.' ::
        (r.takeWhile Char.isDigit ++ r.dropWhile Char.isDigit) := by
      rw [List.takeWhile_append_dropWhile, ← hr, List.takeWhile_append_dropWhile]
    rw [h2, hcs]
    conv_lhs => rw [hr1]
    simp
  · refine ⟨sign, _, [], ⟨hsign', hip, .inl rfl⟩, by simpa using h1, ?_⟩
    rw [h2, hcs, hsplit]
    simp

/-- 符号のない数の字面は数字か `.` で始まる。 -/
theorem NumberShape.unsigned_head {sign ip frac t : List Char} (h : NumberShape sign ip frac)
    (hd : ∃ d ∈ ip ++ frac, d.isDigit = true) :
    ∃ a r, ip ++ frac ++ t = a :: r ∧ (a = '.' ∨ a.isDigit = true) := by
  cases ip with
  | cons a r => exact ⟨a, r ++ frac ++ t, rfl, .inr (h.int a (by simp))⟩
  | nil =>
    rcases h.frac with rfl | ⟨ds, rfl, -⟩
    · simp at hd
    · exact ⟨'.', ds ++ t, rfl, .inl rfl⟩

/-- 数の字面の後ろに数字も `.` も来なければ、`numberSpan` はちょうどその字面を切り出す。 -/
theorem numberSpan_complete {sign ip frac t : List Char} (h : NumberShape sign ip frac)
    (hd : ∃ d ∈ ip ++ frac, d.isDigit = true) (ht : ∀ a ∈ t.head?, a.isDigit = false ∧ a ≠ '.') :
    (numberSpan (sign ++ ip ++ frac ++ t)).1 = sign ++ ip ++ frac ∧
      (numberSpan (sign ++ ip ++ frac ++ t)).2.val = t := by
  obtain ⟨sign', r1, hsign', hfrac'⟩ := numberSpan_cases (sign ++ ip ++ frac ++ t)
  obtain ⟨a, r, hu, ha⟩ := h.unsigned_head (t := t) hd
  have ha' : a ≠ '-' := by rintro rfl; rcases ha with h | h <;> revert h <;> decide
  -- 符号は字面の符号と同じで、その後ろが整数部から始まる
  have hr1 : sign' = sign ∧ r1 = ip ++ frac ++ t := by
    rcases h.sign with rfl | rfl <;> rcases hsign' with ⟨rfl, h1⟩ | ⟨rfl, rfl, hne⟩
    · simp only [List.nil_append] at h1; rw [hu] at h1; cases h1; exact absurd rfl ha'
    · simp
    · simp only [List.cons_append, List.nil_append, List.cons.injEq] at h1; exact ⟨rfl, by simp [h1.2]⟩
    · exact absurd (by simp) (hne (ip ++ frac ++ t))
  obtain ⟨rfl, rfl⟩ := hr1
  have hfracHead : ∀ a ∈ (frac ++ t).head?, a.isDigit = false := by
    rcases h.frac with rfl | ⟨ds, rfl, -⟩
    · exact fun a ha => (ht a (by simpa using ha)).1
    · intro a ha; simp only [List.cons_append, List.head?_cons, Option.mem_def, Option.some.injEq] at ha
      subst ha; decide
  obtain ⟨htake, hdrop⟩ := takeWhile_dropWhile_stop (l := ip) (t := frac ++ t) h.int hfracHead
  rw [List.append_assoc ip] at hfrac'
  rw [htake, hdrop] at hfrac'
  rcases hfrac' with ⟨r, hr, h1, h2⟩ | ⟨hr, h1, h2⟩
  · rcases h.frac with rfl | ⟨ds, rfl, hds⟩
    · rw [List.nil_append] at hr; subst hr; exact absurd rfl (ht '.' rfl).2
    · simp only [List.cons_append, List.cons.injEq, true_and] at hr
      subst hr
      obtain ⟨h3, h4⟩ := takeWhile_dropWhile_stop hds (fun a ha => (ht a ha).1)
      rw [h1, h2, h3, h4]
      exact ⟨rfl, rfl⟩
  · rcases h.frac with rfl | ⟨ds, rfl, -⟩
    · rw [h1, h2]; simp
    · exact absurd rfl (hr (ds ++ t))


/-- 数字のない字面（`""`・`"-"`・`"."`・`"-."`）は数として読めない。 -/
theorem NumberShape.has_digit {sign ip frac : List Char} {f : Float} (h : NumberShape sign ip frac)
    (hf : readFloat (String.ofList (sign ++ ip ++ frac)) = some f) : ∃ d ∈ ip ++ frac, d.isDigit = true := by
  by_contra hnd
  simp only [not_exists, not_and, Bool.not_eq_true, List.mem_append] at hnd
  have hip : ip = [] := by
    cases ip with
    | nil => rfl
    | cons a r => exact absurd (h.int a (by simp)) (by simp [hnd a (.inl (by simp))])
  have hfrac : frac = [] ∨ frac = ['.'] := by
    rcases h.frac with rfl | ⟨ds, rfl, hds⟩
    · exact .inl rfl
    · cases ds with
      | nil => exact .inr rfl
      | cons a r => exact absurd (hds a (by simp)) (by simp [hnd a (.inr (by simp))])
  subst hip
  rcases h.sign with rfl | rfl <;> rcases hfrac with rfl | rfl <;>
    simp [readFloat, readUnsignedFloat, lowerAsciiChars] at hf

/-- 数字と `.` は ASCII の大文字でないので、小文字にしても変わらない。 -/
theorem lowerAsciiChars_number {l : List Char} (h : ∀ c ∈ l, c = '.' ∨ c.isDigit = true) :
    lowerAsciiChars l = l := by
  unfold lowerAsciiChars
  conv_rhs => rw [← List.map_id l]
  refine List.map_congr_left fun c hc => ?_
  have hupper : ¬('A' ≤ c ∧ c ≤ 'Z') := by
    rcases h c hc with rfl | hd
    · decide
    · simp only [Char.isDigit, Bool.and_eq_true, decide_eq_true_eq, Char.le_def, UInt32.le_iff_toNat_le] at hd ⊢
      have h9 : ('9' : Char).val.toNat = 57 := rfl
      have hA : ('A' : Char).val.toNat = 65 := rfl
      omega
  simp [hupper]

/-- 数字を一つは含む数の字面は、double として読める。 -/
theorem readFloat_isSome {sign ip frac : List Char} (h : NumberShape sign ip frac)
    (hd : ∃ d ∈ ip ++ frac, d.isDigit = true) : ∃ f, readFloat (String.ofList (sign ++ ip ++ frac)) = some f := by
  have hchars : ∀ c ∈ ip ++ frac, c = '.' ∨ c.isDigit = true := by
    intro c hc
    rcases List.mem_append.mp hc with hc | hc
    · exact .inr (h.int c hc)
    · rcases h.frac with rfl | ⟨ds, rfl, hds⟩
      · cases hc
      · rcases List.mem_cons.mp hc with rfl | hc
        · exact .inl rfl
        · exact .inr (hds c hc)
  obtain ⟨a, r, hu, ha⟩ := h.unsigned_head (t := []) hd
  rw [List.append_nil] at hu
  -- 本体は `inf` でも `nan` でもなく、整数部と小数部だけで指数部がない
  have hbody : ∀ neg, ∃ f, readUnsignedFloat neg (ip ++ frac) = some f := by
    intro neg
    have hna : a ≠ 'i' ∧ a ≠ 'n' := by
      rcases ha with rfl | hd
      · decide
      · exact ⟨by rintro rfl; revert hd; decide, by rintro rfl; revert hd; decide⟩
    have hfracHead : ∀ c ∈ frac.head?, c.isDigit = false := by
      rcases h.frac with rfl | ⟨ds, rfl, -⟩
      · intro c hc; cases hc
      · intro c hc; cases hc; decide
    obtain ⟨htake, hdrop⟩ := takeWhile_dropWhile_stop h.int hfracHead
    have hinf : "inf".toList = ['i', 'n', 'f'] := rfl
    have hinfty : "infinity".toList = ['i', 'n', 'f', 'i', 'n', 'i', 't', 'y'] := rfl
    have hnan : "nan".toList = ['n', 'a', 'n'] := rfl
    have hwords : (ip ++ frac == "inf".toList || ip ++ frac == "infinity".toList) = false ∧
        (ip ++ frac == "nan".toList) = false := by
      rw [hu, hinf, hinfty, hnan]
      simp [hna.1, hna.2]
    unfold readUnsignedFloat
    dsimp only
    rw [lowerAsciiChars_number hchars, hwords.1, hwords.2]
    simp only [Bool.false_eq_true, if_false, htake, hdrop]
    rcases h.frac with rfl | ⟨ds, rfl, hds⟩
    · obtain ⟨d, hd, -⟩ := hd
      simp only [List.append_nil] at hd
      simp [List.ne_nil_of_mem hd]
    · have hne : ¬(ip = [] ∧ ds = []) := by
        rintro ⟨rfl, rfl⟩
        obtain ⟨d, hd, hdig⟩ := hd
        simp only [List.nil_append, List.mem_singleton] at hd
        subst hd
        revert hdig
        decide
      simp [List.takeWhile_eq_self_iff.mpr hds, List.dropWhile_eq_nil_iff.mpr hds, hne]
  rcases h.sign with rfl | rfl
  · -- 符号がなければ、先頭は数字か `.` で `+` でも `-` でもない
    have hsign : a ≠ '+' ∧ a ≠ '-' := by
      rcases ha with rfl | hd
      · decide
      · exact ⟨by rintro rfl; revert hd; decide, by rintro rfl; revert hd; decide⟩
    unfold readFloat
    rw [List.nil_append, String.toList_ofList, hu]
    split
    · next r' heq => exact absurd (List.cons.inj heq).1 hsign.1
    · next r' heq => exact absurd (List.cons.inj heq).1 hsign.2
    · rw [← hu]
      exact hbody false
  · simp only [readFloat, String.toList_ofList, List.cons_append, List.nil_append]
    exact hbody true

/-- 数の字面は空白で始まらない。 -/
theorem NumberLit.head_not_blank {s t : List Char} {f : Float} (h : NumberLit s f t) :
    ∀ a ∈ s.head?, isBlank a = false := by
  obtain ⟨a, r, rfl, ha⟩ := h.head
  intro b hb
  cases hb
  rcases ha with rfl | rfl | hd
  · exact isBlank_ascii (by decide)
  · exact isBlank_ascii (by decide)
  · exact isBlank_digit hd

theorem parseNumber_sound {cs : List Char} {f : Float} {r : Rest cs} (h : parseNumber cs = .ok (f, r)) :
    ∃ s₀, Gap cs s₀ ∧ NumberLit s₀ f r.val := by
  obtain ⟨sign, ip, frac, hshape, htxt, hcs⟩ := numberSpan_sound (skip cs).val
  unfold parseNumber at h
  dsimp only at h
  split at h
  · next f' hf =>
    cases h
    rw [htxt] at hf
    have hlit := NumberLit.mk (t := (numberSpan (skip cs).val).2.val) hshape.sign hshape.int hshape.frac
      (hshape.has_digit hf) hf
    rw [← hcs] at hlit
    exact ⟨_, gap_dropWhile cs, hlit⟩
  · cases h

/-- 数の字面の後ろに数字も `.` も来なければ、`parseNumber` はその数を読む。 -/
theorem parseNumber_complete {cs s t : List Char} {f : Float} (h : NumberLit s f t)
    (ht : ∀ a ∈ t.head?, a.isDigit = false ∧ a ≠ '.') (hs : cs.dropWhile isBlank = s) :
    ∃ r, parseNumber cs = .ok (f, r) ∧ r.val = t := by
  cases h with
  | @mk sign ip frac t f hsign hip hfrac hd hf =>
    obtain ⟨h1, h2⟩ := numberSpan_complete ⟨hsign, hip, hfrac⟩ hd ht
    rw [← hs] at h1 h2
    unfold parseNumber
    dsimp only
    have h1' : (numberSpan (skip cs).val).1 = sign ++ ip ++ frac := h1
    rw [h1', hf]
    exact ⟨_, rfl, h2⟩


/-! ## 引用符の文字列 -/

theorem stringBody_sound {q : Char} {acc cs : List Char} {str : String} {r : Rest cs}
    (h : stringBody q acc cs = .ok (str, r)) :
    ∃ body, QuotedLit q cs body r.val ∧ str = String.ofList (acc.reverse ++ body) := by
  fun_induction stringBody q acc cs generalizing str with
  | case1 | case4 | case5 | case7 => cases h
  | case2 acc rest =>
    cases h
    exact ⟨[], .close rest, by simp⟩
  | case3 acc e rest s' rest' hbody _ ih =>
    cases h
    obtain ⟨body, hq, rfl⟩ := ih hbody
    exact ⟨e :: body, .escape e hq, by simp⟩
  | case6 acc c rest hcq hcb s' rest' hbody ih =>
    cases h
    obtain ⟨body, hq, rfl⟩ := ih hbody
    exact ⟨c :: body, .plain hcq hcb hq, by simp⟩

/-- 引用符が `\` でなければ、文字列の字面は `stringBody` で読める。 -/
theorem stringBody_complete {q : Char} (hq : q ≠ '\\') {s body t : List Char} (h : QuotedLit q s body t)
    (acc : List Char) :
    ∃ r, stringBody q acc s = .ok (String.ofList (acc.reverse ++ body), r) ∧ r.val = t := by
  induction h generalizing acc with
  | close t => exact ⟨⟨t, by simp⟩, by rw [stringBody.eq_def]; simp, rfl⟩
  | @plain c s body t hcq hcb _ ih =>
    obtain ⟨r, hr, rfl⟩ := ih (c :: acc)
    refine ⟨⟨r.val, Nat.le_succ_of_le r.property⟩, ?_, rfl⟩
    rw [stringBody.eq_def]
    simp [hcq, hcb, hr]
  | @escape e s body t _ ih =>
    obtain ⟨r, hr, rfl⟩ := ih (e :: acc)
    refine ⟨⟨r.val, Nat.le_trans r.property (by simp; omega)⟩, ?_, rfl⟩
    rw [stringBody.eq_def]
    simp [Ne.symm hq, hr]


/-! ## 等しさの右辺 -/

/-- 区切りの文字が続けば、数の字面はそこで終わる。 -/
theorem IsDelimiter.number_stop {t : List Char} (ht : ∀ a ∈ t.head?, IsDelimiter a) :
    ∀ a ∈ t.head?, a.isDigit = false ∧ a ≠ '.' :=
  fun a ha => ⟨(ht a ha).facts.2.1, (ht a ha).facts.2.2⟩

theorem parseOperand_sound {cs : List Char} {o : Operand} {r : Rest cs} (h : parseOperand cs = .ok (o, r)) :
    ∃ s₀, Gap cs s₀ ∧ ValueLit s₀ o r.val := by
  have hgap : Gap cs (skip cs).val := gap_dropWhile cs
  -- 数として読む枝は、引用符でない文字で始まる場合と空の場合の二つある
  have hnumber : ∀ {f : Float} {rest : Rest (skip cs).val}, parseNumber (skip cs).val = .ok (f, rest) →
      isFiniteFloat f = true → ∃ s₀, Gap cs s₀ ∧ ValueLit s₀ (.number f) rest.val := by
    intro f rest hp hfin
    obtain ⟨s₀, hg, hlit⟩ := parseNumber_sound hp
    exact ⟨s₀, hgap.trans hg, .number hlit hfin⟩
  unfold parseOperand at h
  dsimp only at h
  split at h <;> rename_i heq <;> rw [heq] at hgap
  · cases h; exact ⟨_, hgap, .true _⟩
  · cases h; exact ⟨_, hgap, .false _⟩
  · cases h; exact ⟨_, hgap, .null _⟩
  · split at h
    · next hq =>
      split at h
      · next str rest hbody =>
        cases h
        obtain ⟨body, hquoted, rfl⟩ := stringBody_sound hbody
        refine ⟨_, hgap, ?_⟩
        rw [List.reverse_nil, List.nil_append]
        exact ValueLit.text hq hquoted
      · cases h
    · split at h
      · next f rest hp =>
        split at h
        · next hfin => cases h; exact hnumber hp hfin
        · cases h
      · cases h
  · split at h
    · next f rest hp =>
      split at h
      · next hfin => cases h; exact hnumber hp hfin
      · cases h
    · cases h

theorem parseOperand_complete {cs s t : List Char} {o : Operand} (h : ValueLit s o t)
    (ht : ∀ a ∈ t.head?, IsDelimiter a) (hs : cs.dropWhile isBlank = s) :
    ∃ r, parseOperand cs = .ok (o, r) ∧ r.val = t := by
  have hs' : (skip cs).val = s := hs
  unfold parseOperand
  dsimp only
  cases h with
  | true t | false t | null t =>
    split <;> rename_i heq <;> rw [hs'] at heq
    -- 字面の枝のほかは、先頭の文字か残りの形が合わない
    all_goals first
      | (simp only [List.cons.injEq, true_and] at heq; subst heq; exact ⟨_, rfl, rfl⟩)
      | (simp only [List.cons.injEq] at heq; obtain ⟨rfl, rfl⟩ := heq; simp_all)
      | simp_all
  | @text q s str t hq hquoted =>
    have hqb : q ≠ '\\' := by rcases hq with rfl | rfl <;> decide
    obtain ⟨r, hr, hrt⟩ := stringBody_complete hqb hquoted []
    split <;> rename_i heq <;> rw [hs'] at heq
    · simp only [List.cons.injEq] at heq; rcases hq with rfl | rfl <;> simp at heq
    · simp only [List.cons.injEq] at heq; rcases hq with rfl | rfl <;> simp at heq
    · simp only [List.cons.injEq] at heq; rcases hq with rfl | rfl <;> simp at heq
    · simp only [List.cons.injEq] at heq
      obtain ⟨rfl, rfl⟩ := heq
      rw [List.reverse_nil, List.nil_append] at hr
      rw [if_pos hq, hr]
      exact ⟨_, rfl, hrt⟩
    · cases heq
  | @number s t f hnum hfin =>
    obtain ⟨a, r, rfl, ha⟩ := hnum.head
    have hna : a ≠ 't' ∧ a ≠ 'f' ∧ a ≠ 'n' ∧ a ≠ '"' ∧ a ≠ '\'' := by
      rcases ha with rfl | rfl | hd
      · decide
      · decide
      · refine ⟨?_, ?_, ?_, ?_, ?_⟩ <;> (rintro rfl; revert hd; decide)
    obtain ⟨rest, hp, hrest⟩ := parseNumber_complete hnum (IsDelimiter.number_stop ht)
      (show ((skip cs).val).dropWhile isBlank = a :: r by rw [hs']; exact dropWhile_blank_of_head hnum.head_not_blank)
    split <;> rename_i heq <;> rw [hs'] at heq
    · simp only [List.cons.injEq] at heq; exact absurd heq.1 hna.1
    · simp only [List.cons.injEq] at heq; exact absurd heq.1 hna.2.1
    · simp only [List.cons.injEq] at heq; exact absurd heq.1 hna.2.2.1
    · simp only [List.cons.injEq] at heq
      obtain ⟨rfl, rfl⟩ := heq
      rw [if_neg (by rintro (h | h) <;> [exact hna.2.2.2.1 h; exact hna.2.2.2.2 h]), hp]
      refine ⟨(skip cs).trans rest, ?_, hrest⟩
      simp [hfin]
    · cases heq

/-! ## 演算子 -/

/-- 演算子の字面。 -/
def Op.symbol : Op → List Char
  | .eq => ['=', '=']
  | .ne => ['!', '=']
  | .rel r => r.symbol
  | .none => []

/-- `parseOp` は演算子の字面を切り取る。 -/
theorem parseOp_spec {cs : List Char} {op : Op} {r : Rest cs} (h : parseOp cs = (op, r)) :
    cs = op.symbol ++ r.val := by
  unfold parseOp at h
  split at h <;> cases h <;> rfl

/-- どの演算子を読むかが分かれば、残りもその字面の後ろに決まる。 -/
theorem parseOp_determined {cs x : List Char} {op : Op} (hcs : cs = op.symbol ++ x)
    (hfst : (parseOp cs).1 = op) {op' : Op} {r : Rest cs} (h : parseOp cs = (op', r)) :
    op' = op ∧ r.val = x := by
  have h1 : op' = op := by rw [h] at hfst; exact hfst
  subst h1
  exact ⟨rfl, List.append_cancel_left ((parseOp_spec h).symm.trans hcs)⟩

/-- 大小の演算子の後ろが `=` で始まらなければ、`parseOp` はその演算子を読む。`>` の後ろの `=` は
`>=` の一部になる。 -/
theorem parseOp_rel (rel : Relation) {x : List Char} (h : x.head? ≠ some '=') :
    (parseOp (rel.symbol ++ x)).1 = .rel rel := by
  cases x with
  | nil => cases rel <;> rfl
  | cons a r =>
    simp only [List.head?_cons, ne_eq, Option.some.injEq] at h
    cases rel <;> simp [Relation.symbol, parseOp, h]

/-! ## 字句の後ろ

式の中で否定の項の後ろに来るのは、空白を飛ばすと入力の終わりか `)`、`||`、`&&` である。 -/

/-- 式の後ろ：空白を飛ばすと終わりか `)`。 -/
def EndsExpr (t : List Char) : Prop :=
  ∀ d ∈ (t.dropWhile isBlank).head?, d = ')'

/-- 論理積の後ろ：式の後ろか `||`。 -/
def EndsConj (t : List Char) : Prop :=
  EndsExpr t ∨ ∃ r, t.dropWhile isBlank = '|' :: '|' :: r

/-- 否定の項の後ろ：論理積の後ろか `&&`。 -/
def EndsUnary (t : List Char) : Prop :=
  EndsConj t ∨ ∃ r, t.dropWhile isBlank = '&' :: '&' :: r

theorem EndsUnary.cases {t : List Char} (h : EndsUnary t) :
    t.dropWhile isBlank = [] ∨ (∃ r, t.dropWhile isBlank = ')' :: r) ∨
      (∃ r, t.dropWhile isBlank = '|' :: '|' :: r) ∨ ∃ r, t.dropWhile isBlank = '&' :: '&' :: r := by
  rcases h with (he | hor) | hand
  · unfold EndsExpr at he
    cases hd : t.dropWhile isBlank with
    | nil => exact .inl rfl
    | cons a r =>
      rw [hd] at he
      obtain rfl := he a rfl
      exact .inr (.inl ⟨r, rfl⟩)
  · exact .inr (.inr (.inl hor))
  · exact .inr (.inr (.inr hand))

/-- 否定の項の後ろの先頭は区切りの文字である。 -/
theorem EndsUnary.delimiter {t : List Char} (h : EndsUnary t) : ∀ a ∈ t.head?, IsDelimiter a := by
  intro a ha
  cases t with
  | nil => cases ha
  | cons b r =>
    cases ha
    cases hb : isBlank a with
    | true => exact .inl hb
    | false =>
      have hd : (a :: r).dropWhile isBlank = a :: r := dropWhile_blank_of_head (by simpa using hb)
      rcases h.cases with h | ⟨r', h⟩ | ⟨r', h⟩ | ⟨r', h⟩ <;> rw [hd] at h <;> cases h
      · exact .inr (.inl rfl)
      · exact .inr (.inr (.inl rfl))
      · exact .inr (.inr (.inr rfl))

/-- 否定の項の後ろに演算子はない。 -/
theorem EndsUnary.parseOp_none {t : List Char} (h : EndsUnary t) :
    (parseOp (t.dropWhile isBlank)).1 = .none := by
  rcases h.cases with h | ⟨r, h⟩ | ⟨r, h⟩ | ⟨r, h⟩ <;> rw [h] <;> simp [parseOp]

/-- 等しさの右辺は空白で始まらない。 -/
theorem head_not_blank_of_valueLit {s t : List Char} {o : Operand} (h : ValueLit s o t) :
    ∀ a ∈ s.head?, isBlank a = false := by
  cases h with
  | true | false | null => intro a ha; cases ha; exact isBlank_ascii (by decide)
  | text hq => intro a ha; cases ha; rcases hq with rfl | rfl <;> exact isBlank_ascii (by decide)
  | number hn => exact NumberLit.head_not_blank hn

theorem parseComparison_sound {total : Nat} {cs : List Char} {c : Condition} {r : Rest cs}
    (h : parseComparison total cs = .ok (c, r)) :
    ∃ s₀ t, Gap cs s₀ ∧ ComparisonLit s₀ c t ∧ Gap t r.val := by
  unfold parseComparison at h
  simp only [bind, Except.bind, pure, Except.pure] at h
  split at h
  · cases h
  · next p hfield =>
    obtain ⟨name, r1⟩ := p
    have hlit := parseField_sound hfield
    have hgap1 : Gap r1.val (r1.val.dropWhile isBlank) := gap_dropWhile _
    dsimp only at h
    split at h
    · next r3 hop =>
      have hsym : r1.val.dropWhile isBlank = ['=', '='] ++ r3.val := parseOp_spec hop
      split at h
      · cases h
      · next q hval =>
        obtain ⟨v, r4⟩ := q
        obtain ⟨s₃, hg, hv⟩ := parseOperand_sound hval
        cases h
        rw [hsym] at hgap1
        exact ⟨_, _, gap_dropWhile cs, .eq hlit hgap1 hg hv, Gap.refl _⟩
    · next r3 hop =>
      have hsym : r1.val.dropWhile isBlank = ['!', '='] ++ r3.val := parseOp_spec hop
      split at h
      · cases h
      · next q hval =>
        obtain ⟨v, r4⟩ := q
        obtain ⟨s₃, hg, hv⟩ := parseOperand_sound hval
        cases h
        rw [hsym] at hgap1
        exact ⟨_, _, gap_dropWhile cs, .ne hlit hgap1 hg hv, Gap.refl _⟩
    · next rel r3 hop =>
      have hsym : r1.val.dropWhile isBlank = rel.symbol ++ r3.val := parseOp_spec hop
      split at h
      · cases h
      · next q hval =>
        obtain ⟨n, r4⟩ := q
        obtain ⟨s₃, hg, hn⟩ := parseNumber_sound hval
        cases h
        rw [hsym] at hgap1
        exact ⟨_, _, gap_dropWhile cs, .rel rel hlit hgap1 hg hn, Gap.refl _⟩
    · -- 演算子がなければ項目名だけの条件で、残りは項目名の後の空白を飛ばしたところ
      have hc : c = bareField name ∧ r.val = r1.val.dropWhile isBlank := by
        unfold bareField
        split_ifs at h ⊢ <;> cases h <;> exact ⟨rfl, rfl⟩
      obtain ⟨rfl, hr⟩ := hc
      rw [← hr] at hgap1
      exact ⟨_, _, gap_dropWhile cs, .bare hlit, hgap1⟩

/-- 比較の字面の後ろが否定の項の後ろなら、`parseComparison` はその比較を読む。 -/
theorem parseComparison_complete (total : Nat) {cs s t : List Char} {c : Condition} (h : ComparisonLit s c t)
    (ht : EndsUnary t) (hs : cs.dropWhile isBlank = s) :
    ∃ r, parseComparison total cs = .ok (c, r) ∧ Gap t r.val := by
  have hs' : (skip cs).val = s := hs
  unfold parseComparison
  simp only [bind, Except.bind, pure, Except.pure]
  cases h with
  | @bare s t name hf =>
    obtain ⟨r1, hr1, hr1t⟩ := parseField_complete total (hs' ▸ hf)
    rw [hr1]
    dsimp only
    have hnone := ht.parseOp_none
    rw [← hr1t] at hnone
    split
    · next r3 heq => cases hnone.symm.trans (congrArg Prod.fst heq)
    · next r3 heq => cases hnone.symm.trans (congrArg Prod.fst heq)
    · next rel r3 heq => cases hnone.symm.trans (congrArg Prod.fst heq)
    · refine ⟨((skip cs).trans r1).trans (skip ((skip cs).trans r1).val), ?_, ?_⟩
      · unfold bareField
        split_ifs <;> rfl
      · show Gap t (r1.val.dropWhile isBlank)
        rw [hr1t]
        exact gap_dropWhile t
  | @eq s s₁ s₂ s₃ t name o hf hg1 hg2 hv =>
    obtain ⟨r1, hr1, hr1t⟩ := parseField_complete total (hs' ▸ hf)
    rw [hr1]
    dsimp only
    have hop : r1.val.dropWhile isBlank = Op.eq.symbol ++ s₂ := by
      rw [hr1t]
      exact hg1.dropWhile_of_head (fun a ha => by cases ha; exact isBlank_ascii (by decide))
    have hfst : (parseOp (r1.val.dropWhile isBlank)).1 = .eq := by rw [hop]; simp [parseOp, Op.symbol]
    split
    · next r3 heq =>
      obtain ⟨-, hr3⟩ := parseOp_determined hop hfst (r := r3) heq
      obtain ⟨r4, hr4, hr4t⟩ := parseOperand_complete hv ht.delimiter
        (show r3.val.dropWhile isBlank = s₃ by
          rw [hr3]; exact hg2.dropWhile_of_head (head_not_blank_of_valueLit hv))
      rw [hr4]
      refine ⟨_, rfl, ?_⟩
      show Gap t r4.val
      rw [hr4t]
      exact Gap.refl t
    · next r3 heq => cases (parseOp_determined hop hfst (r := r3) heq).1
    · next rel r3 heq => cases (parseOp_determined hop hfst (r := r3) heq).1
    · next r3 heq => cases (parseOp_determined hop hfst (r := r3) heq).1
  | @ne s s₁ s₂ s₃ t name o hf hg1 hg2 hv =>
    obtain ⟨r1, hr1, hr1t⟩ := parseField_complete total (hs' ▸ hf)
    rw [hr1]
    dsimp only
    have hop : r1.val.dropWhile isBlank = Op.ne.symbol ++ s₂ := by
      rw [hr1t]
      exact hg1.dropWhile_of_head (fun a ha => by cases ha; exact isBlank_ascii (by decide))
    have hfst : (parseOp (r1.val.dropWhile isBlank)).1 = .ne := by rw [hop]; simp [parseOp, Op.symbol]
    split
    · next r3 heq => cases (parseOp_determined hop hfst (r := r3) heq).1
    · next r3 heq =>
      obtain ⟨-, hr3⟩ := parseOp_determined hop hfst (r := r3) heq
      obtain ⟨r4, hr4, hr4t⟩ := parseOperand_complete hv ht.delimiter
        (show r3.val.dropWhile isBlank = s₃ by
          rw [hr3]; exact hg2.dropWhile_of_head (head_not_blank_of_valueLit hv))
      rw [hr4]
      refine ⟨_, rfl, ?_⟩
      show Gap t r4.val
      rw [hr4t]
      exact Gap.refl t
    · next rel r3 heq => cases (parseOp_determined hop hfst (r := r3) heq).1
    · next r3 heq => cases (parseOp_determined hop hfst (r := r3) heq).1
  | @rel rel s s₁ s₂ s₃ t name n hf hg1 hg2 hn =>
    obtain ⟨r1, hr1, hr1t⟩ := parseField_complete total (hs' ▸ hf)
    rw [hr1]
    dsimp only
    -- `>` の後ろが `=` なら、その `=` から数を読むことになるが、数は `=` で始まらない
    have hs₂ : s₂.head? ≠ some '=' := by
      intro h2
      cases s₂ with
      | nil => cases h2
      | cons a r =>
        simp only [List.head?_cons, Option.some.injEq] at h2
        subst h2
        obtain rfl := hg2.eq_of_head (fun b hb => by cases hb; exact isBlank_ascii (by decide))
        obtain ⟨b, r', hb, hh⟩ := hn.head
        simp only [List.cons.injEq] at hb
        obtain ⟨rfl, -⟩ := hb
        rcases hh with h | h | h <;> revert h <;> decide
    have hop : r1.val.dropWhile isBlank = (Op.rel rel).symbol ++ s₂ := by
      rw [hr1t]
      refine hg1.dropWhile_of_head (fun a ha => ?_)
      cases rel <;> cases ha <;> exact isBlank_ascii (by decide)
    have hfst : (parseOp (r1.val.dropWhile isBlank)).1 = .rel rel := by rw [hop]; exact parseOp_rel rel hs₂
    split
    · next r3 heq => cases (parseOp_determined hop hfst (r := r3) heq).1
    · next r3 heq => cases (parseOp_determined hop hfst (r := r3) heq).1
    · next rel' r3 heq =>
      obtain ⟨hrel, hr3⟩ := parseOp_determined hop hfst (r := r3) heq
      cases hrel
      obtain ⟨r4, hr4, hr4t⟩ := parseNumber_complete hn (IsDelimiter.number_stop ht.delimiter)
        (show r3.val.dropWhile isBlank = s₃ by rw [hr3]; exact hg2.dropWhile_of_head hn.head_not_blank)
      rw [hr4]
      refine ⟨_, rfl, ?_⟩
      show Gap t r4.val
      rw [hr4t]
      exact Gap.refl t
    · next r3 heq => cases (parseOp_determined hop hfst (r := r3) heq).1

end Workflow.Condition
