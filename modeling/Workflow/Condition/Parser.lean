import Workflow.Condition.Syntax
import Workflow.Text.Blank
import Workflow.Text.Letter
import Workflow.Decimal.Text
import Workflow.Error

/-!
# 条件式を読む

文法（前後の空白を落とした入力について。字句の間には空白を置ける）：

```
expr       := conj ('||' conj)*
conj       := unary ('&&' unary)*
unary      := '!' unary        -- '!=' の '!' は否定ではない
            | primary
primary    := '(' expr ')' | comparison
comparison := field [ ('==' | '!=') value | ('>=' | '<=' | '>' | '<') number ]
field      := (英字 | '_' | '$') (英数字 | '_' | '.' | '$' | '-')*   -- 最長一致、末尾の '.' は落とす
value      := 'true' | 'false' | 'null' | 引用符の文字列 | number
number     := ['-'] 数字* ['.' 数字*]
```

`true`・`false`・`null` は接頭辞として一致すればよい（`truex` は `true` と `x` に分かれる）。
文字列は `"` か `'` で囲み、`\` の次の 1 文字はそのまま入る。比較のない項目名が
`true` か `false` なら定数になる。数は 10 進の浮動小数点として読み、等しさの右辺では
有限でなければ誤りとする。

誤りの位置は、前後の空白を落とした入力の先頭からのバイト数で示す。

## 停止性

どの関数も残りの入力 `Rest cs`（元より長くない接尾部）を返す。再帰は
（残りの長さ, 段）の辞書式順序で減る。同じ長さのまま呼ぶのは段の低い関数だけで、
`expr`(5) → `conj`(3) → `unary`(1) → `primary`(0) と下がる。`primary` から `expr` へ、
`unary` から `unary` へ戻るのは `(` か `!` を読んだ後で、ループ `orTail`(4) と
`andTail`(2) が次に進むのは `||` か `&&` を読んだ後である。
-/

namespace Workflow.Condition

open Workflow.Text

/-- 読めなかった理由。 -/
inductive Reason where
  | emptyExpression
  | expectedCloseParen
  | unterminatedString
  | invalidNumberText (text : String)
  | invalidNumberValue (f : Float)
  | expectedItemName (offset : Nat)
  | unexpectedInput (offset : Nat)

/-- 理由の文。 -/
def Reason.text : Reason → String
  | .emptyExpression => "empty expression"
  | .expectedCloseParen => "expected ')'"
  | .unterminatedString => "unterminated string"
  | .invalidNumberText t => "invalid number: '" ++ t ++ "'"
  | .invalidNumberValue f => "invalid number: " ++ Decimal.Float.plainText f
  | .expectedItemName n => "expected item name at offset " ++ toString n
  | .unexpectedInput n => "unexpected input at offset " ++ toString n

/-- 文字列の UTF-8 でのバイト数。 -/
def byteLength (cs : List Char) : Nat :=
  cs.foldr (fun c n => c.utf8Size + n) 0

/-- 残りの入力：`cs` より長くない文字の列。 -/
abbrev Rest (cs : List Char) := { r : List Char // r.length ≤ cs.length }

/-- 読み取りの結果。 -/
abbrev Parse (α : Type) (cs : List Char) := Except Reason (α × Rest cs)

theorem length_dropWhile_le (p : Char → Bool) (l : List Char) : (l.dropWhile p).length ≤ l.length := by
  induction l with
  | nil => simp
  | cons c r ih =>
    simp only [List.dropWhile]
    split
    · simp only [List.length_cons]; omega
    · exact Nat.le_refl _

/-- 空白を飛ばした残り。 -/
def skip (cs : List Char) : Rest cs :=
  ⟨cs.dropWhile isBlank, length_dropWhile_le _ _⟩

theorem skip_length_le (cs : List Char) : (skip cs).val.length ≤ cs.length :=
  (skip cs).property

/-- 残りの残りは元の残り。 -/
def Rest.trans {cs : List Char} (r : Rest cs) (r' : Rest r.val) : Rest cs :=
  ⟨r'.val, Nat.le_trans r'.property r.property⟩

/-- 項目名の 2 文字目以降に使える文字か。 -/
def isFieldChar (c : Char) : Bool :=
  isAlphanumeric c || c = '_' || c = '.' || c = '$' || c = '-'

/-- 項目名の先頭に使える文字か。 -/
def isFieldStart (c : Char) : Bool :=
  isAlphabetic c || c = '_' || c = '$'

/-- 末尾の `.` を落とす。 -/
def dropTrailingDots (cs : List Char) : List Char :=
  (cs.reverse.dropWhile (· = '.')).reverse

/-- 項目名を読む。`total` は入力全体のバイト数。 -/
def parseField (total : Nat) (cs : List Char) : Parse String cs :=
  match cs with
  | c :: r =>
    if isFieldStart c then
      let body := r.takeWhile isFieldChar
      .ok (String.ofList (dropTrailingDots (c :: body)),
        ⟨r.dropWhile isFieldChar, Nat.le_succ_of_le (length_dropWhile_le isFieldChar r)⟩)
    else .error (.expectedItemName (total - byteLength cs))
  | [] => .error (.expectedItemName total)

/-- 数の字面：`['-'] 数字* ['.' 数字*]`。 -/
def numberSpan (cs : List Char) : List Char × Rest cs :=
  let (sign, r1) : List Char × Rest cs := match cs with
    | '-' :: r => (['-'], ⟨r, by simp⟩)
    | other => ([], ⟨other, Nat.le_refl _⟩)
  let ip := r1.val.takeWhile Char.isDigit
  let r2 : Rest cs := r1.trans ⟨r1.val.dropWhile Char.isDigit, length_dropWhile_le _ _⟩
  match h : r2.val with
  | '.' :: r =>
    let fp := r.takeWhile Char.isDigit
    (sign ++ ip ++ '.' :: fp,
      ⟨r.dropWhile Char.isDigit, by
        have h1 := length_dropWhile_le Char.isDigit r
        have h2 := r2.property
        rw [h] at h2
        simp only [List.length_cons] at h2
        omega⟩)
  | _ => (sign ++ ip, r2)

/-- 数を読む。先に空白を飛ばす。 -/
def parseNumber (cs : List Char) : Parse Float cs :=
  let s := skip cs
  let (txt, r) := numberSpan s.val
  match Decimal.readFloat (String.ofList txt) with
  | some f => .ok (f, s.trans r)
  | none => .error (.invalidNumberText (String.ofList txt))

/-- 引用符の文字列の中身を読む。`q` は閉じる引用符。 -/
def stringBody (q : Char) (acc : List Char) : (cs : List Char) → Parse String cs
  | [] => .error .unterminatedString
  | c :: r =>
    if c = q then .ok (String.ofList acc.reverse, ⟨r, by simp⟩)
    else if c = '\\' then
      match r with
      | e :: r' =>
        match stringBody q (e :: acc) r' with
        | .ok (s, rest) => .ok (s, ⟨rest.val, by have := rest.property; simp; omega⟩)
        | .error e => .error e
      | [] => .error .unterminatedString
    else
      match stringBody q (c :: acc) r with
      | .ok (s, rest) => .ok (s, ⟨rest.val, by have := rest.property; simp; omega⟩)
      | .error e => .error e

/-- 等しさの右辺を読む。先に空白を飛ばす。 -/
def parseOperand (cs : List Char) : Parse Operand cs :=
  let s := skip cs
  match h : s.val with
  | 't' :: 'r' :: 'u' :: 'e' :: r =>
    .ok (.bool true, s.trans ⟨r, by rw [h]; simp; omega⟩)
  | 'f' :: 'a' :: 'l' :: 's' :: 'e' :: r =>
    .ok (.bool false, s.trans ⟨r, by rw [h]; simp; omega⟩)
  | 'n' :: 'u' :: 'l' :: 'l' :: r =>
    .ok (.null, s.trans ⟨r, by rw [h]; simp; omega⟩)
  | q :: r =>
    if q = '"' ∨ q = '\'' then
      match stringBody q [] r with
      | .ok (str, rest) => .ok (.text str, s.trans ⟨rest.val, by rw [h]; have := rest.property; simp; omega⟩)
      | .error e => .error e
    else
      match parseNumber s.val with
      | .ok (f, rest) =>
        if Decimal.isFiniteFloat f then .ok (.number f, s.trans rest)
        else .error (.invalidNumberValue f)
      | .error e => .error e
  | [] =>
    match parseNumber s.val with
    | .ok (f, rest) =>
      if Decimal.isFiniteFloat f then .ok (.number f, s.trans rest)
      else .error (.invalidNumberValue f)
    | .error e => .error e

/-- 比較の演算子と、その後ろ。 -/
inductive Op where
  | eq | ne | rel (r : Relation) | none

/-- 演算子を読む。 -/
def parseOp (cs : List Char) : Op × Rest cs :=
  match cs with
  | '=' :: '=' :: r => (.eq, ⟨r, by simp only [List.length_cons]; omega⟩)
  | '!' :: '=' :: r => (.ne, ⟨r, by simp only [List.length_cons]; omega⟩)
  | '>' :: '=' :: r => (.rel .ge, ⟨r, by simp only [List.length_cons]; omega⟩)
  | '<' :: '=' :: r => (.rel .le, ⟨r, by simp only [List.length_cons]; omega⟩)
  | '>' :: r => (.rel .gt, ⟨r, by simp only [List.length_cons]; omega⟩)
  | '<' :: r => (.rel .lt, ⟨r, by simp only [List.length_cons]; omega⟩)
  | other => (.none, ⟨other, Nat.le_refl _⟩)

/-- 比較（または項目名だけ）を読む。 -/
def parseComparison (total : Nat) (cs : List Char) : Parse Condition cs := do
  let s := skip cs
  let (field, r1) ← parseField total s.val
  let r1 := s.trans r1
  let r2 := r1.trans (skip r1.val)
  match parseOp r2.val with
  | (.eq, r3) =>
    let (v, r4) ← parseOperand r3.val
    pure (.eq field v, (r2.trans r3).trans r4)
  | (.ne, r3) =>
    let (v, r4) ← parseOperand r3.val
    pure (.ne field v, (r2.trans r3).trans r4)
  | (.rel rel, r3) =>
    let (n, r4) ← parseNumber r3.val
    pure (.compare rel field n, (r2.trans r3).trans r4)
  | (.none, _) =>
    if field = "true" then pure (.const true, r2)
    else if field = "false" then pure (.const false, r2)
    else pure (.truthy field, r2)

mutual

/-- 論理和の列を読む。 -/
def parseExpr (total : Nat) (cs : List Char) : Parse Condition cs :=
  match parseConj total cs with
  | .error e => .error e
  | .ok (left, r) =>
    match orTail total left r.val with
    | .error e => .error e
    | .ok (c, r') => .ok (c, r.trans r')
termination_by (cs.length, 5)
decreasing_by
  · exact Prod.Lex.right _ (by omega)
  · exact Prod.Lex.right' _ r.property (by omega)

/-- `|| conj` の繰り返し。 -/
def orTail (total : Nat) (left : Condition) (cs : List Char) : Parse Condition cs :=
  match h : cs.dropWhile isBlank with
  | '|' :: '|' :: r =>
    match parseConj total (r.dropWhile isBlank) with
    | .error e => .error e
    | .ok (right, r1) =>
      match orTail total (.or left right) r1.val with
      | .error e => .error e
      | .ok (c, r2) =>
        .ok (c, ⟨r2.val, by
          have a := r2.property; have b := r1.property
          have c' := length_dropWhile_le isBlank r
          have d := length_dropWhile_le isBlank cs; rw [h] at d
          simp only [List.length_cons] at d; omega⟩)
  | other => .ok (left, ⟨other, by rw [← h]; exact length_dropWhile_le _ _⟩)
termination_by (cs.length, 4)
decreasing_by
  all_goals
    have c' := length_dropWhile_le isBlank r
    have d := length_dropWhile_le isBlank cs
    rw [h] at d
    simp only [List.length_cons] at d
  · exact Prod.Lex.left _ _ (by omega)
  · have := r1.property
    exact Prod.Lex.left _ _ (by omega)

/-- 論理積の列を読む。 -/
def parseConj (total : Nat) (cs : List Char) : Parse Condition cs :=
  match parseUnary total cs with
  | .error e => .error e
  | .ok (left, r) =>
    match andTail total left r.val with
    | .error e => .error e
    | .ok (c, r') => .ok (c, r.trans r')
termination_by (cs.length, 3)
decreasing_by
  · exact Prod.Lex.right _ (by omega)
  · exact Prod.Lex.right' _ r.property (by omega)

/-- `&& unary` の繰り返し。 -/
def andTail (total : Nat) (left : Condition) (cs : List Char) : Parse Condition cs :=
  match h : cs.dropWhile isBlank with
  | '&' :: '&' :: r =>
    match parseUnary total (r.dropWhile isBlank) with
    | .error e => .error e
    | .ok (right, r1) =>
      match andTail total (.and left right) r1.val with
      | .error e => .error e
      | .ok (c, r2) =>
        .ok (c, ⟨r2.val, by
          have a := r2.property; have b := r1.property
          have c' := length_dropWhile_le isBlank r
          have d := length_dropWhile_le isBlank cs; rw [h] at d
          simp only [List.length_cons] at d; omega⟩)
  | other => .ok (left, ⟨other, by rw [← h]; exact length_dropWhile_le _ _⟩)
termination_by (cs.length, 2)
decreasing_by
  all_goals
    have c' := length_dropWhile_le isBlank r
    have d := length_dropWhile_le isBlank cs
    rw [h] at d
    simp only [List.length_cons] at d
  · exact Prod.Lex.left _ _ (by omega)
  · have := r1.property
    exact Prod.Lex.left _ _ (by omega)

/-- 否定か、その下の式を読む。 -/
def parseUnary (total : Nat) (cs : List Char) : Parse Condition cs :=
  match h : cs.dropWhile isBlank with
  | '!' :: '=' :: r =>
    parsePrimaryAt total cs ⟨'!' :: '=' :: r, by rw [← h]; exact length_dropWhile_le _ _⟩
  | '!' :: r =>
    match parseUnary total (r.dropWhile isBlank) with
    | .error e => .error e
    | .ok (inner, r1) =>
      .ok (.not inner, ⟨r1.val, by
        have a := r1.property
        have c' := length_dropWhile_le isBlank r
        have d := length_dropWhile_le isBlank cs; rw [h] at d
        simp only [List.length_cons] at d; omega⟩)
  | other => parsePrimaryAt total cs ⟨other, by rw [← h]; exact length_dropWhile_le _ _⟩
termination_by (cs.length, 1)
decreasing_by
  · exact Prod.Lex.right _ (by omega)
  · have c' := length_dropWhile_le isBlank r
    have d := length_dropWhile_le isBlank cs
    rw [h] at d
    simp only [List.length_cons] at d
    exact Prod.Lex.left _ _ (by omega)
  · exact Prod.Lex.right _ (by omega)

/-- 空白を飛ばした位置 `s` から、括弧か比較を読む。 -/
def parsePrimaryAt (total : Nat) (cs : List Char) (s : Rest cs) : Parse Condition cs :=
  match h : s.val with
  | '(' :: r =>
    match parseExpr total r with
    | .error e => .error e
    | .ok (inner, r1) =>
      match h2 : r1.val.dropWhile isBlank with
      | ')' :: r3 =>
        .ok (inner, ⟨r3, by
          have a := length_dropWhile_le isBlank r1.val; rw [h2] at a
          have hs' := s.property; rw [h] at hs'
          simp only [List.length_cons] at a hs'
          have b := r1.property; omega⟩)
      | _ => .error .expectedCloseParen
  | other =>
    match parseComparison total other with
    | .error e => .error e
    | .ok (c, r) => .ok (c, ⟨r.val, Nat.le_trans r.property (h ▸ s.property)⟩)
termination_by (cs.length, 0)
decreasing_by
  have hs' := s.property
  rw [h] at hs'
  simp only [List.length_cons] at hs'
  exact Prod.Lex.left _ _ (by omega)

end

/-- 条件式を読む。誤りは、空の入力と残りのある入力では元の文字列を、ほかは前後の空白を
落とした文字列を引いて示す。 -/
def parse (src : String) : Except Error Condition :=
  let trimmed := trimList src.toList
  let total := byteLength trimmed
  let quoteTrimmed := String.ofList trimmed
  if trimmed.isEmpty then .error (.invalidExpression src Reason.emptyExpression.text)
  else
    match parseExpr total trimmed with
    | .error r => .error (.invalidExpression quoteTrimmed r.text)
    | .ok (c, rest) =>
      let r := skip rest.val
      if r.val.isEmpty then .ok c
      else .error (.invalidExpression src (Reason.unexpectedInput (total - byteLength r.val)).text)

end Workflow.Condition
