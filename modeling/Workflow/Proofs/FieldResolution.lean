import Mathlib
import Workflow.Condition.Eval

/-!
# 項目の値の引き方

条件式は項目の値を `fieldValue` で引く。ここではその答えを、実行の手順から離れた関係
`FieldResolves` で書き、二つが一致することを示す。

1. 名前そのものが項目なら、その最初の値の JSON。
2. そうでなければ、`.` で区切った空でない接頭辞のうち、項目であって最も長いもの
   （`LongestItemPrefix`）を選ぶ。その最初の値から、残りの区切りを写像のキーとしてたどる。
   たどれなければ `null` で、短い接頭辞には戻らない。
3. どの接頭辞も項目でなければ `null`。

キーのたどり方は `Value.field?` を `Option` の中で畳み込んだもの（`walkKeys_eq_foldlM`）で、
キーは文字列として等しいかで比べる。項目名のほうは `Document.first?` が正規化して引く。

実行側の探しは長い接頭辞から一つずつ見ていく再帰なので、一歩の補題
（`prefixLookup_succ_of_some`、`prefixLookup_succ_of_none`）を先に立て、上限についての
帰納法で最も長い接頭辞の答えに結びつける。

最後に、条件式の値が、読む項目の `fieldValue` だけで決まることを示す。
-/

namespace Workflow.Condition

open Workflow.Json

/-- 区切りの列 `parts` の最初の `k` 個を `.` でつないだ項目名。 -/
def segmentPrefix (parts : List String) (k : Nat) : String :=
  ".".intercalate (parts.take k)

/-- `k` 個の区切りからなる接頭辞が、区切りが `n` 個未満の空でない接頭辞のうち項目であるもので
最も長く、その最初の値が `x` である。 -/
structure LongestItemPrefix (d : Document) (parts : List String) (n k : Nat) (x : ItemValue) :
    Prop where
  pos : 0 < k
  lt : k < n
  first : d.first? (segmentPrefix parts k) = some x
  longer : ∀ j, k < j → j < n → d.first? (segmentPrefix parts j) = none

/-- 区切りが `n` 個未満の空でない接頭辞は、どれも項目でない。 -/
def NoItemPrefix (d : Document) (parts : List String) (n : Nat) : Prop :=
  ∀ j, 0 < j → j < n → d.first? (segmentPrefix parts j) = none

/-- 項目名 `f` の値の仕様。 -/
inductive FieldResolves (d : Document) (f : String) : Value → Prop where
  /-- 名前そのものが項目なら、その最初の値。 -/
  | whole {x : ItemValue} : d.first? f = some x → FieldResolves d f x.toJson
  /-- 項目である最も長い接頭辞の最初の値から、残りの区切りをキーとしてたどる。 -/
  | longest {k : Nat} {x : ItemValue} : d.first? f = none →
      LongestItemPrefix d (f.splitOn ".") (f.splitOn ".").length k x →
      FieldResolves d f ((((f.splitOn ".").drop k).foldlM Value.field? x.toJson).getD .null)
  /-- どの接頭辞も項目でなければ `null`。 -/
  | missing : d.first? f = none → NoItemPrefix d (f.splitOn ".") (f.splitOn ".").length →
      FieldResolves d f .null

/-! ## キーをたどる -/

theorem walkKeys_null (ks : List String) : walkKeys .null ks = .null := by
  cases ks <;> rfl

/-- キーをたどるのは `Value.field?` を `Option` の中で畳み込むことであり、途中でキーがないか
写像でない値に当たれば `null` になる。 -/
theorem walkKeys_eq_foldlM (v : Value) (ks : List String) :
    walkKeys v ks = (ks.foldlM Value.field? v).getD .null := by
  induction ks generalizing v with
  | nil => rfl
  | cons k ks ih =>
    cases v
    case object fs =>
      cases h : Value.lookup k fs with
      | none => simp [walkKeys, Value.field?, h, walkKeys_null]
      | some w => simp [walkKeys, Value.field?, h, ih]
    all_goals rfl

/-- 写像のキーは大文字小文字を区別する。 -/
example : walkKeys (.object [("Paid", .bool true)]) ["paid"] = .null := by
  rfl

/-- 写像でない値に当たれば、残りのキーがあるかぎり `null` である。 -/
example : walkKeys (.object [("paid", .number (.nat 5))]) ["paid", "deep"] = .null := by
  rfl

/-! ## 長い接頭辞からの探し -/

section Prefix

variable {d : Document} {parts : List String} {n k : Nat} {x : ItemValue}

/-- 探しの一歩：`n` 個の区切りの接頭辞が項目なら、そこで決まる。 -/
theorem prefixLookup_succ_of_some (hn : n ≠ 0) (h : d.first? (segmentPrefix parts n) = some x) :
    prefixLookup d parts (n + 1) = walkKeys x.toJson (parts.drop n) := by
  unfold segmentPrefix at h
  rw [prefixLookup.eq_2, if_neg hn, h]

/-- 探しの一歩：`n` 個の区切りの接頭辞が項目でなければ、一つ短い接頭辞へ進む。 -/
theorem prefixLookup_succ_of_none (h : d.first? (segmentPrefix parts n) = none) :
    prefixLookup d parts (n + 1) = prefixLookup d parts n := by
  rcases Nat.eq_zero_or_pos n with rfl | hn
  · rfl
  · unfold segmentPrefix at h
    rw [prefixLookup.eq_2, if_neg (Nat.pos_iff_ne_zero.mp hn), h]

theorem LongestItemPrefix.succ (h : LongestItemPrefix d parts n k x)
    (hn : d.first? (segmentPrefix parts n) = none) : LongestItemPrefix d parts (n + 1) k x where
  pos := h.pos
  lt := Nat.lt_succ_of_lt h.lt
  first := h.first
  longer j hkj hj := by
    rcases Nat.lt_succ_iff_lt_or_eq.mp hj with hj | rfl
    · exact h.longer j hkj hj
    · exact hn

theorem LongestItemPrefix.of_succ (h : LongestItemPrefix d parts (n + 1) k x) (hk : k ≠ n) :
    LongestItemPrefix d parts n k x where
  pos := h.pos
  lt := by have := h.lt; omega
  first := h.first
  longer j hkj hj := h.longer j hkj (Nat.lt_succ_of_lt hj)

theorem NoItemPrefix.succ (h : NoItemPrefix d parts n)
    (hn : d.first? (segmentPrefix parts n) = none) : NoItemPrefix d parts (n + 1) := by
  intro j hj hjn
  rcases Nat.lt_succ_iff_lt_or_eq.mp hjn with hjn | rfl
  · exact h j hj hjn
  · exact hn

/-- 上限より短い接頭辞には、項目であって最も長いものがあるか、項目が一つもないかである。 -/
theorem longestItemPrefix_or_none (d : Document) (parts : List String) :
    ∀ n, (∃ k x, LongestItemPrefix d parts n k x) ∨ NoItemPrefix d parts n
  | 0 => .inr fun j _ hj => absurd hj (Nat.not_lt_zero j)
  | n + 1 => by
    cases hx : d.first? (segmentPrefix parts n) with
    | some x =>
      rcases Nat.eq_zero_or_pos n with rfl | hn
      · exact .inr fun j hj hj1 => absurd hj1 (by omega)
      · exact .inl ⟨n, x, hn, Nat.lt_succ_self n, hx, fun j hj hj1 => absurd hj1 (by omega)⟩
    | none =>
      rcases longestItemPrefix_or_none d parts n with ⟨k, x, h⟩ | h
      · exact .inl ⟨k, x, h.succ hx⟩
      · exact .inr (h.succ hx)

/-- 探しは、項目である最も長い接頭辞で止まる。帰納法は上限 `n` についてで、上限が `k` の一つ上に
下りてくるまで、見る接頭辞は `longer` によってどれも項目でない。 -/
theorem prefixLookup_of_longest : ∀ {n}, LongestItemPrefix d parts n k x →
    prefixLookup d parts n = walkKeys x.toJson (parts.drop k)
  | 0, h => absurd h.lt (Nat.not_lt_zero k)
  | n + 1, h => by
    by_cases hk : k = n
    · subst hk
      exact prefixLookup_succ_of_some (Nat.pos_iff_ne_zero.mp h.pos) h.first
    · have hkn : k < n := by have := h.lt; omega
      rw [prefixLookup_succ_of_none (h.longer n hkn (Nat.lt_succ_self n))]
      exact prefixLookup_of_longest (h.of_succ hk)

/-- どの接頭辞も項目でなければ、探しは `null` で終わる。 -/
theorem prefixLookup_of_noItemPrefix : ∀ {n}, NoItemPrefix d parts n →
    prefixLookup d parts n = .null
  | 0, _ => rfl
  | n + 1, h => by
    rcases Nat.eq_zero_or_pos n with rfl | hn
    · rfl
    · rw [prefixLookup_succ_of_none (h n hn (Nat.lt_succ_self n))]
      exact prefixLookup_of_noItemPrefix fun j hj hjn => h j hj (Nat.lt_succ_of_lt hjn)

end Prefix

/-! ## 実行と仕様 -/

section Resolution

variable {d : Document} {f : String} {v : Value}

/-- 仕様の答えは `fieldValue` の答えである。 -/
theorem FieldResolves.fieldValue_eq (h : FieldResolves d f v) : fieldValue d f = v := by
  cases h with
  | whole hx => simp only [fieldValue, hx]
  | longest hf hk =>
    simp only [fieldValue, hf]
    rw [prefixLookup_of_longest hk, walkKeys_eq_foldlM]
  | missing hf hn =>
    simp only [fieldValue, hf]
    exact prefixLookup_of_noItemPrefix hn

/-- どの文書のどの項目名にも、仕様の答えがある。 -/
theorem fieldResolves_exists (d : Document) (f : String) : ∃ v, FieldResolves d f v := by
  cases hf : d.first? f with
  | some x => exact ⟨_, .whole hf⟩
  | none =>
    rcases longestItemPrefix_or_none d (f.splitOn ".") (f.splitOn ".").length with
      ⟨k, x, hk⟩ | hn
    · exact ⟨_, .longest hf hk⟩
    · exact ⟨_, .missing hf hn⟩

theorem fieldResolves_fieldValue (d : Document) (f : String) :
    FieldResolves d f (fieldValue d f) := by
  obtain ⟨v, hv⟩ := fieldResolves_exists d f
  rwa [hv.fieldValue_eq]

end Resolution

/-! ## 条件式は項目の値を通して読む -/

set_option linter.dupNamespace false in
/-- 条件式が値を読む項目名。 -/
def Condition.fields : Condition → List String
  | .const _ => []
  | .truthy f | .eq f _ | .ne f _ | .compare _ f _ => [f]
  | .and a b | .or a b => a.fields ++ b.fields
  | .not a => a.fields

section Congr

variable {d₁ d₂ : Document}

set_option linter.dupNamespace false in
/-- 読む項目の `fieldValue` が同じ二つの文書で、条件式の値は同じである。 -/
theorem Condition.eval_congr_fieldValue (c : Condition)
    (h : ∀ f ∈ c.fields, fieldValue d₁ f = fieldValue d₂ f) : c.eval d₁ = c.eval d₂ := by
  induction c with
  | const b => rfl
  | truthy f | eq f _ | ne f _ | compare _ f _ =>
    simp only [Condition.eval, h f (List.mem_singleton_self f)]
  | and a b iha ihb | or a b iha ihb =>
    simp only [Condition.fields, List.mem_append] at h
    simp only [Condition.eval, iha fun f hf => h f (.inl hf), ihb fun f hf => h f (.inr hf)]
  | not a ih => simp only [Condition.eval, ih h]

end Congr

/-- **項目の値の引き方。** `fieldValue` の答えはちょうど `FieldResolves` の答えであり、
条件式は読む項目の値を `fieldValue` で引いて決まる。 -/
theorem eval_reads_resolved_fields :
    (∀ (d : Document) (f : String) (v : Value), fieldValue d f = v ↔ FieldResolves d f v) ∧
    ∀ (c : Condition) (d₁ d₂ : Document),
      (∀ f ∈ c.fields, fieldValue d₁ f = fieldValue d₂ f) → c.eval d₁ = c.eval d₂ := by
  refine ⟨fun d f v => ⟨?_, FieldResolves.fieldValue_eq⟩,
    fun c _ _ h => c.eval_congr_fieldValue h⟩
  rintro rfl
  exact fieldResolves_fieldValue d f

end Workflow.Condition
