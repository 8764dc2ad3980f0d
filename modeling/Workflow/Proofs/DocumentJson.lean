import Mathlib
import Workflow.Proofs.DocumentShape
import Workflow.Proofs.FiniteFloat

/-!
# 文書と JSON の往復

文書を JSON に書いて読み直すと、元の文書に戻る（`ofJson_toJson_roundtrip`）。

* JSON から読んだ文書なら、いつでも戻る。JSON の値は、数が JSON の数として正しい
  （`Json.Value.valid`）ものとする。
* 作って書き換えた文書なら、値に時刻も有限でない double もなく、整数が 64 ビットに
  収まる（`Document.portable`）とき戻る。時刻は文字列に、有限でない double は `null` に
  書かれ、読み直すと別の値になるか消える。64 ビットを超える整数は double として読まれる。

値の往復（`ofJson_toJson`）は値の入れ子についての帰納法で、文書の往復は項目の列についての
帰納法である。項目名が正規化済みで昇順に並び、値の列が空でないので（`Canonical`）、読み直す
ときに項目を順に置いていくと、元の項目の列がそのまま末尾に積み上がる（`foldl_setItems_sorted`）。
-/

namespace Workflow

open Workflow.Json
open Workflow.Decimal

/-! ## JSON の値として正しい数 -/

theorem Decimal.int64Min_eq : int64Min = -2 ^ 63 := rfl

theorem Decimal.int64Max_eq : int64Max = 2 ^ 63 - 1 := rfl

/-- JSON の数として正しい：負でない整数は `2^64` 未満、負の整数は `-2^63` 以上、
それ以外は有限の double である。 -/
def Json.Number.valid : Json.Number → Bool
  | .nat n => n < Nat.pow 2 64
  | .neg i => int64Min ≤ i && i < 0
  | .float f => isFiniteFloat f

mutual

/-- 入れ子のどの数も JSON の数として正しい。 -/
def Json.Value.valid : Json.Value → Bool
  | .number n => n.valid
  | .array xs => Json.Value.validItems xs
  | .object fs => Json.Value.validFields fs
  | _ => true

/-- 配列のどの要素も正しい。 -/
def Json.Value.validItems : List Json.Value → Bool
  | [] => true
  | x :: xs => x.valid && Json.Value.validItems xs

/-- オブジェクトのどのフィールドの値も正しい。 -/
def Json.Value.validFields : List (String × Json.Value) → Bool
  | [] => true
  | (_, x) :: fs => x.valid && Json.Value.validFields fs

end

/-! ## JSON に書いて戻る値 -/

namespace ItemValue

mutual

/-- JSON に書いて読み直せる値：入れ子のどこにも時刻も有限でない double もなく、
整数は 64 ビットに収まる。 -/
def portable : ItemValue → Bool
  | .text _ => true
  | .int i => int64Min ≤ i && i ≤ int64Max
  | .float f => isFiniteFloat f
  | .bool _ => true
  | .time _ => false
  | .list xs => listPortable xs
  | .map fs => mapPortable fs

/-- 列のどの値も書いて読み直せる。 -/
def listPortable : List ItemValue → Bool
  | [] => true
  | x :: xs => x.portable && listPortable xs

/-- 写像のどの値も書いて読み直せる。 -/
def mapPortable : List (String × ItemValue) → Bool
  | [] => true
  | (_, x) :: fs => x.portable && mapPortable fs

end

theorem listPortable_iff {xs : List ItemValue} : listPortable xs = true ↔ ∀ x ∈ xs, x.portable = true := by
  induction xs with
  | nil => simp [listPortable]
  | cons x xs ih => simp [listPortable, ih]

/-- 64 ビット符号つき整数の最大値を超えない整数は、書いて読み直すと同じ整数である。 -/
theorem ofJson_int {i : Int} (hhi : i ≤ int64Max) :
    ofJson (Value.int i) = some (.int i) := by
  unfold Value.int Number.ofInt
  split
  · rfl
  · next hneg =>
    have hlt : i.toNat < Nat.pow 2 63 := by
      rw [int64Max_eq] at hhi
      rw [Nat.pow_eq]
      omega
    simp only [ofJson, Number.toInt?, hlt, if_true]
    congr
    omega

mutual

/-- **書いて読み直せる値は、JSON に書いて読むと元に戻る。** -/
theorem ofJson_toJson (v : ItemValue) (h : v.portable = true) : ofJson v.toJson = some v := by
  cases v with
  | text s => rfl
  | int i =>
    simp only [portable, Bool.and_eq_true, decide_eq_true_eq] at h
    exact ofJson_int h.2
  | float f =>
    simp only [portable] at h
    simp only [toJson, Value.float, h, if_true, ofJson, Number.toInt?, Number.toFloat]
  | bool b => rfl
  | time t => simp [portable] at h
  | list xs =>
    simp only [portable] at h
    simp only [toJson, ofJson, listOfJson_listToJson xs h]
  | map fs =>
    simp only [portable] at h
    simp only [toJson, ofJson, mapOfJson_mapToJson fs h]

theorem listOfJson_listToJson (xs : List ItemValue) (h : listPortable xs = true) :
    listOfJson (listToJson xs) = xs := by
  cases xs with
  | nil => rfl
  | cons x xs =>
    simp only [listPortable, Bool.and_eq_true] at h
    simp only [listToJson, listOfJson, ofJson_toJson x h.1, listOfJson_listToJson xs h.2]

theorem mapOfJson_mapToJson (fs : List (String × ItemValue)) (h : mapPortable fs = true) :
    mapOfJson (mapToJson fs) = fs := by
  cases fs with
  | nil => rfl
  | cons kx fs =>
    obtain ⟨k, x⟩ := kx
    simp only [mapPortable, Bool.and_eq_true] at h
    simp only [mapToJson, mapOfJson, ofJson_toJson x h.1, mapOfJson_mapToJson fs h.2]

end

mutual

/-- 正しい JSON の値から読んだ値は、書いて読み直せる。 -/
theorem portable_of_ofJson (j : Value) (hj : j.valid = true) {v : ItemValue} (h : ofJson j = some v) :
    v.portable = true := by
  cases j with
  | null => cases h
  | bool b => cases h; rfl
  | number n =>
    simp only [ofJson] at h
    simp only [Value.valid] at hj
    cases n with
    | nat n =>
      by_cases hlt : n < 2 ^ 63
      · simp only [Number.toInt?, Nat.pow_eq, hlt, if_true, Option.some.injEq] at h
        cases h
        simp only [portable, Bool.and_eq_true, decide_eq_true_iff]
        rw [int64Min_eq, int64Max_eq]
        omega
      · -- 64 ビット符号つき整数に収まらない整数は double として読まれ、それは有限である
        simp only [Number.toInt?, Nat.pow_eq, hlt, if_false, Option.some.injEq] at h
        cases h
        simp only [Number.valid, Nat.pow_eq, decide_eq_true_iff] at hj
        exact isFiniteFloat_natToFloat hj
    | neg i =>
      simp only [Number.toInt?, Option.some.injEq] at h
      cases h
      simp only [Number.valid, Bool.and_eq_true, decide_eq_true_eq] at hj
      simp only [portable, Bool.and_eq_true, decide_eq_true_iff]
      rw [int64Max_eq]
      exact ⟨hj.1, by omega⟩
    | float f =>
      simp only [Number.toInt?, Option.some.injEq] at h
      cases h
      exact hj
  | string s => cases h; rfl
  | array xs =>
    simp only [ofJson, Option.some.injEq] at h
    cases h
    exact listPortable_listOfJson xs hj
  | object fs =>
    simp only [ofJson, Option.some.injEq] at h
    cases h
    exact mapPortable_mapOfJson fs hj

theorem listPortable_listOfJson (xs : List Value) (hj : Value.validItems xs = true) :
    listPortable (listOfJson xs) = true := by
  cases xs with
  | nil => rfl
  | cons x xs =>
    simp only [Value.validItems, Bool.and_eq_true] at hj
    have ih := listPortable_listOfJson xs hj.2
    simp only [listOfJson]
    split
    · next v hv => simp only [listPortable, portable_of_ofJson x hj.1 hv, ih, Bool.and_self]
    · exact ih

theorem mapPortable_mapOfJson (fs : List (String × Value)) (hj : Value.validFields fs = true) :
    mapPortable (mapOfJson fs) = true := by
  cases fs with
  | nil => rfl
  | cons kx fs =>
    obtain ⟨k, x⟩ := kx
    simp only [Value.validFields, Bool.and_eq_true] at hj
    have ih := mapPortable_mapOfJson fs hj.2
    simp only [mapOfJson]
    split
    · next v hv => simp only [mapPortable, portable_of_ofJson x hj.1 hv, ih, Bool.and_self]
    · exact ih

end

end ItemValue

theorem Json.Value.validFields_iff {fs : List (String × Value)} :
    Value.validFields fs = true ↔ ∀ kv ∈ fs, kv.2.valid = true := by
  induction fs with
  | nil => simp [Value.validFields]
  | cons kv fs ih =>
    obtain ⟨k, v⟩ := kv
    simp [Value.validFields, ih]

/-! ## 文書の往復 -/

namespace Document

/-- JSON に書いて読み直せる文書：どの項目の値の列も書いて読み直せる。 -/
def portable (d : Document) : Bool :=
  d.items.all fun e => ItemValue.listPortable e.2

theorem portable_iff {d : Document} :
    d.portable = true ↔ ∀ e ∈ d.items, ItemValue.listPortable e.2 = true := by
  simp [portable]

theorem portable_setItems {d : Document} (hd : d.portable = true) (n : String) {vs : List ItemValue}
    (hvs : ItemValue.listPortable vs = true) : (d.setItems n vs).portable = true := by
  rw [portable_iff] at hd ⊢
  intro e he
  unfold Document.setItems at he
  split at he
  · exact hd e (mem_eraseEntry he)
  · rcases mem_insertEntry he with rfl | he
    · exact hvs
    · exact hd e he

/-- 正しい JSON の値を一つのフィールドとして読んだ値の列は、書いて読み直せる。 -/
theorem listPortable_valuesOfJson {v : Value} (hv : v.valid = true) :
    ItemValue.listPortable (valuesOfJson v) = true := by
  refine ItemValue.listPortable_iff.mpr fun x hx => ?_
  cases v with
  | array xs => exact ItemValue.listPortable_iff.mp (ItemValue.listPortable_listOfJson xs hv) x hx
  | _ => exact ItemValue.portable_of_ofJson _ hv (by simpa [valuesOfJson] using hx)

theorem portable_foldl_setItems (fs : List (String × Value)) {d : Document} (hd : d.portable = true)
    (hfs : ∀ kv ∈ fs, kv.2.valid = true) :
    (fs.foldl (fun d (kv : String × Value) => d.setItems kv.1 (valuesOfJson kv.2)) d).portable = true := by
  induction fs generalizing d with
  | nil => exact hd
  | cons kv fs ih =>
    have hkv := listPortable_valuesOfJson (hfs kv List.mem_cons_self)
    exact ih (portable_setItems hd kv.1 hkv) (fun kv' h => hfs kv' (List.mem_cons_of_mem _ h))

/-- 正しい JSON の値から読んだ文書は、書いて読み直せる。 -/
theorem portable_ofJson {j : Value} {d : Document} (hj : j.valid = true) (h : ofJson j = .ok d) :
    d.portable = true := by
  unfold Document.ofJson at h
  split at h
  · next fs =>
    cases h
    simp only [Value.valid] at hj
    exact portable_foldl_setItems fs (by simp [portable, empty]) (Value.validFields_iff.mp hj)
  · cases h

/-- どの名前よりも大きい名前の項目を入れると、列の末尾に付く。 -/
theorem insertEntry_of_lt {k : String} {vs : List ItemValue} {l : List (String × List ItemValue)}
    (h : ∀ k' ∈ l.map Prod.fst, k' < k) : insertEntry k vs l = l ++ [(k, vs)] := by
  induction l with
  | nil => rfl
  | cons e rest ih =>
    obtain ⟨k', vs'⟩ := e
    have hk' : k' < k := h k' List.mem_cons_self
    unfold insertEntry
    rw [if_neg (not_lt.mpr hk'.le), if_neg (ne_of_gt hk'), ih (fun j hj => h j (List.mem_cons_of_mem _ hj))]
    rfl

/-- 正規化済みの名前が昇順に並び、値の列が空でない項目を、それより小さい名前だけを持つ文書に
順に置くと、項目の列がそのまま末尾に積み上がる。 -/
theorem foldl_setItems_sorted (l acc : List (String × List ItemValue))
    (hs : (l.map Prod.fst).Pairwise (· < ·)) (hn : ∀ e ∈ l, normalize e.1 = e.1 ∧ e.2 ≠ [])
    (hacc : ∀ k ∈ acc.map Prod.fst, ∀ k' ∈ l.map Prod.fst, k < k') :
    l.foldl (fun (d : Document) e => d.setItems e.1 e.2) ⟨acc⟩ = ⟨acc ++ l⟩ := by
  induction l generalizing acc with
  | nil => simp
  | cons e l ih =>
    obtain ⟨k, vs⟩ := e
    have hs' := List.pairwise_cons.mp hs
    obtain ⟨hk, hvs⟩ := hn (k, vs) List.mem_cons_self
    have hstep : (⟨acc⟩ : Document).setItems k vs = ⟨acc ++ [(k, vs)]⟩ := by
      unfold Document.setItems
      rw [if_neg (by simpa using hvs), hk,
        insertEntry_of_lt (fun k' hk' => hacc k' hk' k List.mem_cons_self)]
    -- 置いた項目の名前は、残りのどの名前よりも小さい
    have hacc' : ∀ k₁ ∈ (acc ++ [(k, vs)]).map Prod.fst, ∀ k' ∈ l.map Prod.fst, k₁ < k' := by
      intro k₁ hk₁ k' hk'
      simp only [List.map_append, List.map_cons, List.map_nil, List.mem_append, List.mem_singleton] at hk₁
      rcases hk₁ with hk₁ | rfl
      · exact hacc k₁ hk₁ k' (List.mem_cons_of_mem _ hk')
      · exact hs'.1 k' hk'
    rw [List.foldl_cons, hstep, ih (acc ++ [(k, vs)]) hs'.2 (fun e he => hn e (List.mem_cons_of_mem _ he)) hacc']
    simp

/-- **形が整い、書いて読み直せる文書は、JSON に書いて読むと元に戻る。** -/
theorem ofJson_toJson_of_canonical {d : Document} (hd : d.Canonical) (hp : d.portable = true) :
    ofJson d.toJson = .ok d := by
  obtain ⟨items⟩ := d
  have hp := portable_iff.mp hp
  simp only [toJson, ofJson, ofFields, List.foldl_map]
  rw [List.foldl_ext _ (fun (d : Document) e => d.setItems e.1 e.2) _ ?_, show empty = ⟨[]⟩ from rfl,
    foldl_setItems_sorted items [] hd.sorted (fun e he => ⟨hd.normalized e he, hd.nonempty e he⟩) (by simp)]
  · rfl
  · intro acc e he
    obtain ⟨k, vs⟩ := e
    simp [valuesOfJson, ItemValue.listOfJson_listToJson vs (hp _ he)]

/-- **文書を JSON に書いて読み直すと、元に戻る。** JSON から読んだ文書ならいつでも、
作って書き換えた文書なら値がどれも書いて読み直せるとき。 -/
theorem ofJson_toJson_roundtrip :
    (∀ (j : Value) (d : Document), j.valid = true → ofJson j = .ok d → ofJson d.toJson = .ok d) ∧
      (∀ d : Document, Reachable d → d.portable = true → ofJson d.toJson = .ok d) :=
  ⟨fun _ _ hj h => ofJson_toJson_of_canonical (canonical_ofJson h) (portable_ofJson hj h),
    fun _ hd hp => ofJson_toJson_of_canonical hd.canonical hp⟩

/-- 大文字小文字の違う名前で値を足し、入れ子の列を置いた文書も、JSON に書いて読み直すと
元に戻る。 -/
theorem roundtrip_after_mixed_writes :
    let d := ((empty.setItem " Amount " (.int 3)).appendItem "AMOUNT" (.text "x")).setItem "Tags"
      (.list [.bool true, .map [("k", .int (-1))]])
    Reachable d ∧ d.portable = true ∧ ofJson d.toJson = .ok d :=
  have h : Reachable _ := .setItem _ _ (.appendItem _ _ (.setItem _ _ .empty))
  have hp : Document.portable _ = true := by decide +kernel
  ⟨h, hp, ofJson_toJson_roundtrip.2 _ h hp⟩

end Document

end Workflow
