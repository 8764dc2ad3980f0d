import Mathlib
import Workflow.Proofs.DocumentJson
import Workflow.Proofs.RegistryContract

/-!
# モデルの宣言と JSON の往復

モデルの宣言を JSON の値に書き（`Graph.toJson`）、それを読み直すと元の宣言に戻る
（`decodeModel_toJson`）。そこで、検査を通ったモデルを JSON に書いて読み直すと同じモデルに
なり、指紋も指紋をとるバイト列も変わらない。指紋は読んだ宣言から書き直したバイト列でとるので、
同じ宣言に読める入力は、キーの順や未知のフィールドが違っても同じ指紋になる
（`decl_json_roundtrip`）。

証明は三段からなる。

1. JSON の値のオブジェクトはキーの昇順の写像なので、書いた値は入れ子の中までキーを並べ直した
   ものである。並べ直したフィールドを引くと、元の最初のフィールドの値を並べ直したものが出る
   （`lookup_sortFields`）。読む側はキーの順を問わず、知っているキーの型を調べてから
   フィールドを引くので、並べ直したオブジェクトからも元のフィールドが読める
   （`decodeStruct_sortKeys`）。
2. 構造体ごとに、省略できるフィールドは値がないとき書かれず、読むときその既定値になることを
   確かめる（`decodeTask_toJson` … `decodeModel_toJson`）。
3. 往復には、宣言が直列化の型に収まること（`ModelDecl.Fits`）が要る。整数は 64 ビットの
   符号つき整数として読める大きさで、項目の写像はキーの昇順に並んでいる（並べ直しても
   変わらない）。JSON の負の整数はいつでも読めるので、整数には上の限りだけが要る。
-/

namespace Workflow.Json

namespace Value

/-! ## キーの並べ直し -/

theorem lookup_insertField (k k' : String) (v : Value) :
    ∀ fs : List (String × Value),
      lookup k (insertField k' v fs) = if k = k' then some v else lookup k fs
  | [] => by simp [insertField, lookup]
  | (j, w) :: rest => by
    unfold insertField
    split
    · simp [lookup]
    · split
      · next h =>
        subst h
        simp only [lookup]
        split <;> simp_all
      · simp only [lookup]
        rw [lookup_insertField k k' v rest]
        split <;> split <;> simp_all

/-- 並べ直したフィールドを引くと、元の最初のフィールドの値を並べ直したものが出る。 -/
theorem lookup_sortFields (k : String) :
    ∀ fs : List (String × Value), lookup k (sortFields fs) = (lookup k fs).map sortKeys
  | [] => rfl
  | (j, w) :: rest => by
    rw [sortFields, lookup_insertField, lookup_sortFields k rest]
    simp only [lookup]
    split <;> rfl

theorem mem_insertField {k : String} {v : Value} {p : String × Value} :
    ∀ {fs : List (String × Value)}, p ∈ insertField k v fs → p = (k, v) ∨ p ∈ fs
  | [], h => by simp_all [insertField]
  | (j, w) :: rest, h => by
    unfold insertField at h
    split at h
    · simpa using h
    · split at h
      · simp only [List.mem_cons] at h
        rcases h with h | h
        · exact .inl h
        · exact .inr (by simp [h])
      · simp only [List.mem_cons] at h
        rcases h with h | h
        · exact .inr (by simp [h])
        · rcases mem_insertField h with h | h
          · exact .inl h
          · exact .inr (by simp [h])

/-- 並べ直したフィールドは、元のフィールドの値を並べ直したものである。 -/
theorem mem_sortFields {p : String × Value} :
    ∀ {fs : List (String × Value)}, p ∈ sortFields fs → ∃ y, (p.1, y) ∈ fs ∧ p.2 = sortKeys y
  | [], h => by simp [sortFields] at h
  | (j, w) :: rest, h => by
    rw [sortFields] at h
    rcases mem_insertField h with h | h
    · subst h
      exact ⟨w, by simp, rfl⟩
    · obtain ⟨y, hy, hp⟩ := mem_sortFields h
      exact ⟨y, by simp [hy], hp⟩

theorem sortItems_eq_map : ∀ xs : List Value, sortItems xs = xs.map sortKeys
  | [] => rfl
  | x :: xs => by rw [sortItems, sortItems_eq_map xs, List.map_cons]

@[simp] theorem sortKeys_object (fs : List (String × Value)) :
    sortKeys (.object fs) = .object (sortFields fs) := by
  simp [sortKeys]

@[simp] theorem sortKeys_array (xs : List Value) :
    sortKeys (.array xs) = .array (xs.map sortKeys) := by
  simp [sortKeys, sortItems_eq_map]

@[simp] theorem sortKeys_string (s : String) : sortKeys (.string s) = .string s := by
  simp [sortKeys]

@[simp] theorem sortKeys_int (i : Int) : sortKeys (Value.int i) = Value.int i := by
  simp [sortKeys, Value.int]

@[simp] theorem sortKeys_bool (b : Bool) : sortKeys (.bool b) = .bool b := by
  simp [sortKeys]

@[simp] theorem lookup_append (k : String) :
    ∀ xs ys : List (String × Value), lookup k (xs ++ ys) = (lookup k xs).or (lookup k ys)
  | [], ys => rfl
  | (j, w) :: rest, ys => by
    simp only [List.cons_append, lookup]
    split
    · rfl
    · exact lookup_append k rest ys

/-! ## 構造体を読む -/

/-- オブジェクトから構造体を読む。知っているキーのどのフィールドも型の検査を通れば、
組み立ての結果になる。 -/
theorem decodeStruct_object {α : Type} (name : String) (names : List String)
    (check : String → Value → Decoded Unit) (build : Fields → Decoded α)
    (fs : List (String × Value))
    (h : ∀ p ∈ fs, names.contains p.1 = true → check p.1 p.2 = .ok ()) :
    decodeStruct name names check build (.object fs) = build (.named fs) := by
  -- 型の検査の繰り返しは、どの一回も通るので `()` で終わる。
  have hloop : ∀ gs : List (String × Value),
      (∀ p ∈ gs, names.contains p.1 = true → check p.1 p.2 = .ok ()) →
      (forIn gs PUnit.unit fun (x : String × Value) (_ : PUnit) =>
        if names.contains x.1 = true then do
          check x.1 x.2
          pure (ForInStep.yield PUnit.unit)
        else pure (ForInStep.yield PUnit.unit) : Decoded PUnit) = .ok PUnit.unit := by
    intro gs hgs
    induction gs with
    | nil => rfl
    | cons p gs ih =>
      rw [List.forIn_cons]
      by_cases hc : names.contains p.1 = true
      · rw [if_pos hc, hgs p (by simp) hc]
        exact ih fun q hq => hgs q (by simp [hq])
      · rw [if_neg hc]
        exact ih fun q hq => hgs q (by simp [hq])
  simp only [decodeStruct]
  rw [hloop fs h]
  rfl

/-- 並べ直したオブジェクトから構造体を読む。元のどのフィールドも、並べ直した値で型の検査を
通るとき。 -/
theorem decodeStruct_sortKeys {α : Type} (name : String) (names : List String)
    (check : String → Value → Decoded Unit) (build : Fields → Decoded α)
    (fs : List (String × Value))
    (h : ∀ kv ∈ fs, names.contains kv.1 = true → check kv.1 (sortKeys kv.2) = .ok ()) :
    decodeStruct name names check build (sortKeys (.object fs)) =
      build (.named (sortFields fs)) := by
  rw [sortKeys_object, decodeStruct_object]
  intro q hq hc
  obtain ⟨y, hy, hq2⟩ := mem_sortFields hq
  rw [hq2]
  exact h (q.1, y) hy hc

@[simp] theorem get?_named_sortFields (fs : List (String × Value)) (k : String) :
    (Fields.named (sortFields fs)).get? k = (lookup k fs).map sortKeys :=
  lookup_sortFields k fs

end Value

/-- 読めた値を `pure` の形にそろえる（`pure_bind` などを使うため）。 -/
theorem ok_eq_pure {ε α : Type} (a : α) : (Except.ok a : Except ε α) = pure a := rfl

theorem except_map_pure {ε α β : Type} (f : α → β) (a : α) :
    Except.map f (pure a : Except ε α) = pure (f a) := rfl

@[simp] theorem decodeString_string (s : String) : decodeString (.string s) = pure s := rfl

@[simp] theorem decodeBool_bool (b : Bool) : decodeBool (.bool b) = pure b := rfl

@[simp] theorem decodeMap_object (fs : List (String × Value)) :
    decodeMap (.object fs) = pure fs := rfl

@[simp] theorem decodeOption_string {α : Type} (d : Value → Decoded α) (s : String) :
    decodeOption d (.string s) = some <$> d (.string s) := rfl

@[simp] theorem decodeOption_int {α : Type} (d : Value → Decoded α) (i : Int) :
    decodeOption d (Value.int i) = some <$> d (Value.int i) := rfl

/-- 64 ビットの符号つき整数の上の限りを超えない整数は、書いて読むと元に戻る。 -/
theorem decodeInt_int {i : Int} (h : i ≤ Decimal.int64Max) : decodeInt (Value.int i) = pure i := by
  unfold Value.int Number.ofInt
  split
  · rfl
  · next hneg =>
    have hlt : i.toNat < Nat.pow 2 63 := by
      rw [Decimal.int64Max_eq] at h
      rw [Nat.pow_eq]
      omega
    simp only [decodeInt, hlt, if_true]
    congr 1
    omega

end Workflow.Json

namespace Workflow.Model

open Workflow.Json Workflow.Json.Value Workflow.Decimal

/-! ## 省略できるフィールド -/

section Fields

variable {α : Type}

@[simp] theorem lookup_optField (k k' : String) (f : α → Value) (o : Option α) :
    lookup k (optField k' f o) = if k = k' then o.map f else none := by
  cases o <;> simp [optField, lookup]

@[simp] theorem lookup_mapField (k k' : String) (fs : List (String × Value)) :
    lookup k (mapField k' fs) = if k = k' ∧ fs ≠ [] then some (.object fs) else none := by
  unfold mapField
  by_cases h : fs = [] <;> simp [h, lookup]

theorem mem_optField {k k' : String} {f : α → Value} {o : Option α} {y : Value}
    (h : (k', y) ∈ optField k f o) : ∃ a ∈ o, k' = k ∧ y = f a := by
  cases o <;> simp_all [optField]

theorem mem_mapField {k k' : String} {fs : List (String × Value)} {y : Value}
    (h : (k', y) ∈ mapField k fs) : k' = k ∧ y = .object fs := by
  unfold mapField at h
  by_cases hfs : fs = [] <;> simp_all

end Fields

/-! ## 直列化の型に収まる宣言 -/

/-- タスクの中身が直列化の型に収まる。 -/
structure TaskDecl.Fits (t : TaskDecl) : Prop where
  id : t.id ≤ int64Max
  items : sortFields t.items = t.items

/-- タイマーが直列化の型に収まる。 -/
structure TimerDecl.Fits (t : TimerDecl) : Prop where
  delay : t.delay ≤ int64Max

/-- モデルの切り替えが直列化の型に収まる。 -/
structure ModelSwitch.Fits (s : ModelSwitch) : Prop where
  task : ∀ t ∈ s.task, t ≤ int64Max
  event : s.event ≤ int64Max

/-- イベントの中身が直列化の型に収まる。 -/
structure EventDecl.Fits (e : EventDecl) : Prop where
  id : e.id ≤ int64Max
  nextEvent : e.nextEvent ≤ int64Max
  timer : ∀ t ∈ e.timer, t.Fits
  modelSwitch : ∀ s ∈ e.modelSwitch, s.Fits
  items : sortFields e.items = e.items

/-- 要素が直列化の型に収まる。 -/
structure ElementDecl.Fits (el : ElementDecl) : Prop where
  task : ∀ t ∈ el.task, t.Fits
  event : ∀ e ∈ el.event, e.Fits

/-- モデルの宣言が直列化の型に収まる。 -/
structure ModelDecl.Fits (m : ModelDecl) : Prop where
  definition : sortFields m.definition = m.definition
  elements : ∀ el ∈ m.elements, el.Fits

/-! ## 名前だけの選択肢 -/

theorem decodeVariant_processKind (k : ProcessKind) :
    decodeVariant ProcessKind.all (.string k.name) = pure k := by
  cases k <;> rfl

theorem decodeVariant_timerUnit (u : TimerUnit) :
    decodeVariant TimerUnit.all (.string u.name) = pure u := by
  cases u <;> rfl

theorem decodeVariant_elementKind (k : ElementKind) :
    decodeVariant ElementKind.all (.string k.name) = pure k := by
  cases k <;> rfl

theorem decodeVariant_gatewayKind (k : GatewayKind) :
    decodeVariant GatewayKind.all (.string k.name) = pure k := by
  cases k <;> rfl

/-! ## 構造体ごとの往復

どの構造体も、組み立て（`build`）と型の検査（`check`）の二つを確かめる。組み立てでは
省略できるフィールドの有無で場合を分け、型の検査では書いたフィールドのどれかで場合を分ける。
-/

theorem decodeProcess_toJson (p : ProcessDecl) : decodeProcess p.toJson.sortKeys = pure p := by
  rw [decodeProcess, ProcessDecl.toJson, decodeStruct_sortKeys]
  · simp [Fields.required, Fields.withDefault, decodeVariant_processKind, lookup]
  · rintro ⟨k, y⟩ hkv _
    simp only [List.mem_cons, List.not_mem_nil, or_false, Prod.mk.injEq] at hkv
    rcases hkv with ⟨rfl, rfl⟩ | ⟨rfl, rfl⟩ | ⟨rfl, rfl⟩ <;>
      simp [checkOnly, except_map_pure, ok_eq_pure, decodeVariant_processKind]

theorem decodeTask_toJson {t : TaskDecl} (h : t.Fits) : decodeTask t.toJson.sortKeys = pure t := by
  rw [decodeTask, TaskDecl.toJson, decodeStruct_sortKeys]
  · obtain ⟨hid, hitems⟩ := h
    rcases t with ⟨id, _ | d, items⟩ <;> by_cases hi : items = [] <;>
      simp_all [ok_eq_pure, Fields.required, Fields.withDefault, Fields.optional, lookup, decodeInt_int]
  · rintro ⟨k, y⟩ hkv _
    simp only [List.mem_append, List.mem_cons, List.not_mem_nil, or_false, Prod.mk.injEq] at hkv
    rcases hkv with (⟨rfl, rfl⟩ | hd) | hi
    · simp [checkOnly, except_map_pure, ok_eq_pure, decodeInt_int h.id]
    · obtain ⟨d, -, rfl, rfl⟩ := mem_optField hd
      simp [checkOnly, except_map_pure, ok_eq_pure]
    · obtain ⟨rfl, rfl⟩ := mem_mapField hi
      simp [checkOnly, except_map_pure, ok_eq_pure]

theorem decodeTimer_toJson {t : TimerDecl} (h : t.Fits) : decodeTimer t.toJson.sortKeys = pure t := by
  rw [decodeTimer, TimerDecl.toJson, decodeStruct_sortKeys]
  · obtain ⟨hdelay⟩ := h
    rcases t with ⟨active, delay, unit, _ | b⟩ <;>
      simp_all [ok_eq_pure, Fields.withDefault, Fields.optional, lookup, decodeInt_int,
        decodeVariant_timerUnit]
  · rintro ⟨k, y⟩ hkv _
    simp only [List.mem_append, List.mem_cons, List.not_mem_nil, or_false, Prod.mk.injEq] at hkv
    rcases hkv with (⟨rfl, rfl⟩ | ⟨rfl, rfl⟩ | ⟨rfl, rfl⟩) | hb
    · simp [checkOnly, except_map_pure, ok_eq_pure]
    · simp [checkOnly, except_map_pure, ok_eq_pure, decodeInt_int h.delay]
    · simp [checkOnly, except_map_pure, ok_eq_pure, decodeVariant_timerUnit]
    · obtain ⟨b, -, rfl, rfl⟩ := mem_optField hb
      simp [checkOnly, except_map_pure, ok_eq_pure]

theorem decodeSwitch_toJson {s : ModelSwitch} (h : s.Fits) :
    decodeSwitch s.toJson.sortKeys = pure s := by
  rw [decodeSwitch, ModelSwitch.toJson, decodeStruct_sortKeys]
  · obtain ⟨htask, hevent⟩ := h
    rcases s with ⟨version, _ | t, event⟩ <;>
      simp_all [ok_eq_pure, Fields.required, Fields.optional, lookup, decodeInt_int]
  · rintro ⟨k, y⟩ hkv _
    simp only [List.mem_append, List.mem_cons, List.not_mem_nil, or_false, Prod.mk.injEq] at hkv
    rcases hkv with (⟨rfl, rfl⟩ | ht) | ⟨rfl, rfl⟩
    · simp [checkOnly, except_map_pure, ok_eq_pure]
    · obtain ⟨t, hin, rfl, rfl⟩ := mem_optField ht
      simp [checkOnly, except_map_pure, ok_eq_pure, decodeInt_int (h.task t hin)]
    · simp [checkOnly, except_map_pure, ok_eq_pure, decodeInt_int h.event]

/-! 入れ子の構造体は `null` でない値に書かれるので、省略できる値として読んでも中身が出る。 -/

theorem decodeOption_timer {t : TimerDecl} (h : t.Fits) :
    decodeOption decodeTimer t.toJson.sortKeys = pure (some t) := by
  show (decodeTimer t.toJson.sortKeys).map some = _
  rw [decodeTimer_toJson h]
  rfl

theorem decodeOption_switch {s : ModelSwitch} (h : s.Fits) :
    decodeOption decodeSwitch s.toJson.sortKeys = pure (some s) := by
  show (decodeSwitch s.toJson.sortKeys).map some = _
  rw [decodeSwitch_toJson h]
  rfl

theorem decodeEvent_toJson {e : EventDecl} (h : e.Fits) : decodeEvent e.toJson.sortKeys = pure e := by
  rw [decodeEvent, EventDecl.toJson, decodeStruct_sortKeys]
  · obtain ⟨hid, hnext, htimer, hswitch, hitems⟩ := h
    -- `result` は空なら書かれず、読むと既定の空文字列になる。
    rcases e with ⟨id, result, followUp, nextEvent, _ | sig, _ | t, _ | sw, items⟩ <;>
      by_cases hr : result = "" <;> by_cases hi : items = [] <;>
      simp_all [ok_eq_pure, Fields.required, Fields.withDefault, Fields.optional, lookup, decodeInt_int,
        decodeOption_timer, decodeOption_switch]
  · rintro ⟨k, y⟩ hkv _
    simp only [List.mem_append, List.mem_cons, List.not_mem_nil, or_false, Prod.mk.injEq] at hkv
    rcases hkv with (((((⟨rfl, rfl⟩ | hres) | ⟨rfl, rfl⟩ | ⟨rfl, rfl⟩) | hsig) | htimer) | hsw) | hi
    · simp [checkOnly, except_map_pure, ok_eq_pure, decodeInt_int h.id]
    · by_cases hr : e.result.isEmpty <;> simp_all [checkOnly, except_map_pure, ok_eq_pure]
    · simp [checkOnly, except_map_pure, ok_eq_pure]
    · simp [checkOnly, except_map_pure, ok_eq_pure, decodeInt_int h.nextEvent]
    · obtain ⟨d, -, rfl, rfl⟩ := mem_optField hsig
      simp [checkOnly, except_map_pure, ok_eq_pure]
    · obtain ⟨t, hin, rfl, rfl⟩ := mem_optField htimer
      simp [checkOnly, except_map_pure, ok_eq_pure, decodeOption_timer (h.timer t hin)]
    · obtain ⟨sw, hin, rfl, rfl⟩ := mem_optField hsw
      simp [checkOnly, except_map_pure, ok_eq_pure, decodeOption_switch (h.modelSwitch sw hin)]
    · obtain ⟨rfl, rfl⟩ := mem_mapField hi
      simp [checkOnly, except_map_pure, ok_eq_pure]

theorem decodeOption_task {t : TaskDecl} (h : t.Fits) :
    decodeOption decodeTask t.toJson.sortKeys = pure (some t) := by
  show (decodeTask t.toJson.sortKeys).map some = _
  rw [decodeTask_toJson h]
  rfl

theorem decodeOption_event {e : EventDecl} (h : e.Fits) :
    decodeOption decodeEvent e.toJson.sortKeys = pure (some e) := by
  show (decodeEvent e.toJson.sortKeys).map some = _
  rw [decodeEvent_toJson h]
  rfl

theorem decodeElement_toJson {el : ElementDecl} (h : el.Fits) :
    decodeElement el.toJson.sortKeys = pure el := by
  rw [decodeElement, ElementDecl.toJson, decodeStruct_sortKeys]
  · obtain ⟨htask, hevent⟩ := h
    rcases el with ⟨id, kind, name, _ | p, _ | gw, _ | l, _ | t, _ | e⟩ <;>
      simp_all [ok_eq_pure, Fields.required, Fields.withDefault, Fields.optional, lookup,
        decodeVariant_elementKind, decodeVariant_gatewayKind, decodeOption_task,
        decodeOption_event]
  · rintro ⟨k, y⟩ hkv _
    simp only [List.mem_append, List.mem_cons, List.not_mem_nil, or_false, Prod.mk.injEq] at hkv
    rcases hkv with (((((⟨rfl, rfl⟩ | ⟨rfl, rfl⟩ | ⟨rfl, rfl⟩) | hp) | hg) | hl) | ht) | he
    · simp [checkOnly, except_map_pure, ok_eq_pure]
    · simp [checkOnly, except_map_pure, ok_eq_pure, decodeVariant_elementKind]
    · simp [checkOnly, except_map_pure, ok_eq_pure]
    · obtain ⟨p, -, rfl, rfl⟩ := mem_optField hp
      simp [checkOnly, except_map_pure, ok_eq_pure]
    · obtain ⟨g, -, rfl, rfl⟩ := mem_optField hg
      simp [checkOnly, except_map_pure, ok_eq_pure, decodeVariant_gatewayKind]
    · obtain ⟨l, -, rfl, rfl⟩ := mem_optField hl
      simp [checkOnly, except_map_pure, ok_eq_pure]
    · obtain ⟨t, hin, rfl, rfl⟩ := mem_optField ht
      simp [checkOnly, except_map_pure, ok_eq_pure, decodeOption_task (h.task t hin)]
    · obtain ⟨e, hin, rfl, rfl⟩ := mem_optField he
      simp [checkOnly, except_map_pure, ok_eq_pure, decodeOption_event (h.event e hin)]

theorem decodeFlow_toJson (f : FlowDecl) : decodeFlow f.toJson.sortKeys = pure f := by
  rw [decodeFlow, FlowDecl.toJson, decodeStruct_sortKeys]
  · rcases f with ⟨id, source, target, _ | c⟩ <;>
      simp [ok_eq_pure, Fields.required, Fields.withDefault, Fields.optional, lookup]
  · rintro ⟨k, y⟩ hkv _
    simp only [List.mem_append, List.mem_cons, List.not_mem_nil, or_false, Prod.mk.injEq] at hkv
    rcases hkv with (⟨rfl, rfl⟩ | ⟨rfl, rfl⟩ | ⟨rfl, rfl⟩) | hc
    · simp [checkOnly, except_map_pure, ok_eq_pure]
    · simp [checkOnly, except_map_pure, ok_eq_pure]
    · simp [checkOnly, except_map_pure, ok_eq_pure]
    · obtain ⟨c, -, rfl, rfl⟩ := mem_optField hc
      simp [checkOnly, except_map_pure, ok_eq_pure]

/-- 並べ直した配列のどの要素も読めれば、配列が読める。 -/
theorem decodeList_sortKeys {α : Type} {d : Value → Decoded α} {f : α → Value} :
    ∀ xs : List α, (∀ x ∈ xs, d (f x).sortKeys = pure x) →
      decodeList d (sortKeys (.array (xs.map f))) = pure xs
  | [], _ => rfl
  | x :: xs, h => by
    have ih := decodeList_sortKeys xs fun y hy => h y (by simp [hy])
    simp only [sortKeys_array, decodeList, List.map_map] at ih ⊢
    rw [List.map_cons, List.mapM_cons, Function.comp_apply, h x (by simp), ih]
    rfl

/-- **モデルの宣言は、直列化の型に収まれば、JSON の値に書いて読むと元に戻る。** -/
theorem decodeModel_toJson {m : ModelDecl} (h : m.Fits) :
    decodeModel m.toJson.sortKeys = pure m := by
  have hps := decodeList_sortKeys m.processes fun p _ => decodeProcess_toJson p
  have hels := decodeList_sortKeys m.elements fun el hel => decodeElement_toJson (h.elements el hel)
  have hfs := decodeList_sortKeys m.flows fun f _ => decodeFlow_toJson f
  rw [decodeModel, ModelDecl.toJson, decodeStruct_sortKeys]
  · obtain ⟨hdef, -⟩ := h
    rcases m with ⟨version, definition, processes, elements, flows⟩
    by_cases hd : definition = [] <;>
      simp_all [ok_eq_pure, Fields.required, Fields.withDefault, lookup]
  · rintro ⟨k, y⟩ hkv _
    simp only [List.mem_append, List.mem_cons, List.not_mem_nil, or_false, Prod.mk.injEq] at hkv
    rcases hkv with (⟨rfl, rfl⟩ | hd) | ⟨rfl, rfl⟩ | ⟨rfl, rfl⟩ | ⟨rfl, rfl⟩
    · simp [checkOnly, except_map_pure, ok_eq_pure]
    · obtain ⟨rfl, rfl⟩ := mem_mapField hd
      simp [checkOnly, except_map_pure, ok_eq_pure]
    · simp [checkOnly, except_map_pure, ok_eq_pure, -sortKeys_array, hps]
    · simp [checkOnly, except_map_pure, ok_eq_pure, -sortKeys_array, hels]
    · simp [checkOnly, except_map_pure, ok_eq_pure, -sortKeys_array, hfs]

/-! ## 検査済みのモデルの往復 -/

/-- JSON から読んだモデルは、読んだ宣言を検査したものである。 -/
theorem Graph.ofJson_of_decode {v : Value} {m : ModelDecl} (h : decodeModel v = .ok m) :
    Graph.ofJson v = Graph.ofDecl m := by
  rw [Graph.ofJson, h]

/-- **モデルの宣言と JSON の往復。**

* 直列化の型に収まる宣言は、JSON の値に書いて読むと元に戻る。
* 検査を通ったモデルは、JSON の値に書いて読み直すと同じモデルになる。指紋も、指紋をとる
  バイト列（宣言を詰めた JSON）も変わらない。
* 同じ宣言に読める二つの JSON の値は、同じモデルになり、その指紋は読んだ宣言の指紋である。 -/
theorem decl_json_roundtrip :
    (∀ m : ModelDecl, m.Fits → decodeModel m.toJson.sortKeys = .ok m) ∧
    (∀ (m : ModelDecl) (g : Graph), m.Fits → Graph.ofDecl m = .ok g →
      Graph.ofJson g.toJson = .ok g) ∧
    (∀ (v w : Value) (m : ModelDecl), decodeModel v = .ok m → decodeModel w = .ok m →
      Graph.ofJson v = Graph.ofJson w ∧ ∀ g, Graph.ofJson v = .ok g → g.checksum = m.checksum) := by
  refine ⟨fun m hm => decodeModel_toJson hm, fun m g hm hg => ?_, fun v w m hv hw => ?_⟩
  · obtain ⟨hdecl, -, -⟩ := Graph.ofDecl_sealed hg
    rw [Graph.toJson, hdecl, Graph.ofJson_of_decode (decodeModel_toJson hm), hg]
  · rw [Graph.ofJson_of_decode hv, Graph.ofJson_of_decode hw]
    refine ⟨rfl, fun g hg => ?_⟩
    obtain ⟨hdecl, hsealed, -⟩ := Graph.ofDecl_sealed hg
    rw [hsealed, hdecl]

/-- 項目を一つ持つタスク `t1`。 -/
def draftTask : ElementDecl :=
  { id := "t1", kind := .task, name := "Draft", process := some "p",
    task := some { id := 1, items := [("owner", .string "ann")] } }

/-- 三日後に版 `u` のイベント 2 へ移るイベント `e9`。 -/
def expireEvent : ElementDecl :=
  { id := "e9", kind := .event, name := "expire", process := some "p",
    event := some
      { id := 9, timer := some { active := true, delay := 3, unit := .days },
        modelSwitch := some { version := "u", event := 2 } } }

/-- タスク `t1` から期限つきのイベント `e9` へ進むモデル。 -/
def expiringModel : ModelDecl where
  version := "t"
  processes := [{ id := "p", name := "P" }]
  elements := [draftTask, expireEvent]
  flows := [{ id := "f", source := "t1", target := "e9" }]

/-- `expiringModel` を検査したモデル。 -/
def expiringGraph : Graph :=
  { decl := expiringModel, checksum := expiringModel.checksum,
    definition := itemsDocument expiringModel.definition }

/-- 期限つきで版を移るイベントと項目を持つモデルは、JSON に書いて読み直すと同じモデルになる。 -/
theorem expiring_model_roundtrip :
    expiringModel.Fits ∧ Graph.ofDecl expiringModel = .ok expiringGraph ∧
      Graph.ofJson expiringGraph.toJson = .ok expiringGraph := by
  have hfits : expiringModel.Fits := by
    refine ⟨rfl, ?_⟩
    simp only [expiringModel, draftTask, expireEvent, List.mem_cons, List.not_mem_nil, or_false]
    rintro el (rfl | rfl)
    · refine ⟨?_, by simp⟩
      simp only [Option.mem_def, Option.some.injEq]
      rintro t rfl
      exact ⟨by simp [Decimal.int64Max_eq], rfl⟩
    · refine ⟨by simp, ?_⟩
      simp only [Option.mem_def, Option.some.injEq]
      rintro e rfl
      refine ⟨by simp [Decimal.int64Max_eq], by simp [Decimal.int64Max_eq], ?_, ?_, rfl⟩
      · simp only [Option.mem_def, Option.some.injEq]
        rintro t rfl
        exact ⟨by simp [Decimal.int64Max_eq]⟩
      · simp only [Option.mem_def, Option.some.injEq]
        rintro s rfl
        exact ⟨by simp, by simp [Decimal.int64Max_eq]⟩
  have ht : Text.isBlankText "t" = false := by decide +kernel
  have hu : Text.isBlankText "u" = false := by decide +kernel
  have hce : checkElements "t" ["p"] [] [] [] [draftTask, expireEvent] = .ok () := by
    simp [checkElements, draftTask, expireEvent, hu]
  have hg : Graph.ofDecl expiringModel = .ok expiringGraph := by
    simp only [Graph.ofDecl, expiringModel, ht, List.map_cons, List.map_nil]
    rw [hce]
    rfl
  exact ⟨hfits, hg, decl_json_roundtrip.2.1 _ _ hfits hg⟩

end Workflow.Model
