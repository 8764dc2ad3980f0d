import Workflow.Json.Value

/-!
# JSON の値から型つきの値を取り出す

型が合わないときの文は「`invalid type: 受け取ったもの, expected 期待したもの`」の形をとる。
受け取ったものの書き方は `Unexpected.describe` が決め、二通りある。JSON の値を読むときは
`null` を `null`、double を JSON の数の表記で書く（`UnexpectedStyle.json`）。YAML の設定を
読むときは `unit value` と書き、double は指数を使わない表記に小数点を補って書く
（`UnexpectedStyle.plain`）。

構造体は二つの形から読める。オブジェクトからはキーの昇順にフィールドを読み、
型の誤りがあればそこで止まる。それから宣言順に欠けたフィールドを調べる。
配列からは宣言順に要素を読む。
-/

namespace Workflow.Json

/-- 期待と違っていた値の種類。 -/
inductive Unexpected where
  | bool (b : Bool)
  | unsigned (n : Nat)
  | signed (i : Int)
  | float (f : Float)
  | str (s : String)
  | unit
  | seq
  | map
  /-- 書き方が決まっているもの（128 ビットの整数など）。 -/
  | other (text : String)

/-- 受け取ったものの書き方。 -/
inductive UnexpectedStyle where
  /-- JSON の値を読むとき。 -/
  | json
  /-- YAML の値を読むとき。 -/
  | plain
  deriving BEq

/-- 文字を、引用符つき文字列の中での書き方にする。制御文字は `\u{..}` になる。 -/
def debugChar (c : Char) : String :=
  if c = '"' then "\\\""
  else if c = '\\' then "\\\\"
  else if c = '\n' then "\\n"
  else if c = '\r' then "\\r"
  else if c = '\t' then "\\t"
  else if c.toNat = 0 then "\\0"
  else if c.toNat < 32 ∨ (127 ≤ c.toNat ∧ c.toNat < 160) then
    "\\u\x7b" ++ String.ofList (Nat.toDigits 16 c.toNat) ++ "\x7d"
  else String.singleton c

/-- 引用符で囲み、特別な文字を書き換えた文字列。 -/
def debugQuote (s : String) : String :=
  "\"" ++ s.toList.foldl (fun acc c => acc ++ debugChar c) "" ++ "\""

/-- 受け取ったものの書き方。 -/
def Unexpected.describe (st : UnexpectedStyle) : Unexpected → String
  | .bool b => "boolean `" ++ (if b then "true" else "false") ++ "`"
  | .unsigned n => "integer `" ++ toString n ++ "`"
  | .signed i => "integer `" ++ toString i ++ "`"
  | .float f =>
    match st with
    | .json => "floating point `" ++ Workflow.Decimal.Float.jsonText f ++ "`"
    | .plain => "floating point `" ++ Workflow.Decimal.Float.pointText f ++ "`"
  | .str s => "string " ++ debugQuote s
  | .unit => match st with
    | .json => "null"
    | .plain => "unit value"
  | .seq => "sequence"
  | .map => "map"
  | .other text => text

/-- 値を受け取れなかった理由。 -/
inductive DecodeError where
  | invalidType (u : Unexpected) (expected : String)
  | invalidValue (u : Unexpected) (expected : String)
  | invalidLength (n : Nat) (expected : String)
  | unknownVariant (v : String) (variants : List String)
  | missingField (name : String)
  | custom (msg : String)

/-- 候補の並べ方：`` `a` ``、`` `a` or `b` ``、`` one of `a`, `b`, `c` ``。 -/
def oneOf : List String → String
  | [] => "there are no variants"
  | [a] => "`" ++ a ++ "`"
  | [a, b] => "`" ++ a ++ "` or `" ++ b ++ "`"
  | vs => "one of " ++ ", ".intercalate (vs.map fun v => "`" ++ v ++ "`")

/-- 理由の文。 -/
def DecodeError.message (st : UnexpectedStyle) : DecodeError → String
  | .invalidType u e => "invalid type: " ++ u.describe st ++ ", expected " ++ e
  | .invalidValue u e => "invalid value: " ++ u.describe st ++ ", expected " ++ e
  | .invalidLength n e => "invalid length " ++ toString n ++ ", expected " ++ e
  | .unknownVariant v [] => "unknown variant `" ++ v ++ "`, there are no variants"
  | .unknownVariant v vs => "unknown variant `" ++ v ++ "`, expected " ++ oneOf vs
  | .missingField f => "missing field `" ++ f ++ "`"
  | .custom m => m

/-- 取り出しの結果。 -/
abbrev Decoded (α : Type) := Except DecodeError α

/-- 値の種類。 -/
def Value.unexpected : Value → Unexpected
  | .null => .unit
  | .bool b => .bool b
  | .number (.nat n) => .unsigned n
  | .number (.neg i) => .signed i
  | .number (.float f) => .float f
  | .string s => .str s
  | .array _ => .seq
  | .object _ => .map

/-- 文字列。 -/
def decodeString (v : Value) : Decoded String :=
  match v with
  | .string s => .ok s
  | _ => .error (.invalidType v.unexpected "a string")

/-- 真偽値。 -/
def decodeBool (v : Value) : Decoded Bool :=
  match v with
  | .bool b => .ok b
  | _ => .error (.invalidType v.unexpected "a boolean")

/-- 64 ビット符号つき整数。 -/
def decodeInt (v : Value) : Decoded Int :=
  match v with
  | .number (.nat n) =>
    if n < Nat.pow 2 63 then .ok n else .error (.invalidValue (.unsigned n) "i64")
  | .number (.neg i) => .ok i
  | _ => .error (.invalidType v.unexpected "i64")

/-- `null` なら `none`、それ以外は中身。 -/
def decodeOption {α : Type} (d : Value → Decoded α) (v : Value) : Decoded (Option α) :=
  match v with
  | .null => .ok none
  | _ => (d v).map some

/-- 配列の各要素。 -/
def decodeList {α : Type} (d : Value → Decoded α) (v : Value) : Decoded (List α) :=
  match v with
  | .array xs => xs.mapM d
  | _ => .error (.invalidType v.unexpected "a sequence")

/-- オブジェクトをそのままフィールドの列として。 -/
def decodeMap (v : Value) : Decoded (List (String × Value)) :=
  match v with
  | .object fs => .ok fs
  | _ => .error (.invalidType v.unexpected "a map")

/-- 名前だけの選択肢。文字列か、値が `null` の 1 キーのオブジェクトで書く。 -/
def decodeVariant {α : Type} (variants : List (String × α)) (v : Value) : Decoded α :=
  let pick (name : String) : Decoded α :=
    match variants.find? (·.1 == name) with
    | some (_, a) => .ok a
    | none => .error (.unknownVariant name (variants.map (·.1)))
  match v with
  | .string s => pick s
  | .object [(k, inner)] =>
    match pick k with
    | .error e => .error e
    | .ok a => match inner with
      | .null => .ok a
      | _ => .error (.invalidType inner.unexpected "unit")
  | .object _ => .error (.invalidValue .map "map with a single key")
  | _ => .error (.invalidType v.unexpected "string or map")

/-! ## 構造体 -/

/-- 構造体を読む元。オブジェクトならフィールド、配列なら宣言順の要素。 -/
inductive Fields where
  | named (fs : List (String × Value))
  | positional (items : List Value) (names : List String) (expecting : String)

namespace Fields

/-- 名前のフィールドの値。 -/
def get? (src : Fields) (name : String) : Option Value :=
  match src with
  | .named fs => Value.lookup name fs
  | .positional items names _ =>
    match names.idxOf? name with
    | some i => items[i]?
    | none => none

/-- 欠けていたときの誤り。 -/
def missing (src : Fields) (name : String) : DecodeError :=
  match src with
  | .named _ => .missingField name
  | .positional _ names expecting => .invalidLength (names.idxOf name) expecting

/-- 欠けてはならないフィールド。 -/
def required {α : Type} (src : Fields) (name : String) (d : Value → Decoded α) : Decoded α :=
  match src.get? name with
  | some v => d v
  | none => .error (src.missing name)

/-- 欠けてよいフィールド。欠けていれば `dflt`。 -/
def withDefault {α : Type} (src : Fields) (name : String) (d : Value → Decoded α) (dflt : α) :
    Decoded α :=
  match src.get? name with
  | some v => d v
  | none => .ok dflt

/-- 省略できる値のフィールド。欠けていても `null` でも `none`。 -/
def optional {α : Type} (src : Fields) (name : String) (d : Value → Decoded α) :
    Decoded (Option α) :=
  match src.get? name with
  | some v => decodeOption d v
  | none => .ok none

end Fields

/-- 構造体を読む。`check` はフィールド名ごとの型の検査、`build` は組み立て。
オブジェクトなら、知っているキーを昇順に `check` してから `build` する。
配列なら `build` だけで、要素が余れば誤り。 -/
def decodeStruct {α : Type} (name : String) (names : List String)
    (check : String → Value → Decoded Unit) (build : Fields → Decoded α) (v : Value) : Decoded α :=
  let expecting := "struct " ++ name ++ " with " ++ toString names.length ++ " elements"
  match v with
  | .object fs => do
    for (k, x) in fs do
      if names.contains k then check k x
    build (.named fs)
  | .array items => do
    let r ← build (.positional items names expecting)
    if items.length > names.length then
      throw (.invalidLength items.length "fewer elements in array")
    pure r
  | _ => .error (.invalidType v.unexpected ("struct " ++ name))

end Workflow.Json
