import Workflow.Cli.Spec
import Workflow.Cli.Similar

/-!
# コマンドラインを読む

引数の並びを左から読む。

* 最上位では、サブコマンドの名前が来たらそこで区切り、残りをサブコマンドが読む。値を待つ
  引数のあとでも、サブコマンドの名前はサブコマンドになる。
* `--name` と `--name=value`、`-x` と `-xvalue`（`-x=value`）を受ける。値を別に渡すときは次の
  語が値になるが、`-` で始まる 2 文字以上の語は値にならず、新しい引数として読む。
* `--` のあとはすべて値である。
* 値は、次の引数が来たとき、または最後に確かめる。道筋は空を許さず、整数は 64 ビットに
  収まらなければならない。同じ引数を二度渡すと誤り。
* 知らない引数やサブコマンドは誤りで、似た名前があれば示す。
* `-h, --help` と `help` は使い方を、`-V, --version` は版を示して終わる。何も渡さなければ
  使い方を誤りとして示す。

サブコマンドを読み終えて確かめてから、最上位を確かめる。最後に、値のない必須の引数が
あれば誤りになる。
-/

namespace Workflow.Cli

/-- 引数の誤り。 -/
inductive ArgError where
  /-- 知らない引数。似た引数の名前と、ほかの案内（値として渡す方法、サブコマンドの引数）。 -/
  | unknownArgument (arg : String) (similar : Option String) (tips : List String) (usage : String)
  /-- 知らないサブコマンド。似たサブコマンドの名前。 -/
  | invalidSubcommand (name : String) (similar : List String) (usage : String)
  /-- 知らないサブコマンド（似たものなし）。 -/
  | unrecognizedSubcommand (name : String) (usage : String)
  /-- 必須の引数がない。 -/
  | missingRequired (args : List String) (usage : String)
  /-- サブコマンドがない。 -/
  | missingSubcommand (names : List String) (usage : String)
  /-- 値が正しくない。 -/
  | invalidValue (value arg reason : String)
  /-- 値がない。 -/
  | emptyValue (arg : String)
  /-- 同じ引数を二度渡した。 -/
  | usedTwice (arg : String) (usage : String)
  /-- 値のない必須の引数。 -/
  | missingField (id : String) (usage : String)
  /-- 何も渡されなかった。使い方を示す。 -/
  | nothingGiven (help : String)

/-- 誤りの文を組み立てる：本文、似た名前の案内、ほかの案内、用法。 -/
def errorText (message : String) (similar : Option String) (tips : List String) (usage : Option String) :
    String :=
  let similarLine := match similar with
    | some s => "\n\n  tip: " ++ s
    | none => ""
  let tipLines := if tips.isEmpty then ""
    else (if similar.isSome then "" else "\n") ++ String.join (tips.map ("\n  tip: " ++ ·))
  let usageLines := match usage with
    | some u => "\n\nUsage: " ++ u
    | none => ""
  "error: " ++ message ++ similarLine ++ tipLines ++ usageLines ++ "\n\nFor more information, try '--help'.\n"

/-- 名前を引用符で囲んで並べる。 -/
def quotedList (names : List String) : String :=
  ", ".intercalate (names.map fun n => "'" ++ n ++ "'")

/-- 誤りの文。 -/
def ArgError.text : ArgError → String
  | .unknownArgument arg similar tips usage =>
    errorText ("unexpected argument '" ++ arg ++ "' found")
      (similar.map fun s => "a similar argument exists: '" ++ s ++ "'") tips (some usage)
  | .invalidSubcommand name similar usage =>
    let line := match similar with
      | [s] => "a similar subcommand exists: '" ++ s ++ "'"
      | ss => "some similar subcommands exist: " ++ quotedList ss
    errorText ("unrecognized subcommand '" ++ name ++ "'") (some line)
      ["to pass '" ++ name ++ "' as a value, use 'bpmnflow -- " ++ name ++ "'"] (some usage)
  | .unrecognizedSubcommand name usage =>
    errorText ("unrecognized subcommand '" ++ name ++ "'") none [] (some usage)
  | .missingRequired args usage =>
    errorText ("the following required arguments were not provided:" ++ String.join (args.map ("\n  " ++ ·)))
      none [] (some usage)
  | .missingSubcommand names usage =>
    errorText ("'bpmnflow' requires a subcommand but one was not provided\n  [subcommands: " ++
      ", ".intercalate names ++ "]") none [] (some usage)
  | .invalidValue value arg reason =>
    errorText ("invalid value '" ++ value ++ "' for '" ++ arg ++ "': " ++ reason) none [] none
  | .emptyValue arg => errorText ("a value is required for '" ++ arg ++ "' but none was supplied") none [] none
  | .usedTwice arg usage => errorText ("the argument '" ++ arg ++ "' cannot be used multiple times") none [] (some usage)
  | .missingField id usage =>
    errorText ("The following required argument was not provided: " ++ id) none [] (some usage)
  | .nothingGiven help => help

/-! ## 値 -/

/-- 64 ビット符号つき整数として読む。読めなければ理由を返す。 -/
def parseInt64 (s : String) : Except String Int :=
  let (neg, digits) := match s.toList with
    | '-' :: r => (true, r)
    | '+' :: r => (false, r)
    | r => (false, r)
  if s.isEmpty then .error "cannot parse integer from empty string"
  else if digits.isEmpty then .error "invalid digit found in string"
  else
    let limit : Nat := if neg then Nat.pow 2 63 else Nat.pow 2 63 - 1
    let step := fun (acc : Except String Nat) (c : Char) =>
      match acc with
      | .error e => .error e
      | .ok v =>
        if !c.isDigit then .error "invalid digit found in string"
        else
          let w := v * 10 + (c.toNat - 48)
          if w > limit then
            .error (if neg then "number too small to fit in target type" else "number too large to fit in target type")
          else .ok w
    (digits.foldl step (.ok 0)).map fun v => if neg then -(v : Int) else v

/-- 値を確かめる。 -/
def checkValue (a : ArgSpec) (raw : String) : Except ArgError Unit :=
  match a.kind with
  | .text => .ok ()
  | .path => if raw.isEmpty then .error (.emptyValue a.display) else .ok ()
  | .integer =>
    match parseInt64 raw with
    | .ok _ => .ok ()
    | .error reason => .error (.invalidValue raw a.display reason)

/-! ## 読み進める -/

/-- 読んでいる途中の状態。 -/
structure Matches where
  /-- 受け取った引数と値（値がなければ `none`）。受け取った順。 -/
  values : List (String × Option String) := []
  /-- 値を待っている（`none`）、または値をまだ確かめていない引数。 -/
  pending : Option (ArgSpec × Option String) := none
  /-- 受け取った位置の引数の数。 -/
  filled : Nat := 0
  /-- `--` のあとか。 -/
  trailing : Bool := false

/-- 受け取った引数の識別子。 -/
def Matches.used (m : Matches) : List String := m.values.map (·.1)

/-- 引数を受け取る。 -/
def record (c : CommandSpec) (m : Matches) (a : ArgSpec) (v : Option String) : Except ArgError Matches := do
  if m.used.contains a.id then throw (.usedTwice a.display c.helpUsage)
  match v with
  | some raw => checkValue a raw
  | none => pure ()
  pure { m with values := m.values ++ [(a.id, v)] }

/-- 保留中の引数を受け取る。 -/
def resolvePending (c : CommandSpec) (m : Matches) : Except ArgError Matches :=
  match m.pending with
  | none => .ok m
  | some (a, v) => record c { m with pending := none } a v

/-- 保留中の引数を受け取る。誤りなら捨てる。 -/
def dropPending (c : CommandSpec) (m : Matches) : Matches :=
  match resolvePending c m with
  | .ok m => m
  | .error _ => { m with pending := none }

/-- 次の引数を受け取る前に保留中のものを受け取り、引数を受け取る。 -/
def react (c : CommandSpec) (m : Matches) (a : ArgSpec) (v : Option String) : Except ArgError Matches := do
  record c (← resolvePending c m) a v

/-- 読んだ結果。 -/
inductive Step where
  /-- 語を読み終えた。 -/
  | done (m : Matches)
  /-- サブコマンドの名前に来た。 -/
  | sub (m : Matches) (name : String) (rest : List String)
  /-- 表示して終わる（使い方か版）。 -/
  | show (text : String)

/-- `help` サブコマンドの使い方。 -/
def helpCommandText : String :=
  "Print this message or the help of the given subcommand(s)\n\nUsage: bpmnflow help [COMMAND]...\n\n" ++
  "Arguments:\n  [COMMAND]...  Print help for the subcommand(s)\n"

/-- `help` のあとの名前をたどって使い方を示す。 -/
def helpFor (envValue : String → String) : CommandSpec → List String → Except ArgError Step
  | c, [] => .ok (.show (c.helpText envValue))
  | c, name :: rest =>
    if name == "help" && !c.subcommands.isEmpty then
      match rest with
      | [] => .ok (.show helpCommandText)
      | n :: _ => .error (.unrecognizedSubcommand n "bpmnflow help [COMMAND]...")
    else
      match (if c.subcommands.isEmpty then none else subcommandSpecs.find? (·.name == name)) with
      | some s => helpFor envValue s rest
      | none => .error (.unrecognizedSubcommand name c.helpUsage)

/-- 値として渡す方法の案内。 -/
def asValueTip (arg : String) : String :=
  "to pass '" ++ arg ++ "' as a value, use '-- " ++ arg ++ "'"

/-- 残りの語に名前が出てくるサブコマンドのうち、`name` に似た長い名前を持つもの。いちばん前に
出てくるサブコマンドを選び、そのサブコマンドの名前と似た名前を返す。 -/
def subcommandLong? (c : CommandSpec) (name : String) (rest : List String) : Option (String × String) :=
  let found := (if c.subcommands.isEmpty then [] else subcommandSpecs).filterMap fun s =>
    match mostSimilar? name s.longNames, rest.idxOf? s.name with
    | some l, some i => some (i, s.name, l)
    | _, _ => none
  let best := found.foldl (fun acc x =>
    match acc with
    | some y => if x.1 < y.1 then some x else some y
    | none => some x) none
  best.map fun (_, sub, l) => (sub, l)

/-- 知らない長い名前の誤り。このコマンドに似た名前がなければ、あとに続くサブコマンドの引数から
似た名前を探す。`rest` はその語より後ろの語。 -/
def unknownLong (c : CommandSpec) (m : Matches) (name : String) (rest : List String) : ArgError :=
  let m := dropPending c m
  let similar := mostSimilar? name c.longNames
  let suggested := match similar with
    | some s => (c.findLong? s).map (·.id) |>.toList
    | none => []
  let used := m.used ++ suggested
  let usage := if used.isEmpty then c.helpUsage else c.smartUsage used
  let arg := "--" ++ name
  match similar with
  | some s => .unknownArgument arg (some ("--" ++ s)) [] usage
  | none =>
    let valueTip := if !m.trailing && !c.positionals.isEmpty then [asValueTip arg] else []
    match subcommandLong? c name rest with
    | some (sub, l) => .unknownArgument arg none (["'" ++ sub ++ " --" ++ l ++ "' exists"]) usage
    | none => .unknownArgument arg none valueTip usage

/-- 置き場所のない値の誤り。 -/
def strayValue (c : CommandSpec) (m : Matches) (tok : String) : ArgError :=
  if c.subcommands.isEmpty || m.trailing then .unknownArgument tok none [] c.helpUsage
  else
    match similarNames tok c.subcommandNames with
    | [] => .unrecognizedSubcommand tok c.helpUsage
    | similar => .invalidSubcommand tok similar c.helpUsage

/-- 語を左から読む。 -/
def scan (c : CommandSpec) (envValue : String → String) : List String → Matches → Except ArgError Step
  | [], m => .ok (.done m)
  | tok :: rest, m =>
    if !m.trailing && c.subcommandNames.contains tok then
      if tok == "help" then helpFor envValue c rest else .ok (.sub m tok rest)
    else if !m.trailing && tok == "--" then scan c envValue rest { m with trailing := true }
    else if !m.trailing && tok.startsWith "--" then
      let body := (tok.drop 2).toString
      let (name, attached) := match body.splitOn "=" with
        | [n] => (n, none)
        | n :: vs => (n, some ("=".intercalate vs))
        | [] => (body, none)
      if name == "help" then (resolvePending c m).map fun _ => .show (c.helpText envValue)
      else if name == "version" && c.versionFlag then (resolvePending c m).map fun _ => .show versionText
      else
        match c.findLong? name with
        | some a =>
          match attached with
          | some v => do scan c envValue rest (← react c m a (some v))
          | none => do
            let m ← resolvePending c m
            scan c envValue rest { m with pending := some (a, none) }
        | none => .error (unknownLong c m name rest)
    else if !m.trailing && tok.startsWith "-" && tok.length > 1 then
      match tok.toList.drop 1 with
      | [] => .error (strayValue c m tok)
      | ch :: after =>
        if ch == 'h' then (resolvePending c m).map fun _ => .show (c.helpText envValue)
        else if ch == 'V' && c.versionFlag then (resolvePending c m).map fun _ => .show versionText
        else
          match c.findShort? ch with
          | some a =>
            if after.isEmpty then do
              let m ← resolvePending c m
              scan c envValue rest { m with pending := some (a, none) }
            else
              let v := match after with
                | '=' :: r => String.ofList r
                | r => String.ofList r
              do scan c envValue rest (← react c m a (some v))
          | none =>
            let m := dropPending c m
            let arg := "-" ++ String.singleton ch
            .error (.unknownArgument arg none
              (if !m.trailing && !c.positionals.isEmpty then [asValueTip arg] else []) c.helpUsage)
    else
      match m.pending with
      | some (a, none) => scan c envValue rest { m with pending := some (a, some tok) }
      | _ =>
        match c.positionals[m.filled]? with
        | some a => do
          let m ← resolvePending c m
          scan c envValue rest { m with pending := some (a, some tok), filled := m.filled + 1 }
        | none => .error (strayValue c (dropPending c m) tok)

/-- 読み終えたコマンドを確かめる。値を待ったまま終われば誤り、必須の引数がなければ誤り。 -/
def finishCommand (c : CommandSpec) (m : Matches) : Except ArgError Matches := do
  let awaiting := match m.pending with
    | some (a, none) => some a
    | _ => none
  let m ← resolvePending c m
  if let some a := awaiting then throw (.emptyValue a.display)
  let missing := c.args.filter fun a => a.required && !m.used.contains a.id
  if !missing.isEmpty then
    throw (.missingRequired (missing.map (·.display)) (c.smartUsage (m.used ++ missing.map (·.id))))
  pure m

/-- 最上位を確かめる。値のない引数には環境変数の値を使う。 -/
def finishTop (env : String → Option String) (envValue : String → String) (m : Matches) (hasSub : Bool) :
    Except ArgError Matches := do
  let c := topSpec
  let awaiting := match m.pending with
    | some (a, none) => some a
    | _ => none
  let m ← resolvePending c m
  let m ← c.args.foldlM (fun m a =>
    match a.env.bind env with
    | some v => if m.used.contains a.id then pure m else record c m a (some v)
    | none => pure m) m
  if let some a := awaiting then throw (.emptyValue a.display)
  if !hasSub then
    if m.values.isEmpty then throw (.nothingGiven (c.helpText envValue))
    throw (.missingSubcommand c.subcommandNames c.helpUsage)
  pure m

/-! ## 呼び出し -/

/-- サブコマンドと、その引数。 -/
inductive Command where
  | process (document : String) (event : Option Int) (output : Option String)
  | eval (document : String) (event : Option Int)
  | models
  | events (version : String) (task : Option Int)
  | check (file : String)

/-- 読み取った呼び出し。 -/
structure Invocation where
  /-- `--models` で渡したディレクトリ。 -/
  models : Option String
  command : Command

/-- コマンドラインを読んだ結果。 -/
inductive Parsed where
  /-- 実行する。 -/
  | run (inv : Invocation)
  /-- 標準出力に示して正常に終わる。 -/
  | show (text : String)
  /-- 標準エラーに示して、引数の誤りとして終わる。 -/
  | reject (text : String)

/-- 引数の値。 -/
def Matches.value? (m : Matches) (key : String) : Option String :=
  (m.values.lookup key).bind fun v => v

/-- 必須の文字列の値。値がなければ誤り。 -/
def Matches.required (m : Matches) (id : String) : Except ArgError String :=
  match m.value? id with
  | some v => .ok v
  | none => .error (.missingField id topSpec.helpUsage)

/-- 整数の値。 -/
def Matches.integer? (m : Matches) (id : String) : Option Int :=
  (m.value? id).bind fun v => (parseInt64 v).toOption

/-- サブコマンドの引数から呼び出しを作る。 -/
def commandOf (name : String) (m : Matches) : Except ArgError Command :=
  match name with
  | "process" => do pure (.process (← m.required "document") (m.integer? "event") (m.value? "output"))
  | "eval" => do pure (.eval (← m.required "document") (m.integer? "event"))
  | "events" => do pure (.events (← m.required "version") (m.integer? "task"))
  | "check" => do pure (.check (← m.required "file"))
  | _ => pure .models

/-- コマンドラインを読む。`env` は環境変数の値を引く。 -/
def parseArgs (args : List String) (env : String → Option String) : Parsed :=
  let envValue := fun name => (env name).getD ""
  let outcome : Except ArgError Parsed := do
    match ← scan topSpec envValue args {} with
    | .show text => pure (.show text)
    | .done m =>
      let _ ← finishTop env envValue m false
      pure (.reject "")
    | .sub m name rest =>
      let spec := (subcommandSpecs.find? (·.name == name)).getD modelsSpec
      match ← scan spec envValue rest {} with
      | .show text => pure (.show text)
      | .sub sm _ _ | .done sm =>
        let sm ← finishCommand spec sm
        let top ← finishTop env envValue m true
        let command ← commandOf name sm
        pure (.run { models := top.value? "models", command })
  match outcome with
  | .ok p => p
  | .error e => .reject e.text

end Workflow.Cli
