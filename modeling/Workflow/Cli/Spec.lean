/-!
# コマンドラインの形

プログラムはサブコマンドをとる。最上位には `-m, --models <MODELS>` があり、値がなければ環境
変数 `BPMNFLOW_MODELS_DIR` を使う。

| サブコマンド | 引数 |
|---|---|
| `process` | `-d, --document <DOCUMENT>`（必須）、`-e, --event <EVENT>`、`-o, --output <OUTPUT>` |
| `eval` | `-d, --document <DOCUMENT>`（必須）、`-e, --event <EVENT>` |
| `models` | なし |
| `events` | `-v, --version <VERSION>`（必須）、`-t, --task <TASK>` |
| `check` | `<FILE>`（必須） |

どこでも `-h, --help` で使い方を示し、最上位では `-V, --version` で版を示す。`help` という
サブコマンドも使い方を示す。

ここでは、引数の宣言と、使い方の文・用法の行の組み立てを定める。
-/

namespace Workflow.Cli

/-- 値の種類：文字列、道筋（空を許さない）、64 ビット符号つき整数。 -/
inductive ValueKind where
  | text
  | path
  | integer
  deriving BEq

/-- 値をとる引数の宣言。位置で渡す引数は短い名前と長い名前を持たない。 -/
structure ArgSpec where
  /-- 識別子。 -/
  id : String
  /-- 短い名前。 -/
  short : Option Char := none
  /-- 長い名前。 -/
  long : Option String := none
  /-- 値の名前（`DOCUMENT`）。 -/
  valueName : String
  /-- 説明。 -/
  help : String
  /-- 必須か。 -/
  required : Bool := false
  /-- 値の種類。 -/
  kind : ValueKind := .text
  /-- 値がないときに読む環境変数。 -/
  env : Option String := none

namespace ArgSpec

/-- 位置で渡す引数か。 -/
def isPositional (a : ArgSpec) : Bool := a.long.isNone && a.short.isNone

/-- 引数の表示：`--document <DOCUMENT>` か `<FILE>`。 -/
def display (a : ArgSpec) : String :=
  match a.long, a.short with
  | some l, _ => "--" ++ l ++ " <" ++ a.valueName ++ ">"
  | none, some s => "-" ++ String.singleton s ++ " <" ++ a.valueName ++ ">"
  | none, none => "<" ++ a.valueName ++ ">"

end ArgSpec

/-- コマンドの宣言。 -/
structure CommandSpec where
  /-- 名前。 -/
  name : String
  /-- 用法に書く名前（`bpmnflow process`）。 -/
  usageName : String
  /-- 説明。 -/
  about : String
  /-- 値をとる引数（位置で渡すものも含む）。 -/
  args : List ArgSpec := []
  /-- サブコマンドの名前と説明。 -/
  subcommands : List (String × String) := []
  /-- `-V, --version` を持つか。 -/
  versionFlag : Bool := false

namespace CommandSpec

/-- 名前で渡す引数。 -/
def options (c : CommandSpec) : List ArgSpec := c.args.filter fun a => !a.isPositional

/-- 位置で渡す引数。 -/
def positionals (c : CommandSpec) : List ArgSpec := c.args.filter ArgSpec.isPositional

/-- 識別子で引数を引く。 -/
def find? (c : CommandSpec) (id : String) : Option ArgSpec := c.args.find? fun a => a.id == id

/-- 長い名前で引数を引く。 -/
def findLong? (c : CommandSpec) (l : String) : Option ArgSpec := c.options.find? fun a => a.long == some l

/-- 短い名前で引数を引く。 -/
def findShort? (c : CommandSpec) (s : Char) : Option ArgSpec := c.options.find? fun a => a.short == some s

/-- 長い名前の一覧（宣言の順、最後に `help` と、あれば `version`）。 -/
def longNames (c : CommandSpec) : List String :=
  c.options.filterMap ArgSpec.long ++ ["help"] ++ (if c.versionFlag then ["version"] else [])

/-- サブコマンドの名前（最後に `help`）。 -/
def subcommandNames (c : CommandSpec) : List String :=
  if c.subcommands.isEmpty then [] else c.subcommands.map (·.1) ++ ["help"]

/-- 用法の行。`[OPTIONS]` は必須でない名前つきの引数があるときに書き、次に必須の引数、
最後にサブコマンドの置き場所を書く。 -/
def helpUsage (c : CommandSpec) : String :=
  let optionsTag := if c.options.any fun a => !a.required then " [OPTIONS]" else ""
  let reqs := (c.options.filter (·.required)).map (" " ++ ·.display) ++
    (c.positionals.filter (·.required)).map (" " ++ ·.display)
  let sub := if c.subcommands.isEmpty then "" else " <COMMAND>"
  c.usageName ++ optionsTag ++ String.join reqs ++ sub

/-- 使われた引数に合わせた用法の行。必須の引数と使われた引数を、名前つき、位置の順に書く。 -/
def smartUsage (c : CommandSpec) (used : List String) : String :=
  let ids := ((c.args.filter (·.required)).map (·.id) ++ used).foldl
    (fun acc i => if acc.contains i then acc else acc ++ [i]) []
  let chosen := ids.filterMap c.find?
  let named := chosen.filter fun a => !a.isPositional
  let positional := c.positionals.filter fun a => chosen.any fun b => b.id == a.id
  let sub := if c.subcommands.isEmpty then "" else " <COMMAND>"
  c.usageName ++ String.join ((named ++ positional).map (" " ++ ·.display)) ++ sub

/-- 空白で埋める。 -/
def pad (n : Nat) : String := String.ofList (List.replicate n ' ')

/-- 説明の欄をそろえた行。 -/
def columns (rows : List (String × String)) : List String :=
  let width := rows.foldl (fun w (l, _) => max w l.length) 0
  rows.map fun (l, r) => "  " ++ l ++ pad (width - l.length) ++ "  " ++ r

/-- 名前つきの引数の行の左側と説明。環境変数があれば、その名前と値を説明に添える。 -/
def optionRow (envValue : String → String) (a : ArgSpec) : String × String :=
  let head := match a.short with
    | some s => "-" ++ String.singleton s ++ ", "
    | none => "    "
  let text := match a.env with
    | some name => a.help ++ " [env: " ++ name ++ "=" ++ envValue name ++ "]"
    | none => a.help
  (head ++ a.display, text)

/-- 使い方の文。`envValue` は環境変数の値（なければ空）。 -/
def helpText (c : CommandSpec) (envValue : String → String) : String :=
  let commands := if c.subcommands.isEmpty then []
    else ["Commands:\n" ++ "\n".intercalate (columns (c.subcommands ++
      [("help", "Print this message or the help of the given subcommand(s)")]))]
  let arguments := if c.positionals.isEmpty then []
    else ["Arguments:\n" ++ "\n".intercalate (columns (c.positionals.map fun a => (a.display, a.help)))]
  let flags := [("-h, --help", "Print help")] ++ (if c.versionFlag then [("-V, --version", "Print version")] else [])
  let rows := c.options.map (optionRow envValue)
  let width := (rows ++ flags).foldl (fun w (l, _) => max w l.length) 0
  let optionLines := (rows ++ flags).map fun (l, r) => "  " ++ l ++ pad (width - l.length) ++ "  " ++ r
  let options := ["Options:\n" ++ "\n".intercalate optionLines]
  c.about ++ "\n\nUsage: " ++ c.helpUsage ++ "\n\n" ++ "\n\n".intercalate (commands ++ arguments ++ options) ++ "\n"

end CommandSpec

/-! ## このプログラムのコマンド -/

/-- 文書の引数。 -/
def documentArg : ArgSpec :=
  { id := "document", short := some 'd', long := some "document", valueName := "DOCUMENT",
    help := "Document JSON (or @file.json to read from file)", required := true }

/-- イベントの引数。 -/
def eventArg (help : String) : ArgSpec :=
  { id := "event", short := some 'e', long := some "event", valueName := "EVENT", help, kind := .integer }

/-- `process` の宣言。 -/
def processSpec : CommandSpec :=
  { name := "process", usageName := "bpmnflow process",
    about := "Process a document's event and print the updated document",
    args := [documentArg, eventArg "Event to process (overrides $eventid)",
      { id := "output", short := some 'o', long := some "output", valueName := "OUTPUT",
        help := "Write the updated document to a file instead of stdout", kind := .path }] }

/-- `eval` の宣言。 -/
def evalSpec : CommandSpec :=
  { name := "eval", usageName := "bpmnflow eval",
    about := "Compute the task a document would reach, without side effects",
    args := [documentArg, eventArg "Event to evaluate (overrides $eventid)"] }

/-- `models` の宣言。 -/
def modelsSpec : CommandSpec :=
  { name := "models", usageName := "bpmnflow models", about := "List registered model versions" }

/-- `events` の宣言。 -/
def eventsSpec : CommandSpec :=
  { name := "events", usageName := "bpmnflow events",
    about := "List the events callable on a task, or all tasks of a model version",
    args := [{ id := "version", short := some 'v', long := some "version", valueName := "VERSION",
               help := "Model version", required := true },
             { id := "task", short := some 't', long := some "task", valueName := "TASK",
               help := "Task id (lists the model's tasks if omitted)", kind := .integer }] }

/-- `check` の宣言。 -/
def checkSpec : CommandSpec :=
  { name := "check", usageName := "bpmnflow check", about := "Validate a model file and print its checksum",
    args := [{ id := "file", valueName := "FILE", help := "Model file", required := true, kind := .path }] }

/-- サブコマンドの宣言。 -/
def subcommandSpecs : List CommandSpec := [processSpec, evalSpec, modelsSpec, eventsSpec, checkSpec]

/-- 最上位の宣言。 -/
def topSpec : CommandSpec :=
  { name := "bpmnflow", usageName := "bpmnflow",
    about := "Advance business documents through BPMN process models",
    args := [{ id := "models", short := some 'm', long := some "models", valueName := "MODELS",
               help := "Directory of model JSON files (overrides the configured directory)",
               kind := .path, env := some "BPMNFLOW_MODELS_DIR" }],
    subcommands := subcommandSpecs.map fun c => (c.name, c.about),
    versionFlag := true }

/-- 版の表示。 -/
def versionText : String := "bpmnflow 0.1.0\n"

end Workflow.Cli
