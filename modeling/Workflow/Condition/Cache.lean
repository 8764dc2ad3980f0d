import Workflow.Condition.Parser
import Workflow.Condition.Eval

/-!
# 読んだ条件式の控え

条件式の評価器は、読めた式を字面ごとに控えておき、同じ字面を二度は読まない。
控えは結果を変えない。評価の結果は、毎回読み直して評価したものと同じである。
控えの数は、これまでに読めた相異なる字面の数である。
-/

namespace Workflow.Condition

/-- 読んだ条件式の控えをもつ評価器。 -/
structure Evaluator where
  /-- 字面と、読んだ式。 -/
  cache : List (String × Condition) := []

namespace Evaluator

/-- 控えの数。 -/
def cached (ev : Evaluator) : Nat := ev.cache.length

/-- 字面の式を、控えにあればそこから、なければ読んで控える。 -/
def condition (ev : Evaluator) (expr : String) : Except Error Condition × Evaluator :=
  match ev.cache.lookup expr with
  | some c => (.ok c, ev)
  | none =>
    match parse expr with
    | .ok c => (.ok c, { cache := ev.cache ++ [(expr, c)] })
    | .error e => (.error e, ev)

/-- 字面の式を文書について評価する。 -/
def evaluate (ev : Evaluator) (expr : String) (d : Document) : Except Error Bool × Evaluator :=
  let (c, ev') := ev.condition expr
  (c.map (·.eval d), ev')

end Evaluator

end Workflow.Condition
