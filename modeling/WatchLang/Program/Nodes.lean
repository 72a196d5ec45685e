import WatchLang.Program.Text

/-!
# The nodes of a tree

A tree as the list of its nodes, each before the nodes inside it and those in the order of the text. Users pick
the nodes they care about from the list. Names and comparisons are not nodes of their own.
-/

set_option autoImplicit false

namespace WatchLang

/-- A node of a tree. -/
inductive Node
  | program (program : Program)
  | statement (statement : Statement)
  | condition (condition : Condition)
  | operand (operand : Operand)
  | target (target : Target)
  deriving DecidableEq

/-- The canonical text of a node. -/
def Node.text : Node → String
  | program p => p.text
  | statement s => s.text
  | condition c => c.text
  | operand o => o.text
  | target t => t.text

/-- An operand has nothing inside it. -/
def Operand.nodes (o : Operand) : List Node :=
  [.operand o]

/-- A target has nothing inside it. -/
def Target.nodes (t : Target) : List Node :=
  [.target t]

/-- A condition, then its right side. -/
def Condition.nodes (c : Condition) : List Node :=
  .condition c :: c.right.nodes

/-- A statement, then its condition or its target if it has one. -/
def Statement.nodes (s : Statement) : List Node :=
  .statement s ::
    match s with
    | .subject _ _ => []
    | .test _ condition => condition.nodes
    | .publish target _ => target.nodes

/-- A program, then its statements in order. -/
def Program.nodes (p : Program) : List Node :=
  .program p :: p.statements.flatMap Statement.nodes

end WatchLang
