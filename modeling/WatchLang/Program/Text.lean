import WatchLang.Program.Basic

/-!
# Canonical text

Every rule has one text that is written the same way however the rule was typed: the words of each statement
with single spaces between them, and the statements one after the other on a single line.
-/

set_option autoImplicit false

namespace WatchLang

/-- The left side, the comparison and the right side. -/
def Condition.text (c : Condition) : String :=
  c.left ++ " " ++ c.comparison.symbol ++ " " ++ c.right.text

/-- The reserved word for a target. -/
def Target.text (t : Target) : String :=
  (Keyword.target t).spelling

/-- The reserved word of a statement and what belongs to it. -/
def Statement.text (s : Statement) : String :=
  s.keyword.spelling ++ " " ++
    match s with
    | .subject _ name => name
    | .test _ condition => condition.text
    | .publish target channel => target.text ++ " " ++ channel

/-- The statements with single spaces between them. -/
def Program.text (p : Program) : String :=
  String.intercalate " " (p.statements.map Statement.text)

end WatchLang
