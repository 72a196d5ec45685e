import WatchLang.Program.Basic
import WatchLang.Text.Quoted

/-!
# Outlines

A tree with all its parts by name, for people who want to see how a rule was read. There are two layouts: on one
line, and as a block with one part a line, four spaces deeper for each level and a comma behind every part. Texts
stand in quotation marks, so an outline shows exactly what a tree holds.
-/

set_option autoImplicit false

namespace WatchLang

/-- How an outline is laid out: on one line, or as a block that begins at a depth. -/
inductive Layout
  | inline
  | block (depth : Nat)
  deriving DecidableEq

namespace Layout

/-- The layout of what is inside a group. -/
def inner : Layout → Layout
  | inline => inline
  | block depth => block (depth + 1)

/-- The spaces before a part at a depth. -/
def indent (depth : Nat) : String :=
  String.ofList (List.replicate (4 * depth) ' ')

/-- Parts between an opening and a closing. On one line the parts stand a gap away from both; without parts
nothing stands between. -/
def group (layout : Layout) (opening gap closing : String) (parts : List String) : String :=
  match layout, parts with
  | _, [] => opening ++ closing
  | inline, parts => opening ++ gap ++ String.intercalate ", " parts ++ gap ++ closing
  | block depth, parts =>
    opening ++ "\n" ++ String.join (parts.map fun part => indent (depth + 1) ++ part ++ ",\n") ++
      indent depth ++ closing

/-- A named record with its fields. -/
def record (layout : Layout) (name : String) (fields : List (String × String)) : String :=
  layout.group (name ++ " \x7b") " " "\x7d" (fields.map fun field => field.1 ++ ": " ++ field.2)

/-- A name with the one value that it wraps. -/
def wrapper (layout : Layout) (name : String) (value : String) : String :=
  layout.group (name ++ "(") "" ")" [value]

/-- A list of values. -/
def list (layout : Layout) (values : List String) : String :=
  layout.group "[" "" "]" values

end Layout

/-- The name of a comparison in outlines. -/
def Comparison.outline : Comparison → String
  | equal => "Equal"
  | notEqual => "NotEqual"
  | greater => "Greater"
  | greaterOrEqual => "GreaterOrEqual"
  | less => "Less"
  | lessOrEqual => "LessOrEqual"
  | contains => "Contains"

/-- The name of a target in outlines. -/
def Target.outline : Target → String
  | websockets => "Websockets"
  | log => "LogPublisher"

/-- The class of an operand around its text. -/
def Operand.outline (layout : Layout) : Operand → String
  | identifier text => layout.wrapper "Identifier" (Quoted.text text)
  | number text => layout.wrapper "Number" (Quoted.text text)
  | address text => layout.wrapper "Address" (Quoted.text text)

/-- A condition with its three parts. -/
def Condition.outline (layout : Layout) (c : Condition) : String :=
  layout.record "Condition"
    [("left", Quoted.text c.left), ("operator", c.comparison.outline),
      ("right", c.right.outline layout.inner)]

/-- The name of a statement that names a subject. -/
def Role.outline : Role → String
  | source => "Source"
  | watch => "Watch"

/-- The name of a statement that adds a test. -/
def Connective.outline : Connective → String
  | gate => "Where"
  | and => "And"
  | or => "Or"

/-- A statement with its parts. -/
def Statement.outline (layout : Layout) : Statement → String
  | subject role name => layout.record role.outline [("name", Quoted.text name)]
  | test connective condition =>
    layout.record connective.outline [("condition", condition.outline layout.inner)]
  | publish target channel =>
    layout.record "Publish" [("target", target.outline), ("channel", Quoted.text channel)]

/-- A program with the list of its statements. -/
def Program.outline (layout : Layout) (p : Program) : String :=
  layout.record "Program"
    [("statements",
      layout.inner.list (p.statements.map fun s => s.outline layout.inner.inner))]

end WatchLang
