import WatchLang.Keyword

/-!
# Rules as trees

A rule that has been read is a `Program`: its statements in the order in which they were written, never
merged or reordered, since whoever runs the rule takes them in sequence. A statement names a subject, adds
a test, or publishes. Names and operands keep the text they were written with; what a number or an address
is worth is for the user of the tree to say.
-/

set_option autoImplicit false

namespace WatchLang

/-- How the two sides of a condition are compared. -/
inductive Comparison
  | equal
  | notEqual
  | greater
  | greaterOrEqual
  | less
  | lessOrEqual
  | contains
  deriving DecidableEq

namespace Comparison

/-- The text of a comparison: its symbol, or the reserved word for containment. -/
def symbol : Comparison → String
  | equal => "=="
  | notEqual => "!="
  | greater => ">"
  | greaterOrEqual => ">="
  | less => "<"
  | lessOrEqual => "<="
  | contains => Keyword.contains.spelling

/-- The comparison with a symbol. A single equals sign means the same as two. -/
def ofSymbol? : String → Option Comparison
  | "==" | "=" => some equal
  | "!=" => some notEqual
  | ">" => some greater
  | ">=" => some greaterOrEqual
  | "<" => some less
  | "<=" => some lessOrEqual
  | _ => none

/-- Every comparison but containment is found under its symbol, equality also under a single equals sign, and nothing
is found under any other text. -/
theorem ofSymbol?_eq_some_iff_symbol {text : String} {c : Comparison} :
    ofSymbol? text = some c ↔ c ≠ contains ∧ text = c.symbol ∨ c = equal ∧ text = "=" := by
  constructor
  · intro found
    unfold ofSymbol? at found
    split at found <;> cases found <;> decide
  · rintro (⟨other, rfl⟩ | ⟨rfl, rfl⟩)
    · cases c
      case contains => exact absurd rfl other
      all_goals rfl
    · rfl

end Comparison

/-- The right side of a condition, as it was written. -/
inductive Operand
  | identifier (text : String)
  | number (text : String)
  | address (text : String)
  deriving DecidableEq

/-- The text of an operand. -/
def Operand.text : Operand → String
  | identifier text | number text | address text => text

/-- A field compared with an operand. -/
structure Condition where
  left : String
  comparison : Comparison
  right : Operand
  deriving DecidableEq

/-- One clause of a rule. -/
inductive Statement
  | subject (role : Role) (name : String)
  | test (connective : Connective) (condition : Condition)
  | publish (target : Target) (channel : String)
  deriving DecidableEq

namespace Statement

/-- The reserved word that a statement begins with. -/
def keyword : Statement → Keyword
  | subject role _ => .subject role
  | test connective _ => .test connective
  | publish _ _ => .publish

/-- The condition of a test. -/
def condition? : Statement → Option Condition
  | test _ condition => some condition
  | subject _ _ | publish _ _ => none

end Statement

/-- A rule: its statements in the order in which they were written. -/
structure Program where
  statements : List Statement
  deriving DecidableEq

end WatchLang
