import WatchLang.Program.Basic
import WatchLang.Token.Lexeme

/-!
# Trees that can be written

A tree may hold any texts. The trees that some rule spells are those whose names are identifiers but no reserved
words, and whose numbers and addresses look like ones; this is decidable.
-/

set_option autoImplicit false

namespace WatchLang

/-- A text that can stand as a name: an identifier that is no reserved word. -/
def IsName (text : String) : Prop :=
  isIdentifier text.toList = true ∧ ∀ k ∈ Keyword.all, text ≠ k.spelling

/-- Whether a text is a name can be decided. -/
instance (text : String) : Decidable (IsName text) :=
  inferInstanceAs (Decidable (_ ∧ _))

/-- An operand whose text fits its class. -/
def Operand.WellFormed : Operand → Prop
  | identifier text => IsName text
  | number text => isDecimal text.toList = true
  | address text => isAddress text.toList = true

/-- Whether an operand is well-formed can be decided. -/
instance (o : Operand) : Decidable o.WellFormed := by
  cases o <;> unfold Operand.WellFormed <;> infer_instance

/-- A condition whose left side is a name and whose right side fits its class. -/
def Condition.WellFormed (c : Condition) : Prop :=
  IsName c.left ∧ c.right.WellFormed

/-- Whether a condition is well-formed can be decided. -/
instance (c : Condition) : Decidable c.WellFormed :=
  inferInstanceAs (Decidable (_ ∧ _))

/-- A statement whose names are names and whose condition is well-formed. -/
def Statement.WellFormed : Statement → Prop
  | subject _ name => IsName name
  | test _ condition => condition.WellFormed
  | publish _ channel => IsName channel

/-- Whether a statement is well-formed can be decided. -/
instance (s : Statement) : Decidable s.WellFormed := by
  cases s <;> unfold Statement.WellFormed <;> infer_instance

/-- A program all of whose statements are well-formed. -/
def Program.WellFormed (p : Program) : Prop :=
  ∀ s ∈ p.statements, s.WellFormed

/-- Whether a program is well-formed can be decided. -/
instance (p : Program) : Decidable p.WellFormed :=
  inferInstanceAs (Decidable (∀ s ∈ p.statements, s.WellFormed))

end WatchLang
