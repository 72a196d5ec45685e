import WatchLang.Program.Basic
import WatchLang.Token.Basic

/-!
# Renaming

Names, numbers and addresses are only carried through a reading, so other texts can be written for them. A renaming
says which; it acts on tokens by their kind and on trees by the class of the text, and where tokens stand plays no
part in it.
-/

set_option autoImplicit false

namespace WatchLang

/-- What to write for names, for numbers and for addresses. -/
structure Renaming where
  name : String → String
  number : String → String
  address : String → String

/-- Every text stays as it is. -/
def Renaming.identity : Renaming := ⟨id, id, id⟩

/-- The new text of a token of a kind; symbols and reserved words keep theirs. -/
def Renaming.text (r : Renaming) : Kind → String → String
  | .word => r.name
  | .digits => r.number
  | .address => r.address
  | _ => id

/-- An operand renamed by its class. -/
def Operand.rename (r : Renaming) : Operand → Operand
  | identifier text => identifier (r.name text)
  | number text => number (r.number text)
  | address text => address (r.address text)

/-- A condition renamed: its left side and its operand. -/
def Condition.rename (r : Renaming) (c : Condition) : Condition :=
  ⟨r.name c.left, c.comparison, c.right.rename r⟩

/-- A statement renamed: its name, its condition or its channel. -/
def Statement.rename (r : Renaming) : Statement → Statement
  | subject role name => subject role (r.name name)
  | test connective condition => test connective (condition.rename r)
  | publish target channel => publish target (r.name channel)

/-- A program renamed, statement by statement. -/
def Program.rename (r : Renaming) (p : Program) : Program :=
  ⟨p.statements.map (·.rename r)⟩

/-- A token that is another one renamed, wherever it stands. -/
def Token.RenamedTo (r : Renaming) (t t' : Token) : Prop :=
  t'.kind = t.kind ∧ t'.lexeme = r.text t.kind t.lexeme

/-- The identity renames an operand to itself. -/
@[simp] theorem Operand.rename_identity (o : Operand) : o.rename .identity = o := by
  cases o <;> rfl

/-- The identity renames a condition to itself. -/
@[simp] theorem Condition.rename_identity (c : Condition) : c.rename .identity = c := by
  rw [rename, Operand.rename_identity]
  rfl

/-- The identity renames a statement to itself. -/
@[simp] theorem Statement.rename_identity (s : Statement) : s.rename .identity = s := by
  cases s with
  | subject role name => rfl
  | test connective condition => rw [rename, Condition.rename_identity]
  | publish target channel => rfl

/-- The identity renames a program to itself. -/
@[simp] theorem Program.rename_identity (p : Program) : p.rename .identity = p := by
  simp [rename]

/-- The identity renames a token to itself. -/
theorem Token.renamedTo_identity (t : Token) : t.RenamedTo .identity t := by
  refine ⟨rfl, ?_⟩
  cases t.kind <;> rfl

end WatchLang
