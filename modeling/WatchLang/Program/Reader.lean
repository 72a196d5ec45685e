import WatchLang.Program.Basic
import WatchLang.Reader.Basic
import WatchLang.Token.Tokens

/-!
# Reading rules

From tokens to trees. The kind of the next token alone decides how to go on, so nothing is ever read twice, and
the first token that does not fit ends the reading:

    program    = statement*
    statement  = 'SOURCE' word | 'WATCH' word
               | 'PUBLISH' ('WEBSOCKETS' | 'LOG_PUBLISHER') word
               | ('WHERE' | 'AND' | 'OR') condition
    condition  = word (symbol | 'CONTAINS') (word | digits | address)

Each phrase has a reader. `statements` also keeps what it had completed when it was refused, which is what a record of
the reading needs.
-/

set_option autoImplicit false

namespace WatchLang

namespace Reader

/-- Take a word. -/
def name (phrase : Phrase) : Reader String := do
  let t ← expect [.word] phrase
  return t.lexeme

/-- The kinds that compare. -/
def comparisons : List Kind :=
  [.symbol, .keyword .contains]

/-- The kinds that can stand on the right side of a condition. -/
def operands : List Kind :=
  [.word, .digits, .address]

/-- The kinds of the targets. -/
def targets : List Kind :=
  [.keyword (.target .websockets), .keyword (.target .log)]

/-- The comparison that a token stands for. A symbol of unknown text is refused although its kind was expected. -/
def comparison (t : Token) : Reader Comparison :=
  match t.kind with
  | .keyword .contains => pure .contains
  | _ =>
    match Comparison.ofSymbol? t.lexeme with
    | some c => pure c
    | none => throw (.unexpected .condition comparisons t)

/-- The operand that a token stands for. -/
def operand (t : Token) : Operand :=
  match t.kind with
  | .digits => .number t.lexeme
  | .address => .address t.lexeme
  | _ => .identifier t.lexeme

/-- The target that a token stands for. -/
def target (t : Token) : Target :=
  match t.kind with
  | .keyword (.target target) => target
  | _ => .log

/-- A condition. -/
def condition : Reader Condition := do
  let left ← name .condition
  let sign ← expect comparisons .condition
  let compared ← comparison sign
  let right ← expect operands .condition
  return ⟨left, compared, operand right⟩

/-- A statement that names a subject. -/
def subject (role : Role) : Reader Statement := do
  let _ ← expect [.keyword (.subject role)] (.subject role)
  let named ← name (.subject role)
  return .subject role named

/-- A statement that adds a test. -/
def test (connective : Connective) : Reader Statement := do
  let _ ← expect [.keyword (.test connective)] (.test connective)
  let tested ← condition
  return .test connective tested

/-- A statement that publishes. -/
def publish : Reader Statement := do
  let _ ← expect [.keyword .publish] .publish
  let place ← expect targets .publish
  let channel ← name .publish
  return .publish (target place) channel

/-- A statement of any form, as its first token tells. -/
def statement : Reader Statement := fun cursor =>
  match cursor.head.kind with
  | .keyword (.subject role) => subject role cursor
  | .keyword (.test connective) => test connective cursor
  | .keyword .publish => publish cursor
  | _ => refuse .statement Kind.statementStarts cursor

/-- Reading a name only moves forward. -/
theorem forward_name (phrase : Phrase) : Forward (name phrase) :=
  (forward_expect _ _).bind fun _ => forward_pure _

/-- What a token stands for is found without moving. -/
theorem forward_comparison (t : Token) : Forward (comparison t) := by
  unfold comparison
  split
  · exact forward_pure _
  · split
    · exact forward_pure _
    · exact forward_throw _

/-- Reading a condition only moves forward. -/
theorem forward_condition : Forward condition :=
  (forward_name _).bind fun _ => (forward_expect _ _).bind fun _ =>
    (forward_comparison _).bind fun _ => (forward_expect _ _).bind fun _ => forward_pure _

/-- A statement that is read has taken a token, its keyword. -/
theorem taking_statement : Taking statement := by
  intro cursor value rest h
  unfold statement at h
  split at h
  · exact taking_keyword _ _ (fun _ => (forward_name _).bind fun _ => forward_pure _) _ _ _ h
  · exact taking_keyword _ _ (fun _ => forward_condition.bind fun _ => forward_pure _) _ _ _ h
  · exact taking_keyword _ _ (fun _ => (forward_expect _ _).bind fun _ =>
      (forward_name _).bind fun _ => forward_pure _) _ _ _ h
  · cases h

/-! ## Whole rules -/

/-- What reading statements comes to: those that were completed, what refused the next one, if anything did,
and the cursor there. -/
structure Progress where
  statements : List Statement
  refusal : Option Diagnostic
  rest : Cursor

/-- Read statements for as long as the next token can begin one. -/
def statements (cursor : Cursor) : Progress :=
  if cursor.head.kind.startsStatement then
    match _ : statement cursor with
    | .ok first rest =>
      let later := statements rest
      { later with statements := first :: later.statements }
    | .error diagnostic rest => ⟨[], some diagnostic, rest⟩
  else ⟨[], none, cursor⟩
termination_by cursor.remaining
decreasing_by exact taking_statement _ _ _ ‹_›

/-- Statements up to a token that can begin none. -/
def program : Reader Program := fun cursor =>
  match statements cursor with
  | ⟨read, none, rest⟩ => .ok ⟨read⟩ rest
  | ⟨_, some diagnostic, rest⟩ => .error diagnostic rest

end Reader

/-- The rule that tokens spell. Every token up to the end of the input belongs to a statement. -/
def Program.ofTokens : List Token → Except Diagnostic Program :=
  Reader.onTokens do
    let program ← Reader.program
    Reader.finish .program Kind.statementStarts
    return program

/-- The condition that tokens spell, with nothing after it. -/
def Condition.ofTokens : List Token → Except Diagnostic Condition :=
  Reader.onTokens do
    let condition ← Reader.condition
    Reader.finish .condition []
    return condition

/-- The rule that a text spells. -/
def Program.ofText (text : String) : Except Diagnostic Program := do
  Program.ofTokens (← tokenize text)

/-- The condition that a text spells. -/
def Condition.ofText (text : String) : Except Diagnostic Condition := do
  Condition.ofTokens (← tokenize text)

end WatchLang
