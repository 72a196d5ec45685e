import WatchLang.Program.Reader

/-!
# The record of a reading

What an observer hears while a text is read. Cutting the text into tokens is one event, as is each statement
that was completed, and the last event tells how the reading ended; statements completed before a refusal are heard
although the rule as a whole is refused. A condition read by itself is silent after its tokens.
-/

set_option autoImplicit false

namespace WatchLang

/-- How much detail an event is: a step on the way, or an outcome. -/
inductive Level
  | trace
  | debug
  deriving DecidableEq

/-- What an event tells besides its message: how many tokens or statements there were, which reserved word began a
statement, or a diagnostic in words. -/
inductive Particular
  | count (tokens : Nat)
  | keyword (text : String)
  | statements (number : Nat)
  | diagnostic (text : String)
  deriving DecidableEq

/-- An event as an observer is given it. -/
structure Notice where
  level : Level
  message : String
  particular : Particular
  deriving DecidableEq

/-- Something heard during a reading. -/
inductive Event
  | tokenized (count : Nat)
  | notTokenized (diagnostic : Diagnostic)
  | statementRead (keyword : Keyword)
  | ruleRead (statements : Nat)
  | ruleRefused (diagnostic : Diagnostic)
  deriving DecidableEq

namespace Event

/-- The level of an event. -/
def level : Event → Level
  | tokenized _ | statementRead _ => .trace
  | notTokenized _ | ruleRead _ | ruleRefused _ => .debug

/-- An event in words, its particulars apart. -/
def message : Event → String
  | tokenized _ => "tokenized rule text"
  | notTokenized _ => "rejected rule text"
  | statementRead _ => "parsed statement"
  | ruleRead _ => "parsed rule"
  | ruleRefused _ => "rejected rule"

/-- The particulars of an event. -/
def particular : Event → Particular
  | tokenized count => .count count
  | statementRead keyword => .keyword keyword.spelling
  | ruleRead statements => .statements statements
  | notTokenized diagnostic | ruleRefused diagnostic => .diagnostic diagnostic.message

/-- What an observer is given of an event. -/
def notice (e : Event) : Notice :=
  ⟨e.level, e.message, e.particular⟩

/-- The event that ends the reading of a rule. -/
def ofOutcome : Except Diagnostic Program → Event
  | .ok program => ruleRead program.statements.length
  | .error diagnostic => ruleRefused diagnostic

end Event

namespace Trace

/-- What is heard when tokens are read as a rule. -/
def ofTokens (tokens : List Token) : List Event :=
  (Reader.statements (.ofList tokens)).statements.map (.statementRead ·.keyword) ++
    [.ofOutcome (Program.ofTokens tokens)]

/-- What is heard when a text is read as a rule. -/
def ofRule (text : String) : List Event :=
  match tokenize text with
  | .error diagnostic => [.notTokenized diagnostic]
  | .ok tokens => .tokenized tokens.length :: ofTokens tokens

/-- What is heard when a text is read as a condition. -/
def ofCondition (text : String) : List Event :=
  match tokenize text with
  | .error diagnostic => [.notTokenized diagnostic]
  | .ok tokens => [.tokenized tokens.length]

end Trace

end WatchLang
