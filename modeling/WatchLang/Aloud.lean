import WatchLang.Trace

/-!
# Reading aloud

A rule is read aloud when each event is said as it happens, by the step at which it happens: a text says how it
was tokenized, each statement says that it was completed before the next one is looked at, and a rule says last
how it came out. What was said stays said when something is refused later. Such a reading comes to its outcome and to
the events that were said on the way, in their order.
-/

set_option autoImplicit false

namespace WatchLang

/-- What reads aloud, and may refuse. The state is all that was said so far. -/
abbrev Aloud (α : Type) : Type :=
  EStateM Diagnostic (List Event) α

namespace Aloud

/-- Say an event. -/
def say (e : Event) : Aloud Unit :=
  modify (· ++ [e])

/-- The outcome of a reading that begins in silence, and what was said on the way. -/
def heard {α : Type} (reading : Aloud α) : Except Diagnostic α × List Event :=
  match reading [] with
  | .ok a said => (.ok a, said)
  | .error diagnostic said => (.error diagnostic, said)

/-- Cut a text into tokens. -/
def tokens (text : String) : Aloud (List Token) := do
  let cut := tokenize text
  match cut with
  | .ok tokens => say (.tokenized tokens.length)
  | .error diagnostic => say (.notTokenized diagnostic)
  MonadExcept.ofExcept cut

/-- Read statements for as long as the next token can begin one; yield them with the cursor there. -/
def statements (cursor : Cursor) : Aloud (List Statement × Cursor) :=
  if cursor.head.kind.startsStatement then
    match _ : Reader.statement cursor with
    | .ok first rest => do
      say (.statementRead first.keyword)
      let (later, place) ← statements rest
      return (first :: later, place)
    | .error diagnostic _ => throw diagnostic
  else return ([], cursor)
termination_by cursor.remaining
decreasing_by exact Reader.taking_statement _ _ _ ‹_›

/-- Statements with nothing behind them. -/
def program (tokens : List Token) : Aloud Program := do
  let (read, rest) ← statements (.ofList tokens)
  match Reader.finish .program Kind.statementStarts rest with
  | .ok _ _ => return ⟨read⟩
  | .error diagnostic _ => throw diagnostic

/-- Read tokens as a rule. -/
def rule (tokens : List Token) : Aloud Program := do
  let read ← observing (program tokens)
  say (.ofOutcome read)
  MonadExcept.ofExcept read

/-- Read a text as a rule. -/
def ofText (text : String) : Aloud Program := do
  rule (← tokens text)

end Aloud

end WatchLang
