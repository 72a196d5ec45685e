import WatchLang.Program.Reader

/-!
# Readers call by call

A reader of rules can also be used one phrase at a time, and can be used on after it was refused. The phrases that
can be asked for are values here, so any use of a reader is a list of calls. Each call goes on from the cursor that
the call before it left.
-/

set_option autoImplicit false

namespace WatchLang

/-- A phrase asked for, or the end of the input. -/
inductive Call
  | program
  | statement
  | subject (role : Role)
  | test (connective : Connective)
  | publish
  | condition
  | finish (phrase : Phrase) (expected : List Kind)
  deriving DecidableEq

/-- What a call yields. -/
inductive Answer
  | program (program : Program)
  | statement (statement : Statement)
  | condition (condition : Condition)
  | finished
  deriving DecidableEq

namespace Call

/-- The reader that answers a call. -/
def reader : Call → Reader Answer
  | program => do return .program (← Reader.program)
  | statement => do return .statement (← Reader.statement)
  | subject role => do return .statement (← Reader.subject role)
  | test connective => do return .statement (← Reader.test connective)
  | publish => do return .statement (← Reader.publish)
  | condition => do return .condition (← Reader.condition)
  | finish phrase expected => do
    Reader.finish phrase expected
    return .finished

/-- The answer to a call, and the cursor that it leaves. -/
def answer (cursor : Cursor) (call : Call) : Except Diagnostic Answer × Cursor :=
  match call.reader cursor with
  | .ok value rest => (.ok value, rest)
  | .error diagnostic rest => (.error diagnostic, rest)

/-- The answers to calls made one after the other, and the cursor that they leave. -/
def answerAll (cursor : Cursor) : List Call → List (Except Diagnostic Answer) × Cursor
  | [] => ([], cursor)
  | call :: calls =>
    let answered := call.answer cursor
    let later := answerAll answered.2 calls
    (answered.1 :: later.1, later.2)

end Call

end WatchLang
