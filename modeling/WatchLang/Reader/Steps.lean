import WatchLang.Reader.Basic

/-!
# Cursors step by step

The ways of using a cursor as values, so that any use of it is a list of steps. Each step has a reply and leaves a
cursor: looking leaves it where it was, advancing moves it unless it is at the end, and expecting does one
or the other.
-/

set_option autoImplicit false

namespace WatchLang.Cursor

/-- A way of using a cursor. -/
inductive Step
  | peek
  | peekKind
  | atEnd
  | remaining
  | advance
  | expect (expected : List Kind) (phrase : Phrase)
  deriving DecidableEq

/-- What a step comes back with. -/
inductive Reply
  | token (token : Token)
  | kind (kind : Kind)
  | truth (value : Bool)
  | count (number : Nat)
  | refusal (diagnostic : Diagnostic)
  deriving DecidableEq

namespace Step

/-- The reply to a step, and the cursor that it leaves. -/
def take (c : Cursor) : Step → Reply × Cursor
  | peek => (.token c.head, c)
  | peekKind => (.kind c.head.kind, c)
  | atEnd => (.truth c.atEnd, c)
  | remaining => (.count c.remaining, c)
  | advance => (.token c.head, c.tail)
  | expect expected phrase =>
    match Reader.expect expected phrase c with
    | .ok t rest => (.token t, rest)
    | .error diagnostic rest => (.refusal diagnostic, rest)

/-- The replies to steps taken one after the other, and the cursor that they leave. -/
def takeAll (c : Cursor) : List Step → List Reply × Cursor
  | [] => ([], c)
  | step :: steps =>
    let taken := step.take c
    let later := takeAll taken.2 steps
    (taken.1 :: later.1, later.2)

end Step

end WatchLang.Cursor
