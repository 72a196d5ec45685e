/-!
# Commands

What can be done with rules from outside. Three commands show a view of one rule, which is given with the command or,
if a single hyphen is given instead, stands on standard input; a fourth checks the lines of standard input.
-/

set_option autoImplicit false

namespace WatchLang

/-- What is to be shown of a rule: its outline, its tokens, or its canonical text. -/
inductive View
  | outline
  | tokens
  | canonical
  deriving DecidableEq

/-- What is to be done. -/
inductive Command
  | inspect (view : View) (rule : String)
  | check
  deriving DecidableEq

/-- Whether standard input is read. -/
def Command.readsInput : Command → Bool
  | inspect _ rule => rule = "-"
  | check => true

end WatchLang
