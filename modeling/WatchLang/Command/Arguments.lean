import WatchLang.Command.Run
import WatchLang.Diagnostic.Drawing

/-!
# Command lines

What the arguments on a command line ask for. They are taken from left to right, and the first that does not fit refuses
the whole line. Two hyphens say that what follows is no option. Where no command is asked for, the line is answered
without running one: with help, with the version, or with how commands are to be written.
-/

set_option autoImplicit false

namespace WatchLang

/-- What a command line comes to: a command to run, or an answer. -/
inductive Request
  | command (command : Command)
  | answer (response : Response)
  deriving DecidableEq

namespace Request

/-- How commands are to be written. -/
def usage : String :=
  "Usage: watchdsl <COMMAND>\n\n" ++
  "  parse <RULE>   Parse a rule and print its syntax tree\n" ++
  "  tokens <RULE>  Print the tokens of a rule with their positions\n" ++
  "  fmt <RULE>     Print a rule in canonical form\n" ++
  "  check          Check rules read from stdin, one per line\n\n" ++
  "A RULE of - is read from stdin.\n"

/-- The answer to a request for help. -/
def help : Request :=
  answer ⟨0, usage, ""⟩

/-- The answer to a request for the version. -/
def version : Request :=
  answer ⟨0, "watchdsl 0.1.0\n", ""⟩

/-- The answer to a line that asks for nothing. -/
def refused : Request :=
  answer ⟨2, "", usage⟩

/-- What an option asks for: help anywhere, and the version where no command has been named yet. Of an option in one
letter only the first letter counts, since it is answered at once. -/
def ofOption (text : String) (versioned : Bool) : Request :=
  match text.toList with
  | '-' :: 'h' :: _ => help
  | '-' :: 'V' :: _ => if versioned then version else refused
  | _ =>
    if text = "--help" then help
    else if text = "--version" && versioned then version
    else refused

/-- Whether an argument is an option: it begins with a hyphen and is not just a hyphen. -/
def isOption (text : String) : Bool :=
  text.toList.head? = some '-' && text ≠ "-"

/-- The value for a command once options have ended: the one met before, or the only argument left. -/
def soleValue? : Option String → List String → Option String
  | value, [] => value
  | none, [value] => some value
  | _, _ => none

/-- The command for a view of a rule, if a rule was given. -/
def ofRule (view : View) (rule : Option String) : Request :=
  (rule.map fun rule => command (.inspect view rule)).getD refused

/-- A command on one rule, from the arguments after its name, with the value met so far. -/
def ofRuleArguments (view : View) : Option String → List String → Request
  | value, [] => ofRule view value
  | value, argument :: later =>
    if argument = "--" then ofRule view (soleValue? value later)
    else if isOption argument then ofOption argument false
    else
      match value with
      | none => ofRuleArguments view (some argument) later
      | some _ => refused

/-- The check, from the arguments after its name: it takes none. -/
def ofCheckArguments : List String → Request
  | [] | ["--"] => command .check
  | argument :: _ => if isOption argument then ofOption argument false else refused

/-- The names of the commands. -/
def names : List String :=
  ["parse", "tokens", "fmt", "check", "help"]

/-- A request for help, from the arguments after its name: none, or the name of one command. No command has others
below it, and here an option is not a name either. -/
def ofHelpArguments : List String → Request
  | [] => help
  | [name] => if name ∈ names then help else refused
  | _ => refused

/-- The request with a name, from the arguments after it. -/
def named (name : String) (arguments : List String) : Request :=
  if name = "parse" then ofRuleArguments .outline none arguments
  else if name = "tokens" then ofRuleArguments .tokens none arguments
  else if name = "fmt" then ofRuleArguments .canonical none arguments
  else if name = "check" then ofCheckArguments arguments
  else if name = "help" then ofHelpArguments arguments
  else refused

/-- What a command line asks for. -/
def ofArguments : List String → Request
  | [] => refused
  | first :: later => if isOption first then ofOption first true else named first later

/-- Whether standard input is read. -/
def readsInput : Request → Bool
  | command asked => asked.readsInput
  | answer _ => false

/-- What a request is answered with, on an input; reports are drawn on a page. -/
def respond (input : List UInt8) : Request → Response
  | command asked => asked.run .onPage input
  | answer response => response

end Request

end WatchLang
