import WatchLang.Command.Basic
import WatchLang.Diagnostic.Report
import WatchLang.Program.Outline
import WatchLang.Program.Reader
import WatchLang.Program.Text

/-!
# Running commands

What a command answers, as a function of the bytes on standard input: the exit code and what is written on the two
outputs. A rule that is refused is reported on standard error, by a renderer that is left open. Checking gives a row to
each line that is not blank, with the number of the line, and stops at the first line that is not text.
-/

set_option autoImplicit false

namespace WatchLang

/-- What a command leaves behind. -/
structure Response where
  exit : Nat
  output : String
  errors : String
  deriving DecidableEq

/-- The text that bytes encode, if they are UTF-8. -/
def decode? (bytes : List UInt8) : Option String :=
  String.fromUTF8? ⟨bytes.toArray⟩

/-- What is said of an input that is no text. -/
def unreadable : String :=
  "\x1b[1m\x1b[31merror:\x1b[0m stream did not contain valid UTF-8\n"

/-- The text of a rule: what is given for it, or standard input if that is a hyphen. -/
def ruleText? (rule : String) (input : List UInt8) : Option String :=
  if rule = "-" then decode? input else some rule

/-- A token on a line of its own: its place, its kind and its text. -/
def Token.row (t : Token) : String :=
  toString t.line ++ ":" ++ toString t.column ++ "\t" ++ t.kind.label ++ "\t" ++ t.shown ++ "\n"

/-- A view of the rule that a text spells. -/
def View.display (view : View) (text : String) : Except Diagnostic String :=
  match view with
  | .outline => (Program.ofText text).map fun program => program.outline (.block 0) ++ "\n"
  | .tokens => (tokenize text).map fun tokens => String.join (tokens.map Token.row)
  | .canonical => (Program.ofText text).map fun program => program.text ++ "\n"

/-- What is said of a line of rules: nothing of a blank one, else whether it is a rule. -/
inductive Verdict
  | blank
  | accepted
  | refused (diagnostic : Diagnostic)
  deriving DecidableEq

namespace Verdict

/-- The verdict on the text of a line. -/
def ofLine (text : String) : Verdict :=
  if text.toList.all isBlank then blank
  else
    match Program.ofText text with
    | .ok _ => accepted
    | .error diagnostic => refused diagnostic

/-- The row for the line with a number: green for a rule, yellow for a refusal. -/
def row (number : Nat) : Verdict → String
  | blank => ""
  | accepted => "\x1b[32m" ++ toString number ++ ": ok\x1b[0m\n"
  | refused diagnostic => "\x1b[33m" ++ toString number ++ ": " ++ diagnostic.message ++ "\x1b[0m\n"

/-- Whether a line is fit to stand among rules. -/
def passes : Verdict → Bool
  | blank | accepted => true
  | refused _ => false

end Verdict

/-- The verdicts on the lines of an input up to the first that is no text, and whether all are text. -/
def verdicts : List (List UInt8) → List Verdict × Bool
  | [] => ([], true)
  | line :: lines =>
    match decode? line with
    | none => ([], false)
    | some text =>
      let later := verdicts lines
      (.ofLine text :: later.1, later.2)

/-- The check of an input. -/
def checkInput (input : List UInt8) : Response :=
  let found := verdicts (inputLines input)
  let rows := found.1.zipIdx.map fun (verdict, i) => verdict.row (i + 1)
  ⟨if found.2 && found.1.all Verdict.passes then 0 else 1, String.join rows,
    if found.2 then "" else unreadable⟩

/-- What a command answers to an input. -/
def Command.run (renderer : Renderer) (input : List UInt8) : Command → Response
  | inspect view rule =>
    match ruleText? rule input with
    | none => ⟨1, "", unreadable⟩
    | some text =>
      match view.display text with
      | .ok displayed => ⟨0, displayed, ""⟩
      | .error diagnostic => ⟨1, "", diagnostic.colouredReport renderer text⟩
  | check => checkInput input

end WatchLang
