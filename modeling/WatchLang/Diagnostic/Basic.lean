import WatchLang.Text.Quoted
import WatchLang.Token.Basic

/-!
# Diagnostics

Why a rule was refused. There are two causes: no lexeme begins where one has to, or the grammar does not
allow the token that stands next. A diagnostic adds the place to the cause. All wording is in this file: a
report takes the area, the title and the note of a cause, and `Diagnostic.message` is a line of its own that begins
with the place.
-/

set_option autoImplicit false

namespace WatchLang

/-- A phrase of the grammar, named by a diagnostic as what was being read. -/
inductive Phrase
  | program
  | statement
  | subject (role : Role)
  | test (connective : Connective)
  | publish
  | condition
  deriving DecidableEq

/-- The name of a phrase in messages. -/
def Phrase.label : Phrase → String
  | program => "program"
  | statement => "statement"
  | subject .source => "source statement"
  | subject .watch => "watch statement"
  | test .gate => "where statement"
  | test .and => "and statement"
  | test .or => "or statement"
  | publish => "publish statement"
  | condition => "condition"

/-- Why a rule was refused: no lexeme begins with a character, or at the end of the text; or a token of a
kind that the phrase could not go on with. -/
inductive Cause
  | unrecognized (character : Option Char)
  | unexpected (phrase : Phrase) (expected : List Kind) (found : Kind) (lexeme : String)
  deriving DecidableEq

/-- A list of kinds as a choice: nothing, the only one, one or the other, or one of many. -/
def choiceOf : List Kind → String
  | [] => "nothing"
  | [only] => only.label
  | [first, second] => first.label ++ " or " ++ second.label
  | kinds => "one of " ++ String.intercalate ", " (kinds.map Kind.label)

/-- What is said of a character that begins no lexeme. -/
def strayText : Option Char → String
  | some c => "unexpected character " ++ Quoted.character c
  | none => "unexpected end of input"

namespace Cause

/-- The part of the language that a cause belongs to. -/
def area : Cause → String
  | unrecognized _ => "lexical"
  | unexpected .. => "syntax"

/-- A cause in general: which phrase went wrong, if one did. -/
def title : Cause → String
  | unrecognized _ => "unrecognized input"
  | unexpected phrase .. => "invalid " ++ phrase.label

/-- A cause in particular: what stood there, and what could have. -/
def note : Cause → String
  | unrecognized character => strayText character
  | unexpected _ expected found _ => "expected " ++ choiceOf expected ++ ", found " ++ found.label

/-- A cause in one sentence. -/
def account : Cause → String
  | unrecognized character => strayText character
  | unexpected phrase expected found _ =>
    "expected " ++ choiceOf expected ++ " in " ++ phrase.label ++ ", found " ++ found.label

end Cause

/-- The one error of a refused rule: its cause, and the place and the bytes that it is about. -/
structure Diagnostic where
  cause : Cause
  line : Nat
  column : Nat
  span : Span
  deriving DecidableEq

namespace Diagnostic

/-- A token of a kind that was not expected in a phrase. -/
def unexpected (phrase : Phrase) (expected : List Kind) (t : Token) : Diagnostic :=
  ⟨.unexpected phrase expected t.kind t.lexeme, t.line, t.column, t.span⟩

/-- A character at a place where it begins no lexeme. -/
def stray (c : Char) (place : Place) : Diagnostic :=
  ⟨.unrecognized (some c), place.line, place.column, place.upTo (place.past c)⟩

/-- The place, as line and column, and the cause. -/
def message (d : Diagnostic) : String :=
  toString d.line ++ ":" ++ toString d.column ++ ": " ++ d.cause.account

end Diagnostic

end WatchLang
