import WatchLang.Token.Kind
import WatchLang.Text.Place

/-!
# Tokens

A token is a piece of rule text with its kind and with the place where it was found. Nothing ties the
fields together: tokens made by hand may carry any text and any position, and reading works on those too.
-/

set_option autoImplicit false

namespace WatchLang

/-- A classified piece of rule text: the line and the column of its first character, and its bytes. -/
structure Token where
  kind : Kind
  lexeme : String
  line : Nat
  column : Nat
  span : Span
  deriving DecidableEq

namespace Token

/-- The token of a kind for characters that begin at a place. -/
def readAt (place : Place) (kind : Kind) (lexeme : List Char) : Token :=
  ⟨kind, String.ofList lexeme, place.line, place.column, place.upTo (place.through lexeme)⟩

/-- The end of the input at a place. -/
def endAt (place : Place) : Token :=
  readAt place .endOfInput []

/-- A token as it is shown to people: its text in quotation marks, or that the input ends. -/
def shown (t : Token) : String :=
  match t.kind with
  | .endOfInput => t.kind.label
  | _ => "\"" ++ t.lexeme ++ "\""

end Token

end WatchLang
