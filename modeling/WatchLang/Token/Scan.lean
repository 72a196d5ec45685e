import WatchLang.Token.Tokens

/-!
# Scanning

The entries of a text in one pass that keeps the place. `scan` goes through a whole text, skips what is blank, and lists
what it meets: tokens, and the characters that begin no lexeme, after each of which it goes on with the next character.
Lexing with a line cursor behind it comes to the same: `lex` yields the bytes and the kinds of these entries, and
`tokenize` accepts a text without stray characters and otherwise tells of the first.
-/

set_option autoImplicit false

namespace WatchLang

/-- What scanning meets: a token, or a character that begins no lexeme. -/
inductive Entry
  | token (token : Token)
  | stray (character : Char) (place : Place)
  deriving DecidableEq

namespace Entry

/-- The bytes of an entry. -/
def span : Entry → Span
  | token t => t.span
  | stray c place => place.upTo (place.past c)

/-- The kind of an entry, if it is a token. -/
def kind? : Entry → Option Kind
  | token t => some t.kind
  | stray _ _ => none

/-- An entry without its text and its line and column: its kind, none for a stray character, and its bytes. -/
def raw (e : Entry) : RawEntry :=
  (e.kind?, e.span)

/-- An entry as a token, refused for a stray character. -/
def asToken : Entry → Except Diagnostic Token
  | token t => .ok t
  | stray c place => .error (.stray c place)

end Entry

/-- The entries of a text that begins at a place. -/
def scan (place : Place) (cs : List Char) : List Entry :=
  match cs with
  | [] => []
  | c :: tail =>
    if isBlank c then scan (place.past c) tail
    else
      match _ : Lexeme.first? (c :: tail) with
      | some l => .token (.readAt place l.kind l.text) :: scan (place.through l.text) l.rest
      | none => .stray c place :: scan (place.past c) tail
termination_by cs.length
decreasing_by
  · simp
  · exact Lexeme.length_rest_lt ‹_›
  · simp

/-- The entries of a whole text. -/
def entries (text : String) : List Entry :=
  scan .beginning text.toList

end WatchLang
