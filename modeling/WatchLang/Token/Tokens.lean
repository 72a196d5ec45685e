import WatchLang.Diagnostic.Basic
import WatchLang.Text.LineCursor
import WatchLang.Token.Raw

/-!
# The tokens of a text

A raw entry becomes a token when its text is sliced out by its bytes and a line cursor has told its line and column. The
cursor goes on from one entry to the next, and at last to the end of the text, where the end of the input is added. The
first entry without a kind is refused instead, for the character at its first byte. If lexing fails, the character where
it failed is refused, or the end of the text; a fresh cursor tells the place.
-/

set_option autoImplicit false

namespace WatchLang

/-- The refusal of a text for the character that begins at a byte offset, if there is one there. -/
def Diagnostic.unexpectedCharacter (cs : List Char) (start : Nat) : Diagnostic :=
  let character := (dropBytes cs start).head?
  let stop := start + (character.map Char.utf8Size).getD 0
  let place := ((LineCursor.atBeginning cs).advanceTo start).place
  ⟨.unrecognized character, place.line, place.column, ⟨start, stop⟩⟩

/-- The tokens for raw entries, from the point that a cursor has reached on, and the end of the input behind them. -/
def tokensFrom (cursor : LineCursor) : List RawEntry → Except Diagnostic (List Token)
  | [] => .ok [.endAt (cursor.advanceTo (byteLength cursor.text)).place]
  | (kind?, span) :: later =>
    let here := cursor.advanceTo span.start
    match kind? with
    | none =>
      .error ⟨.unrecognized (dropBytes cursor.text span.start).head?, here.place.line, here.place.column, span⟩
    | some kind => do
      let lexeme := String.ofList (sliceBytes cursor.text span)
      return ⟨kind, lexeme, here.place.line, here.place.column, span⟩ :: (← tokensFrom here later)

/-- The tokens of a rule text, ended by the end of the input. -/
def tokenize (text : String) : Except Diagnostic (List Token) := do
  let cs := text.toList
  let raws ← (lex text).mapError fun errors =>
    .unexpectedCharacter cs ((errors.head?.map Span.start).getD (byteLength cs))
  tokensFrom (.atBeginning cs) raws

end WatchLang
