import WatchLang.Text.Place

/-!
# Lines

Two ways of cutting an input into lines. A page shows a text to people: there a line ends behind every character that
starts a new one and keeps this character, which leaves each byte of the text on one line. That is told as a relation
(`SplitIntoLines`), since it is not said whether a last line without characters counts. `inputLines` serves the input of
a command: bytes, lines ended by a line feed, the terminator dropped together with a carriage return right before it.
-/

set_option autoImplicit false

namespace WatchLang

/-- Whether a character ends a line of a page. -/
def endsPageLine (c : Char) : Bool :=
  ['\n', '\x0b', '\x0c', '\r', '\u0085', '\u2028', '\u2029'].contains c

/-- The characters that end a line of a page before the rest of a text: one that ends lines, or a carriage return and a
line feed, which end the line together. -/
inductive EndsLineBefore (rest : List Char) : List Char → Prop
  | pair : EndsLineBefore rest ['\r', '\n']
  | single {c : Char} (ends : endsPageLine c = true) (apart : c = '\r' → rest.head? ≠ some '\n') :
      EndsLineBefore rest [c]

/-- A text is split into lines behind the characters that end them. What stands behind the last of these is a line
without an end; where nothing stands there, it may be left out. -/
inductive SplitIntoLines : List Char → List (List Char) → Prop
  | nil : SplitIntoLines [] []
  | last {line : List Char} (unbroken : ∀ c ∈ line, endsPageLine c = false) : SplitIntoLines line [line]
  | cons {line ending rest : List Char} {lines : List (List Char)} (unbroken : ∀ c ∈ line, endsPageLine c = false)
      (ends : EndsLineBefore rest ending) (later : SplitIntoLines rest lines) :
      SplitIntoLines (line ++ ending ++ rest) ((line ++ ending) :: lines)

/-- The lines of a command's input. -/
def inputLines : List UInt8 → List (List UInt8)
  | [] => []
  | 13 :: 10 :: bytes => [] :: inputLines bytes
  | 10 :: bytes => [] :: inputLines bytes
  | byte :: bytes =>
    match inputLines bytes with
    | [] => [[byte]]
    | line :: lines => (byte :: line) :: lines

end WatchLang
