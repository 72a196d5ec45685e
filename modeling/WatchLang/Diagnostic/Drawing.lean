import WatchLang.Diagnostic.Report
import WatchLang.Text.Blank
import WatchLang.Text.Page
import WatchLang.Text.Width

/-!
# Drawings

A renderer of reports: the line of the page that the label is on, the characters of the label underlined, and an arrow
from their middle to its message. A report is laid out once, as pieces of text with an ink each, which are written with
or without the inks.
-/

set_option autoImplicit false

namespace WatchLang

/-- What a piece of a report is drawn for, and thereby its colour: the error itself, the frame, the margin beside
the arrow, or the rule text around the error. -/
inductive Ink
  | error
  | frame
  | margin
  | surroundings
  deriving DecidableEq

/-- The terminal's code for an ink. -/
def Ink.code : Ink → String
  | error => "31"
  | frame => "38;5;246"
  | margin => "38;5;240"
  | surroundings => "38;5;249"

/-- A piece of a report: its ink, if it has one, and its text. -/
structure Piece where
  ink : Option Ink
  text : String

namespace Piece

/-- A piece without ink. -/
def bare (text : String) : Piece := ⟨none, text⟩

/-- A piece of an ink. -/
def inked (ink : Ink) (text : String) : Piece := ⟨some ink, text⟩

/-- A piece of blank paper of a given width. -/
def space (width : Nat) : Piece := bare (String.ofList (List.replicate width ' '))

/-- The end of a row. -/
def newline : Piece := bare "\n"

/-- A piece for a terminal: the text between the codes that turn its ink on and off. -/
def coloured (p : Piece) : String :=
  match p.ink with
  | none => p.text
  | some ink => "\x1b[" ++ ink.code ++ "m" ++ p.text ++ "\x1b[0m"

end Piece

/-- A character of the rule text as it is drawn: what is written for it, and the cells that it fills. -/
structure Glyph where
  strokes : List String
  width : Nat

namespace Glyph

/-- The columns between two tab stops. -/
def tabWidth : Nat := 4

/-- The glyph of a character at a column: a tab fills up to the next stop, any other blank is a space, and all
else is drawn as it is. -/
def ofChar (c : Char) (column : Nat) : Glyph :=
  if c = '\t' then
    let width := tabWidth - column % tabWidth
    ⟨List.replicate width " ", width⟩
  else if isBlank c then ⟨[" "], 1⟩
  else ⟨[c.toString], cellWidth c⟩

/-- The glyphs of a line, what is blank at its end left out. -/
def ofLine (line : List Char) : List Glyph :=
  (trimEnd line).zipIdx.map fun (c, column) => ofChar c column

end Glyph

/-- The ink that a label is drawn with. -/
def Colour.ink : Colour → Ink
  | red => .error

/-- What a label points at: a line of the page, and the columns on it, counted from zero, from the first that is
meant up to the one behind the last; and the ink that it is drawn with. -/
structure Mark where
  line : PageLine
  first : Nat
  stop : Nat
  ink : Ink

namespace Mark

/-- The mark for bytes of a text. Bytes that begin or end beyond the text cannot be pointed at. -/
def ofSpan? (text : List Char) (span : Span) (ink : Ink) : Option Mark :=
  if span.start ≤ byteLength text ∧ (span.start < span.stop → span.stop ≤ byteLength text + 1) then
    let line := pageLineAt text span.start
    let first := columnAt line.content (span.start - line.offset)
    let stop := if span.start < span.stop then columnAt line.content (span.stop - line.offset) else first
    some ⟨line, first, stop, ink⟩
  else none

/-- The column that the arrow starts from. -/
def middle (m : Mark) : Nat :=
  (m.first + m.stop) / 2

/-- Whether a column is meant. -/
def covers (m : Mark) (column : Nat) : Bool :=
  m.first ≤ column && column < m.stop

/-- The number of columns that the rows below the line fill. -/
def columns (m : Mark) : Nat :=
  m.stop + 2

/-- The cells of these columns: those of the glyphs, and one for each column behind the line. -/
def widths (m : Mark) (glyphs : List Glyph) : List Nat :=
  (glyphs.map Glyph.width ++ List.replicate (m.columns - glyphs.length) 1).take m.columns

/-- A row below the line. Each column gives the piece for its first cell and the piece for its other cells. -/
def row (m : Mark) (glyphs : List Glyph) (column : Nat → Piece × Piece) : List Piece :=
  (m.widths glyphs).zipIdx.flatMap fun (width, i) =>
    match width with
    | 0 => []
    | width + 1 => (column i).1 :: List.replicate width (column i).2

/-- The underline: a bar below each column that is meant, with the start of the arrow below the middle. -/
def underline (m : Mark) (i : Nat) : Piece × Piece :=
  let bar := Piece.inked m.ink "─"
  let blank := Piece.space 1
  if i = m.middle then
    if m.covers i then (.inked m.ink "┬", bar) else (.inked m.ink "│", blank)
  else if m.covers i then (bar, bar)
  else (blank, blank)

/-- The arrow: down from the middle and on to the note. -/
def arrow (m : Mark) (i : Nat) : Piece × Piece :=
  let bar := Piece.inked m.ink "─"
  if i = m.middle then (.inked m.ink "╰", bar)
  else if m.middle < i then (bar, bar)
  else (Piece.space 1, Piece.space 1)

/-- The line of the rule text, the characters that are meant set off by their ink. -/
def source (m : Mark) (glyphs : List Glyph) : List Piece :=
  glyphs.zipIdx.flatMap fun (glyph, i) =>
    glyph.strokes.map (.inked (if m.covers i then m.ink else .surroundings))

/-- The part of a report that shows the text: under a header with a line and a column the line that is pointed at, and a
message at the end of the arrow. -/
def drawing (m : Mark) (place : Nat × Nat) (message : String) : List Piece :=
  let glyphs := Glyph.ofLine m.line.content
  let number := toString m.line.number
  let digits := number.length
  let margin := [Piece.space 1, .inked .margin (String.ofList (List.replicate (digits + 1) ' ') ++ "│"),
    Piece.space 1]
  [Piece.space (digits + 2), .inked .frame "╭", .inked .frame "─", .inked .frame "[",
    .bare (" <unknown>:" ++ toString place.1 ++ ":" ++ toString place.2 ++ " "),
    .inked .frame "]", .newline] ++
  [Piece.space (digits + 2), .inked .frame "│", .newline] ++
  [Piece.space 1, .inked .frame (number ++ " │"), Piece.space 1] ++ m.source glyphs ++ [.newline] ++
  margin ++ m.row glyphs m.underline ++ [.newline] ++
  margin ++ m.row glyphs m.arrow ++ [.bare (" " ++ message), .newline] ++
  [.inked .frame (String.ofList (List.replicate (digits + 2) '─') ++ "╯"), .newline]

end Mark

/-- The word for how grave what is reported is. -/
def Severity.name : Severity → String
  | error => "Error"

/-- The bytes of a part of a text that is told in a unit. -/
def OffsetUnit.bytesOf (unit : OffsetUnit) (cs : List Char) (s : Span) : Span :=
  match unit with
  | bytes => s
  | characters => ⟨byteLength (cs.take s.start), byteLength (cs.take s.stop)⟩

namespace Report

/-- The pieces of a report on a text: the title, and the drawing where the text holds what the label is about. -/
def pieces (r : Report) (cs : List Char) : List Piece :=
  [.inked .error ("[" ++ r.code ++ "] " ++ r.severity.name ++ ":"), .bare (" " ++ r.title), .newline] ++
    match Mark.ofSpan? cs (r.unit.bytesOf cs r.label.range) r.label.colour.ink with
    | some mark => mark.drawing (pagePlaceAt cs (r.unit.bytesOf cs r.range).start) r.label.message
    | none => []

/-- The text of a report, with or without its inks. -/
def drawn (r : Report) (cs : List Char) : String :=
  String.join ((r.pieces cs).map fun piece => if r.coloured then piece.coloured else piece.text)

end Report

/-- The renderer that draws reports on a page. -/
def Renderer.onPage : Renderer where
  lines text := page text.toList
  lineAt text offset := (pageLineAt text.toList offset).number - 1
  write report text := report.drawn text.toList

end WatchLang
