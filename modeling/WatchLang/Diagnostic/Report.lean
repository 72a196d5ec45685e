import WatchLang.Diagnostic.Basic
import WatchLang.Text.Lines

/-!
# Reports

A report on a diagnostic is asked of a renderer: which bytes of the rule text it is about, its code and title, and the
label that these bytes are given. How the report is drawn is the renderer's own business, and so is how it divides the
rule text into lines, so a report may count lines further than a diagnostic does. What is relied on of a renderer is
said by `Renderer.Documented`.
-/

set_option autoImplicit false

namespace WatchLang

/-- How grave what is reported is. -/
inductive Severity
  | error
  deriving DecidableEq

/-- What the offsets of a report count. -/
inductive OffsetUnit
  | bytes
  | characters
  deriving DecidableEq

/-- The colour of a label. -/
inductive Colour
  | red
  deriving DecidableEq

/-- A remark on a part of a text. -/
structure Label where
  range : Span
  message : String
  colour : Colour
  deriving DecidableEq

/-- What a renderer is asked to draw: what a report is about, whether it is for a terminal with colours, what its
offsets count, and what it says. -/
structure Report where
  severity : Severity
  range : Span
  coloured : Bool
  unit : OffsetUnit
  code : String
  title : String
  label : Label
  deriving DecidableEq

/-- What draws reports on texts: the lines that it divides a text into, the index of the line that it finds an offset in
bytes on, and what it writes. -/
structure Renderer where
  lines : String → List (List Char)
  lineAt : String → Nat → Nat
  write : Report → String → String

namespace Diagnostic

/-- The report on a diagnostic: about its bytes, which are labelled with the note of the cause. -/
def buildReport (d : Diagnostic) (coloured : Bool) : Report where
  severity := .error
  range := d.span
  coloured := coloured
  unit := .bytes
  code := d.cause.area
  title := d.cause.title
  label := ⟨d.span, d.cause.note, .red⟩

/-- A report on a text without colours. -/
def report (d : Diagnostic) (renderer : Renderer) (text : String) : String :=
  renderer.write (d.buildReport false) text

/-- A report on a text for a terminal. -/
def colouredReport (d : Diagnostic) (renderer : Renderer) (text : String) : String :=
  renderer.write (d.buildReport true) text

end Diagnostic

/-- What is written for a report begins with its title, and under it with a header that names a line and a column. -/
def Report.HeadedBy (r : Report) (place : Nat × Nat) (written : String) : Prop :=
  ∃ margin drawing, written =
    "[" ++ r.code ++ "] Error: " ++ r.title ++ "\n" ++ String.ofList (List.replicate margin ' ') ++
      "╭─[ <unknown>:" ++ toString place.1 ++ ":" ++ toString place.2 ++ " ]\n" ++ drawing

/-- What is relied on of a renderer. -/
structure Renderer.Documented (renderer : Renderer) : Prop where
  /-- A text is split into lines behind the characters that end a line of a page. -/
  splits : ∀ text, SplitIntoLines text.toList (renderer.lines text)
  /-- Behind the last of these characters there is no empty line: only an empty text has one. -/
  no_empty_line : ∀ text, [] ∈ renderer.lines text → text = ""
  /-- An offset within a line is found on this line. -/
  lineAt_within : ∀ text earlier begun more later, renderer.lines text = earlier ++ (begun ++ more) :: later →
    more ≠ [] → renderer.lineAt text (byteLength (earlier.flatten ++ begun)) = earlier.length
  /-- The end of a text is found on the last line. -/
  lineAt_end : ∀ text, renderer.lineAt text (byteLength text.toList) + 1 = (renderer.lines text).length
  /-- Without colours, and where offsets count bytes, a report that labels characters of a text is written under a
  header that names the place of the first of them: the line that it is found on and how many characters stand before
  it on this line, both counted from one. -/
  header : ∀ (report : Report) (text : String) (before pointed after : List Char) (earlier later : List (List Char))
      (begun more : List Char),
    report.coloured = false → report.unit = .bytes → report.label.range = report.range →
    before ++ pointed ++ after = text.toList → report.range = ⟨byteLength before, byteLength (before ++ pointed)⟩ →
    renderer.lines text = earlier ++ (begun ++ more) :: later → earlier.flatten ++ begun = before →
    renderer.lineAt text (byteLength before) = earlier.length →
    report.HeadedBy (earlier.length + 1, begun.length + 1) (renderer.write report text)

end WatchLang
