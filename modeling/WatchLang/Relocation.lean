import WatchLang.Token.Scan

/-!
# Relocation

What tokens, stray characters and diagnostics become when their text stands behind another one. Only their
positions change: they move beyond the place where the other text ends.
-/

set_option autoImplicit false

namespace WatchLang

/-- Bytes of a text that begins at an origin. -/
def Span.beyond (origin : Place) (s : Span) : Span :=
  ⟨origin.offset + s.start, origin.offset + s.stop⟩

/-- A token of a text that begins at an origin. -/
def Token.beyond (origin : Place) (t : Token) : Token :=
  let place := origin.beyond ⟨t.span.start, t.line, t.column⟩
  { t with line := place.line, column := place.column, span := t.span.beyond origin }

/-- A diagnostic on a text that begins at an origin. -/
def Diagnostic.beyond (origin : Place) (d : Diagnostic) : Diagnostic :=
  let place := origin.beyond ⟨d.span.start, d.line, d.column⟩
  { d with line := place.line, column := place.column, span := d.span.beyond origin }

/-- An entry of a text that begins at an origin. -/
def Entry.beyond (origin : Place) : Entry → Entry
  | token t => .token (t.beyond origin)
  | stray c place => .stray c (origin.beyond place)

end WatchLang
