/-!
# Places in a text

A rule is a list of characters, and everything the language says about it says where. A `Place` names
one point between two characters in the two ways that readers need: as a byte offset into the UTF-8
form of the text, and as a line and a column counted from one. `Place.past` moves over one character
and `Place.through` over many, so the place of any point is the beginning moved through what stands
before it. Only a line feed ends a line here; every other character, a carriage return included, moves
one column on. `Place.beyond` places a text behind another one, and `beyond_beginning_through` says that
this is the same as going on.
-/

set_option autoImplicit false

namespace WatchLang

/-- A half-open range of byte offsets into the UTF-8 form of a text. -/
structure Span where
  start : Nat
  stop : Nat
  deriving DecidableEq

/-- A point of a text: its byte offset, its line and its column, the last two counted from one. -/
structure Place where
  offset : Nat
  line : Nat
  column : Nat
  deriving DecidableEq

/-- The number of bytes that characters take in UTF-8. -/
def byteLength (cs : List Char) : Nat :=
  cs.foldr (fun c length => c.utf8Size + length) 0

/-- No characters have no bytes. -/
@[simp] theorem byteLength_nil : byteLength [] = 0 := rfl

/-- The bytes of a first character come before those of the others. -/
@[simp] theorem byteLength_cons (c : Char) (cs : List Char) :
    byteLength (c :: cs) = c.utf8Size + byteLength cs := rfl

/-- The bytes of two texts add up. -/
@[simp] theorem byteLength_append (cs ds : List Char) :
    byteLength (cs ++ ds) = byteLength cs + byteLength ds := by
  induction cs with
  | nil => rw [List.nil_append, byteLength_nil, Nat.zero_add]
  | cons c cs ih => rw [List.cons_append, byteLength_cons, byteLength_cons, ih, Nat.add_assoc]

namespace Place

/-- The point before the first character. -/
def beginning : Place := ⟨0, 1, 1⟩

/-- The point after one more character: a line feed opens the next line, all else is one column on. -/
def past (p : Place) (c : Char) : Place :=
  if c = '\n' then ⟨p.offset + c.utf8Size, p.line + 1, 1⟩
  else ⟨p.offset + c.utf8Size, p.line, p.column + 1⟩

/-- The point after some more characters. -/
def through (p : Place) (cs : List Char) : Place :=
  cs.foldl past p

/-- The bytes from one point up to a later one. -/
def upTo (p q : Place) : Span := ⟨p.offset, q.offset⟩

/-- Where a place of a text comes to lie when the text begins at an origin: later by the bytes and the lines
before the origin, and on the first line also by the columns. -/
def beyond (origin p : Place) : Place :=
  ⟨origin.offset + p.offset, origin.line + (p.line - 1),
    if p.line = 1 then origin.column + (p.column - 1) else p.column⟩

/-- Moving through no characters stays at a place. -/
@[simp] theorem through_nil (p : Place) : p.through [] = p := rfl

/-- Moving through characters is moving past the first and then through the others. -/
@[simp] theorem through_cons (p : Place) (c : Char) (cs : List Char) :
    p.through (c :: cs) = (p.past c).through cs := rfl

/-- Moving through two texts is moving through one and then the other. -/
@[simp] theorem through_append (p : Place) (cs ds : List Char) :
    p.through (cs ++ ds) = (p.through cs).through ds := by
  simp [through]

/-- Moving past a character moves the offset by its bytes. -/
@[simp] theorem offset_past (p : Place) (c : Char) : (p.past c).offset = p.offset + c.utf8Size := by
  unfold past; split <;> rfl

/-- Moving through characters moves the offset by their bytes. -/
@[simp] theorem offset_through (p : Place) (cs : List Char) :
    (p.through cs).offset = p.offset + byteLength cs := by
  induction cs generalizing p with
  | nil => simp
  | cons c cs ih => simp [ih, Nat.add_assoc]

/-- A text beyond an origin begins at the origin. -/
@[simp] theorem beyond_beginning (origin : Place) : origin.beyond beginning = origin := rfl

/-- Lines are still counted from one behind a character. -/
theorem line_past_pos {p : Place} (h : 0 < p.line) (c : Char) : 0 < (p.past c).line := by
  unfold past; split
  · exact Nat.succ_pos _
  · exact h

/-- Columns are counted from one behind a character. -/
theorem column_past_pos (p : Place) (c : Char) : 0 < (p.past c).column := by
  unfold past; split
  · exact Nat.one_pos
  · exact Nat.succ_pos _

/-- Lines are still counted from one behind some characters. -/
theorem line_through_pos {p : Place} (h : 0 < p.line) (cs : List Char) : 0 < (p.through cs).line := by
  induction cs generalizing p with
  | nil => exact h
  | cons c cs ih => exact ih (line_past_pos h c)

/-- Columns are still counted from one behind some characters. -/
theorem column_through_pos {p : Place} (h : 0 < p.column) (cs : List Char) : 0 < (p.through cs).column := by
  induction cs generalizing p with
  | nil => exact h
  | cons c cs ih => exact ih (column_past_pos p c)

/-- Moving past a character and lying beyond an origin can be exchanged. -/
theorem beyond_past (origin : Place) {p : Place} (line : 0 < p.line) (column : 0 < p.column) (c : Char) :
    origin.beyond (p.past c) = (origin.beyond p).past c := by
  unfold beyond past
  split
  · have later : p.line + 1 ≠ 1 := by omega
    simp only [Place.mk.injEq, if_neg later]
    exact ⟨by omega, by omega, trivial⟩
  · simp only [Place.mk.injEq]
    refine ⟨by omega, trivial, ?_⟩
    split <;> omega

/-- Moving through characters and lying beyond an origin can be exchanged. -/
theorem beyond_through (origin : Place) {p : Place} (line : 0 < p.line) (column : 0 < p.column)
    (cs : List Char) : origin.beyond (p.through cs) = (origin.beyond p).through cs := by
  induction cs generalizing p with
  | nil => rfl
  | cons c cs ih =>
    rw [through_cons, ih (line_past_pos line c) (column_past_pos p c), beyond_past origin line column]
    rfl

/-- Going through a text beyond an origin is going on from the origin. -/
theorem beyond_beginning_through (origin : Place) (cs : List Char) :
    origin.beyond (beginning.through cs) = origin.through cs := by
  rw [beyond_through origin Nat.one_pos Nat.one_pos, beyond_beginning]

end Place

end WatchLang
