import WatchLang.Text.Place

/-!
# Walking by byte offsets

Lexing tells where things stand in bytes, and people are told lines and columns. A line cursor turns the one into the
other while it walks forward through a text: asked for an offset, it goes over the characters between the offset that
it has reached and the one asked for, and answers the place there. Pieces of a text are sliced out by offsets as well.
Offsets are meant to lie between two characters and not beyond the end of the text, and to be asked for in order; at
such offsets a slice is made of just the characters that take these bytes (`sliceBytes_append`), and a cursor stands
where going through the whole text up to the offset leads (`advanceTo_eq`).
-/

set_option autoImplicit false

namespace WatchLang

/-- The characters of a text from a byte offset on. -/
def dropBytes : List Char → Nat → List Char
  | [], _ => []
  | c :: cs, offset => if offset = 0 then c :: cs else dropBytes cs (offset - c.utf8Size)

/-- The characters of a text up to a byte offset. -/
def takeBytes : List Char → Nat → List Char
  | [], _ => []
  | c :: cs, offset => if offset = 0 then [] else c :: takeBytes cs (offset - c.utf8Size)

/-- The characters that take some bytes of a text. -/
def sliceBytes (cs : List Char) (s : Span) : List Char :=
  takeBytes (dropBytes cs s.start) (s.stop - s.start)

/-- Behind the bytes of a beginning of a text stands the rest of it. -/
theorem dropBytes_append (before after : List Char) : dropBytes (before ++ after) (byteLength before) = after := by
  induction before with
  | nil => cases after <;> rfl
  | cons c before ih =>
    have size := c.utf8Size_pos
    rw [List.cons_append, byteLength_cons, dropBytes, if_neg (by omega), Nat.add_sub_cancel_left, ih]

/-- The bytes of a beginning of a text are taken by this beginning. -/
theorem takeBytes_append (before after : List Char) : takeBytes (before ++ after) (byteLength before) = before := by
  induction before with
  | nil => cases after <;> rfl
  | cons c before ih =>
    have size := c.utf8Size_pos
    rw [List.cons_append, byteLength_cons, takeBytes, if_neg (by omega), Nat.add_sub_cancel_left, ih]

/-- Characters are sliced out of a text by their bytes. -/
theorem sliceBytes_append (before between after : List Char) :
    sliceBytes (before ++ between ++ after) ⟨byteLength before, byteLength (before ++ between)⟩ = between := by
  rw [sliceBytes, List.append_assoc, dropBytes_append, byteLength_append, Nat.add_sub_cancel_left, takeBytes_append]

/-- A point that has been reached in a text, with the text. -/
structure LineCursor where
  text : List Char
  place : Place

namespace LineCursor

/-- A cursor at the beginning of a text. -/
def atBeginning (text : List Char) : LineCursor :=
  ⟨text, .beginning⟩

/-- Walk on to a byte offset, one character after the other. -/
def advanceTo (cursor : LineCursor) (offset : Nat) : LineCursor :=
  let walked := cursor.place.through (sliceBytes cursor.text ⟨cursor.place.offset, offset⟩)
  { cursor with place := { walked with offset := offset } }

/-- From a point of a text a cursor comes to every later one, at the place where going through the text from its
beginning leads. -/
theorem advanceTo_eq (before between after : List Char) :
    advanceTo ⟨before ++ between ++ after, Place.beginning.through before⟩ (byteLength (before ++ between)) =
      ⟨before ++ between ++ after, Place.beginning.through (before ++ between)⟩ := by
  have start : (Place.beginning.through before).offset = byteLength before := by
    rw [Place.offset_through, Place.beginning, Nat.zero_add]
  have stop : (Place.beginning.through (before ++ between)).offset = byteLength (before ++ between) := by
    rw [Place.offset_through, Place.beginning, Nat.zero_add]
  unfold advanceTo
  rw [start, sliceBytes_append, ← Place.through_append, ← stop]

end LineCursor

end WatchLang
