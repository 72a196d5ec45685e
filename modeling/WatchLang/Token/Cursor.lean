import WatchLang.Token.Basic

/-!
# Cursors

What is left of a sequence of tokens, read from the front. A cursor always ends in the end of the input: it
is kept in a field of its own, so there is always a token at the head. Advancing takes the head away unless the
head is the end of the input, which stays however often it is asked for, even where other tokens stand after
it. As a plain list the cursor is `toList`.
-/

set_option autoImplicit false

namespace WatchLang

/-- Tokens still to be read: those ahead, and the last one, which ends the input. -/
structure Cursor where
  ahead : List Token
  last : Token
  last_ends : last.kind = .endOfInput

namespace Cursor

/-- All tokens still to be read. -/
def toList (c : Cursor) : List Token :=
  c.ahead ++ [c.last]

/-- The end of the input as it stands right behind a token. Columns are counted without a bound: a token made by hand
can tell a column from which no machine word counts on, and what happens there is left out. -/
def endBehind (t : Token) : Token :=
  ⟨.endOfInput, "", t.line, t.column + t.lexeme.length, ⟨t.span.stop, t.span.stop⟩⟩

/-- A cursor on a sequence of tokens. Where the sequence does not end in the end of the input, that is added
right behind the last token, or at the beginning of an empty text. -/
def ofList (tokens : List Token) : Cursor :=
  match tokens.getLast? with
  | none => ⟨[], .endAt .beginning, rfl⟩
  | some t =>
    if ends : t.kind = .endOfInput then ⟨tokens.dropLast, t, ends⟩
    else ⟨tokens, endBehind t, rfl⟩

/-- The next token. -/
def head (c : Cursor) : Token :=
  c.ahead.headD c.last

/-- Whether the next token is the end of the input. -/
def atEnd (c : Cursor) : Bool :=
  c.head.kind = .endOfInput

/-- The number of tokens still to be read, the last one included. -/
def remaining (c : Cursor) : Nat :=
  c.toList.length

/-- The cursor behind the next token; the end of the input is never left behind. -/
def tail (c : Cursor) : Cursor :=
  if c.atEnd then c else { c with ahead := c.ahead.tail }

/-- The head is the first token of the list. -/
theorem head?_toList (c : Cursor) : c.toList.head? = some c.head := by
  cases h : c.ahead <;> simp [toList, head, h]

/-- At its end a cursor does not advance. -/
theorem tail_of_atEnd {c : Cursor} (h : c.atEnd = true) : c.tail = c := by
  simp [tail, h]

/-- Away from the end, advancing takes the head off the list. -/
theorem toList_eq_cons {c : Cursor} (h : c.atEnd = false) : c.toList = c.head :: c.tail.toList := by
  cases ha : c.ahead with
  | nil => simp [atEnd, head, ha, c.last_ends] at h
  | cons t ts => simp [tail, h, toList, head, ha]

/-- Away from its end, advancing leaves fewer tokens. -/
theorem remaining_tail_lt {c : Cursor} (h : c.atEnd = false) : c.tail.remaining < c.remaining := by
  simp only [remaining, toList_eq_cons h, List.length_cons]
  omega

/-- Advancing does not leave more tokens. -/
theorem remaining_tail_le (c : Cursor) : c.tail.remaining ≤ c.remaining := by
  cases h : c.atEnd with
  | true => exact Nat.le_of_eq (congrArg remaining (tail_of_atEnd h))
  | false => exact Nat.le_of_lt (remaining_tail_lt h)

end Cursor

end WatchLang
