import WatchLang.Text.Lines

/-!
# Pages

A text as the lines of a page, each with its number and with the offset of its first byte, and where on the page a byte
of the text is. An empty text has one line, and behind the last terminator there is none.
-/

set_option autoImplicit false

namespace WatchLang

/-- The lines of a page with their terminators, none for an empty text and none after the last terminator. -/
def cutPage : List Char → List (List Char)
  | [] => []
  | '\r' :: '\n' :: cs => ['\r', '\n'] :: cutPage cs
  | c :: cs =>
    if endsPageLine c then [c] :: cutPage cs
    else
      match cutPage cs with
      | [] => [[c]]
      | line :: lines => (c :: line) :: lines

/-- Cutting a page loses no character. -/
theorem flatten_cutPage (cs : List Char) : (cutPage cs).flatten = cs := by
  fun_induction cutPage cs with
  | case1 => rfl
  | case2 cs ih => simp [ih]
  | case3 c cs _ _ ih => simp [ih]
  | case4 c cs _ _ none ih => rw [none] at ih; simpa using ih
  | case5 c cs _ _ line lines some ih => rw [some] at ih; simpa using ih

/-- The lines of a page; an empty text has one, without characters. -/
def page (cs : List Char) : List (List Char) :=
  match cutPage cs with
  | [] => [[]]
  | lines => lines

/-- A line of a page: its number counted from one, the offset of its first byte, and its characters. -/
structure PageLine where
  number : Nat
  offset : Nat
  content : List Char

/-- Number lines from a given one on. -/
def PageLine.sequence (number offset : Nat) : List (List Char) → List PageLine
  | [] => []
  | line :: lines => ⟨number, offset, line⟩ :: sequence (number + 1) (offset + byteLength line) lines

/-- The line that a byte offset falls on: the last that begins at or before it. -/
def pageLineAt (cs : List Char) (offset : Nat) : PageLine :=
  ((PageLine.sequence 1 0 (page cs)).filter (·.offset ≤ offset)).getLastD ⟨1, 0, []⟩

/-- How many of these characters begin before a byte offset. -/
def columnAt : List Char → Nat → Nat
  | [], _ => 0
  | c :: cs, offset => if offset = 0 then 0 else columnAt cs (offset - c.utf8Size) + 1

/-- The line and the column of a byte offset on the page of a text, both counted from one. -/
def pagePlaceAt (cs : List Char) (offset : Nat) : Nat × Nat :=
  let line := pageLineAt cs offset
  (line.number, columnAt line.content (offset - line.offset) + 1)

end WatchLang
