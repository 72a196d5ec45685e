import WatchLang.Text.Blank
import WatchLang.Text.Place
import WatchLang.Token.Lexeme

/-!
# Raw entries

Lexing takes entries off the front of a text, one after the other and for as long as it can, and leaves out what is
blank before and behind each. An entry is the lexeme that the text begins with, or else a single character, which has
no kind. Behind the last entry nothing may be left over: where something is, lexing fails there. Entries know their
bytes alone; lines and columns are found later.
-/

set_option autoImplicit false

namespace WatchLang

/-- An entry as lexing yields it: its kind, none for a character that begins no lexeme, and its bytes. -/
abbrev RawEntry : Type :=
  Option Kind × Span

/-- What of a text has not been lexed yet, with the offset of its first byte. -/
structure Unread where
  offset : Nat
  text : List Char

namespace Unread

/-- Leave out what is blank at the front. -/
def skipBlanks (u : Unread) : Unread :=
  ⟨u.offset + byteLength (u.text.takeWhile isBlank), u.text.dropWhile isBlank⟩

/-- Take one entry off the front, which is there unless the text is empty: the lexeme that the text begins with if there
is one, and otherwise any character. -/
def entry? (u : Unread) : Option (RawEntry × Unread) :=
  match Lexeme.first? u.text with
  | some l =>
    let stop := u.offset + byteLength l.text
    some ((some l.kind, ⟨u.offset, stop⟩), ⟨stop, l.rest⟩)
  | none =>
    match u.text with
    | [] => none
    | c :: rest =>
      let stop := u.offset + c.utf8Size
      some ((none, ⟨u.offset, stop⟩), ⟨stop, rest⟩)

/-- Take one entry off with what is blank before and behind it. -/
def paddedEntry? (u : Unread) : Option (RawEntry × Unread) :=
  u.skipBlanks.entry?.map fun taken => (taken.1, taken.2.skipBlanks)

/-- Taking an entry off leaves less of a text. -/
theorem length_lt_of_entry? {u later : Unread} {raw : RawEntry} (taken : u.entry? = some (raw, later)) :
    later.text.length < u.text.length := by
  unfold entry? at taken
  split at taken
  · next l cut =>
    cases taken
    exact Lexeme.length_rest_lt cut
  · split at taken
    · cases taken
    · next c rest front =>
      cases taken
      rw [front, List.length_cons]
      exact Nat.lt_succ_self _

/-- Leaving out what is blank does not lengthen a text. -/
theorem length_skipBlanks_le (u : Unread) : u.skipBlanks.text.length ≤ u.text.length :=
  (List.dropWhile_suffix isBlank).length_le

/-- Taking an entry off with the blanks around it leaves less of a text. -/
theorem length_lt_of_paddedEntry? {u later : Unread} {raw : RawEntry} (taken : u.paddedEntry? = some (raw, later)) :
    later.text.length < u.text.length := by
  obtain ⟨⟨_, rest⟩, bare, same⟩ := Option.map_eq_some_iff.1 taken
  obtain rfl : rest.skipBlanks = later := congrArg Prod.snd same
  have shorter := length_lt_of_entry? bare
  have before := u.length_skipBlanks_le
  have behind := rest.length_skipBlanks_le
  omega

/-- Take off as many entries as there are; what is left is unread where no further entry follows. -/
def takeEntries (u : Unread) : List RawEntry × Unread :=
  match _ : u.paddedEntry? with
  | some (raw, rest) =>
    let (raws, left) := rest.takeEntries
    (raw :: raws, left)
  | none => ([], u)
termination_by u.text.length
decreasing_by exact length_lt_of_paddedEntry? ‹_›

end Unread

/-- The raw entries of a text. Lexing succeeds if nothing but blanks is left over behind them, and otherwise tells the
bytes of the characters that it could not go on with. -/
def lex (text : String) : Except (List Span) (List RawEntry) :=
  let (raws, rest) := (Unread.mk 0 text.toList).skipBlanks.takeEntries
  let left := rest.skipBlanks
  match left.text with
  | [] => .ok raws
  | c :: _ => .error [⟨left.offset, left.offset + c.utf8Size⟩]

end WatchLang
