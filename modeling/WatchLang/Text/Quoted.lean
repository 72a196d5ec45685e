import WatchLang.Text.Combining
import WatchLang.Text.Unprintable

/-!
# Quoted text

Messages and outlines show a character between apostrophes and a text between quotation marks, in such
a way that what was quoted can be read off again. A backslash introduces an escape: five characters have
a letter or sign of their own, the mark that closes the quotation is written behind a backslash, and a
character that cannot be seen or that would join the one before it is written by its code point.
-/

set_option autoImplicit false

namespace WatchLang.Quoted

/-- The code point of a character as an escape, in the fewest lower-case hexadecimal digits. -/
def codePoint (c : Char) : List Char :=
  ['\\', 'u', '\x7b'] ++ Nat.toDigits 16 c.toNat ++ ['\x7d']

/-- How a character is written between two marks of a kind. -/
def escape (mark c : Char) : List Char :=
  if c = '\x00' then ['\\', '0']
  else if c = '\t' then ['\\', 't']
  else if c = '\r' then ['\\', 'r']
  else if c = '\n' then ['\\', 'n']
  else if c = '\\' || c = mark then ['\\', c]
  else if combining.has c || unprintable.has c then codePoint c
  else [c]

/-- A character between apostrophes. -/
def character (c : Char) : String :=
  String.ofList ('\'' :: escape '\'' c ++ ['\''])

/-- A text between quotation marks. -/
def text (s : String) : String :=
  String.ofList ('"' :: s.toList.flatMap (escape '"') ++ ['"'])

end WatchLang.Quoted
