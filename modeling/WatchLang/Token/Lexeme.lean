import WatchLang.Token.Kind

/-!
# Lexemes

What a lexeme looks like, and which lexeme a text begins with. The letters, digits and low lines of ASCII
are the characters of words. A run of them stands or falls as a whole: it is an identifier, a decimal or an
address, or no lexeme begins there, because a literal may not run into more characters of words. The
other lexemes are the comparison symbols, of which the longer one wins. `Lexeme.first?` cuts the lexeme off the
front of a text, and `text_append_rest` says that the cut loses nothing.
-/

set_option autoImplicit false

namespace WatchLang

/-- The characters of identifiers and of literals. -/
def isWordChar (c : Char) : Bool :=
  c.isAlphanum || c == '_'

/-- The characters that an identifier can begin with. -/
def isWordStart (c : Char) : Bool :=
  c.isAlpha || c == '_'

/-- An identifier: a letter or low line, then any characters of words. -/
def isIdentifier : List Char → Bool
  | [] => false
  | c :: cs => isWordStart c && cs.all isWordChar

/-- A decimal: one or more digits. -/
def isDecimal (cs : List Char) : Bool :=
  !cs.isEmpty && cs.all Char.isDigit

/-- An address: `0x` and one or more hexadecimal digits. -/
def isAddress : List Char → Bool
  | '0' :: 'x' :: cs => !cs.isEmpty && cs.all Char.isHexDigit
  | _ => false

/-- The kind of a run of characters of words, if the run is a lexeme. -/
def kindOfRun? (run : List Char) : Option Kind :=
  if isIdentifier run then some (Kind.ofIdentifier (String.ofList run))
  else if isDecimal run then some .digits
  else if isAddress run then some .address
  else none

/-- The comparison symbol that a text begins with: `=`, `!`, `<` or `>`, and an equals sign if one follows.
An exclamation mark needs it. -/
def symbolOf? : List Char → Option (List Char)
  | c :: '=' :: _ => if c ∈ ['=', '!', '<', '>'] then some [c, '='] else none
  | c :: _ => if c ∈ ['=', '<', '>'] then some [c] else none
  | [] => none

/-- A lexeme cut off the front of a text, with what is left of the text. -/
structure Lexeme where
  kind : Kind
  text : List Char
  rest : List Char

namespace Lexeme

/-- The lexeme that a text begins with. -/
def first? (cs : List Char) : Option Lexeme :=
  match cs.takeWhile isWordChar with
  | [] => (symbolOf? cs).map fun symbol => ⟨.symbol, symbol, cs.drop symbol.length⟩
  | run => (kindOfRun? run).map fun kind => ⟨kind, run, cs.dropWhile isWordChar⟩

/-- A symbol that is found begins the text, and it has characters. -/
theorem symbolOf?_begins {cs symbol : List Char} (h : symbolOf? cs = some symbol) :
    symbol ++ cs.drop symbol.length = cs ∧ symbol ≠ [] := by
  unfold symbolOf? at h
  split at h
  · split at h <;> simp at h; subst h; simp
  · split at h <;> simp at h; subst h; simp
  · simp at h

/-- Cutting loses no character. -/
theorem text_append_rest {cs : List Char} {l : Lexeme} (h : first? cs = some l) :
    l.text ++ l.rest = cs := by
  unfold first? at h
  split at h
  · obtain ⟨symbol, hs, rfl⟩ := Option.map_eq_some_iff.1 h
    exact (symbolOf?_begins hs).1
  · obtain ⟨kind, _, rfl⟩ := Option.map_eq_some_iff.1 h
    exact List.takeWhile_append_dropWhile

/-- A lexeme has at least one character. -/
theorem text_ne_nil {cs : List Char} {l : Lexeme} (h : first? cs = some l) : l.text ≠ [] := by
  unfold first? at h
  split at h
  · obtain ⟨symbol, hs, rfl⟩ := Option.map_eq_some_iff.1 h
    exact (symbolOf?_begins hs).2
  · next hne =>
    obtain ⟨kind, _, rfl⟩ := Option.map_eq_some_iff.1 h
    exact hne

/-- What is left of a text is shorter than the text. -/
theorem length_rest_lt {cs : List Char} {l : Lexeme} (h : first? cs = some l) :
    l.rest.length < cs.length := by
  rw [← text_append_rest h, List.length_append]
  have := List.length_pos_iff.2 (text_ne_nil h)
  omega

end Lexeme

end WatchLang
