import WatchLang.Token.Lexeme

/-!
# Legal and longest lexemes

Which lexeme stands at a point of a text, said without cutting. A text is a lexeme of a kind by its form alone; at a
point of a text it is legal if, unless it is a symbol, no character of words follows it; and the lexeme there is the
longest of the legal ones.
-/

set_option autoImplicit false

namespace WatchLang

/-- The comparison symbols. -/
def symbols : List String :=
  ["==", "!=", ">=", "<=", ">", "<", "="]

/-- A text that is a lexeme of a kind. -/
inductive IsLexeme : Kind → List Char → Prop
  | symbol {text : String} (known : text ∈ symbols) : IsLexeme .symbol text.toList
  | keyword (k : Keyword) : IsLexeme (.keyword k) k.spelling.toList
  | word {cs : List Char} (form : isIdentifier cs = true)
      (free : ∀ k : Keyword, cs ≠ k.spelling.toList) : IsLexeme .word cs
  | digits {cs : List Char} (form : isDecimal cs = true) : IsLexeme .digits cs
  | address {cs : List Char} (form : isAddress cs = true) : IsLexeme .address cs

/-- A lexeme that may stand before a given rest: a symbol before anything, any other not before a character of
words. -/
def LegalBefore (rest : List Char) (kind : Kind) (cs : List Char) : Prop :=
  IsLexeme kind cs ∧ (kind = .symbol ∨ ∀ c, rest.head? = some c → isWordChar c = false)

/-- The longest lexeme at the front of a text. -/
structure IsLongest (text : List Char) (kind : Kind) (lexeme rest : List Char) : Prop where
  split : lexeme ++ rest = text
  legal : LegalBefore rest kind lexeme
  longest : ∀ kind' lexeme' rest', lexeme' ++ rest' = text → LegalBefore rest' kind' lexeme' →
    lexeme'.length ≤ lexeme.length

end WatchLang
