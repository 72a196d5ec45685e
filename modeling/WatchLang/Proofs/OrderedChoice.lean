import WatchLang.Proofs.LongestLexeme

/-!
# Lexemes by rules tried in order

The lexical grammar gives a rule for each class of lexemes and takes the first rule that fits: an address, then a
decimal, both only where no character of words follows; then the symbols, the longer ones first; then an identifier.
Each rule takes as many characters of its class as there are. Cutting off a run of characters of words and asking what
the run is comes to the same (`first?_eq_choose`). Taking characters of a smaller class and finding no character of
words behind them is taking the whole run (`stops_iff`), so a rule for a literal fits exactly when the run is such
a literal, and then no rule before it does.
-/

set_option autoImplicit false

namespace WatchLang

/-- A rule cuts a lexeme off the front of a text, or does not fit. -/
abbrev LexicalRule : Type :=
  List Char → Option Lexeme

/-- Whether no character of words comes next. -/
def stops (rest : List Char) : Bool :=
  !rest.head?.any isWordChar

namespace LexicalRule

/-- Characters of a class, one at least, and no character of words behind them. -/
def literal (inside : Char → Bool) (cs : List Char) : Option (List Char × List Char) :=
  let text := cs.takeWhile inside
  let rest := cs.dropWhile inside
  if text ≠ [] ∧ stops rest = true then some (text, rest) else none

/-- `0x`, then hexadecimal digits that end with the word. -/
def address : LexicalRule
  | '0' :: 'x' :: cs =>
    (literal Char.isHexDigit cs).map fun (digits, rest) => ⟨.address, '0' :: 'x' :: digits, rest⟩
  | _ => none

/-- Digits that end with the word. -/
def decimal : LexicalRule := fun cs =>
  (literal Char.isDigit cs).map fun (digits, rest) => ⟨.digits, digits, rest⟩

/-- A symbol with a given text. -/
def symbol (text : String) : LexicalRule := fun cs =>
  if text.toList.isPrefixOf cs then some ⟨.symbol, text.toList, cs.drop text.toList.length⟩ else none

/-- A character that an identifier can begin with, then characters of words. -/
def identifier : LexicalRule
  | c :: cs =>
    let text := c :: cs.takeWhile isWordChar
    if isWordStart c then some ⟨.ofIdentifier (String.ofList text), text, cs.dropWhile isWordChar⟩ else none
  | [] => none

/-- The rules for symbols, those of two characters first. -/
def symbolsInOrder : List LexicalRule :=
  [">=", "<=", "==", "!=", ">", "<", "="].map symbol

/-- All rules in the order in which they are tried. -/
def inOrder : List LexicalRule :=
  address :: decimal :: (symbolsInOrder ++ [identifier])

/-- What the first rule that fits cuts off. -/
def choose (rules : List LexicalRule) : LexicalRule := fun cs =>
  rules.findSome? fun rule => rule cs

/-! ## Literals -/

section Run

variable {inside : Char → Bool} (within : ∀ c, inside c = true → isWordChar c = true)

include within

/-- No character of words follows those of a class exactly when the run of characters of words is of that class. -/
theorem stops_iff (cs : List Char) :
    stops (cs.dropWhile inside) = true ↔ (cs.takeWhile isWordChar).all inside = true := by
  induction cs with
  | nil => exact iff_of_true rfl rfl
  | cons c cs ih =>
    by_cases member : inside c = true
    · rw [List.dropWhile_cons_of_pos member, List.takeWhile_cons_of_pos (within c member), ih, List.all_cons,
        member, Bool.true_and]
    · rw [List.dropWhile_cons_of_neg member]
      rw [Bool.not_eq_true] at member
      by_cases word : isWordChar c = true
      · rw [List.takeWhile_cons_of_pos word, List.all_cons, member, Bool.false_and]
        simp [stops, word]
      · rw [List.takeWhile_cons_of_neg word]
        simp [stops, word]

/-- In this case the characters of the class are the whole run. -/
theorem takeWhile_eq_of_all {cs : List Char} (h : (cs.takeWhile isWordChar).all inside = true) :
    cs.takeWhile inside = cs.takeWhile isWordChar ∧ cs.dropWhile inside = cs.dropWhile isWordChar := by
  induction cs with
  | nil => exact ⟨rfl, rfl⟩
  | cons c cs ih =>
    by_cases word : isWordChar c = true
    · rw [List.takeWhile_cons_of_pos word, List.all_cons, Bool.and_eq_true] at h
      obtain ⟨taken, dropped⟩ := ih h.2
      rw [List.takeWhile_cons_of_pos word, List.takeWhile_cons_of_pos h.1, List.dropWhile_cons_of_pos word,
        List.dropWhile_cons_of_pos h.1, taken, dropped]
      exact ⟨rfl, rfl⟩
    · have outside : ¬ inside c = true := fun member => word (within c member)
      rw [List.takeWhile_cons_of_neg word, List.takeWhile_cons_of_neg outside, List.dropWhile_cons_of_neg word,
        List.dropWhile_cons_of_neg outside]
      exact ⟨rfl, rfl⟩

/-- A literal of a class is the whole run, if the run is of that class. -/
theorem literal_eq (cs : List Char) :
    literal inside cs =
      if (!(cs.takeWhile isWordChar).isEmpty && (cs.takeWhile isWordChar).all inside) = true then
        some (cs.takeWhile isWordChar, cs.dropWhile isWordChar)
      else none := by
  unfold literal
  simp only [stops_iff within]
  by_cases all : (cs.takeWhile isWordChar).all inside = true
  · obtain ⟨taken, dropped⟩ := takeWhile_eq_of_all within all
    simp only [taken, dropped, all, Bool.and_true, and_true, Bool.not_eq_true', List.isEmpty_eq_false_iff]
  · simp only [all, Bool.and_false, and_false, if_false, Bool.false_eq_true]

end Run

/-- Digits are cut off if they make up all of the run of word characters at the front. -/
theorem decimal_eq (cs : List Char) :
    decimal cs = if isDecimal (cs.takeWhile isWordChar) = true then
      some ⟨.digits, cs.takeWhile isWordChar, cs.dropWhile isWordChar⟩ else none := by
  rw [decimal, literal_eq fun c => isWordChar_of_isDigit]
  unfold isDecimal
  split <;> rfl

/-- An address is cut off if it makes up all of the run of word characters at the front. -/
theorem address_eq (cs : List Char) :
    address cs = if isAddress (cs.takeWhile isWordChar) = true then
      some ⟨.address, cs.takeWhile isWordChar, cs.dropWhile isWordChar⟩ else none := by
  unfold address
  split
  · next cs =>
    have run : ('0' :: 'x' :: cs).takeWhile isWordChar = '0' :: 'x' :: cs.takeWhile isWordChar := by
      rw [List.takeWhile_cons_of_pos (by decide), List.takeWhile_cons_of_pos (by decide)]
    have rest : ('0' :: 'x' :: cs).dropWhile isWordChar = cs.dropWhile isWordChar := by
      rw [List.dropWhile_cons_of_pos (by decide), List.dropWhile_cons_of_pos (by decide)]
    rw [run, rest, literal_eq fun c => isWordChar_of_isHexDigit, isAddress]
    split <;> rfl
  · next other =>
    -- a run that begins with `0x` is the beginning of a text that does
    rw [if_neg]
    intro form
    unfold isAddress at form
    split at form
    · next digits run =>
      have whole := List.takeWhile_append_dropWhile (p := isWordChar) (l := cs)
      rw [run] at whole
      exact other _ whole.symm
    · cases form

/-- An identifier is cut off if the run of word characters at the front is one. -/
theorem identifier_eq (cs : List Char) :
    identifier cs = if isIdentifier (cs.takeWhile isWordChar) = true then
      some ⟨.ofIdentifier (String.ofList (cs.takeWhile isWordChar)), cs.takeWhile isWordChar,
        cs.dropWhile isWordChar⟩ else none := by
  cases cs with
  | nil => rfl
  | cons c cs =>
    unfold identifier
    by_cases start : isWordStart c = true
    · have word := isWordChar_of_isWordStart start
      have all : (cs.takeWhile isWordChar).all isWordChar = true := List.all_takeWhile
      rw [List.takeWhile_cons_of_pos word, List.dropWhile_cons_of_pos word, isIdentifier, all]
      simp only [start, Bool.and_true]
    · have notIdentifier : ¬ isIdentifier ((c :: cs).takeWhile isWordChar) = true := by
        intro form
        by_cases word : isWordChar c = true
        · rw [List.takeWhile_cons_of_pos word, isIdentifier, Bool.and_eq_true] at form
          exact start form.1
        · rw [List.takeWhile_cons_of_neg word] at form
          cases form
      rw [if_neg notIdentifier]
      simp only [start, if_false, Bool.false_eq_true]

/-! ## Symbols -/

/-- Before an equals sign, four characters make up a symbol together with it. -/
theorem symbolOf?_pair (c : Char) (cs : List Char) :
    symbolOf? (c :: '=' :: cs) = if c ∈ ['=', '!', '<', '>'] then some [c, '='] else none := rfl

/-- Where no equals sign follows, three characters are symbols alone. -/
theorem symbolOf?_single {c : Char} {cs : List Char} (alone : cs.head? ≠ some '=') :
    symbolOf? (c :: cs) = if c ∈ ['=', '<', '>'] then some [c] else none := by
  unfold symbolOf?
  split
  · next same =>
    cases same
    exact absurd rfl alone
  · next same =>
    cases same
    rfl
  · next same => cases same

/-- Trying the symbols in order finds the symbol that the text begins with. -/
theorem choose_symbols (cs : List Char) :
    choose symbolsInOrder cs = (symbolOf? cs).map fun symbol => ⟨.symbol, symbol, cs.drop symbol.length⟩ := by
  unfold choose symbolsInOrder symbol
  simp only [String.reduceToList, List.map_cons, List.map_nil, List.findSome?_cons, List.findSome?_nil,
    List.isPrefixOf_iff_prefix]
  cases cs with
  | nil => rfl
  | cons c cs =>
    by_cases wide : cs.head? = some '='
    · obtain ⟨more, rfl⟩ := List.head?_eq_some_iff.1 wide
      simp only [symbolOf?_pair, List.cons_prefix_cons, List.nil_prefix]
      grind
    · have narrow : ¬ ['='] <+: cs := by
        rintro ⟨more, rfl⟩
        exact wide rfl
      simp only [symbolOf?_single wide, List.cons_prefix_cons, List.nil_prefix, narrow, and_false, if_false]
      grind

/-! ## All rules -/

/-- The first of the rules is chosen where it fits, and otherwise one of the others. -/
theorem choose_cons (rule : LexicalRule) (rules : List LexicalRule) (cs : List Char) :
    choose (rule :: rules) cs = (rule cs).or (choose rules cs) := by
  unfold choose
  rw [List.findSome?_cons]
  cases rule cs <;> rfl

/-- The rules that come first are tried before those that come later. -/
theorem choose_append (first later : List LexicalRule) (cs : List Char) :
    choose (first ++ later) cs = (choose first cs).or (choose later cs) :=
  List.findSome?_append

/-- The rules tried in order cut off the same lexeme as looking at the run of characters of words. -/
theorem first?_eq_choose (cs : List Char) : Lexeme.first? cs = choose inOrder cs := by
  have tried : choose inOrder cs =
      (address cs).or ((decimal cs).or ((choose symbolsInOrder cs).or (identifier cs))) := by
    rw [inOrder, choose_cons, choose_cons, choose_append, choose_cons]
    exact congrArg _ (congrArg _ (congrArg _ Option.or_none))
  rw [tried, address_eq, decimal_eq, choose_symbols, identifier_eq]
  unfold Lexeme.first?
  split
  · next empty =>
    -- without a run only the symbols are left
    rw [empty]
    have noAddress : ¬ isAddress [] = true := by decide
    have noDecimal : ¬ isDecimal [] = true := by decide
    have noIdentifier : ¬ isIdentifier [] = true := by decide
    rw [if_neg noAddress, if_neg noDecimal, if_neg noIdentifier, Option.none_or, Option.none_or, Option.or_none]
  · next nonempty =>
    have noSymbol : symbolOf? cs = none := by
      cases found : symbolOf? cs with
      | none => rfl
      | some symbol =>
        have empty := run_eq_nil_of_symbol (symbolOf?_eq_some found).1 (cs.drop symbol.length)
        rw [(Lexeme.symbolOf?_begins found).1] at empty
        exact absurd empty nonempty
    rw [noSymbol, Option.map_none, Option.none_or]
    unfold kindOfRun?
    by_cases address : isAddress (cs.takeWhile isWordChar) = true
    · obtain ⟨noIdentifier, noDecimal⟩ := not_isIdentifier_of_isAddress address
      simp only [address, noIdentifier, noDecimal, if_true, if_false, Bool.false_eq_true]
      rfl
    · by_cases decimal : isDecimal (cs.takeWhile isWordChar) = true
      · have noIdentifier := not_isIdentifier_of_isDecimal decimal
        simp only [address, decimal, noIdentifier, if_true, if_false, Bool.false_eq_true]
        rfl
      · simp only [address, decimal]
        split <;> rfl

end LexicalRule

end WatchLang
