import Mathlib
import WatchLang.Proofs.Tokenizing

/-!
# Canonical text is the text of the tokens

Reading loses no token and printing adds none: the items that a program is written with are those of the tokens that it
was read from, one for one and in order, except that a single equals sign comes back as two. This is said phrase by
phrase, along the grammar. A token that spells a name, a number or an address has its text kept by the tree; a reserved
word is a lexeme of its kind, so its text is the spelling that printing writes; and a symbol is printed as the
comparison that it stands for.
-/

set_option autoImplicit false

namespace WatchLang

/-! ## Single tokens -/

/-- An item as canonical text has it: equality is written with two signs, and all else as it stands. -/
def Item.canonical (i : Item) : Item :=
  (i.1, if i.2 = "=" then "==" else i.2)

/-- Only a symbol can be a single equals sign. -/
theorem Item.kind_of_single {i : Item} (written : i.IsWritten) (single : i.2 = "=") : i.1 = .symbol := by
  have known : IsLexeme .symbol "=".toList := .symbol (by decide)
  rw [← single] at known
  exact IsLexeme.kind_unique written known

/-- What is not a symbol is written as it stands. -/
theorem Item.canonical_eq_self {i : Item} (written : i.IsWritten) (other : i.1 ≠ .symbol) : i.canonical = i := by
  have kept : i.2 ≠ "=" := mt (Item.kind_of_single written) other
  unfold Item.canonical
  rw [if_neg kept]

/-- Canonical text is written with lexemes, too. -/
theorem Item.IsWritten.canonical {i : Item} (written : i.IsWritten) : i.canonical.IsWritten := by
  unfold Item.canonical
  by_cases single : i.2 = "="
  · rw [if_pos single, Item.kind_of_single written single]
    exact .symbol (by decide)
  · rw [if_neg single]
    exact written

/-- An item that can be written as a keyword has its spelling. -/
theorem Item.eq_spelling_of_keyword {i : Item} {k : Keyword} (written : i.IsWritten) (kind : i.1 = .keyword k) :
    i = (.keyword k, k.spelling) := by
  obtain ⟨kind', text⟩ := i
  change kind' = .keyword k at kind
  subst kind
  have lexeme : ∀ cs, IsLexeme (.keyword k) cs → cs = k.spelling.toList := by
    intro cs h
    cases h
    rfl
  have same := String.toList_inj.1 (lexeme text.toList written)
  rw [same]

section Phrases

variable {t : Token} (written : t.item.IsWritten)

include written

/-- The canonical item of a keyword has its spelling. -/
theorem Token.canonical_keyword {k : Keyword} (kind : t.kind = .keyword k) :
    t.item.canonical = (.keyword k, k.spelling) := by
  have item := Item.eq_spelling_of_keyword written kind
  have kept := Item.canonical_eq_self written (by rw [item]; simp)
  rw [kept, item]

/-- The canonical item of a word is its own. -/
theorem Token.canonical_word (kind : t.kind = .word) : t.item.canonical = (.word, t.lexeme) := by
  have item : t.item = (.word, t.lexeme) := congrArg (·, t.lexeme) kind
  have kept := Item.canonical_eq_self written (by rw [item]; simp)
  rw [kept, item]

/-- A token that compares is printed as the comparison that it stands for. -/
theorem Comparison.canonical_of_spelled {c : Comparison} (h : Comparison.Spelled t c) :
    t.item.canonical = (c.kind, c.symbol) := by
  cases h with
  | contains kind => exact Token.canonical_keyword written kind
  | symbol kind meaning =>
    have printed : ∀ text c, (text, c) ∈ symbolMeanings →
        (if text = "=" then "==" else text) = c.symbol ∧ c.kind = .symbol := by
      intro text c listed
      simp only [symbolMeanings, List.mem_cons, Prod.mk.injEq, List.not_mem_nil, or_false] at listed
      rcases listed with ⟨rfl, rfl⟩ | ⟨rfl, rfl⟩ | ⟨rfl, rfl⟩ | ⟨rfl, rfl⟩ | ⟨rfl, rfl⟩ | ⟨rfl, rfl⟩ | ⟨rfl, rfl⟩ <;>
        decide
    obtain ⟨same, symbol⟩ := printed t.lexeme c meaning
    rw [symbol, ← same, ← kind]
    rfl

/-- The canonical item of a token that spells an operand is that of the operand. -/
theorem Operand.canonical_of_spelled {o : Operand} (h : Operand.Spelled t o) :
    t.item.canonical = (o.kind, o.text) := by
  have other : t.item.1 ≠ .symbol := by
    cases h with
    | identifier kind | number kind | address kind =>
      unfold Token.item
      rw [kind]
      simp
  rw [Item.canonical_eq_self written other]
  cases h with
  | identifier kind | number kind | address kind => exact congrArg (·, t.lexeme) kind

end Phrases

/-! ## Phrases -/

/-- The items of a condition are the canonical ones of the tokens that spell it. -/
theorem Condition.items_of_spelled {tokens : List Token} {c : Condition} (h : c.Spelled tokens)
    (written : ∀ t ∈ tokens, t.item.IsWritten) : c.items = tokens.map fun t => t.item.canonical := by
  obtain ⟨word, comparison, operand⟩ := h
  simp only [List.forall_mem_cons] at written
  obtain ⟨left, sign, right, -⟩ := written
  have first := Token.canonical_word left word
  have second := Comparison.canonical_of_spelled sign comparison
  have third := Operand.canonical_of_spelled right operand
  simp only [List.map_cons, List.map_nil, first, second, third]
  rfl

/-- The items of a statement are the canonical ones of the tokens that spell it. -/
theorem Statement.items_of_spelled {tokens : List Token} {s : Statement} (h : s.Spelled tokens)
    (written : ∀ t ∈ tokens, t.item.IsWritten) : s.items = tokens.map fun t => t.item.canonical := by
  cases h with
  | subject keyword word =>
    simp only [List.forall_mem_cons] at written
    obtain ⟨opening, name, -⟩ := written
    have first := Token.canonical_keyword opening keyword
    have second := Token.canonical_word name word
    simp only [List.map_cons, List.map_nil, first, second]
    rfl
  | test keyword condition =>
    obtain ⟨opening, later⟩ := List.forall_mem_cons.1 written
    have first := Token.canonical_keyword opening keyword
    have rest := Condition.items_of_spelled condition later
    simp only [List.map_cons, first, ← rest]
    rfl
  | publish keyword goal word =>
    simp only [List.forall_mem_cons] at written
    obtain ⟨opening, place, channel, -⟩ := written
    have first := Token.canonical_keyword opening keyword
    have second := Token.canonical_keyword place goal
    have third := Token.canonical_word channel word
    simp only [List.map_cons, List.map_nil, first, second, third]
    rfl

/-- The items of a program that lexemes spell are those of the lexemes, as canonical text has them. -/
theorem Program.items_of_spelled {tokens : List Token} {p : Program} (h : p.Spelled tokens)
    (written : ∀ t ∈ tokens, t.item.IsWritten) : p.items = tokens.map fun t => t.item.canonical := by
  obtain ⟨statements⟩ := p
  unfold Program.Spelled at h
  unfold Program.items
  simp only at h ⊢
  -- statement by statement, each with the tokens that spell it
  induction h with
  | nil => rfl
  | cons head tail ih =>
    obtain ⟨first, later⟩ := List.forall_mem_append.1 written
    rw [List.flatMap_cons, Statement.items_of_spelled head first, ih later, List.map_append]

/-- Canonical items can be written where the items of the tokens can. -/
theorem isWritten_of_mem_canonical {tokens : List Token} (written : ∀ t ∈ tokens, t.item.IsWritten) :
    ∀ i ∈ tokens.map fun t => t.item.canonical, i.IsWritten := by
  intro i member
  obtain ⟨t, inside, rfl⟩ := List.mem_map.1 member
  exact (written t inside).canonical

/-- A program that lexemes spell is well-formed. -/
theorem Program.wellFormed_of_spelled {tokens : List Token} {p : Program} (h : p.Spelled tokens)
    (written : ∀ t ∈ tokens, t.item.IsWritten) : p.WellFormed := by
  rw [wellFormed_iff, items_of_spelled h written]
  exact isWritten_of_mem_canonical written

/-- A condition that is spelled by written tokens is well-formed. -/
theorem Condition.wellFormed_of_spelled {tokens : List Token} {c : Condition} (h : c.Spelled tokens)
    (written : ∀ t ∈ tokens, t.item.IsWritten) : c.WellFormed := by
  rw [wellFormed_iff, items_of_spelled h written]
  exact isWritten_of_mem_canonical written

/-! ## Texts -/

/-- The texts of items joined by spaces are the spaced items. -/
theorem toList_intercalate_space (texts : List String) (items : List Item) (same : texts = items.map Prod.snd) :
    (String.intercalate " " texts).toList = spaced items := by
  rw [String.toList_intercalate, same, List.map_map]
  rfl

/-- The canonical text of a rule is the text of its tokens up to the end of the input, with single spaces between them
and each single equals sign written twice. -/
theorem text_is_tokens {text : String} {p : Program} (read : Program.ofText text = .ok p) :
    ∃ (met : List Token) (last : Token), tokenize text = .ok (met ++ [last]) ∧ last.kind = .endOfInput ∧
      (∀ t ∈ met, t.kind ≠ .endOfInput) ∧
      p.text = String.intercalate " " (met.map fun t => if t.lexeme = "=" then "==" else t.lexeme) := by
  obtain ⟨met, same, written, spelled⟩ := Program.ofText_eq_ok_iff.1 read
  refine ⟨met, _, tokenize_eq_ok_iff.2 ⟨met, same, rfl⟩, rfl, fun t member => (written t member).ne_endOfInput, ?_⟩
  have items := Program.items_of_spelled spelled written
  apply String.toList_inj.1
  rw [Program.toList_text, items]
  refine (toList_intercalate_space _ _ ?_).symm
  rw [List.map_map]
  rfl

/-- Other spacing is lost, a single equals sign is written twice, and the tokens are those of the text. -/
theorem text_is_tokens_respaced :
    Program.ofText "WHERE\n a =b" = .ok ⟨[.test .gate ⟨"a", .equal, .identifier "b"⟩]⟩ ∧
    ∃ (met : List Token) (last : Token), tokenize "WHERE\n a =b" = .ok (met ++ [last]) ∧ last.kind = .endOfInput ∧
      (∀ t ∈ met, t.kind ≠ .endOfInput) ∧
      Program.text ⟨[.test .gate ⟨"a", .equal, .identifier "b"⟩]⟩ =
        String.intercalate " " (met.map fun t => if t.lexeme = "=" then "==" else t.lexeme) := by
  have read : Program.ofText "WHERE\n a =b" = .ok ⟨[.test .gate ⟨"a", .equal, .identifier "b"⟩]⟩ := by cbv
  exact ⟨read, text_is_tokens read⟩

end WatchLang
