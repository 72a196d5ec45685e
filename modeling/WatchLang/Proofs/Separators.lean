import Mathlib
import WatchLang.Proofs.ParallelReading
import WatchLang.Proofs.Tokenizing

/-!
# When separators matter

Lexemes can be written one behind the other with any white space between them, and with none where the two do not merge.
Two lexemes merge in two cases: neither is a symbol, so that they are one run of characters of words; or the first is a
symbol of one character and the second begins with the equals sign that makes another symbol of it. That these are all
cases is said lexeme by lexeme: a lexeme at the front is scanned as itself exactly when what follows leaves it as it is
(`scan_lexeme_iff`), and whether it does is decided by the gap behind it or, where that is empty, by the next lexeme
(`endsBefore_parts_iff`). Two spacings of the same lexemes that are scanned to these differ in places alone, and reading
does not look at places (`Program.ofTokens_cause`).
-/

set_option autoImplicit false

namespace WatchLang

/-! ## Spacings -/

/-- A lexeme with the white space that stands behind it, which may be none. -/
structure SpacedItem where
  item : Item
  gap : List Char
  written : item.IsWritten
  blank : ∀ c ∈ gap, isBlank c = true

/-- The characters of a lexeme and of the white space behind it. -/
def SpacedItem.chars (p : SpacedItem) : List Char :=
  p.item.2.toList ++ p.gap

/-- Lexemes with white space before the first of them and behind each. -/
structure Spacing where
  before : List Char
  parts : List SpacedItem
  blank : ∀ c ∈ before, isBlank c = true

namespace Spacing

/-- The lexemes of a spacing, with their kinds. -/
def items (s : Spacing) : List Item :=
  s.parts.map SpacedItem.item

/-- A spacing as a text. -/
def text (s : Spacing) : String :=
  String.ofList (s.before ++ s.parts.flatMap SpacedItem.chars)

end Spacing

/-- Whether two lexemes are taken together when nothing stands between them: neither is a symbol, or the first is a
symbol of one character and the second begins with an equals sign. -/
def Item.MergesWith (i j : Item) : Prop :=
  i.1 ≠ .symbol ∧ j.1 ≠ .symbol ∨ i.2 ∈ [">", "<", "="] ∧ j.2.toList.head? = some '='

/-- Whether two lexemes merge can be decided. -/
instance (i j : Item) : Decidable (i.MergesWith j) :=
  inferInstanceAs (Decidable (_ ∨ _))

/-- Whether no two lexemes that merge stand side by side. -/
def Spacing.Separates (s : Spacing) : Prop :=
  s.parts.IsChain fun p q => p.gap = [] → ¬ p.item.MergesWith q.item

/-- Whether a spacing separates its lexemes can be decided. -/
instance (s : Spacing) : Decidable s.Separates :=
  inferInstanceAs (Decidable (List.IsChain _ _))

/-! ## Entries as items -/

/-- An entry without its place, if it is a token. -/
def Entry.item? : Entry → Option Item
  | token t => some t.item
  | stray _ _ => none

/-- Entries are given items if they are tokens with these items. -/
theorem map_item?_eq_iff {es : List Entry} {items : List Item} :
    es.map Entry.item? = items.map some ↔
      ∃ met : List Token, es = met.map Entry.token ∧ met.map Token.item = items := by
  constructor
  · intro h
    induction es generalizing items with
    | nil =>
      have none := List.map_eq_nil_iff.1 h.symm
      exact ⟨[], rfl, none.symm⟩
    | cons e es ih =>
      obtain ⟨i, later, rfl, first, rest⟩ := List.map_eq_cons_iff.1 h.symm
      obtain ⟨met, same, items⟩ := ih rest.symm
      cases e with
      | stray c place => cases first
      | token t =>
        cases first
        exact ⟨t :: met, by rw [same, List.map_cons], by rw [List.map_cons, items]⟩
  · rintro ⟨met, rfl, rfl⟩
    rw [List.map_map, List.map_map]
    rfl

/-- A text is tokenized to given lexemes exactly when these are what scanning meets. -/
theorem tokenize_items_iff {text : String} {items : List Item} :
    (∃ tokens, tokenize text = .ok tokens ∧ tokens.map Token.item = items ++ [(.endOfInput, "")]) ↔
      (entries text).map Entry.item? = items.map some := by
  rw [map_item?_eq_iff]
  constructor
  · rintro ⟨tokens, tokenized, same⟩
    obtain ⟨met, scanned, rfl⟩ := tokenize_eq_ok_iff.1 tokenized
    rw [List.map_append] at same
    exact ⟨met, scanned, List.append_inj_left' same rfl⟩
  · rintro ⟨met, scanned, rfl⟩
    refine ⟨_, tokenize_eq_ok_iff.2 ⟨met, scanned, rfl⟩, ?_⟩
    rw [List.map_append]
    rfl

/-- A lexeme at the front of a text is scanned as itself exactly when what follows leaves it as it is. -/
theorem scan_lexeme_iff {i : Item} (written : i.IsWritten) (place : Place) (rest : List Char)
    (later : List (Option Item)) :
    (scan place (i.2.toList ++ rest)).map Entry.item? = some i :: later ↔
      EndsBefore i.1 i.2.toList rest ∧ (scan (place.through i.2.toList) rest).map Entry.item? = later := by
  constructor
  · intro h
    cases cut : Lexeme.first? (i.2.toList ++ rest) with
    | none =>
      -- a stray character would be met first, and it is no lexeme
      obtain ⟨c, more, front⟩ := List.exists_cons_of_ne_nil written.ne_nil
      have inside := written.not_isBlank c (by rw [front]; exact List.mem_cons_self)
      rw [front, List.cons_append] at cut h
      rw [scan_stray inside cut, List.map_cons] at h
      cases (List.cons.inj h).1
    | some l =>
      have whole := Lexeme.text_append_rest cut
      rw [scan_cut cut, List.map_cons] at h
      obtain ⟨first, behind⟩ := List.cons.inj h
      have item : (l.kind, String.ofList l.text) = i := Option.some.inj first
      have kind : l.kind = i.1 := by rw [← item]
      have text : l.text = i.2.toList := by rw [← item, String.toList_ofList]
      rw [text] at whole behind
      have same : l.rest = rest := List.append_cancel_left whole
      have itself : l = ⟨i.1, i.2.toList, rest⟩ := by rw [← kind, ← text, ← same]
      rw [itself] at cut
      rw [same] at behind
      exact ⟨(first?_lexeme_iff written).1 cut, behind⟩
  · rintro ⟨ends, rfl⟩
    rw [scan_cut ((first?_lexeme_iff written).2 ends), List.map_cons]
    simp only [Entry.item?, Token.item, Token.readAt, String.ofList_toList]

/-! ## What follows a lexeme in a spacing -/

/-- The first character of a lexeme is one of words unless the lexeme is a symbol. -/
theorem Item.IsWritten.isWordChar_iff {i : Item} (written : i.IsWritten) {c : Char}
    (first : i.2.toList.head? = some c) : isWordChar c = true ↔ i.1 ≠ .symbol := by
  obtain ⟨more, front⟩ := List.head?_eq_some_iff.1 first
  by_cases symbol : i.1 = .symbol
  · have lexeme : IsLexeme .symbol i.2.toList := by
      rw [← symbol]
      exact written
    obtain ⟨d, more', front', notWord⟩ := lexeme.symbol_head
    rw [front, List.cons.injEq] at front'
    simp [symbol, front'.1, notWord]
  · have inside := (written.run symbol).2 c (by rw [front]; exact List.mem_cons_self)
    simp [symbol, inside]

/-- A lexeme that follows leaves another one as it is exactly when the two do not merge. -/
theorem endsBefore_lexeme_iff {i j : Item} (written : j.IsWritten) (rest : List Char) :
    EndsBefore i.1 i.2.toList (j.2.toList ++ rest) ↔ ¬ i.MergesWith j := by
  obtain ⟨c, more, front⟩ := List.exists_cons_of_ne_nil written.ne_nil
  have first : j.2.toList.head? = some c := by rw [front, List.head?_cons]
  have single : i.2.toList ∈ [['>'], ['<'], ['=']] ↔ i.2 ∈ [">", "<", "="] := by
    simp only [List.mem_cons, List.not_mem_nil, or_false, ← String.toList_inj]
    rfl
  have word := written.isWordChar_iff first
  unfold EndsBefore Item.MergesWith
  rw [List.head?_append_of_ne_nil _ written.ne_nil, first, single, not_or, not_and, not_and]
  simp only [Option.some.injEq, forall_eq', ← Bool.not_eq_true, word, ne_eq]

/-- A number and a name merge, even if together they look like an address; a greater-or-equal sign takes no more. -/
example : Item.MergesWith (.digits, "0") (.word, "x1") ∧ Item.MergesWith (.symbol, ">") (.symbol, "==") ∧
    ¬ Item.MergesWith (.symbol, ">=") (.symbol, "=") := by decide

/-- Parts leave a lexeme before them as it is exactly when there is a gap, or the first of them does not merge with
it. -/
theorem endsBefore_parts_iff (p : SpacedItem) (parts : List SpacedItem) :
    EndsBefore p.item.1 p.item.2.toList (p.gap ++ parts.flatMap SpacedItem.chars) ↔
      ∀ q ∈ parts.head?, p.gap = [] → ¬ p.item.MergesWith q.item := by
  have alone : EndsBefore p.item.1 p.item.2.toList [] := ⟨by simp, by simp⟩
  cases gap : p.gap with
  | cons c more =>
    have blank : ∀ d, (c :: more ++ parts.flatMap SpacedItem.chars).head? = some d → isBlank d = true := by
      intro d first
      cases first
      exact p.blank c (by rw [gap]; exact List.mem_cons_self)
    have ends := (endsBefore_append_iff blank).2 alone
    simpa using ends
  | nil =>
    cases parts with
    | nil => simpa using alone
    | cons q parts =>
      rw [List.nil_append, List.flatMap_cons, SpacedItem.chars, List.append_assoc, endsBefore_lexeme_iff q.written]
      simp

/-- Parts are scanned to their lexemes exactly when no two that merge stand side by side. -/
theorem scan_parts_iff (place : Place) (parts : List SpacedItem) :
    (scan place (parts.flatMap SpacedItem.chars)).map Entry.item? = (parts.map SpacedItem.item).map some ↔
      parts.IsChain fun p q => p.gap = [] → ¬ p.item.MergesWith q.item := by
  -- on the parts; each is scanned as itself when the next one lets it, and then the others are met behind its gap
  induction parts generalizing place with
  | nil =>
    rw [List.flatMap_nil, scan]
    exact iff_of_true rfl .nil
  | cons p parts ih =>
    have later := ih ((place.through p.item.2.toList).through p.gap)
    rw [List.flatMap_cons, SpacedItem.chars, List.append_assoc, List.map_cons, List.map_cons, scan_lexeme_iff p.written,
      scan_blanks p.blank, later, endsBefore_parts_iff, List.isChain_cons]

/-- A spacing is tokenized to its lexemes exactly when it separates them. -/
theorem Spacing.tokenize_text_iff (s : Spacing) :
    (∃ tokens, tokenize s.text = .ok tokens ∧ tokens.map Token.item = s.items ++ [(.endOfInput, "")]) ↔
      s.Separates := by
  rw [tokenize_items_iff, entries, text, String.toList_ofList, scan_blanks s.blank]
  exact scan_parts_iff _ s.parts

/-! ## Spacings read as rules -/

/-- Tokens with the same kind and text are the same up to their places. -/
theorem Token.renamedTo_identity_of_item {t t' : Token} (same : t.item = t'.item) : t.RenamedTo .identity t' := by
  obtain ⟨kind, lexeme⟩ := Prod.mk.inj same
  have kept := t.renamedTo_identity
  unfold RenamedTo at kept ⊢
  rw [← kind, ← lexeme]
  exact kept

/-- Tokens with the same kinds and texts are read as the same rule, or refused for the same cause. -/
theorem Program.ofTokens_cause {tokens tokens' : List Token} (same : tokens.map Token.item = tokens'.map Token.item)
    (ends : ∃ e ∈ tokens, e.kind = .endOfInput) :
    (ofTokens tokens').mapError (·.cause) = (ofTokens tokens).mapError (·.cause) := by
  have related : List.Forall₂ (fun t t' : Token => t.item = t'.item) tokens tokens' := by
    rwa [← List.forall₂_eq_eq_eq, List.forall₂_map_left_iff, List.forall₂_map_right_iff] at same
  have kinds : ∀ t t' : Token, t.item = t'.item → t'.kind = t.kind := fun t t' h => (congrArg Prod.fst h).symm
  have alike := Cursor.alike_of_forall₂ kinds related ends
  refine (ofTokens_alike (fun t t' => Token.renamedTo_identity_of_item) alike).mapError_eq rename_identity ?_
  intro phrase expected t t' h
  obtain ⟨kind, lexeme⟩ := Prod.mk.inj h
  simp only [Diagnostic.unexpected, kind, lexeme]

/-- Lexemes in a spacing are tokenized to just these, each with its kind, exactly when wherever nothing stands between
two of them they do not merge. So two spacings of the same lexemes that both keep to this are read as the same rule,
or refused for the same cause. -/
theorem lexemes_read_back_iff_separated :
    (∀ s : Spacing, (∃ tokens, tokenize s.text = .ok tokens ∧
        tokens.map Token.item = s.items ++ [(.endOfInput, "")]) ↔ s.Separates) ∧
    (∀ s s' : Spacing, s.items = s'.items → s.Separates → s'.Separates →
      (Program.ofText s'.text).mapError (·.cause) = (Program.ofText s.text).mapError (·.cause)) := by
  refine ⟨Spacing.tokenize_text_iff, ?_⟩
  intro s s' same separates separates'
  obtain ⟨tokens, tokenized, items⟩ := s.tokenize_text_iff.2 separates
  obtain ⟨tokens', tokenized', items'⟩ := s'.tokenize_text_iff.2 separates'
  have ends : ∃ e ∈ tokens, e.kind = .endOfInput := by
    obtain ⟨met, -, rfl⟩ := tokenize_eq_ok_iff.1 tokenized
    exact ⟨_, List.mem_append_right _ List.mem_cons_self, rfl⟩
  have cause := Program.ofTokens_cause (items.trans ((congrArg (· ++ _) same).trans items'.symm)) ends
  unfold Program.ofText
  rw [tokenized, tokenized']
  exact cause

/-- A condition needs no white space inside, and is read the same with some. -/
theorem lexemes_read_back_iff_separated_glued :
    ∃ s s' : Spacing, s.text = "WHERE a>=0x1" ∧ s'.text = "\nWHERE a >= 0x1\u00a0" ∧
      s.items = s'.items ∧ s.Separates ∧ s'.Separates ∧
      (∃ tokens, tokenize s.text = .ok tokens ∧ tokens.map Token.item = s.items ++ [(.endOfInput, "")]) ∧
      (Program.ofText s'.text).mapError (·.cause) = (Program.ofText s.text).mapError (·.cause) := by
  have gate : Item.IsWritten (.keyword (.test .gate), "WHERE") := isWritten_keyword (.test .gate)
  have name : Item.IsWritten (.word, "a") := isName_iff.1 (by decide)
  have sign : Item.IsWritten (.symbol, ">=") := .symbol (by decide)
  have literal : Item.IsWritten (.address, "0x1") := .address (by decide)
  have space : ∀ c ∈ [' '], isBlank c = true := List.all_eq_true.1 (by decide)
  have feed : ∀ c ∈ ['\n'], isBlank c = true := List.all_eq_true.1 (by decide)
  have joiner : ∀ c ∈ ['\u00a0'], isBlank c = true := List.all_eq_true.1 (by decide)
  have nothing : ∀ c ∈ [], isBlank c = true := List.forall_mem_nil _
  let glued : Spacing :=
    ⟨[], [⟨_, _, gate, space⟩, ⟨_, _, name, nothing⟩, ⟨_, _, sign, nothing⟩, ⟨_, _, literal, nothing⟩], nothing⟩
  let wide : Spacing :=
    ⟨['\n'], [⟨_, _, gate, space⟩, ⟨_, _, name, space⟩, ⟨_, _, sign, space⟩, ⟨_, _, literal, joiner⟩], feed⟩
  have separates : glued.Separates := by
    simp [glued, Spacing.Separates, Item.MergesWith]
  have separates' : wide.Separates := by
    simp [wide, Spacing.Separates]
  refine ⟨glued, wide, ?_, ?_, rfl, separates, separates', ?_, ?_⟩
  · cbv
  · cbv
  · exact (lexemes_read_back_iff_separated.1 glued).2 separates
  · exact lexemes_read_back_iff_separated.2 glued wide rfl separates separates'

end WatchLang
