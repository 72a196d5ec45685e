import WatchLang.Proofs.RuleReading
import WatchLang.Proofs.Scanning
import WatchLang.Proofs.Wording

/-!
# From texts to tokens

A text without stray characters has tokens, and just these are tokenized. Each of them is a lexeme of its kind, so
none is an end of the input but the one that is added; reading a text is therefore reading its tokens. Conversely
lexemes with single spaces between them are scanned back one by one: what stands before a blank character or before the
end of the text is cut off as a whole, because no lexeme has a blank character in it.
-/

set_option autoImplicit false

namespace WatchLang

/-! ## Tokens of a text -/

/-- Entries are taken as tokens exactly if all of them are tokens. -/
theorem mapM_asToken_eq_ok_iff {es : List Entry} {tokens : List Token} :
    es.mapM Entry.asToken = .ok tokens ↔ es = tokens.map Entry.token := by
  constructor
  · intro h
    induction es generalizing tokens with
    | nil =>
      cases h
      rfl
    | cons e es ih =>
      rw [List.mapM_cons] at h
      cases e with
      | stray c place => cases h
      | token t =>
        cases met : es.mapM Entry.asToken with
        | error d =>
          rw [met] at h
          cases h
        | ok later =>
          rw [met] at h
          cases h
          rw [ih met, List.map_cons]
  · rintro rfl
    induction tokens with
    | nil => rfl
    | cons t tokens ih =>
      rw [List.map_cons, List.mapM_cons, ih]
      rfl

/-- A text is tokenized exactly when scanning meets only tokens. -/
theorem tokenize_eq_ok_iff {text : String} {tokens : List Token} :
    tokenize text = .ok tokens ↔
      ∃ met, entries text = met.map Entry.token ∧
        tokens = met ++ [.endAt (Place.beginning.through text.toList)] := by
  rw [tokenize_eq]
  constructor
  · intro h
    cases met : (entries text).mapM Entry.asToken with
    | ok tokens' =>
      rw [met] at h
      cases h
      exact ⟨tokens', mapM_asToken_eq_ok_iff.1 met, rfl⟩
    | error d =>
      rw [met] at h
      cases h
  · rintro ⟨tokens', met, rfl⟩
    rw [mapM_asToken_eq_ok_iff.2 met]
    rfl

/-- A token that is scanned is a lexeme of its kind. -/
theorem isWritten_of_mem_scan {place : Place} {cs : List Char} {t : Token} (h : .token t ∈ scan place cs) :
    t.item.IsWritten := by
  revert h
  -- the recursion of scanning: a blank character, a lexeme, a stray character
  fun_induction scan place cs with
  | case1 place => exact fun h => absurd h List.not_mem_nil
  | case2 place c more blank ih => exact ih
  | case3 place c more inside l cut ih =>
    intro h
    rcases List.mem_cons.1 h with same | later
    · cases same
      have lexeme := (isLongest_of_first? cut).legal.1
      simpa only [Item.IsWritten, Token.item, Token.readAt, String.toList_ofList] using lexeme
    · exact ih later
  | case4 place c more inside nothing ih =>
    intro h
    rcases List.mem_cons.1 h with same | later
    · cases same
    · exact ih later

/-- An item that can be written is not an end of the input. -/
theorem Item.IsWritten.ne_endOfInput {i : Item} (h : i.IsWritten) : i.1 ≠ .endOfInput := by
  obtain ⟨kind, text⟩ := i
  rintro rfl
  cases h

/-- The tokens of a text without stray characters are lexemes. -/
theorem isWritten_of_entries {text : String} {met : List Token} (same : entries text = met.map Entry.token) :
    ∀ t ∈ met, t.item.IsWritten := by
  intro t member
  have inside := List.mem_map_of_mem (f := Entry.token) member
  rw [← same] at inside
  exact isWritten_of_mem_scan inside

/-- No token among the entries of a text is an end of the input. -/
theorem kind_ne_of_entries {text : String} {met : List Token} (same : entries text = met.map Entry.token) :
    ∀ t ∈ met, t.kind ≠ .endOfInput := fun t member =>
  (isWritten_of_entries same t member).ne_endOfInput

/-- What is read from the tokens of a text is what the tokens spell. -/
theorem Reader.ExactOnTokens.tokenize_bind_eq_ok_iff {α : Type} {read : List Token → Except Diagnostic α}
    {Spelled : List Token → α → Prop} (exact : ExactOnTokens read Spelled) {text : String} {a : α} :
    (do read (← tokenize text)) = .ok a ↔
      ∃ met, entries text = met.map Entry.token ∧ (∀ t ∈ met, t.item.IsWritten) ∧ Spelled met a := by
  constructor
  · intro h
    cases tokenized : tokenize text with
    | ok tokens =>
      rw [tokenized] at h
      obtain ⟨met, same, rfl⟩ := tokenize_eq_ok_iff.1 tokenized
      exact ⟨met, same, isWritten_of_entries same, (exact.ended_eq_ok_iff (kind_ne_of_entries same) rfl).1 h⟩
    | error d =>
      rw [tokenized] at h
      cases h
  · rintro ⟨met, same, -, spelled⟩
    rw [tokenize_eq_ok_iff.2 ⟨met, same, rfl⟩]
    exact (exact.ended_eq_ok_iff (kind_ne_of_entries same) rfl).2 spelled

/-- What the tokens of a text spell is read from it. -/
theorem Program.ofText_eq_ok_iff {text : String} {p : Program} :
    Program.ofText text = .ok p ↔
      ∃ met, entries text = met.map Entry.token ∧ (∀ t ∈ met, t.item.IsWritten) ∧ p.Spelled met :=
  Reader.exact_program_ofTokens.tokenize_bind_eq_ok_iff

/-- A text is read as a condition exactly if its entries are tokens that spell it. -/
theorem Condition.ofText_eq_ok_iff {text : String} {c : Condition} :
    Condition.ofText text = .ok c ↔
      ∃ met, entries text = met.map Entry.token ∧ (∀ t ∈ met, t.item.IsWritten) ∧ c.Spelled met :=
  Reader.exact_condition_ofTokens.tokenize_bind_eq_ok_iff

/-! ## Scanning spaced lexemes -/

/-- Before a blank character and at the end of a text a lexeme is scanned as a whole. -/
theorem scan_lexeme (place : Place) {kind : Kind} {lexeme rest : List Char} (h : IsLexeme kind lexeme)
    (blank : ∀ c, rest.head? = some c → isBlank c = true) :
    scan place (lexeme ++ rest) = .token (.readAt place kind lexeme) :: scan (place.through lexeme) rest := by
  have alone : EndsBefore kind lexeme [] := ⟨by simp, by simp⟩
  have ends : EndsBefore kind lexeme rest := (endsBefore_append_iff blank).2 alone
  exact scan_cut ((first?_lexeme_iff h).2 ends) place

/-- Lexemes with spaces between them are scanned back to tokens with the same kinds and texts. -/
theorem scan_spaced {items : List Item} (written : ∀ i ∈ items, i.IsWritten) (place : Place) :
    ∃ tokens : List Token, scan place (spaced items) = tokens.map Entry.token ∧ tokens.map Token.item = items := by
  -- on the items; the last one ends the text, the others end at a space
  induction items generalizing place with
  | nil => exact ⟨[], by rw [spaced_nil, scan]; rfl, rfl⟩
  | cons i items ih =>
    obtain ⟨first, later⟩ := List.forall_mem_cons.1 written
    have item : (Token.readAt place i.1 i.2.toList).item = i := by
      simp only [Token.item, Token.readAt, String.ofList_toList]
    cases items with
    | nil =>
      refine ⟨[.readAt place i.1 i.2.toList], ?_, by rw [List.map_singleton, item]⟩
      have ends : ∀ c, ([] : List Char).head? = some c → isBlank c = true := by simp
      have alone := scan_lexeme place first ends
      rw [List.append_nil, scan] at alone
      rw [spaced_singleton, alone]
      rfl
    | cons j items =>
      obtain ⟨tokens, scanned, same⟩ := ih later ((place.through i.2.toList).past ' ')
      refine ⟨.readAt place i.1 i.2.toList :: tokens, ?_, by rw [List.map_cons, item, same]⟩
      have space : isBlank ' ' = true := by decide
      have before : ∀ c, (' ' :: spaced (j :: items)).head? = some c → isBlank c = true := by
        intro c next
        cases next
        exact space
      rw [spaced_cons_cons, scan_lexeme place first before, scan_blank space, scanned]
      rfl

end WatchLang
