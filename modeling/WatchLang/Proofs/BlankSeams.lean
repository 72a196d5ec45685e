import WatchLang.Proofs.Relocating
import WatchLang.Proofs.TokenPlaces

/-!
# Lexing splits at white space

Two texts with white space in between are lexed as they are lexed apart, whether there are stray characters in them or
not. What is met in the second text moves on with it: its bytes by the length of what stands before, its places beyond
the place where that ends (`entries_append`). A text is tokenized unless something without a kind is met in it, so the
whole text is tokenized when both texts are, and then to the tokens of both.
-/

set_option autoImplicit false

namespace WatchLang

/-- Bytes that are moved on by a number of bytes. -/
def Span.later (s : Span) (bytes : Nat) : Span :=
  ⟨bytes + s.start, bytes + s.stop⟩

/-- Beyond an origin an entry keeps its kind, and its bytes move on by those before the origin. -/
theorem Entry.raw_beyond (origin : Place) (e : Entry) :
    (e.beyond origin).raw = (e.raw.1, e.raw.2.later origin.offset) := by
  cases e with
  | token t => rfl
  | stray c place =>
    simp only [Entry.raw, Entry.beyond, Entry.kind?, Entry.span, Place.upTo, Span.later, Place.offset_past,
      Place.beyond, Nat.add_assoc]

/-- A text is tokenized exactly when everything that is met in it has a kind. -/
theorem exists_tokenize_iff {text : String} :
    (∃ tokens, tokenize text = .ok tokens) ↔ ∀ raw ∈ (entries text).map Entry.raw, raw.1 ≠ none := by
  constructor
  · rintro ⟨tokens, tokenized⟩ raw member
    obtain ⟨met, same, -⟩ := tokenize_eq_ok_iff.1 tokenized
    rw [same, List.map_map] at member
    obtain ⟨t, -, rfl⟩ := List.mem_map.1 member
    simp [Entry.raw, Entry.kind?]
  · intro kinds
    cases tokenized : tokenize text with
    | ok tokens => exact ⟨tokens, rfl⟩
    | error d =>
      obtain ⟨met, c, place, later, same, -⟩ := tokenize_eq_error tokenized
      have stray : (Entry.stray c place).raw ∈ (entries text).map Entry.raw := by
        apply List.mem_map_of_mem
        simp [same]
      exact absurd rfl (kinds _ stray)

/-- Before the end of the input stand the tokens that are met in a text. -/
theorem entries_eq_map_beforeEnd {text : String} {tokens : List Token} (tokenized : tokenize text = .ok tokens) :
    entries text = (beforeEnd tokens).map Entry.token := by
  obtain ⟨met, same, rfl⟩ := tokenize_eq_ok_iff.1 tokenized
  rw [beforeEnd_ended (kind_ne_of_entries same) rfl, same]

/-- Lines and columns of tokens are counted from one. -/
theorem position_pos_of_tokenize {text : String} {tokens : List Token} (tokenized : tokenize text = .ok tokens)
    {t : Token} (member : t ∈ tokens) : 0 < t.line ∧ 0 < t.column := by
  obtain ⟨met, same, rfl⟩ := tokenize_eq_ok_iff.1 tokenized
  rcases List.mem_append.1 member with inside | last
  · obtain ⟨before, pointed, after, stands, -⟩ := exists_standsOn same inside
    rw [stands.line, stands.column]
    omega
  · have stands := Token.endAt_standsOn text
    rw [List.mem_singleton.1 last, stands.line, stands.column]
    omega

/-- Of two texts with white space in between, the entries are those of the first and then those of the second, with
the same kinds, stray characters included, and with their bytes moved on by the length of what stands before the
second text. The whole is tokenized just when both are; and then its tokens are those of the first without the end of
the input, and behind them those of the second with their bytes moved on, their lines counted on from the last line
before the second text, and on its first line their columns counted on from the last column there. -/
theorem blanks_split_lexing {w : String} (nonempty : w ≠ "") (blank : ∀ c ∈ w.toList, isBlank c = true)
    (s₁ s₂ : String) :
    (∃ raws₁ raws₂, lex s₁ = .ok raws₁ ∧ lex s₂ = .ok raws₂ ∧
      lex (s₁ ++ w ++ s₂) =
        .ok (raws₁ ++ raws₂.map fun raw => (raw.1, raw.2.later (byteLength (s₁ ++ w).toList)))) ∧
    ((∃ tokens, tokenize (s₁ ++ w ++ s₂) = .ok tokens) ↔
      (∃ first, tokenize s₁ = .ok first) ∧ ∃ second, tokenize s₂ = .ok second) ∧
    ∀ first second, tokenize s₁ = .ok first → tokenize s₂ = .ok second →
      (∀ t ∈ second, 0 < t.line ∧ 0 < t.column) ∧
      tokenize (s₁ ++ w ++ s₂) =
        .ok (beforeEnd first ++ second.map (Token.beyond (.counted (s₁ ++ w).toList))) := by
  have origin : Place.endOf (s₁ ++ w) = .counted (s₁ ++ w).toList := Place.beginning_through _
  have raws : (entries (s₁ ++ w ++ s₂)).map Entry.raw =
      (entries s₁).map Entry.raw ++
        ((entries s₂).map Entry.raw).map (fun raw => (raw.1, raw.2.later (byteLength (s₁ ++ w).toList))) := by
    rw [entries_append nonempty blank s₂, List.map_append, List.map_map, List.map_map, origin]
    congr 2
    funext e
    exact Entry.raw_beyond _ e
  refine ⟨⟨_, _, lex_eq s₁, lex_eq s₂, by rw [lex_eq, raws]⟩, ?_, ?_⟩
  · rw [exists_tokenize_iff, exists_tokenize_iff, exists_tokenize_iff, raws, List.forall_mem_append]
    simp
  · intro first second tokenized tokenized'
    refine ⟨fun t => position_pos_of_tokenize tokenized', ?_⟩
    rw [tokenize_append nonempty blank s₂ (entries_eq_map_beforeEnd tokenized), tokenized', origin]
    rfl

/-- An exclamation mark before white space and an equals sign behind it stay apart, and are refused in the second text
as in the whole; behind a line feed the second text begins a line of its own. -/
theorem blanks_split_lexing_lone_mark :
    "\n " ≠ "" ∧ (∀ c ∈ "\n ".toList, isBlank c = true) ∧
    lex ("é!" ++ "\n " ++ "= 0x") =
      .ok [(none, ⟨0, 2⟩), (none, ⟨2, 3⟩), (some .symbol, ⟨5, 6⟩), (none, ⟨7, 8⟩), (some .word, ⟨8, 9⟩)] ∧
    ¬ (∃ tokens, tokenize ("é!" ++ "\n " ++ "= 0x") = .ok tokens) ∧
    tokenize ("a" ++ "\n " ++ "b") =
      .ok [.readAt ⟨0, 1, 1⟩ .word ['a'], .readAt ⟨3, 2, 2⟩ .word ['b'], .endAt ⟨4, 2, 3⟩] := by
  have space : ∀ c ∈ "\n ".toList, isBlank c = true := List.all_eq_true.1 (by decide)
  have marks : lex "é!" = .ok [(none, ⟨0, 2⟩), (none, ⟨2, 3⟩)] := by cbv
  have behind : lex "= 0x" = .ok [(some .symbol, ⟨0, 1⟩), (none, ⟨2, 3⟩), (some .word, ⟨3, 4⟩)] := by cbv
  have first : tokenize "a" = .ok [.readAt ⟨0, 1, 1⟩ .word ['a'], .endAt ⟨1, 1, 2⟩] := by cbv
  have second : tokenize "b" = .ok [.readAt ⟨0, 1, 1⟩ .word ['b'], .endAt ⟨1, 1, 2⟩] := by cbv
  have refused : tokenize "é!" = .error (.stray 'é' ⟨0, 1, 1⟩) := by cbv
  obtain ⟨⟨_, _, before, after, whole⟩, both, -⟩ := blanks_split_lexing (by decide) space "é!" "= 0x"
  obtain ⟨-, -, tokens⟩ := blanks_split_lexing (by decide) space "a" "b"
  cases marks.symm.trans before
  cases behind.symm.trans after
  refine ⟨by decide, space, ?_, ?_, (tokens _ _ first second).2⟩
  · rw [whole]
    decide
  · rw [both, refused]
    rintro ⟨⟨_, ⟨⟩⟩, -⟩

end WatchLang
