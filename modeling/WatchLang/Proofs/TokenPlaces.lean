import Mathlib
import WatchLang.Proofs.Standing

/-!
# Where tokens stand

The tokens of a text stand on its characters one behind the other, and the end of the input stands behind them all. What
a token says of its place is what counting the characters before it afresh gives, whichever tokens and gaps scanning
went through to get there (`Token.readAt_standsOn`). That the tokens come in order is known of their bytes, since
scanning yields a lexing. Lines and columns follow the bytes: of two points of one text the later one is on a later
line, or further on in the same line (`Place.position_lt_through`).
-/

set_option autoImplicit false

namespace WatchLang

/-! ## Lines and columns in order -/

/-- Line and column, the line compared first. -/
def Place.position (p : Place) : ℕ ×ₗ ℕ :=
  toLex (p.line, p.column)

/-- The line and the column of a token, the line compared first. -/
def Token.position (t : Token) : ℕ ×ₗ ℕ :=
  toLex (t.line, t.column)

/-- Behind one more character one is on a later line or in a later column. -/
theorem Place.position_lt_past (p : Place) (c : Char) : p.position < (p.past c).position := by
  unfold position past
  split
  · exact Prod.Lex.toLex_lt_toLex.2 (Or.inl (Nat.lt_succ_self _))
  · exact Prod.Lex.toLex_lt_toLex.2 (Or.inr ⟨rfl, Nat.lt_succ_self _⟩)

/-- Moving through characters leads to a later position. -/
theorem Place.position_lt_through (p : Place) {cs : List Char} (nonempty : cs ≠ []) :
    p.position < (p.through cs).position := by
  induction cs generalizing p with
  | nil => exact absurd rfl nonempty
  | cons c cs ih =>
    have step := p.position_lt_past c
    rw [through_cons]
    cases cs with
    | nil => exact step
    | cons d ds => exact step.trans (ih (p.past c) (List.cons_ne_nil d ds))

/-! ## Tokens on characters -/

/-- A token that stands on some characters of a text: they are its text, its bytes are theirs, and its line and column
are found by counting the characters before them. -/
structure Token.StandsOn (t : Token) (text : String) (before pointed after : List Char) : Prop where
  split : before ++ pointed ++ after = text.toList
  lexeme : t.lexeme.toList = pointed
  span : t.span = ⟨byteLength before, byteLength (before ++ pointed)⟩
  line : t.line = 1 + before.count '\n'
  column : t.column = 1 + (lastLine before).length

/-- A token that stands before another one: its bytes end where those of the other begin or earlier, and it is on an
earlier line or in an earlier column of the same line. -/
structure Token.Precedes (t t' : Token) : Prop where
  apart : t.span.stop ≤ t'.span.start
  earlier : t.position < t'.position

namespace Token

variable {text : String} {before pointed after before' pointed' after' : List Char} {t t' : Token}

/-- A token that is read at the place counted before it stands on its characters. -/
theorem readAt_standsOn (kind : Kind) (split : before ++ pointed ++ after = text.toList) :
    (readAt (.counted before) kind pointed).StandsOn text before pointed after where
  split := split
  lexeme := String.toList_ofList
  span := by
    rw [readAt, Place.upTo, Place.offset_through, byteLength_append]
    rfl
  line := rfl
  column := rfl

/-- A token that stands on characters has the position counted before them. -/
theorem StandsOn.position_eq (stands : t.StandsOn text before pointed after) :
    t.position = (Place.counted before).position := by
  unfold position Place.position Place.counted
  rw [stands.line, stands.column]

/-- Of two tokens of a text the one that begins at the earlier byte is on an earlier line or in an earlier column. -/
theorem StandsOn.position_lt (stands : t.StandsOn text before pointed after)
    (stands' : t'.StandsOn text before' pointed' after') (earlier : t.span.start < t'.span.start) :
    t.position < t'.position := by
  rw [stands.span, stands'.span] at earlier
  have same : before ++ (pointed ++ after) = before' ++ (pointed' ++ after') := by
    rw [← List.append_assoc, ← List.append_assoc, stands.split, stands'.split]
  obtain ⟨between, rfl, -⟩ := exists_of_byteLength_le same (Nat.le_of_lt earlier)
  have nonempty : between ≠ [] := by
    rintro rfl
    rw [List.append_nil] at earlier
    exact Nat.lt_irrefl _ earlier
  rw [stands.position_eq, stands'.position_eq, ← Place.beginning_through, ← Place.beginning_through,
    Place.through_append]
  exact Place.position_lt_through _ nonempty

/-- A token on some characters comes before every token that begins where these end or later. -/
theorem StandsOn.precedes (stands : t.StandsOn text before pointed after) (nonempty : pointed ≠ [])
    (stands' : t'.StandsOn text before' pointed' after') (apart : t.span.stop ≤ t'.span.start) : t.Precedes t' := by
  have bytes : t.span.start < t.span.stop := by
    have pos := byteLength_pos nonempty
    rw [stands.span, byteLength_append]
    exact Nat.lt_add_of_pos_right pos
  exact ⟨apart, stands.position_lt stands' (Nat.lt_of_lt_of_le bytes apart)⟩

end Token

/-! ## The tokens of a text -/

section Scanned

variable {text : String} {met : List Token} (same : entries text = met.map Entry.token)

include same

/-- Each token that scanning meets stands on characters of the text, on one at least. -/
theorem exists_standsOn {t : Token} (member : t ∈ met) :
    ∃ before pointed after, t.StandsOn text before pointed after ∧ pointed ≠ [] := by
  have entry : .token t ∈ entries text := by
    rw [same]
    exact List.mem_map_of_mem member
  obtain ⟨before, pointed, after, split, stands⟩ := exists_of_mem_scan entry
  rw [Place.beginning_through] at stands
  cases stands with
  | @token kind _ lexeme =>
    exact ⟨before, pointed, after, Token.readAt_standsOn kind split, lexeme.ne_nil⟩

/-- The tokens that scanning meets come in the order of their bytes. -/
theorem pairwise_span : met.Pairwise fun t t' => t.span.stop ≤ t'.span.start := by
  have lexing : IsLexing 0 text.toList ((entries text).map Entry.raw) := (@isLexing_iff_eq_scan .beginning _ _).2 rfl
  have ordered := lexing.ordered
  rw [same, List.map_map, List.pairwise_map] at ordered
  exact ordered

/-- Each token of a text stands before all later ones. -/
theorem pairwise_precedes : met.Pairwise Token.Precedes := by
  refine (pairwise_span same).imp_of_mem ?_
  intro t t' member member' apart
  obtain ⟨before, pointed, after, stands, nonempty⟩ := exists_standsOn same member
  obtain ⟨before', pointed', after', stands', -⟩ := exists_standsOn same member'
  exact stands.precedes nonempty stands' apart

end Scanned

/-- The end of the input stands behind all characters of a text, on none. -/
theorem Token.endAt_standsOn (text : String) :
    (endAt (Place.beginning.through text.toList)).StandsOn text text.toList [] [] := by
  rw [Place.beginning_through]
  exact readAt_standsOn .endOfInput (by rw [List.append_nil, List.append_nil])

/-- The tokens of a text are ended by its one end of the input, which is empty and lies behind the last byte. Each of
them stands on characters of the text: its text is made of these, its bytes are theirs, and its line and column are
those that counting the line feeds before them and the characters behind the last of these gives. And they come in
order, the end of the input too: each ends before the bytes of the next ones, and before them by line and column. -/
theorem tokens_stand_in_order {text : String} {tokens : List Token} (tokenized : tokenize text = .ok tokens) :
    (∃ met last, tokens = met ++ [last] ∧ (∀ t ∈ met, t.kind ≠ .endOfInput) ∧ last.kind = .endOfInput ∧
      last.span = ⟨byteLength text.toList, byteLength text.toList⟩) ∧
    (∀ t ∈ tokens, ∃ before pointed after, t.StandsOn text before pointed after) ∧
    tokens.Pairwise Token.Precedes := by
  obtain ⟨met, same, rfl⟩ := tokenize_eq_ok_iff.1 tokenized
  have last := Token.endAt_standsOn text
  refine ⟨⟨met, _, rfl, kind_ne_of_entries same, rfl, ?_⟩, ?_, ?_⟩
  · rw [last.span, List.append_nil]
  · intro t member
    rcases List.mem_append.1 member with inside | ends
    · obtain ⟨before, pointed, after, stands, -⟩ := exists_standsOn same inside
      exact ⟨before, pointed, after, stands⟩
    · rw [List.mem_singleton.1 ends]
      exact ⟨_, _, _, last⟩
  · refine List.pairwise_append.2 ⟨pairwise_precedes same, List.pairwise_singleton _ _, ?_⟩
    intro t member e ends
    rw [List.mem_singleton.1 ends]
    obtain ⟨before, pointed, after, stands, nonempty⟩ := exists_standsOn same member
    refine stands.precedes nonempty last ?_
    rw [stands.span, last.span, ← stands.split, byteLength_append (before ++ pointed)]
    exact Nat.le_add_right _ _

/-- Characters of two bytes take one column, and so does a carriage return; behind a line feed columns are counted
anew. -/
theorem tokens_stand_in_order_two_lines :
    ∃ tokens, tokenize "SOURCE a\u00a0b\r\n >=" = .ok tokens ∧
      tokens.map (fun t => (t.span.start, t.line, t.column)) =
        [(0, 1, 1), (7, 1, 8), (10, 1, 10), (14, 2, 2), (16, 2, 4)] ∧
      tokens.Pairwise Token.Precedes := by
  have tokenized : tokenize "SOURCE a\u00a0b\r\n >=" =
      .ok [.readAt ⟨0, 1, 1⟩ (.keyword (.subject .source)) "SOURCE".toList,
        .readAt ⟨7, 1, 8⟩ .word ['a'], .readAt ⟨10, 1, 10⟩ .word ['b'], .readAt ⟨14, 2, 2⟩ .symbol ['>', '='],
        .endAt ⟨16, 2, 4⟩] := by cbv
  exact ⟨_, tokenized, rfl, (tokens_stand_in_order tokenized).2.2⟩

end WatchLang
