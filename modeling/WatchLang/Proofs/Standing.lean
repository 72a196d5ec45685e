import Mathlib
import WatchLang.Proofs.Lexing
import WatchLang.Proofs.Tokenizing

/-!
# Where refusals point

A refusal of a text tells a place and a range of bytes, and these are about some characters of the text: the stray
character, the token that did not fit, or nothing at the end. The bytes are those of the characters, and line and
column are what counting the text before them afresh gives (`beginning_through`), since places move along with
scanning (`exists_of_mem_scan`). A text with stray characters is refused for the first of them, wherever a token may be
out of place; so a refusal is about a token only when there are none.
-/

set_option autoImplicit false

namespace WatchLang

/-! ## Places counted afresh -/

/-- The characters behind the last line feed. -/
def lastLine (cs : List Char) : List Char :=
  (cs.reverse.takeWhile (· ≠ '\n')).reverse

/-- The place behind some characters of a text, found by counting: their bytes, their line feeds, and the characters
behind the last of these. -/
def Place.counted (before : List Char) : Place :=
  ⟨byteLength before, 1 + before.count '\n', 1 + (lastLine before).length⟩

/-- Moving through characters leads to the place that counting them finds. -/
theorem Place.beginning_through (cs : List Char) : beginning.through cs = counted cs := by
  induction cs using List.reverseRecOn with
  | nil => rfl
  | append_singleton cs c ih =>
    rw [through_append, ih, through_cons, through_nil]
    unfold past counted lastLine
    by_cases feed : c = '\n'
    · subst feed
      simp [Nat.add_assoc]
    · simp [feed, Nat.add_assoc]

/-! ## Where entries stand -/

/-- An entry that stands at a place on some characters: a token with these as its text, or a stray character that is
not blank. -/
inductive Entry.StandsAt (place : Place) : List Char → Entry → Prop
  | token {kind : Kind} {text : List Char} (lexeme : IsLexeme kind text) :
      StandsAt place text (.token (.readAt place kind text))
  | stray {c : Char} (inside : isBlank c = false) : StandsAt place [c] (.stray c place)

/-- Where an entry is met, it stands on characters at the place behind those before them, and scanning goes on behind
the place where they end. -/
theorem exists_of_scan_eq {place : Place} {cs : List Char} {earlier later : List Entry} {e : Entry}
    (scanned : scan place cs = earlier ++ e :: later) :
    ∃ before pointed after, before ++ pointed ++ after = cs ∧ e.StandsAt (place.through before) pointed ∧
      scan (place.through (before ++ pointed)) after = later := by
  revert scanned
  -- the recursion of scanning: a blank character, a lexeme, a stray character; the entry is the one met or a later one
  fun_induction scan place cs generalizing earlier with
  | case1 place => exact fun scanned => by simp at scanned
  | case2 place c more blank ih =>
    intro scanned
    obtain ⟨before, pointed, after, rfl, stands, goesOn⟩ := ih scanned
    exact ⟨c :: before, pointed, after, rfl, stands, goesOn⟩
  | case3 place c more inside l cut ih =>
    intro scanned
    have whole := Lexeme.text_append_rest cut
    cases earlier with
    | nil =>
      cases scanned
      exact ⟨[], l.text, l.rest, whole, .token (isLongest_of_first? cut).legal.1, rfl⟩
    | cons met earlier =>
      obtain ⟨before, pointed, after, rest, stands, goesOn⟩ := ih (List.cons.inj scanned).2
      refine ⟨l.text ++ before, pointed, after, ?_, ?_, ?_⟩
      · rw [← whole, ← rest, List.append_assoc, List.append_assoc, List.append_assoc]
      · rwa [Place.through_append]
      · rwa [List.append_assoc, Place.through_append]
  | case4 place c more inside nothing ih =>
    intro scanned
    rw [Bool.not_eq_true] at inside
    cases earlier with
    | nil =>
      cases scanned
      exact ⟨[], [c], more, rfl, .stray inside, rfl⟩
    | cons met earlier =>
      obtain ⟨before, pointed, after, rfl, stands, goesOn⟩ := ih (List.cons.inj scanned).2
      exact ⟨c :: before, pointed, after, rfl, stands, goesOn⟩

/-- Each entry stands on characters of the text, at the place behind those before them. -/
theorem exists_of_mem_scan {place : Place} {cs : List Char} {e : Entry} (h : e ∈ scan place cs) :
    ∃ before pointed after, before ++ pointed ++ after = cs ∧ e.StandsAt (place.through before) pointed := by
  obtain ⟨earlier, later, scanned⟩ := List.append_of_mem h
  obtain ⟨before, pointed, after, split, stands, -⟩ := exists_of_scan_eq scanned
  exact ⟨before, pointed, after, split, stands⟩

/-! ## Refusals -/

/-- Entries are refused for the first stray character. -/
theorem mapM_asToken_eq_error {es : List Entry} {d : Diagnostic} (h : es.mapM Entry.asToken = .error d) :
    ∃ (met : List Token) (c : Char) (place : Place) (later : List Entry),
      es = met.map Entry.token ++ .stray c place :: later ∧ d = .stray c place := by
  induction es with
  | nil => cases h
  | cons e es ih =>
    rw [List.mapM_cons] at h
    cases e with
    | stray c place =>
      cases h
      exact ⟨[], c, place, es, rfl, rfl⟩
    | token t =>
      cases rest : es.mapM Entry.asToken with
      | ok later =>
        rw [rest] at h
        cases h
      | error d' =>
        rw [rest] at h
        cases h
        obtain ⟨met, c, place, later, rfl, rfl⟩ := ih rest
        exact ⟨t :: met, c, place, later, rfl, rfl⟩

/-- A text that is not tokenized has a first stray character among its entries, which is refused. -/
theorem tokenize_eq_error {text : String} {d : Diagnostic} (h : tokenize text = .error d) :
    ∃ (met : List Token) (c : Char) (place : Place) (later : List Entry),
      entries text = met.map Entry.token ++ .stray c place :: later ∧ d = .stray c place := by
  rw [tokenize_eq] at h
  cases met : (entries text).mapM Entry.asToken with
  | ok tokens =>
    rw [met] at h
    cases h
  | error d' =>
    rw [met] at h
    cases h
    exact mapM_asToken_eq_error met

/-- A refusal of tokens that end in an end of the input describes one of them. -/
theorem Reader.ExactOnTokens.exists_of_refused {α : Type} {read : List Token → Except Diagnostic α}
    {Spelled : List Token → α → Prop} (exact : ExactOnTokens read Spelled) {met : List Token} {e : Token}
    (ends : e.kind = .endOfInput) {d : Diagnostic} (refused : read (met ++ [e]) = .error d) :
    ∃ phrase expected, ∃ t ∈ met ++ [e], d = .unexpected phrase expected t := by
  obtain ⟨rest, taken, expected, begins, ⟨phrase, told⟩, -⟩ := exact.refuses refused
  have described := List.mem_of_getElem? (Cursor.getElem?_toList_of_le begins.length_le)
  rw [Cursor.ofList_append_end met ends] at described told
  exact ⟨phrase, expected, _, described, told⟩

/-- What is refused when a text is tokenized and read: a stray character, which is the first; or a token, when there are
no stray characters. -/
theorem Reader.ExactOnTokens.tokenize_bind_eq_error {α : Type} {read : List Token → Except Diagnostic α}
    {Spelled : List Token → α → Prop} (exact : ExactOnTokens read Spelled) {text : String} {d : Diagnostic}
    (refused : (do read (← tokenize text)) = .error d) :
    (∃ (met : List Token) (c : Char) (place : Place) (later : List Entry),
        entries text = met.map Entry.token ++ .stray c place :: later ∧ d = .stray c place) ∨
      ∃ met : List Token, entries text = met.map Entry.token ∧ ∃ phrase expected,
        ∃ t ∈ met ++ [.endAt (Place.beginning.through text.toList)], d = .unexpected phrase expected t := by
  cases tokenized : tokenize text with
  | error d' =>
    rw [tokenized] at refused
    cases refused
    exact Or.inl (tokenize_eq_error tokenized)
  | ok tokens =>
    obtain ⟨met, same, rfl⟩ := tokenize_eq_ok_iff.1 tokenized
    rw [tokenized] at refused
    exact Or.inr ⟨met, same, exact.exists_of_refused rfl refused⟩

/-! ## Pointing at the text -/

/-- A refusal of a text points at some characters of it: they stand where the refusal says, and they are the first
character that begins no lexeme if lexing yields one, and otherwise the text of the token that did not fit. -/
structure Diagnostic.PointsAt (d : Diagnostic) (text : String) (raws : List RawEntry)
    (before pointed after : List Char) : Prop where
  lexed : lex text = .ok raws
  split : before ++ pointed ++ after = text.toList
  span : d.span = ⟨byteLength before, byteLength (before ++ pointed)⟩
  line : d.line = 1 + before.count '\n'
  column : d.column = 1 + (lastLine before).length
  lexical_iff : (∃ character, d.cause = .unrecognized character) ↔ ∃ raw ∈ raws, raw.1 = none
  first : ∀ character, d.cause = .unrecognized character → ∃ c, character = some c ∧ pointed = [c] ∧
    isBlank c = false ∧ raws.find? (·.1.isNone) = some (none, d.span)
  misfit : ∀ phrase expected found lexeme, d.cause = .unexpected phrase expected found lexeme →
    pointed = lexeme.toList ∧
      (found = .endOfInput ↔ d.span = ⟨byteLength text.toList, byteLength text.toList⟩)

/-- A refusal for the first stray character points at that character. -/
theorem Diagnostic.stray_pointsAt {text : String} {met : List Token} {c : Char} {place : Place}
    {later : List Entry} (same : entries text = met.map Entry.token ++ .stray c place :: later) :
    ∃ before pointed after, (stray c place).PointsAt text ((entries text).map Entry.raw) before pointed after := by
  have member : .stray c place ∈ entries text := by rw [same]; simp
  obtain ⟨before, pointed, after, split, stands⟩ := exists_of_mem_scan member
  rw [Place.beginning_through] at stands
  cases stands with
  | stray inside =>
    have bytes : byteLength (before ++ [c]) = byteLength before + c.utf8Size := by
      rw [byteLength_append, byteLength_cons, byteLength_nil, Nat.add_zero]
    have span : (stray c (.counted before)).span = ⟨byteLength before, byteLength (before ++ [c])⟩ := by
      rw [bytes, stray, Place.upTo, Place.offset_past]
      rfl
    have raw : (Entry.stray c (.counted before)).raw = (none, (stray c (.counted before)).span) := rfl
    refine ⟨before, [c], after, lex_eq text, split, span, rfl, rfl, ?_, ?_, ?_⟩
    · exact iff_of_true ⟨_, rfl⟩ ⟨_, List.mem_map_of_mem member, rfl⟩
    · intro character told
      cases told
      refine ⟨c, rfl, rfl, inside, ?_⟩
      have tokens : (met.map (Entry.raw ∘ Entry.token)).find? (·.1.isNone) = none := by
        rw [List.find?_eq_none]
        simp [Entry.raw, Entry.kind?]
      rw [same, List.map_append, List.map_map, List.find?_append, tokens, List.map_cons, raw]
      rfl
    · intro phrase expected found lexeme told
      cases told

/-- Where there are no stray characters, a refusal of a token points at the characters that the token is read at. Its
bytes are the empty end of the text only if no characters are pointed at and none follow. -/
theorem Diagnostic.unexpected_readAt_pointsAt {text : String} {met : List Token}
    (same : entries text = met.map Entry.token) (phrase : Phrase) (expected : List Kind) {kind : Kind}
    {before pointed after : List Char} (split : before ++ pointed ++ after = text.toList)
    (ends_iff : kind = .endOfInput ↔ pointed = [] ∧ after = []) :
    (unexpected phrase expected (.readAt (.counted before) kind pointed)).PointsAt text ((entries text).map Entry.raw)
      before pointed after := by
  have tokens : ¬ ∃ raw ∈ (entries text).map Entry.raw, raw.1 = none := by
    rw [same]
    simp [Entry.raw, Entry.kind?]
  have span : (Token.readAt (.counted before) kind pointed).span =
      ⟨byteLength before, byteLength (before ++ pointed)⟩ := by
    rw [Token.readAt, Place.upTo, Place.offset_through, byteLength_append]
    rfl
  have whole : byteLength text.toList = byteLength before + byteLength pointed + byteLength after := by
    rw [← split, byteLength_append, byteLength_append]
  refine ⟨lex_eq text, split, span, rfl, rfl, iff_of_false ?_ tokens, ?_, ?_⟩
  · rintro ⟨character, told⟩
    cases told
  · intro character told
    cases told
  · intro phrase' expected' found lexeme told
    cases told
    refine ⟨String.toList_ofList.symm, ?_⟩
    change kind = .endOfInput ↔ (Token.readAt (.counted before) kind pointed).span = _
    rw [ends_iff, span, Span.mk.injEq, byteLength_append, whole, ← byteLength_eq_zero_iff, ← byteLength_eq_zero_iff]
    omega

/-- A refusal of a token of a text without stray characters points at the token, or at the end of the text. -/
theorem Diagnostic.unexpected_pointsAt {text : String} {met : List Token} (same : entries text = met.map Entry.token)
    (phrase : Phrase) (expected : List Kind) {t : Token}
    (member : t ∈ met ++ [.endAt (Place.beginning.through text.toList)]) :
    ∃ before pointed after,
      (unexpected phrase expected t).PointsAt text ((entries text).map Entry.raw) before pointed after := by
  rcases List.mem_append.1 member with inside | last
  · have entry : .token t ∈ entries text := by
      rw [same]
      exact List.mem_map_of_mem inside
    obtain ⟨before, pointed, after, split, stands⟩ := exists_of_mem_scan entry
    rw [Place.beginning_through] at stands
    cases stands with
    | @token kind _ lexeme =>
      have other : kind ≠ .endOfInput := by
        rintro rfl
        cases lexeme
      have ends_iff := iff_of_false other fun nothing : pointed = [] ∧ after = [] => lexeme.ne_nil nothing.1
      exact ⟨before, pointed, after, unexpected_readAt_pointsAt same phrase expected split ends_iff⟩
  · have split : text.toList ++ [] ++ [] = text.toList := by rw [List.append_nil, List.append_nil]
    have points := unexpected_readAt_pointsAt same phrase expected split (iff_of_true rfl ⟨rfl, rfl⟩)
    rw [List.mem_singleton.1 last, Place.beginning_through]
    exact ⟨text.toList, [], [], points⟩

/-- Whatever is refused when a text is tokenized and read points at characters of the text. -/
theorem Reader.ExactOnTokens.exists_pointsAt {α : Type} {read : List Token → Except Diagnostic α}
    {Spelled : List Token → α → Prop} (exact : ExactOnTokens read Spelled) {text : String} {d : Diagnostic}
    (refused : (do read (← tokenize text)) = .error d) :
    ∃ raws before pointed after, d.PointsAt text raws before pointed after := by
  rcases exact.tokenize_bind_eq_error refused with
    ⟨met, c, place, later, same, rfl⟩ | ⟨met, same, phrase, expected, t, member, rfl⟩
  · exact ⟨_, Diagnostic.stray_pointsAt same⟩
  · exact ⟨_, Diagnostic.unexpected_pointsAt same phrase expected member⟩

/-- Every refusal of a text points at characters of the text, in bytes and in lines and columns: the first character
that begins no lexeme if there is one, whatever else is wrong with the text; otherwise the token that did not fit, or
the end of the text just when the end of the input was found. Lexing the text does not fail, so no refusal is made for
where it failed, and one for a character always tells the character. -/
theorem refusals_point_at_text (text : String) (d : Diagnostic) (refused : Program.ofText text = .error d) :
    (∀ errors, lex text ≠ .error errors) ∧
    ∃ raws before pointed after, d.PointsAt text raws before pointed after := by
  constructor
  · intro errors failed
    rw [lex_eq] at failed
    cases failed
  · exact Reader.exact_program_ofTokens.exists_pointsAt refused

/-- A stray character is pointed at although a token is out of place before it; and behind a line feed at the end of a
text the end of the input is on a line of its own. -/
theorem refusals_point_at_text_stray_behind_misfit :
    Program.ofText "SOURCE 1\n é" = .error (.stray 'é' ⟨10, 2, 2⟩) ∧
    (∃ raws before pointed after,
      (Diagnostic.stray 'é' ⟨10, 2, 2⟩).PointsAt "SOURCE 1\n é" raws before pointed after) ∧
    Program.ofText "SOURCE\n" = .error (.unexpected (.subject .source) [.word] (.endAt ⟨7, 2, 1⟩)) ∧
    ∃ raws before pointed after,
      (Diagnostic.unexpected (.subject .source) [.word] (.endAt ⟨7, 2, 1⟩)).PointsAt "SOURCE\n" raws
        before pointed after := by
  have stray : Program.ofText "SOURCE 1\n é" = .error (.stray 'é' ⟨10, 2, 2⟩) := by cbv
  have ended : Program.ofText "SOURCE\n" = .error (.unexpected (.subject .source) [.word] (.endAt ⟨7, 2, 1⟩)) := by cbv
  exact ⟨stray, (refusals_point_at_text _ _ stray).2, ended, (refusals_point_at_text _ _ ended).2⟩

end WatchLang
