import Mathlib.Data.List.TakeWhile
import WatchLang.Proofs.LongestLexeme
import WatchLang.Token.Scan

/-!
# Lexing and tokenizing are scanning

Lexing takes padded entries off a text and knows bytes only, tokenizing walks behind it with a line cursor, and scanning
does both in one pass. The entries that lexing takes are those that scanning meets, since what is blank moves the place
and yields nothing; and it stops only where nothing but blanks is left, so it never fails (`lex_eq`). A cursor that has
reached the last entry finds the place of the next one by the characters in between, which is where scanning has got to
by all that it went through (`tokensFrom_scan`). So a text has the tokens that scanning meets, and is refused for the
first stray character, which is there to be named; the refusal for a failed lexing is never made (`tokenize_eq`).
-/

set_option autoImplicit false

namespace WatchLang

/-! ## Scanning step by step -/

/-- Scanning passes by a blank character. -/
theorem scan_blank {place : Place} {c : Char} {more : List Char} (blank : isBlank c = true) :
    scan place (c :: more) = scan (place.past c) more := by
  rw [scan, if_pos blank]

/-- White space yields no entries; the place moves through it. -/
theorem scan_blanks {gap : List Char} (blank : ∀ c ∈ gap, isBlank c = true) (place : Place) (rest : List Char) :
    scan place (gap ++ rest) = scan (place.through gap) rest := by
  induction gap generalizing place with
  | nil => rfl
  | cons c gap ih =>
    have first := blank c List.mem_cons_self
    have later := ih (fun d member => blank d (List.mem_cons_of_mem _ member)) (place.past c)
    rw [List.cons_append, scan_blank first, later, Place.through_cons]

/-- Scanning meets something wherever a text is not blank. -/
theorem scan_eq_nil_iff {place : Place} {cs : List Char} : scan place cs = [] ↔ ∀ c ∈ cs, isBlank c = true := by
  constructor
  · fun_induction scan place cs with
    | case1 place => exact fun _ c member => absurd member List.not_mem_nil
    | case2 place c more blank ih => exact fun nothing => List.forall_mem_cons.2 ⟨blank, ih nothing⟩
    | case3 place c more inside l cut ih => exact fun nothing => absurd nothing (List.cons_ne_nil _ _)
    | case4 place c more inside none ih => exact fun nothing => absurd nothing (List.cons_ne_nil _ _)
  · intro blank
    have skipped := scan_blanks blank place []
    rwa [List.append_nil, scan] at skipped

/-- A lexeme cut off the front is the first entry. -/
theorem scan_cut {cs : List Char} {l : Lexeme} (cut : Lexeme.first? cs = some l) (place : Place) :
    scan place cs = .token (.readAt place l.kind l.text) :: scan (place.through l.text) l.rest := by
  have lexeme := (isLongest_of_first? cut).legal.1
  have whole := Lexeme.text_append_rest cut
  obtain ⟨c, more, front⟩ := List.exists_cons_of_ne_nil lexeme.ne_nil
  have inside := lexeme.not_isBlank c (by rw [front]; exact List.mem_cons_self)
  rw [front, List.cons_append] at whole
  subst whole
  rw [scan, if_neg (by rw [inside]; exact Bool.false_ne_true)]
  split
  · next l' cut' =>
    cases cut.symm.trans cut'
    rfl
  · next nothing => cases cut.symm.trans nothing

/-- Where no lexeme is cut off, a character that is not blank is an entry by itself. -/
theorem scan_stray {c : Char} {more : List Char} (inside : isBlank c = false)
    (nothing : Lexeme.first? (c :: more) = none) (place : Place) :
    scan place (c :: more) = .stray c place :: scan (place.past c) more := by
  rw [scan, if_neg (by rw [inside]; exact Bool.false_ne_true)]
  split
  · next l cut => cases nothing.symm.trans cut
  · rfl

/-! ## Lexing -/

namespace Unread

variable {u rest : Unread} {place : Place}

/-- Where no entry can be taken off, nothing is left. -/
theorem text_eq_nil_of_entry? (ended : u.entry? = none) : u.text = [] := by
  unfold entry? at ended
  split at ended
  · cases ended
  · split at ended
    · assumption
    · cases ended

/-- The text behind what is blank at the front begins with a character that is not blank. -/
theorem not_isBlank_head_skipBlanks (u : Unread) {c : Char} (first : u.skipBlanks.text.head? = some c) :
    isBlank c = false := by
  have stops := List.head?_dropWhile_not isBlank u.text
  rw [skipBlanks] at first
  rw [first] at stops
  simpa using stops

/-- What is blank at the front moves the place along, and yields no entries. -/
theorem scan_skipBlanks (u : Unread) (offset : place.offset = u.offset) :
    ∃ place', scan place u.text = scan place' u.skipBlanks.text ∧ place'.offset = u.skipBlanks.offset := by
  have blank : ∀ c ∈ u.text.takeWhile isBlank, isBlank c = true := fun c member => List.mem_takeWhile_imp member
  have skipped := scan_blanks blank place (u.text.dropWhile isBlank)
  rw [List.takeWhile_append_dropWhile] at skipped
  exact ⟨_, skipped, by rw [Place.offset_through, offset, skipBlanks]⟩

/-- An entry that is taken off a text that does not begin with a blank is the one that scanning meets first. -/
theorem scan_entry? {raw : RawEntry} (taken : u.entry? = some (raw, rest)) (offset : place.offset = u.offset)
    (inside : ∀ c, u.text.head? = some c → isBlank c = false) :
    ∃ e place', scan place u.text = e :: scan place' rest.text ∧ e.raw = raw ∧ place'.offset = rest.offset := by
  unfold entry? at taken
  split at taken
  · next l cut =>
    cases taken
    refine ⟨_, _, scan_cut cut place, ?_, by rw [Place.offset_through, offset]⟩
    simp only [Entry.raw, Entry.kind?, Entry.span, Token.readAt, Place.upTo, Place.offset_through, offset]
  · next nothing =>
    split at taken
    · cases taken
    · next c more front =>
      cases taken
      rw [front] at nothing
      rw [front]
      refine ⟨_, _, scan_stray (inside c (by rw [front]; rfl)) nothing place, ?_, by rw [Place.offset_past, offset]⟩
      simp only [Entry.raw, Entry.kind?, Entry.span, Place.upTo, Place.offset_past, offset]

/-- Lexing takes off the entries that scanning meets, until only blanks are left. -/
theorem takeEntries_eq_scan (u : Unread) (offset : place.offset = u.offset) :
    u.takeEntries.1 = (scan place u.text).map Entry.raw ∧ ∀ c ∈ u.takeEntries.2.text, isBlank c = true := by
  -- the recursion of lexing: an entry with the blanks around it, or none
  fun_induction takeEntries u generalizing place with
  | case1 u raw rest taken raws left later ih =>
    obtain ⟨⟨_, bare⟩, entry, same⟩ := Option.map_eq_some_iff.1 taken
    cases same
    obtain ⟨place', skipped, offset'⟩ := u.scan_skipBlanks offset
    obtain ⟨e, behind, met, same, offset''⟩ := scan_entry? entry offset' fun c => u.not_isBlank_head_skipBlanks
    obtain ⟨next, skipped', offset'''⟩ := bare.scan_skipBlanks offset''
    obtain ⟨others, blank⟩ := ih offset'''
    rw [later] at others blank
    rw [skipped, met, skipped', List.map_cons, same, ← others]
    exact ⟨rfl, blank⟩
  | case2 u none =>
    obtain ⟨place', skipped, -⟩ := u.scan_skipBlanks offset
    have empty := text_eq_nil_of_entry? (Option.map_eq_none_iff.1 none)
    rw [empty, scan] at skipped
    rw [skipped]
    exact ⟨rfl, scan_eq_nil_iff.1 skipped⟩

end Unread

/-- Lexing never fails, and yields the kinds and the bytes of the entries. -/
theorem lex_eq (text : String) : lex text = .ok ((entries text).map Entry.raw) := by
  have begins : Place.beginning.offset = (Unread.mk 0 text.toList).offset := rfl
  obtain ⟨place, skipped, offset⟩ := (Unread.mk 0 text.toList).scan_skipBlanks begins
  obtain ⟨raws, left⟩ := (Unread.mk 0 text.toList).skipBlanks.takeEntries_eq_scan offset
  have nothing : (Unread.mk 0 text.toList).skipBlanks.takeEntries.2.skipBlanks.text = [] :=
    List.dropWhile_eq_nil_iff.2 left
  unfold lex
  rw [entries, skipped, ← raws]
  simp only [nothing]

/-! ## Tokenizing -/

/-- From wherever a line cursor has got to behind the entries before, the tokens for further entries are these entries
as tokens, each at the place where scanning meets it. -/
theorem tokensFrom_scan {text cs before between : List Char} {place : Place} (split : before ++ between ++ cs = text)
    (reached : Place.beginning.through (before ++ between) = place) :
    tokensFrom ⟨text, Place.beginning.through before⟩ ((scan place cs).map Entry.raw) = do
      let tokens ← (scan place cs).mapM Entry.asToken
      return tokens ++ [.endAt (Place.beginning.through text)] := by
  -- the recursion of scanning: a blank character, a lexeme, a stray character; what is met moves from the rest of the
  -- text to what stands between the cursor and the next entry
  fun_induction scan place cs generalizing before between with
  | case1 place =>
    subst split
    have walked := LineCursor.advanceTo_eq before between []
    rw [List.append_nil] at walked ⊢
    rw [List.map_nil, tokensFrom, walked]
    rfl
  | case2 place c more blank ih =>
    have split' : before ++ (between ++ [c]) ++ more = text := by simp [← split]
    exact ih split' (by rw [← List.append_assoc, Place.through_append, reached]; rfl)
  | case3 place c more inside l cut ih =>
    have whole := Lexeme.text_append_rest cut
    have split' : before ++ between ++ l.text ++ l.rest = text := by rw [← split, ← whole, List.append_assoc]
    have rest := ih split' (by rw [Place.through_append, reached])
    have offset : place.offset = byteLength (before ++ between) := by
      rw [← reached, Place.offset_through, Place.beginning, Nat.zero_add]
    have walked : LineCursor.advanceTo ⟨text, Place.beginning.through before⟩ place.offset = ⟨text, place⟩ := by
      rw [offset, ← split, LineCursor.advanceTo_eq, reached]
    have lexeme : sliceBytes text (place.upTo (place.through l.text)) = l.text := by
      rw [Place.upTo, Place.offset_through, offset, ← byteLength_append, ← split']
      exact sliceBytes_append _ _ _
    have raw : (Entry.token (.readAt place l.kind l.text)).raw =
        (some l.kind, place.upTo (place.through l.text)) := rfl
    rw [reached] at rest
    rw [List.map_cons, raw, tokensFrom]
    dsimp only [Place.upTo] at lexeme ⊢
    rw [walked, lexeme, rest, List.mapM_cons]
    cases (scan (place.through l.text) l.rest).mapM Entry.asToken <;> rfl
  | case4 place c more inside nothing ih =>
    have offset : place.offset = byteLength (before ++ between) := by
      rw [← reached, Place.offset_through, Place.beginning, Nat.zero_add]
    have walked : LineCursor.advanceTo ⟨text, Place.beginning.through before⟩ place.offset = ⟨text, place⟩ := by
      rw [offset, ← split, LineCursor.advanceTo_eq, reached]
    have character : (dropBytes text place.offset).head? = some c := by
      rw [offset, ← split, dropBytes_append]
      rfl
    have raw : (Entry.stray c place).raw = (none, place.upTo (place.past c)) := rfl
    rw [List.map_cons, raw, tokensFrom]
    dsimp only [Place.upTo]
    rw [walked, character]
    rfl

/-- A text has the tokens that scanning meets, ended by the end of the input, and is refused for its first stray
character. -/
theorem tokenize_eq (text : String) :
    tokenize text = do
      let tokens ← (entries text).mapM Entry.asToken
      return tokens ++ [.endAt (Place.beginning.through text.toList)] := by
  unfold tokenize
  rw [lex_eq]
  have whole : [] ++ [] ++ text.toList = text.toList := rfl
  exact tokensFrom_scan whole rfl

end WatchLang
