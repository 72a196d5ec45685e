import WatchLang.Proofs.OrderedChoice
import WatchLang.Proofs.Scanning

/-!
# Scanning is the only lexing

What the entries of a text have to be, said of the text as a whole: where they lie in it, what is left between
them, and what stands at each. A lexing is a list of kinds and spans with these properties, and scanning yields one and
the only one. The argument follows the text from the front. A blank character is covered by nothing and can be left
out (`isLexing_blank_iff`); any other is covered by an entry, which must begin there and be the first, and the entries
after it are a lexing of what is left (`isLexing_entry_iff`). Scanning takes the same steps, whether it finds the
lexeme at the front by the run of characters of words or by rules tried in order.
-/

set_option autoImplicit false

namespace WatchLang

/-- Whether a byte offset lies in a span. -/
def Span.Covers (s : Span) (offset : Nat) : Prop :=
  s.start ≤ offset ∧ offset < s.stop

/-- What may stand before a rest of a text: the longest legal lexeme, with its kind; or a single character
without a kind, if no legal lexeme stands there. -/
def MayStand (kind? : Option Kind) (lexeme rest : List Char) : Prop :=
  match kind? with
  | some kind => IsLongest (lexeme ++ rest) kind lexeme rest
  | none => lexeme.length = 1 ∧
      ∀ kind lexeme' rest', lexeme' ++ rest' = lexeme ++ rest → ¬ LegalBefore rest' kind lexeme'

/-- A lexing of a text whose first byte has a given offset. -/
structure IsLexing (origin : Nat) (text : List Char) (raws : List RawEntry) : Prop where
  /-- Each entry lies on characters, is not empty, and may stand where it does. -/
  stands : ∀ raw ∈ raws, ∃ before lexeme rest, text = before ++ lexeme ++ rest ∧ lexeme ≠ [] ∧
    raw.2 = ⟨origin + byteLength before, origin + byteLength (before ++ lexeme)⟩ ∧
    MayStand raw.1 lexeme rest
  /-- Each entry ends before the next ones begin. -/
  ordered : raws.Pairwise fun first later => first.2.stop ≤ later.2.start
  /-- Just the blank characters are outside all entries. -/
  gaps : ∀ before c after, text = before ++ c :: after →
    (isBlank c = true ↔ ∀ raw ∈ raws, ¬ raw.2.Covers (origin + byteLength before))

/-! ## Bytes -/

/-- A text with characters has bytes. -/
theorem byteLength_pos {cs : List Char} (h : cs ≠ []) : 0 < byteLength cs := by
  obtain ⟨c, more, rfl⟩ := List.exists_cons_of_ne_nil h
  rw [byteLength_cons]
  exact Nat.lt_of_lt_of_le c.utf8Size_pos (Nat.le_add_right _ _)

/-- Only a text without characters has no bytes. -/
theorem byteLength_eq_zero_iff {cs : List Char} : byteLength cs = 0 ↔ cs = [] := by
  constructor
  · intro zero
    refine Decidable.byContradiction fun nonempty => ?_
    have pos := byteLength_pos nonempty
    omega
  · rintro rfl
    rfl

/-- A beginning of a text that is not shorter in bytes than another one begins with it. -/
theorem exists_of_byteLength_le {first rest before after : List Char} (same : first ++ rest = before ++ after)
    (le : byteLength first ≤ byteLength before) : ∃ between, before = first ++ between ∧ rest = between ++ after := by
  rcases List.append_eq_append_iff.1 same with ⟨between, rfl, rfl⟩ | ⟨between, rfl, rfl⟩
  · exact ⟨between, rfl, rfl⟩
  · rw [byteLength_append] at le
    have empty : between = [] := by
      refine Decidable.byContradiction fun nonempty => ?_
      have pos := byteLength_pos nonempty
      omega
    subst empty
    exact ⟨[], by simp⟩

/-! ## What stands at the front -/

/-- Nothing that may stand is blank, unless it is a single character. -/
theorem MayStand.not_isBlank {kind? : Option Kind} {c : Char} {more lexeme rest : List Char}
    (h : MayStand kind? lexeme rest) (inside : isBlank c = false) (front : c :: more = lexeme ++ rest) :
    ∀ d ∈ lexeme, isBlank d = false := by
  cases kind? with
  | some kind => exact h.legal.1.not_isBlank
  | none =>
    obtain ⟨d, rfl⟩ := List.length_eq_one_iff.1 h.1
    obtain ⟨rfl, -⟩ := List.cons.inj front
    intro d member
    rwa [List.mem_singleton.1 member]

/-- What may stand at the front is what is cut off there, or one character if nothing is. -/
theorem mayStand_front_iff {c : Char} {more lexeme rest : List Char} {kind? : Option Kind}
    (front : c :: more = lexeme ++ rest) :
    MayStand kind? lexeme rest ↔
      (∃ l, Lexeme.first? (c :: more) = some l ∧ kind? = some l.kind ∧ lexeme = l.text ∧ rest = l.rest) ∨
        (Lexeme.first? (c :: more) = none ∧ kind? = none ∧ lexeme = [c] ∧ rest = more) := by
  cases kind? with
  | some kind =>
    constructor
    · intro longest
      rw [MayStand, ← front, ← first?_eq_some_iff] at longest
      exact Or.inl ⟨_, longest, rfl, rfl, rfl⟩
    · rintro (⟨l, cut, same, rfl, rfl⟩ | ⟨-, same, -⟩)
      · cases same
        rw [MayStand, ← front]
        exact isLongest_of_first? cut
      · cases same
  | none =>
    constructor
    · rintro ⟨single, nothing⟩
      obtain ⟨d, rfl⟩ := List.length_eq_one_iff.1 single
      obtain ⟨rfl, rfl⟩ := List.cons.inj front
      exact Or.inr ⟨first?_eq_none_iff.2 nothing, rfl, rfl, rfl⟩
    · rintro (⟨l, -, same, -⟩ | ⟨nothing, -, rfl, rfl⟩)
      · cases same
      · exact ⟨rfl, first?_eq_none_iff.1 nothing⟩

/-- An entry that may stand at the front of a text with characters takes some of them. -/
theorem MayStand.ne_nil {kind? : Option Kind} {c : Char} {more lexeme rest : List Char}
    (h : MayStand kind? lexeme rest) (front : c :: more = lexeme ++ rest) : lexeme ≠ [] := by
  rcases (mayStand_front_iff front).1 h with ⟨l, cut, -, rfl, -⟩ | ⟨-, -, rfl, -⟩
  · exact Lexeme.text_ne_nil cut
  · exact List.cons_ne_nil _ _

/-- At most one entry may stand at the front of a text. -/
theorem MayStand.unique {kind? kind?' : Option Kind} {c : Char} {more lexeme rest lexeme' rest' : List Char}
    (h : MayStand kind? lexeme rest) (front : c :: more = lexeme ++ rest)
    (h' : MayStand kind?' lexeme' rest') (front' : c :: more = lexeme' ++ rest') :
    kind? = kind?' ∧ lexeme = lexeme' ∧ rest = rest' := by
  rcases (mayStand_front_iff front).1 h with ⟨l, cut, rfl, rfl, rfl⟩ | ⟨nothing, rfl, rfl, rfl⟩
  · rcases (mayStand_front_iff front').1 h' with ⟨l', cut', rfl, rfl, rfl⟩ | ⟨nothing, -⟩
    · cases cut.symm.trans cut'
      exact ⟨rfl, rfl, rfl⟩
    · cases cut.symm.trans nothing
  · rcases (mayStand_front_iff front').1 h' with ⟨l', cut', -⟩ | ⟨-, rfl, rfl, rfl⟩
    · cases nothing.symm.trans cut'
    · exact ⟨rfl, rfl, rfl⟩

/-! ## Step by step -/

/-- The lexing of an empty text has no entries. -/
theorem isLexing_nil_iff {origin : Nat} {raws : List RawEntry} : IsLexing origin [] raws ↔ raws = [] := by
  constructor
  · intro h
    cases raws with
    | nil => rfl
    | cons raw raws =>
      obtain ⟨before, lexeme, rest, empty, nonempty, -⟩ := h.stands raw List.mem_cons_self
      simp at empty
      exact absurd empty.2.1 nonempty
  · rintro rfl
    refine ⟨by simp, List.Pairwise.nil, ?_⟩
    intro before c after empty
    simp at empty

/-- A blank character at the front is outside all entries, and the entries are those of what follows it. -/
theorem isLexing_blank_iff {origin : Nat} {c : Char} {more : List Char} {raws : List RawEntry}
    (blank : isBlank c = true) :
    IsLexing origin (c :: more) raws ↔ IsLexing (origin + c.utf8Size) more raws := by
  constructor
  · intro h
    have outside := (h.gaps [] c more rfl).1 blank
    refine ⟨?_, h.ordered, ?_⟩
    · intro raw member
      obtain ⟨before, lexeme, rest, text, nonempty, span, stands⟩ := h.stands raw member
      cases before with
      | nil =>
        have pos := byteLength_pos nonempty
        refine absurd ?_ (outside raw member)
        rw [span]
        exact ⟨Nat.le_refl _, by simp only [List.nil_append, byteLength_nil]; omega⟩
      | cons d before =>
        simp only [List.cons_append, List.cons.injEq] at text
        obtain ⟨rfl, text⟩ := text
        refine ⟨before, lexeme, rest, text, nonempty, ?_, stands⟩
        rw [span]
        simp only [List.cons_append, byteLength_cons, Nat.add_assoc]
    · intro before d after text
      have gap := h.gaps (c :: before) d after (by rw [text, List.cons_append])
      rwa [byteLength_cons, ← Nat.add_assoc] at gap
  · intro h
    refine ⟨?_, h.ordered, ?_⟩
    · intro raw member
      obtain ⟨before, lexeme, rest, text, nonempty, span, stands⟩ := h.stands raw member
      refine ⟨c :: before, lexeme, rest, by rw [text]; rfl, nonempty, ?_, stands⟩
      rw [span]
      simp only [List.cons_append, byteLength_cons, Nat.add_assoc]
    · intro before d after text
      cases before with
      | nil =>
        obtain ⟨rfl, -⟩ := List.cons.inj text
        refine ⟨?_, fun _ => blank⟩
        rintro - raw member ⟨starts, -⟩
        obtain ⟨before, lexeme, rest, -, -, span, -⟩ := h.stands raw member
        have pos := c.utf8Size_pos
        rw [span] at starts
        simp only [byteLength_nil] at starts
        omega
      | cons e before =>
        simp only [List.cons_append, List.cons.injEq] at text
        obtain ⟨rfl, text⟩ := text
        have gap := h.gaps before d after text
        rwa [Nat.add_assoc, ← byteLength_cons] at gap

/-- If the character at the front is not blank, the first entry begins there. -/
theorem IsLexing.first_at_front {origin : Nat} {c : Char} {more : List Char} {raws : List RawEntry}
    (h : IsLexing origin (c :: more) raws) (inside : isBlank c = false) :
    ∃ kind? lexeme rest raws', c :: more = lexeme ++ rest ∧ MayStand kind? lexeme rest ∧
      raws = (kind?, ⟨origin, origin + byteLength lexeme⟩) :: raws' := by
  have covered : ∃ raw ∈ raws, raw.2.Covers origin := by
    refine Classical.byContradiction fun nowhere => ?_
    have gap := (h.gaps [] c more rfl).2 fun raw member covers => nowhere ⟨raw, member, covers⟩
    rw [inside] at gap
    cases gap
  obtain ⟨raw', member, starts, -⟩ := covered
  obtain ⟨raw, raws', rfl⟩ := List.exists_cons_of_ne_nil (List.ne_nil_of_mem member)
  obtain ⟨before, lexeme, rest, text, nonempty, span, stands⟩ := h.stands raw List.mem_cons_self
  have pos := byteLength_pos nonempty
  -- were the covering entry a later one, the first one would have to end before it begins
  have front : before = [] := by
    refine Decidable.byContradiction fun away => ?_
    have pos' := byteLength_pos away
    rcases List.mem_cons.1 member with rfl | later
    · rw [span] at starts
      simp only at starts
      omega
    · have ends := (List.pairwise_cons.1 h.ordered).1 raw' later
      rw [span] at ends
      simp only [byteLength_append] at ends
      omega
  subst front
  simp only [List.nil_append, byteLength_nil, Nat.add_zero] at text span
  exact ⟨raw.1, lexeme, rest, raws', text, stands, by rw [← span]⟩

/-- Without the first entry and its characters a lexing is one of what is left. -/
theorem IsLexing.behind {origin : Nat} {kind? : Option Kind} {lexeme rest : List Char} {raws : List RawEntry}
    (h : IsLexing origin (lexeme ++ rest) ((kind?, ⟨origin, origin + byteLength lexeme⟩) :: raws)) :
    IsLexing (origin + byteLength lexeme) rest raws := by
  obtain ⟨later, ordered⟩ := List.pairwise_cons.1 h.ordered
  refine ⟨?_, ordered, ?_⟩
  · intro raw member
    obtain ⟨before, lexeme', rest', text, nonempty, span, stands⟩ := h.stands raw (List.mem_cons_of_mem _ member)
    have ends := later raw member
    rw [span] at ends
    simp only at ends
    rw [List.append_assoc] at text
    obtain ⟨between, rfl, rfl⟩ := exists_of_byteLength_le text (by omega)
    refine ⟨between, lexeme', rest', by rw [List.append_assoc], nonempty, ?_, stands⟩
    rw [span]
    simp only [byteLength_append, Nat.add_assoc]
  · intro before d after text
    have gap := h.gaps (lexeme ++ before) d after (by rw [text, List.append_assoc])
    rw [gap, byteLength_append, ← Nat.add_assoc, List.forall_mem_cons]
    refine and_iff_right ?_
    rintro ⟨-, ends⟩
    simp only at ends
    omega

/-- A character that begins among the bytes of the first of two texts belongs to it. -/
theorem mem_of_byteLength_lt {first rest before after : List Char} {d : Char}
    (same : first ++ rest = before ++ d :: after) (lt : byteLength before < byteLength first) : d ∈ first := by
  obtain ⟨between, rfl, later⟩ := exists_of_byteLength_le same.symm (Nat.le_of_lt lt)
  cases between with
  | nil =>
    rw [List.append_nil] at lt
    exact absurd lt (Nat.lt_irrefl _)
  | cons e between =>
    obtain ⟨rfl, -⟩ := List.cons.inj later
    exact List.mem_append_right _ List.mem_cons_self

/-- An entry on characters none of which is blank goes before a lexing of what follows them. -/
theorem IsLexing.cons {origin : Nat} {kind? : Option Kind} {lexeme rest : List Char} {raws : List RawEntry}
    (nonempty : lexeme ≠ []) (unblank : ∀ d ∈ lexeme, isBlank d = false) (stands : MayStand kind? lexeme rest)
    (h : IsLexing (origin + byteLength lexeme) rest raws) :
    IsLexing origin (lexeme ++ rest) ((kind?, ⟨origin, origin + byteLength lexeme⟩) :: raws) := by
  have later : ∀ raw ∈ raws, origin + byteLength lexeme ≤ raw.2.start := by
    intro raw member
    obtain ⟨before, lexeme', rest', -, -, span, -⟩ := h.stands raw member
    rw [span]
    exact Nat.le_add_right _ _
  refine ⟨?_, List.pairwise_cons.2 ⟨later, h.ordered⟩, ?_⟩
  · intro raw member
    rcases List.mem_cons.1 member with rfl | member
    · exact ⟨[], lexeme, rest, rfl, nonempty, rfl, stands⟩
    · obtain ⟨before, lexeme', rest', rfl, nonempty', span, stands'⟩ := h.stands raw member
      refine ⟨lexeme ++ before, lexeme', rest', by simp only [List.append_assoc], nonempty', ?_, stands'⟩
      rw [span]
      simp only [byteLength_append, Nat.add_assoc]
  · intro before d after text
    by_cases reach : byteLength lexeme ≤ byteLength before
    · obtain ⟨between, rfl, rfl⟩ := exists_of_byteLength_le text reach
      have gap := h.gaps between d after rfl
      rw [gap, byteLength_append, ← Nat.add_assoc, List.forall_mem_cons]
      refine (and_iff_right ?_).symm
      rintro ⟨-, ends⟩
      simp only at ends
      omega
    · have unblank := unblank d (mem_of_byteLength_lt text (by omega))
      refine ⟨fun blank => absurd (blank.symm.trans unblank) (by decide), fun outside => ?_⟩
      refine absurd ⟨Nat.le_add_right _ _, ?_⟩ (outside _ List.mem_cons_self)
      simp only
      omega

/-- What may stand at a front that is not blank is the first entry, and the others are those of what follows it. -/
theorem isLexing_entry_iff {origin : Nat} {c : Char} {more lexeme rest : List Char} {kind? : Option Kind}
    {raws : List RawEntry} (inside : isBlank c = false) (text : c :: more = lexeme ++ rest)
    (stands : MayStand kind? lexeme rest) :
    IsLexing origin (c :: more) raws ↔
      ∃ raws', raws = (kind?, ⟨origin, origin + byteLength lexeme⟩) :: raws' ∧
        IsLexing (origin + byteLength lexeme) rest raws' := by
  constructor
  · intro h
    obtain ⟨kind?', lexeme', rest', raws', text', stands', rfl⟩ := h.first_at_front inside
    obtain ⟨rfl, rfl, rfl⟩ := stands.unique text stands' text'
    rw [text] at h
    exact ⟨raws', rfl, h.behind⟩
  · rintro ⟨raws', rfl, later⟩
    have unblank := stands.not_isBlank inside text
    rw [text]
    exact .cons (stands.ne_nil text) unblank stands later

/-! ## Scanning -/

/-- Scanning from a place yields a lexing with that origin, and every such lexing. -/
theorem isLexing_iff_eq_scan {place : Place} {text : List Char} {raws : List RawEntry} :
    IsLexing place.offset text raws ↔ raws = (scan place text).map Entry.raw := by
  revert raws
  -- the recursion of scanning: a blank character, a lexeme, a stray character
  fun_induction scan place text with
  | case1 place =>
    intro raws
    exact isLexing_nil_iff
  | case2 place c more blank ih =>
    intro raws
    rw [isLexing_blank_iff blank, ← Place.offset_past]
    exact ih
  | case3 place c more inside l cut ih =>
    intro raws
    rw [Bool.not_eq_true] at inside
    have text := (Lexeme.text_append_rest cut).symm
    have stands := (mayStand_front_iff text).2 (Or.inl ⟨l, cut, rfl, rfl, rfl⟩)
    have span : (Entry.token (.readAt place l.kind l.text)).raw =
        (some l.kind, ⟨place.offset, place.offset + byteLength l.text⟩) := by
      simp only [Entry.raw, Entry.kind?, Entry.span, Token.readAt, Place.upTo, Place.offset_through]
    rw [isLexing_entry_iff inside text stands, List.map_cons, span, ← Place.offset_through]
    simp only [ih, exists_eq_right]
  | case4 place c more inside nothing ih =>
    intro raws
    rw [Bool.not_eq_true] at inside
    have text : c :: more = [c] ++ more := rfl
    have stands := (mayStand_front_iff text).2 (Or.inr ⟨nothing, rfl, rfl, rfl⟩)
    have length : byteLength [c] = c.utf8Size := by
      rw [byteLength_cons, byteLength_nil, Nat.add_zero]
    have span : (Entry.stray c place).raw = (none, ⟨place.offset, place.offset + byteLength [c]⟩) := by
      simp only [Entry.raw, Entry.kind?, Entry.span, Place.upTo, Place.offset_past, length]
    rw [isLexing_entry_iff inside text stands, List.map_cons, span, length, ← Place.offset_past]
    simp only [ih, exists_eq_right]

/-- Lexing succeeds on every text and yields the entries of the text, and these, as kinds and spans, are the one list
that lies on the characters of the text in order, leaves out just the blank ones, and has at each point the longest
legal lexeme with its kind, or a single character without a kind where no legal lexeme stands. The lexeme cut off at a
point is the one of the first lexical rule that fits. -/
theorem entries_only_lexing :
    (∀ text : String, lex text = .ok ((entries text).map Entry.raw)) ∧
    (∀ (text : String) (raws : List RawEntry), IsLexing 0 text.toList raws ↔ raws = (entries text).map Entry.raw) ∧
    (∀ cs : List Char, Lexeme.first? cs = LexicalRule.choose LexicalRule.inOrder cs) := by
  refine ⟨lex_eq, ?_, LexicalRule.first?_eq_choose⟩
  intro text raws
  exact @isLexing_iff_eq_scan .beginning text.toList raws

/-- Of three signs the first two are a symbol, and the rest of a literal that is refused is lexed again. -/
example : lex "!==0xfg" =
    .ok [(some .symbol, ⟨0, 2⟩), (some .symbol, ⟨2, 3⟩), (none, ⟨3, 4⟩), (some .word, ⟨4, 7⟩)] := by cbv

end WatchLang
