import WatchLang.Text.Blank
import WatchLang.Token.Longest

/-!
# The lexeme cut off is the longest one

Cutting a lexeme off a text looks only at the run of characters of words that the text begins with, or at two
characters of a symbol. That this finds the longest legal lexeme rests on two facts. A lexeme other than a symbol that
stands at the front and is not followed by a character of words is the whole run (`legal_eq_run`), so there is one
candidate of that sort at most; and symbols and runs never compete, because no symbol begins with a character of
words. Among the symbols the longer one is taken (`symbolOf?_eq_some`).

Whether a given lexeme is the longest where it stands depends on the one character behind it (`isLongest_append_iff`).
White space there and the end of the text are the same to every lexeme, so a text with white space behind it is cut as
it is cut alone (`first?_append`).
-/

set_option autoImplicit false

namespace WatchLang

/-! ## Characters -/

/-- Letters are those of the Latin alphabet, told by their code points. -/
theorem isAlpha_iff {c : Char} :
    c.isAlpha = true ↔ 65 ≤ c.toNat ∧ c.toNat ≤ 90 ∨ 97 ≤ c.toNat ∧ c.toNat ≤ 122 := by
  have classes : c.isAlpha = (decide (65 ≤ c.val ∧ c.val ≤ 90) || decide (97 ≤ c.val) && decide (c.val ≤ 122)) := rfl
  simp only [classes, Bool.or_eq_true, Bool.and_eq_true, decide_eq_true_eq, UInt32.le_iff_toNat_le]
  rfl

/-- Digits are the ten decimal ones, told by their code points. -/
theorem isDigit_iff {c : Char} : c.isDigit = true ↔ 48 ≤ c.toNat ∧ c.toNat ≤ 57 :=
  Char.isDigit_iff_toNat

/-- The characters of words are letters, digits and the low line. -/
theorem isWordChar_iff_classes {c : Char} :
    isWordChar c = true ↔ c.isAlpha = true ∨ c.isDigit = true ∨ c = '_' := by
  have classes : isWordChar c = (c.isAlpha || c.isDigit || c == '_') := rfl
  rw [classes, Bool.or_eq_true, Bool.or_eq_true, beq_iff_eq, or_assoc]

/-- The characters of words, told by their code points. -/
theorem isWordChar_iff {c : Char} :
    isWordChar c = true ↔ (65 ≤ c.toNat ∧ c.toNat ≤ 90 ∨ 97 ≤ c.toNat ∧ c.toNat ≤ 122) ∨
      (48 ≤ c.toNat ∧ c.toNat ≤ 57) ∨ c = '_' := by
  rw [isWordChar_iff_classes, isAlpha_iff, isDigit_iff]

/-- A character that begins words may go on with them. -/
theorem isWordChar_of_isWordStart {c : Char} (h : isWordStart c = true) : isWordChar c = true := by
  rw [isWordStart, Bool.or_eq_true, beq_iff_eq] at h
  rw [isWordChar_iff_classes]
  rcases h with letter | low
  · exact Or.inl letter
  · exact Or.inr (Or.inr low)

/-- A digit may stand in words. -/
theorem isWordChar_of_isDigit {c : Char} (h : c.isDigit = true) : isWordChar c = true :=
  isWordChar_iff_classes.2 (Or.inr (Or.inl h))

/-- A hexadecimal digit may stand in words. -/
theorem isWordChar_of_isHexDigit {c : Char} (h : c.isHexDigit = true) : isWordChar c = true := by
  have classes : c.isHexDigit = (c.isDigit || decide (97 ≤ c.val) && decide (c.val ≤ 102) ||
      decide (65 ≤ c.val) && decide (c.val ≤ 70)) := rfl
  simp only [classes, Bool.or_eq_true, Bool.and_eq_true, decide_eq_true_eq, UInt32.le_iff_toNat_le, isDigit_iff] at h
  change ((48 ≤ c.toNat ∧ c.toNat ≤ 57) ∨ (97 ≤ c.toNat ∧ c.toNat ≤ 102)) ∨
    (65 ≤ c.toNat ∧ c.toNat ≤ 70) at h
  rw [isWordChar_iff]
  omega

/-- A digit begins no word. -/
theorem not_isWordStart_of_isDigit {c : Char} (h : c.isDigit = true) : isWordStart c = false := by
  rw [Bool.eq_false_iff]
  intro start
  rw [isWordStart, Bool.or_eq_true, beq_iff_eq, isAlpha_iff] at start
  rw [isDigit_iff] at h
  rcases start with letter | rfl
  · omega
  · revert h
    decide

/-- The characters of words are not blank. -/
theorem not_isBlank_of_isWordChar {c : Char} (h : isWordChar c = true) : isBlank c = false := by
  rw [Bool.eq_false_iff]
  intro blank
  obtain ⟨range, member, bounds⟩ := CodePoints.has_iff.1 blank
  rw [isWordChar_iff] at h
  rcases h with letter | digit | rfl
  · simp only [blanks, List.mem_cons, List.not_mem_nil, or_false] at member
    rcases member with rfl | rfl | rfl | rfl | rfl | rfl | rfl | rfl | rfl | rfl <;> simp only at bounds <;> omega
  · simp only [blanks, List.mem_cons, List.not_mem_nil, or_false] at member
    rcases member with rfl | rfl | rfl | rfl | rfl | rfl | rfl | rfl | rfl | rfl <;> simp only at bounds <;> omega
  · revert blank
    decide

/-! ## Runs of characters of words -/

/-- A lexeme other than a symbol consists of characters of words, and of one at least. -/
theorem IsLexeme.run {kind : Kind} {cs : List Char} (h : IsLexeme kind cs) (other : kind ≠ .symbol) :
    cs ≠ [] ∧ ∀ c ∈ cs, isWordChar c = true := by
  cases h with
  | symbol _ => exact absurd rfl other
  | keyword k =>
    have spelled : ∀ k ∈ Keyword.all, k.spelling.toList ≠ [] ∧ k.spelling.toList.all isWordChar = true := by
      decide
    obtain ⟨nonempty, inside⟩ := spelled k (Keyword.mem_all k)
    exact ⟨nonempty, List.all_eq_true.1 inside⟩
  | word form _ =>
    cases cs with
    | nil => cases form
    | cons c cs =>
      rw [isIdentifier, Bool.and_eq_true, List.all_eq_true] at form
      refine ⟨List.cons_ne_nil c cs, ?_⟩
      intro c' member
      rcases List.mem_cons.1 member with rfl | member
      · exact isWordChar_of_isWordStart form.1
      · exact form.2 c' member
  | digits form =>
    simp only [isDecimal, Bool.and_eq_true, Bool.not_eq_true', List.isEmpty_eq_false_iff, List.all_eq_true] at form
    exact ⟨form.1, fun c member => isWordChar_of_isDigit (form.2 c member)⟩
  | address form =>
    unfold isAddress at form
    split at form
    · next digits =>
      simp only [Bool.and_eq_true, List.all_eq_true] at form
      refine ⟨List.cons_ne_nil _ _, ?_⟩
      intro c member
      simp only [List.mem_cons] at member
      rcases member with rfl | rfl | member
      · decide
      · decide
      · exact isWordChar_of_isHexDigit (form.2 c member)
    · cases form

/-- Decimal digits are no identifier. -/
theorem not_isIdentifier_of_isDecimal {cs : List Char} (h : isDecimal cs = true) : isIdentifier cs = false := by
  cases cs with
  | nil => rfl
  | cons c cs =>
    simp only [isDecimal, Bool.and_eq_true, List.all_cons] at h
    simp [isIdentifier, not_isWordStart_of_isDigit h.2.1]

/-- An address is neither an identifier nor decimal digits. -/
theorem not_isIdentifier_of_isAddress {cs : List Char} (h : isAddress cs = true) :
    isIdentifier cs = false ∧ isDecimal cs = false := by
  unfold isAddress at h
  split at h
  · exact ⟨rfl, rfl⟩
  · cases h

/-- An identifier is a lexeme of the kind that its text gives it, which is not a symbol. -/
theorem isLexeme_ofIdentifier {run : List Char} (form : isIdentifier run = true) :
    IsLexeme (.ofIdentifier (String.ofList run)) run ∧ Kind.ofIdentifier (String.ofList run) ≠ .symbol := by
  unfold Kind.ofIdentifier
  cases known : Keyword.ofText? (String.ofList run) with
  | some k =>
    have same := congrArg String.toList (Keyword.ofText?_eq_some_iff.1 known)
    rw [String.toList_ofList] at same
    rw [← same]
    exact ⟨.keyword k, by simp⟩
  | none =>
    refine ⟨.word form ?_, by simp⟩
    rintro k rfl
    rw [String.ofList_toList, Keyword.ofText?_eq_some_iff.2 rfl] at known
    cases known

/-- The kind of a run is the kind that it is a lexeme of, other than a symbol. -/
theorem kindOfRun?_eq_some_iff {run : List Char} {kind : Kind} :
    kindOfRun? run = some kind ↔ IsLexeme kind run ∧ kind ≠ .symbol := by
  unfold kindOfRun?
  constructor
  · intro h
    split at h
    · next form =>
      cases h
      exact isLexeme_ofIdentifier form
    · split at h
      · next form =>
        cases h
        exact ⟨.digits form, by simp⟩
      · split at h
        · next form =>
          cases h
          exact ⟨.address form, by simp⟩
        · cases h
  · rintro ⟨lexeme, other⟩
    cases lexeme with
    | symbol _ => exact absurd rfl other
    | keyword k =>
      have form : ∀ k ∈ Keyword.all, isIdentifier k.spelling.toList = true := by decide
      rw [if_pos (form k (Keyword.mem_all k)), String.ofList_toList]
      unfold Kind.ofIdentifier
      rw [Keyword.ofText?_eq_some_iff.2 rfl]
    | word form free =>
      rw [if_pos form]
      unfold Kind.ofIdentifier
      split
      · next k reserved =>
        have same := congrArg String.toList (Keyword.ofText?_eq_some_iff.1 reserved)
        rw [String.toList_ofList] at same
        exact absurd same.symm (free k)
      · rfl
    | digits form => rw [if_neg (by simp [not_isIdentifier_of_isDecimal form]), if_pos form]
    | address form =>
      obtain ⟨notIdentifier, notDecimal⟩ := not_isIdentifier_of_isAddress form
      rw [if_neg (by simp [notIdentifier]), if_neg (by simp [notDecimal]), if_pos form]

/-! ## Symbols -/

/-- The symbols are four that end in an equals sign and three that are single characters. -/
theorem isLexeme_symbol_iff {cs : List Char} :
    IsLexeme .symbol cs ↔
      (∃ c ∈ ['=', '!', '<', '>'], cs = [c, '=']) ∨ ∃ c ∈ ['=', '<', '>'], cs = [c] := by
  constructor
  · intro h
    generalize same : Kind.symbol = kind at h
    cases h with
    | @symbol text known =>
      simp only [symbols, List.mem_cons, List.not_mem_nil, or_false] at known
      rcases known with rfl | rfl | rfl | rfl | rfl | rfl | rfl
      · exact Or.inl ⟨'=', by simp, rfl⟩
      · exact Or.inl ⟨'!', by simp, rfl⟩
      · exact Or.inl ⟨'>', by simp, rfl⟩
      · exact Or.inl ⟨'<', by simp, rfl⟩
      · exact Or.inr ⟨'>', by simp, rfl⟩
      · exact Or.inr ⟨'<', by simp, rfl⟩
      · exact Or.inr ⟨'=', by simp, rfl⟩
    | _ => cases same
  · simp only [List.mem_cons, List.not_mem_nil, or_false]
    have known : ∀ text ∈ symbols, IsLexeme .symbol text.toList := fun text h => .symbol h
    rintro (⟨c, rfl | rfl | rfl | rfl, rfl⟩ | ⟨c, rfl | rfl | rfl, rfl⟩)
    · exact known "==" (by decide)
    · exact known "!=" (by decide)
    · exact known "<=" (by decide)
    · exact known ">=" (by decide)
    · exact known "=" (by decide)
    · exact known "<" (by decide)
    · exact known ">" (by decide)

/-- A symbol has a first character, which is none of words, and no character of it is blank. -/
theorem IsLexeme.symbol_head {cs : List Char} (h : IsLexeme .symbol cs) :
    ∃ c more, cs = c :: more ∧ isWordChar c = false := by
  rw [isLexeme_symbol_iff] at h
  simp only [List.mem_cons, List.not_mem_nil, or_false] at h
  rcases h with ⟨c, found, rfl⟩ | ⟨c, found, rfl⟩
  · refine ⟨c, ['='], rfl, ?_⟩
    rcases found with rfl | rfl | rfl | rfl <;> decide
  · refine ⟨c, [], rfl, ?_⟩
    rcases found with rfl | rfl | rfl <;> decide

/-- No lexeme is empty. -/
theorem IsLexeme.ne_nil {kind : Kind} {cs : List Char} (h : IsLexeme kind cs) : cs ≠ [] := by
  by_cases other : kind = .symbol
  · subst other
    obtain ⟨c, more, rfl, -⟩ := h.symbol_head
    exact List.cons_ne_nil c more
  · exact (h.run other).1

/-- No character of a lexeme is blank. -/
theorem IsLexeme.not_isBlank {kind : Kind} {cs : List Char} (h : IsLexeme kind cs) :
    ∀ c ∈ cs, isBlank c = false := by
  intro c member
  by_cases other : kind = .symbol
  · subst other
    rw [isLexeme_symbol_iff] at h
    simp only [List.mem_cons, List.not_mem_nil, or_false] at h
    rcases h with ⟨d, found, rfl⟩ | ⟨d, found, rfl⟩
    · simp only [List.mem_cons, List.not_mem_nil, or_false] at member
      rcases member with rfl | rfl
      · rcases found with rfl | rfl | rfl | rfl <;> decide
      · decide
    · rw [List.mem_singleton.1 member]
      rcases found with rfl | rfl | rfl <;> decide
  · exact not_isBlank_of_isWordChar ((h.run other).2 c member)

/-- A lexeme is of one kind. -/
theorem IsLexeme.kind_unique {kind kind' : Kind} {cs : List Char} (h : IsLexeme kind cs)
    (h' : IsLexeme kind' cs) : kind = kind' := by
  have apart : ∀ {kind}, IsLexeme .symbol cs → IsLexeme kind cs → kind = .symbol := by
    intro kind symbol lexeme
    refine Decidable.byContradiction fun other => ?_
    obtain ⟨c, more, rfl, notWord⟩ := symbol.symbol_head
    rw [(lexeme.run other).2 c List.mem_cons_self] at notWord
    cases notWord
  by_cases symbol : kind = .symbol
  · subst symbol
    exact (apart h h').symm
  · by_cases symbol' : kind' = .symbol
    · subst symbol'
      exact apart h' h
    · have found := kindOfRun?_eq_some_iff.2 ⟨h, symbol⟩
      rw [kindOfRun?_eq_some_iff.2 ⟨h', symbol'⟩] at found
      exact (Option.some.inj found).symm

/-- The symbol taken is the longest that the text begins with. -/
theorem symbolOf?_eq_some {cs symbol : List Char} (h : symbolOf? cs = some symbol) :
    IsLexeme .symbol symbol ∧ ∀ other rest, IsLexeme .symbol other → other ++ rest = cs →
      other.length ≤ symbol.length := by
  unfold symbolOf? at h
  split at h
  · next c rest =>
    split at h
    · next found =>
      cases h
      refine ⟨isLexeme_symbol_iff.2 (Or.inl ⟨c, found, rfl⟩), ?_⟩
      rintro other rest' known -
      rcases isLexeme_symbol_iff.1 known with ⟨d, -, rfl⟩ | ⟨d, -, rfl⟩
      · exact Nat.le_refl _
      · exact Nat.le_succ _
    · cases h
  · next c rest single =>
    split at h
    · next found =>
      cases h
      refine ⟨isLexeme_symbol_iff.2 (Or.inr ⟨c, found, rfl⟩), ?_⟩
      rintro other rest' known same
      rcases isLexeme_symbol_iff.1 known with ⟨d, -, rfl⟩ | ⟨d, -, rfl⟩
      · obtain ⟨rfl, rest⟩ := List.cons.inj same
        exact absurd rest.symm (single rest')
      · exact Nat.le_refl _
    · cases h
  · cases h

/-- Where a symbol begins a text, some symbol is found there. -/
theorem symbolOf?_ne_none {symbol rest : List Char} (h : IsLexeme .symbol symbol) :
    symbolOf? (symbol ++ rest) ≠ none := by
  rcases isLexeme_symbol_iff.1 h with ⟨c, found, rfl⟩ | ⟨c, found, rfl⟩
  · simp [symbolOf?, found]
  · have wide : c ∈ ['=', '!', '<', '>'] := by
      simp only [List.mem_cons, List.not_mem_nil, or_false] at found ⊢
      rcases found with rfl | rfl | rfl <;> simp
    unfold symbolOf?
    split
    · next c' rest' same =>
      obtain ⟨rfl, -⟩ := List.cons.inj same
      simp [wide]
    · next c' rest' _ same =>
      obtain ⟨rfl, -⟩ := List.cons.inj same
      simp [found]
    · next same => cases same

/-! ## What stands at the front of a text -/

section Front

variable {kind : Kind} {lexeme rest : List Char}

/-- A legal lexeme other than a symbol is the whole run of characters of words at the front. -/
theorem legal_eq_run (h : LegalBefore rest kind lexeme) (other : kind ≠ .symbol) :
    (lexeme ++ rest).takeWhile isWordChar = lexeme ∧ (lexeme ++ rest).dropWhile isWordChar = rest := by
  obtain ⟨isLexeme, follows⟩ := h
  have stop : ∀ c, rest.head? = some c → isWordChar c = false := follows.resolve_left other
  have inside := (isLexeme.run other).2
  rw [List.takeWhile_append_of_pos inside, List.dropWhile_append_of_pos inside]
  cases rest with
  | nil => simp
  | cons c rest => simp [stop c rfl]

/-- A text that begins with a symbol does not begin with a character of words. -/
theorem run_eq_nil_of_symbol (h : IsLexeme .symbol lexeme) (rest : List Char) :
    (lexeme ++ rest).takeWhile isWordChar = [] := by
  obtain ⟨c, more, rfl, notWord⟩ := h.symbol_head
  simp [notWord]

/-- Where a symbol stands at the front, every legal lexeme is one. -/
theorem LegalBefore.eq_symbol {lexeme' rest' : List Char} (h : LegalBefore rest kind lexeme)
    (symbol : IsLexeme .symbol lexeme') (same : lexeme ++ rest = lexeme' ++ rest') : kind = .symbol := by
  refine Decidable.byContradiction fun other => ?_
  have run := (legal_eq_run h other).1
  rw [same, run_eq_nil_of_symbol symbol rest'] at run
  exact h.1.ne_nil run.symm

/-- The lexeme cut off a text is the longest legal one there. -/
theorem isLongest_of_first? {text : List Char} (h : Lexeme.first? text = some ⟨kind, lexeme, rest⟩) :
    IsLongest text kind lexeme rest := by
  have split := Lexeme.text_append_rest h
  unfold Lexeme.first? at h
  split at h
  · -- a symbol is cut off, so only symbols are legal
    obtain ⟨symbol, taken, same⟩ := Option.map_eq_some_iff.1 h
    obtain ⟨rfl, rfl, rfl⟩ := Lexeme.mk.inj same
    obtain ⟨isLexeme, longest⟩ := symbolOf?_eq_some taken
    refine ⟨split, ⟨isLexeme, Or.inl rfl⟩, ?_⟩
    intro kind' lexeme' rest' split' legal
    have symbol := legal.eq_symbol isLexeme (split'.trans split.symm)
    subst symbol
    exact longest lexeme' rest' legal.1 split'
  · next nonempty =>
    -- a run begins here, so no symbol does, and another lexeme can only be the run
    obtain ⟨kind', found, same⟩ := Option.map_eq_some_iff.1 h
    obtain ⟨rfl, rfl, rfl⟩ := Lexeme.mk.inj same
    obtain ⟨isLexeme, other⟩ := kindOfRun?_eq_some_iff.1 found
    refine ⟨split, ⟨isLexeme, Or.inr ?_⟩, ?_⟩
    · intro c first
      have stop := List.head?_dropWhile_not isWordChar text
      rw [first] at stop
      simpa using stop
    · intro kind'' lexeme' rest' split' legal
      by_cases other' : kind'' = .symbol
      · subst other'
        have run := run_eq_nil_of_symbol legal.1 rest'
        rw [split'] at run
        exact absurd run nonempty
      · have run := (legal_eq_run legal other').1
        rw [split'] at run
        exact Nat.le_of_eq (congrArg List.length run.symm)

/-- Where a legal lexeme begins a text, some lexeme is found there. -/
theorem first?_ne_none_of_legal (h : LegalBefore rest kind lexeme) : Lexeme.first? (lexeme ++ rest) ≠ none := by
  unfold Lexeme.first?
  by_cases other : kind = .symbol
  · subst other
    rw [run_eq_nil_of_symbol h.1 rest]
    simpa using symbolOf?_ne_none h.1
  · obtain ⟨run, -⟩ := legal_eq_run h other
    have found := kindOfRun?_eq_some_iff.2 ⟨h.1, other⟩
    split
    · next empty =>
      rw [run] at empty
      exact absurd empty h.1.ne_nil
    · rw [run, found]
      simp

end Front

/-- A text begins with at most one longest lexeme. -/
theorem IsLongest.unique {text : List Char} {kind kind' : Kind} {lexeme lexeme' rest rest' : List Char}
    (h : IsLongest text kind lexeme rest) (h' : IsLongest text kind' lexeme' rest') :
    kind = kind' ∧ lexeme = lexeme' ∧ rest = rest' := by
  have lengths : lexeme.length = lexeme'.length :=
    Nat.le_antisymm (h'.longest _ _ _ h.split h.legal) (h.longest _ _ _ h'.split h'.legal)
  have same : lexeme ++ rest = lexeme' ++ rest' := h.split.trans h'.split.symm
  obtain ⟨rfl, rfl⟩ := List.append_inj same lengths
  exact ⟨h.legal.1.kind_unique h'.legal.1, rfl, rfl⟩

/-- Cutting finds just the longest legal lexeme. -/
theorem first?_eq_some_iff {text : List Char} {kind : Kind} {lexeme rest : List Char} :
    Lexeme.first? text = some ⟨kind, lexeme, rest⟩ ↔ IsLongest text kind lexeme rest := by
  constructor
  · exact isLongest_of_first?
  · intro longest
    cases cut : Lexeme.first? text with
    | none =>
      have present := first?_ne_none_of_legal longest.legal
      rw [longest.split] at present
      exact absurd cut present
    | some l =>
      obtain ⟨rfl, rfl, rfl⟩ := longest.unique (isLongest_of_first? cut)
      rfl

/-- Nothing is cut off just where no legal lexeme stands. -/
theorem first?_eq_none_iff {text : List Char} :
    Lexeme.first? text = none ↔
      ∀ kind lexeme rest, lexeme ++ rest = text → ¬ LegalBefore rest kind lexeme := by
  constructor
  · rintro nothing kind lexeme rest rfl legal
    exact first?_ne_none_of_legal legal nothing
  · intro nothing
    cases cut : Lexeme.first? text with
    | none => rfl
    | some l =>
      have longest := isLongest_of_first? cut
      exact absurd longest.legal (nothing _ _ _ longest.split)

/-! ## What follows a lexeme -/

/-- Whether what follows leaves a lexeme as it is: no character of words comes after one that is not a symbol, and no
equals sign after a symbol that would become another one with it. -/
def EndsBefore (kind : Kind) (lexeme rest : List Char) : Prop :=
  (kind ≠ .symbol → ∀ c, rest.head? = some c → isWordChar c = false) ∧
    (lexeme ∈ [['>'], ['<'], ['=']] → rest.head? ≠ some '=')

section Following

variable {kind : Kind} {lexeme rest : List Char}

/-- A symbol stays the longest one unless it is a single character that an equals sign follows. -/
theorem symbol_length_le {other rest' : List Char} (h : IsLexeme .symbol lexeme) (h' : IsLexeme .symbol other)
    (ends : EndsBefore .symbol lexeme rest) (same : other ++ rest' = lexeme ++ rest) :
    other.length ≤ lexeme.length := by
  rcases isLexeme_symbol_iff.1 h' with ⟨d, -, rfl⟩ | ⟨d, -, rfl⟩
  · rcases isLexeme_symbol_iff.1 h with ⟨c, -, rfl⟩ | ⟨c, found, rfl⟩
    · exact Nat.le_refl _
    · -- the longer one begins with this one and goes on with an equals sign
      have next : rest.head? = some '=' := by
        simp only [List.cons_append, List.nil_append, List.cons.injEq] at same
        rw [← same.2, List.head?_cons]
      have single : [c] ∈ [['>'], ['<'], ['=']] := by
        simp only [List.mem_cons, List.not_mem_nil, or_false] at found
        rcases found with rfl | rfl | rfl <;> decide
      exact absurd next (ends.2 single)
  · exact List.length_pos_iff.2 h.ne_nil

/-- A lexeme is the longest one before a rest exactly when the rest leaves it as it is. -/
theorem isLongest_append_iff (h : IsLexeme kind lexeme) :
    IsLongest (lexeme ++ rest) kind lexeme rest ↔ EndsBefore kind lexeme rest := by
  constructor
  · intro longest
    refine ⟨fun other => longest.legal.2.resolve_left other, fun short next => ?_⟩
    obtain ⟨more, rfl⟩ := List.head?_eq_some_iff.1 next
    have wide : IsLexeme .symbol (lexeme ++ ['=']) := by
      rw [isLexeme_symbol_iff]
      simp only [List.mem_cons, List.not_mem_nil, or_false] at short
      rcases short with rfl | rfl | rfl <;> simp
    have le := longest.longest .symbol (lexeme ++ ['=']) more (by simp) ⟨wide, Or.inl rfl⟩
    rw [List.length_append, List.length_singleton] at le
    omega
  · intro ends
    have legal : LegalBefore rest kind lexeme := by
      by_cases other : kind = .symbol
      · exact ⟨h, Or.inl other⟩
      · exact ⟨h, Or.inr (ends.1 other)⟩
    refine ⟨rfl, legal, fun kind' lexeme' rest' same legal' => ?_⟩
    -- either both are symbols or both are the run of characters of words at the front
    by_cases other : kind = .symbol
    · subst other
      have symbol := legal'.eq_symbol h same
      subst symbol
      exact symbol_length_le h legal'.1 ends same
    · have other' : kind' ≠ .symbol := by
        rintro rfl
        exact other (legal.eq_symbol legal'.1 same.symm)
      have run := (legal_eq_run legal other).1
      have run' := (legal_eq_run legal' other').1
      rw [same, run] at run'
      exact Nat.le_of_eq (congrArg List.length run'.symm)

/-- A lexeme with a text behind it is found again as the first exactly if it ends before that text. -/
theorem first?_lexeme_iff (h : IsLexeme kind lexeme) :
    Lexeme.first? (lexeme ++ rest) = some ⟨kind, lexeme, rest⟩ ↔ EndsBefore kind lexeme rest := by
  rw [first?_eq_some_iff, isLongest_append_iff h]

/-- A lexeme that ends before some characters ends before the first of them, and at the end of the text. -/
theorem EndsBefore.of_append {more : List Char} (h : EndsBefore kind lexeme (rest ++ more)) :
    EndsBefore kind lexeme rest := by
  cases rest with
  | nil => exact ⟨by simp, by simp⟩
  | cons c rest => exact h

/-- White space, like the end of the text, leaves every lexeme as it is. -/
theorem endsBefore_append_iff {gap : List Char} (blank : ∀ c, gap.head? = some c → isBlank c = true) :
    EndsBefore kind lexeme (rest ++ gap) ↔ EndsBefore kind lexeme rest := by
  cases rest with
  | cons c rest => simp only [EndsBefore, List.cons_append, List.head?_cons]
  | nil =>
    rw [List.nil_append]
    refine iff_of_true ⟨fun _ c next => ?_, fun _ next => ?_⟩ ⟨fun _ c next => ?_, fun _ next => ?_⟩
    · rw [Bool.eq_false_iff]
      intro inside
      have unblank := not_isBlank_of_isWordChar inside
      rw [blank c next] at unblank
      cases unblank
    · have equals := blank '=' next
      revert equals
      decide
    · cases next
    · cases next

/-- A lexeme has no blank character in it, so one at the front of a text ends before the white space behind the text. -/
theorem IsLexeme.exists_between {cs gap : List Char} (h : IsLexeme kind lexeme)
    (blank : ∀ c, gap.head? = some c → isBlank c = true) (same : lexeme ++ rest = cs ++ gap) :
    ∃ between, cs = lexeme ++ between ∧ rest = between ++ gap := by
  rcases List.append_eq_append_iff.1 same with ⟨between, whole, behind⟩ | ⟨more, inside, behind⟩
  · exact ⟨between, whole, behind⟩
  · cases more with
    | nil => exact ⟨[], by simpa using inside.symm, by simpa using behind.symm⟩
    | cons c more =>
      have unblank := h.not_isBlank c (by rw [inside]; simp)
      rw [blank c (by rw [behind]; rfl)] at unblank
      cases unblank

/-- Where a text ends, or white space follows it, the same lexeme is cut off. -/
theorem first?_append {cs gap : List Char} (blank : ∀ c, gap.head? = some c → isBlank c = true) :
    Lexeme.first? (cs ++ gap) = (Lexeme.first? cs).map fun l => { l with rest := l.rest ++ gap } := by
  cases cut : Lexeme.first? cs with
  | some l =>
    have lexeme := (isLongest_of_first? cut).legal.1
    have whole := Lexeme.text_append_rest cut
    have ends := (first?_lexeme_iff lexeme).1 (by rw [whole]; exact cut)
    have longer := (first?_lexeme_iff lexeme).2 ((endsBefore_append_iff blank).2 ends)
    rwa [← List.append_assoc, whole] at longer
  | none =>
    rw [Option.map_none]
    refine Option.eq_none_iff_forall_not_mem.2 fun l cut' => ?_
    have lexeme := (isLongest_of_first? cut').legal.1
    have whole := Lexeme.text_append_rest cut'
    obtain ⟨between, front, behind⟩ := lexeme.exists_between blank whole
    have ends := (first?_lexeme_iff lexeme).1 (by rw [whole]; exact cut')
    rw [behind, endsBefore_append_iff blank] at ends
    have shorter := (first?_lexeme_iff lexeme).2 ends
    rw [← front, cut] at shorter
    cases shorter

end Following

end WatchLang
