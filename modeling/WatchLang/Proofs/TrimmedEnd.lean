import WatchLang.Proofs.Relocating
import WatchLang.Proofs.Standing

/-!
# Where tokens without an end are ended

The end of the input may be missing from the tokens of a text, and a cursor then adds it right behind the last of
them. That is where the text ends when the white space at its end is taken away. Scanning meets nothing in white
space, so the trimmed text has the same tokens; and since its last character is not blank, it belongs to the last
token, which ends where the text does (`exists_of_getLast?_scan`). The two ways of finding the place agree because a
token has no line feed in it: going through its characters is going on by their number in the same line.
-/

set_option autoImplicit false

namespace WatchLang

/-! ## Trimmed texts -/

/-- Trimmed characters do not end in a blank one. -/
theorem isBlank_of_getLast?_trimEnd {cs : List Char} {c : Char} (last : (trimEnd cs).getLast? = some c) :
    isBlank c = false := by
  induction cs with
  | nil => cases last
  | cons d cs ih =>
    unfold trimEnd at last
    split at last
    · split at last
      · cases last
      · next inside =>
        cases last
        simpa using inside
    · next kept nonempty =>
      rw [List.getLast?_cons_of_ne_nil nonempty] at last
      exact ih last

/-- Blank characters at the end of characters that do not end in one are none. -/
theorem eq_nil_of_isBlank {before after : List Char}
    (trimmed : ∀ c, (before ++ after).getLast? = some c → isBlank c = false) (blank : ∀ c ∈ after, isBlank c = true) :
    after = [] := by
  rcases List.eq_nil_or_concat after with empty | ⟨others, c, rfl⟩
  · exact empty
  · rw [List.concat_eq_append] at trimmed blank
    have inside := trimmed c (by simp)
    rw [blank c (by simp)] at inside
    cases inside

/-- White space at the end of a text has no entries. -/
theorem scan_trimEnd (place : Place) (cs : List Char) : scan place (trimEnd cs) = scan place cs := by
  obtain ⟨tail, blank, whole⟩ := exists_trimEnd_append cs
  rw [List.all_eq_true] at blank
  have before : ∀ c, tail.head? = some c → isBlank c = true := fun c first => blank c (List.mem_of_head? first)
  have split := scan_append place (trimEnd cs) before
  rw [whole, scan_eq_nil_iff.2 blank, List.append_nil] at split
  exact split.symm

/-! ## The last token -/

/-- A last entry that is a token is read at characters with nothing but white space behind them. -/
theorem exists_of_getLast?_scan {place : Place} {cs : List Char} {t : Token}
    (last : (scan place cs).getLast? = some (.token t)) :
    ∃ before kind lexeme after, before ++ lexeme ++ after = cs ∧ IsLexeme kind lexeme ∧
      t = .readAt (place.through before) kind lexeme ∧ ∀ c ∈ after, isBlank c = true := by
  obtain ⟨earlier, scanned⟩ := List.getLast?_eq_some_iff.1 last
  obtain ⟨before, lexeme, after, split, stands, nothing⟩ := exists_of_scan_eq scanned
  cases stands with
  | token form => exact ⟨before, _, lexeme, after, split, form, rfl, scan_eq_nil_iff.1 nothing⟩

/-- Through characters without a line feed one goes on in the same line, by as many columns as there are characters. -/
theorem Place.through_of_not_mem_feed (p : Place) {cs : List Char} (none : '\n' ∉ cs) :
    p.through cs = ⟨p.offset + byteLength cs, p.line, p.column + cs.length⟩ := by
  induction cs generalizing p with
  | nil => rfl
  | cons c cs ih =>
    rw [List.mem_cons, not_or] at none
    have other : c ≠ '\n' := fun feed => none.1 feed.symm
    rw [through_cons, ih _ none.2, past, if_neg other, byteLength_cons, List.length_cons]
    simp only [Nat.add_assoc, Nat.add_comm 1]

/-- The end that is put behind a token on a lexeme is the one found by going through the lexeme. -/
theorem Cursor.endBehind_readAt (place : Place) {kind : Kind} {lexeme : List Char} (form : IsLexeme kind lexeme) :
    endBehind (.readAt place kind lexeme) = .endAt (place.through lexeme) := by
  have none : '\n' ∉ lexeme := by
    intro feed
    have inside := form.not_isBlank '\n' feed
    have blank : isBlank '\n' = true := by decide
    rw [inside] at blank
    cases blank
  rw [place.through_of_not_mem_feed none]
  simp [endBehind, Token.endAt, Token.readAt, Place.upTo, place.through_of_not_mem_feed none]

/-! ## Cursors -/

/-- Tokens that do not end in the end of the input are ended by a cursor behind the last of them. -/
theorem Cursor.ofList_of_unended {tokens : List Token} {t : Token} (last : tokens.getLast? = some t)
    (unended : t.kind ≠ .endOfInput) : ofList tokens = ofList (tokens ++ [endBehind t]) := by
  rw [ofList_append_end tokens rfl]
  unfold ofList
  rw [last]
  simp only [dif_neg unended]

/-- The tokens of a text that does not end in white space need not be ended. -/
theorem Cursor.ofList_of_entries {text : String} {met : List Token} (same : entries text = met.map Entry.token)
    (unblank : ∀ c, text.toList.getLast? = some c → isBlank c = false) :
    ofList met = ofList (met ++ [.endAt (Place.beginning.through text.toList)]) := by
  cases ending : met.getLast? with
  | none =>
    -- nothing is met in the text, so it is blank, and then it is empty
    rw [List.getLast?_eq_none_iff] at ending
    subst ending
    have empty : text.toList = [] := @eq_nil_of_isBlank [] _ unblank (scan_eq_nil_iff.1 same)
    rw [empty]
    rfl
  | some t =>
    have last : (entries text).getLast? = some (.token t) := by
      rw [same, List.getLast?_map, ending]
      rfl
    obtain ⟨before, kind, lexeme, after, split, form, read, blanks⟩ := exists_of_getLast?_scan last
    rw [← split] at unblank
    have nothing : after = [] := eq_nil_of_isBlank unblank blanks
    have unended : t.kind ≠ .endOfInput := kind_ne_of_entries same t (List.mem_of_getLast? ending)
    rw [ofList_of_unended ending unended, read, endBehind_readAt _ form, ← Place.through_append, ← split, nothing,
      List.append_nil]

/-! ## Tokens without their end -/

/-- A text without the white space at its end. -/
def trimmed (text : String) : String :=
  String.ofList (trimEnd text.toList)

/-- Tokens of a text whose end of the input was left out are used like all tokens of the text without the white space
at its end: that text is tokenized, and a cursor on the former is the cursor on the latter, the added end included,
which is all that a reading depends on. So a rule or a condition is read from the tokens just as it is from the
trimmed text, or is refused for the same cause at the same place. -/
theorem unended_tokens_end_trimmed {text : String} {tokens : List Token} (tokenized : tokenize text = .ok tokens) :
    ∃ met last ended, tokens = met ++ [last] ∧ last.kind = .endOfInput ∧
      tokenize (trimmed text) = .ok ended ∧
      Cursor.ofList met = Cursor.ofList ended ∧ (Cursor.ofList met).toList = ended ∧
      Program.ofTokens met = Program.ofText (trimmed text) ∧
      Condition.ofTokens met = Condition.ofText (trimmed text) := by
  obtain ⟨met, same, rfl⟩ := tokenize_eq_ok_iff.1 tokenized
  have kept : entries (trimmed text) = met.map Entry.token := by
    rw [← same, entries, trimmed, String.toList_ofList, scan_trimEnd]
    rfl
  have last : ∀ c, (trimmed text).toList.getLast? = some c → isBlank c = false := by
    intro c last
    rw [trimmed, String.toList_ofList] at last
    exact isBlank_of_getLast?_trimEnd last
  have ended : tokenize (trimmed text) =
      .ok (met ++ [.endAt (Place.beginning.through (trimmed text).toList)]) := tokenize_eq_ok_iff.2 ⟨met, kept, rfl⟩
  have cursors := Cursor.ofList_of_entries kept last
  refine ⟨met, _, _, rfl, rfl, ended, cursors, ?_, ?_, ?_⟩
  · rw [cursors, Cursor.ofList_append_end met rfl]
    rfl
  · rw [Program.ofText, ended, Program.ofTokens, Reader.onTokens, cursors]
    rfl
  · rw [Condition.ofText, ended, Condition.ofTokens, Reader.onTokens, cursors]
    rfl

/-- Behind a word on the second line the missing end is added in that line, and a condition that breaks off there is
refused there, though the text has one more line feed and a no-break space behind it. -/
theorem unended_tokens_end_trimmed_second_line :
    tokenize "WHERE\n\u00a0b \n\u00a0" =
      .ok [.readAt ⟨0, 1, 1⟩ (.keyword (.test .gate)) "WHERE".toList, .readAt ⟨8, 2, 2⟩ .word ['b'],
        .endAt ⟨13, 3, 2⟩] ∧
    trimmed "WHERE\n\u00a0b \n\u00a0" = "WHERE\n\u00a0b" ∧
    Cursor.toList (.ofList [.readAt ⟨0, 1, 1⟩ (.keyword (.test .gate)) "WHERE".toList, .readAt ⟨8, 2, 2⟩ .word ['b']]) =
      [.readAt ⟨0, 1, 1⟩ (.keyword (.test .gate)) "WHERE".toList, .readAt ⟨8, 2, 2⟩ .word ['b'], .endAt ⟨9, 2, 3⟩] ∧
    Program.ofTokens [.readAt ⟨0, 1, 1⟩ (.keyword (.test .gate)) "WHERE".toList, .readAt ⟨8, 2, 2⟩ .word ['b']] =
      Program.ofText "WHERE\n\u00a0b" ∧
    Program.ofText "WHERE\n\u00a0b" =
      .error (.unexpected .condition Reader.comparisons (.endAt ⟨9, 2, 3⟩)) := by
  have tokenized : tokenize "WHERE\n\u00a0b \n\u00a0" =
      .ok [.readAt ⟨0, 1, 1⟩ (.keyword (.test .gate)) "WHERE".toList, .readAt ⟨8, 2, 2⟩ .word ['b'],
        .endAt ⟨13, 3, 2⟩] := by cbv
  have short : trimmed "WHERE\n\u00a0b \n\u00a0" = "WHERE\n\u00a0b" := by decide
  have alone : tokenize "WHERE\n\u00a0b" =
      .ok [.readAt ⟨0, 1, 1⟩ (.keyword (.test .gate)) "WHERE".toList, .readAt ⟨8, 2, 2⟩ .word ['b'],
        .endAt ⟨9, 2, 3⟩] := by cbv
  have refused : Program.ofText "WHERE\n\u00a0b" =
      .error (.unexpected .condition Reader.comparisons (.endAt ⟨9, 2, 3⟩)) := by cbv
  obtain ⟨met, last, ended, split, -, kept, -, whole, read, -⟩ := unended_tokens_end_trimmed tokenized
  obtain ⟨rfl, -⟩ := List.append_inj' (show [_, _] ++ [_] = met ++ [last] from split) rfl
  rw [short] at kept read
  rw [alone] at kept
  cases kept
  exact ⟨tokenized, short, whole, read, refused⟩

end WatchLang
