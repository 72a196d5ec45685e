import WatchLang.Proofs.Relocating
import WatchLang.Proofs.Standing

/-!
# The first refusal stands

A text that is refused is refused in the same way whatever is written behind it, if white space comes in between and the
refusal was not for want of more. A stray character is the first one in the longer text as well. A token that did not
fit still does not, because a reader looks no further than the token it refuses: on a cursor that shows the same tokens
and then others, it does the same (`Reader.Settled`), which is kept when readers are put together. Only the loop
over statements and the end of a rule look for the end of the input, and they too go by the next token alone where
another one stands there. The longer text has to be tokenized as a whole before it is read, so a stray character
behind the white space comes first.
-/

set_option autoImplicit false

namespace WatchLang

/-- Whether a diagnostic is about a token that did not fit, and not about the end of the input. -/
def Diagnostic.IsMisfit (d : Diagnostic) : Prop :=
  ∃ phrase expected found lexeme, d.cause = .unexpected phrase expected found lexeme ∧ found ≠ .endOfInput

/-- A refusal of a token is for a misfit unless the token is the end of the input. -/
theorem Diagnostic.isMisfit_unexpected_iff {phrase : Phrase} {expected : List Kind} {t : Token} :
    (unexpected phrase expected t).IsMisfit ↔ t.kind ≠ .endOfInput := by
  constructor
  · rintro ⟨_, _, _, _, ⟨⟩, other⟩
    exact other
  · intro other
    exact ⟨_, _, _, _, rfl, other⟩

/-! ## Cursors that show more -/

namespace Cursor

/-- A cursor whose head is another token is not at its end. -/
theorem atEnd_eq_false_of_kind {c : Cursor} (other : c.head.kind ≠ .endOfInput) : c.atEnd = false := by
  rw [← Bool.not_eq_true, atEnd_iff]
  exact other

/-- Away from the end, a cursor that shows all that another one shows has the same head. -/
theorem of_body_prefix {c c' : Cursor} (shown : c.body <+: c'.body) (away : c.atEnd = false) :
    c'.atEnd = false ∧ c'.head = c.head ∧ c.tail.body <+: c'.tail.body := by
  obtain ⟨more, body⟩ := shown
  rw [body_eq_cons away, List.cons_append] at body
  obtain ⟨away', head, tail⟩ := of_body_eq_cons body.symm
  exact ⟨away', head, more, tail.symm⟩

/-- Where a cursor shows all that another shows and perhaps more, it does so as well behind the same number of
tokens. -/
theorem skip_body_prefix {c c' : Cursor} (shown : c.body <+: c'.body) (n : Nat) :
    (c.skip n).body <+: (c'.skip n).body := by
  rw [body_skip, body_skip]
  exact shown.drop n

end Cursor

/-! ## Settled readers -/

namespace Reader

/-- A reader that is settled by the tokens it has looked at: where the same tokens are shown and then others, it
yields the same value, and refuses a token that did not fit in the same way. -/
structure Settled {α : Type} (reader : Reader α) : Prop where
  yields : ∀ {c c' rest : Cursor} {a : α}, c.body <+: c'.body → reader c = .ok a rest →
    ∃ rest', reader c' = .ok a rest' ∧ rest.body <+: rest'.body
  refuses : ∀ {c c' rest : Cursor} {d : Diagnostic}, c.body <+: c'.body → d.IsMisfit → reader c = .error d rest →
    ∃ rest', reader c' = .error d rest'

namespace Settled

variable {α β : Type}

/-- Yielding a value is settled: it reads nothing. -/
theorem pure (a : α) : Settled (pure a : Reader α) where
  yields := by
    intro c c' rest a' shown h
    cases h
    exact ⟨c', rfl, shown⟩
  refuses := by
    intro c c' rest d shown misfit h
    cases h

/-- A refusal that does not depend on the cursor is settled. -/
theorem throw (d : Diagnostic) : Settled (throw d : Reader α) where
  yields := by
    intro c c' rest a shown h
    cases h
  refuses := by
    intro c c' rest d' shown misfit h
    cases h
    exact ⟨c', rfl⟩

/-- Refusing the next token is settled: one that did not fit is still the next where more is shown behind it. -/
theorem refuse (phrase : Phrase) (expected : List Kind) : Settled (refuse phrase expected : Reader α) where
  yields := by
    intro c c' rest a shown h
    cases h
  refuses := by
    intro c c' rest d shown misfit h
    cases h
    have away := Cursor.atEnd_eq_false_of_kind (Diagnostic.isMisfit_unexpected_iff.1 misfit)
    obtain ⟨-, head, -⟩ := Cursor.of_body_prefix shown away
    exact ⟨c', by rw [Reader.refuse, head]⟩

/-- Expecting a token of some kinds is settled, if the end of the input is not among them. -/
theorem expect {expected : List Kind} (within : .endOfInput ∉ expected) (phrase : Phrase) :
    Settled (expect expected phrase) where
  yields := by
    intro c c' rest t shown h
    obtain ⟨found, rfl, rfl⟩ := expect_eq_ok h
    have away : c.atEnd = false := Cursor.atEnd_eq_false_of_kind fun ends => within (ends ▸ found)
    obtain ⟨-, head, tail⟩ := Cursor.of_body_prefix shown away
    exact ⟨c'.tail, by rw [Reader.expect, head, if_pos found], tail⟩
  refuses := by
    intro c c' rest d shown misfit h
    unfold Reader.expect at h
    split at h
    · cases h
    · next missing =>
      cases h
      have away := Cursor.atEnd_eq_false_of_kind (Diagnostic.isMisfit_unexpected_iff.1 misfit)
      obtain ⟨-, head, -⟩ := Cursor.of_body_prefix shown away
      exact ⟨c', by rw [Reader.expect, head, if_neg missing, Reader.refuse, head]⟩

/-- A settled reader and settled ones behind it are settled together. -/
theorem bind {reader : Reader α} {next : α → Reader β} (first : Settled reader) (second : ∀ a, Settled (next a)) :
    Settled (reader >>= next) where
  yields := by
    intro c c' rest b shown h
    obtain ⟨a, middle, h₁, h₂⟩ := bind_eq_ok h
    obtain ⟨middle', h₁', shown'⟩ := first.yields shown h₁
    obtain ⟨rest', h₂', left⟩ := (second a).yields shown' h₂
    exact ⟨rest', by rw [bind_of_ok h₁', h₂'], left⟩
  refuses := by
    intro c c' rest d shown misfit h
    rcases bind_eq_error h with h₁ | ⟨a, middle, h₁, h₂⟩
    · obtain ⟨rest', h₁'⟩ := first.refuses shown misfit h₁
      exact ⟨rest', bind_of_error h₁'⟩
    · obtain ⟨middle', h₁', shown'⟩ := first.yields shown h₁
      obtain ⟨rest', h₂'⟩ := (second a).refuses shown' misfit h₂
      exact ⟨rest', by rw [bind_of_ok h₁', h₂']⟩

end Settled

/-! ## Phrases -/

/-- The name of a statement is settled. -/
theorem settled_name (phrase : Phrase) : Settled (name phrase) :=
  (Settled.expect (by decide) _).bind fun _ => .pure _

/-- The comparison that a token stands for is settled: it reads nothing. -/
theorem settled_comparison (t : Token) : Settled (comparison t) := by
  unfold comparison
  split
  · exact .pure _
  · split
    · exact .pure _
    · exact .throw _

/-- A condition is settled. -/
theorem settled_condition : Settled condition :=
  (settled_name _).bind fun _ => (Settled.expect (by decide) _).bind fun _ =>
    (settled_comparison _).bind fun _ => (Settled.expect (by decide) _).bind fun _ => .pure _

/-- A statement that names a subject is settled. -/
theorem settled_subject (role : Role) : Settled (subject role) :=
  (Settled.expect (by simp) _).bind fun _ => (settled_name _).bind fun _ => .pure _

/-- A statement with a condition is settled. -/
theorem settled_test (connective : Connective) : Settled (test connective) :=
  (Settled.expect (by simp) _).bind fun _ => settled_condition.bind fun _ => .pure _

/-- A statement that publishes is settled. -/
theorem settled_publish : Settled publish :=
  (Settled.expect (by decide) _).bind fun _ => (Settled.expect (by decide) _).bind fun _ =>
    (settled_name _).bind fun _ => .pure _

/-- Before tokens of one kind a statement is read in one way, and that is settled. -/
theorem exists_settled_form {c c' : Cursor} (same : c'.head.kind = c.head.kind) :
    ∃ form, Settled form ∧ statement c = form c ∧ statement c' = form c' := by
  unfold statement
  rw [same]
  split
  · next role _ => exact ⟨_, settled_subject role, rfl, rfl⟩
  · next connective _ => exact ⟨_, settled_test connective, rfl, rfl⟩
  · exact ⟨_, settled_publish, rfl, rfl⟩
  · exact ⟨_, .refuse _ _, rfl, rfl⟩

/-- At its end a cursor is refused for want of a statement. -/
theorem statement_of_atEnd {c : Cursor} (ends : c.atEnd = true) :
    statement c = .error (.unexpected .statement Kind.statementStarts c.head) c := by
  unfold statement
  rw [Cursor.atEnd_iff.1 ends]
  rfl

/-- A statement is settled: its first token tells which of the settled readers goes on. -/
theorem settled_statement : Settled statement where
  yields := by
    intro c c' rest s shown h
    cases ends : c.atEnd with
    | true =>
      rw [statement_of_atEnd ends] at h
      cases h
    | false =>
      obtain ⟨-, head, -⟩ := Cursor.of_body_prefix shown ends
      obtain ⟨form, settled, here, there⟩ := exists_settled_form (congrArg Token.kind head)
      rw [here] at h
      rw [there]
      exact settled.yields shown h
  refuses := by
    intro c c' rest d shown misfit h
    cases ends : c.atEnd with
    | true =>
      rw [statement_of_atEnd ends] at h
      cases h
      exact absurd (Cursor.atEnd_iff.1 ends) (Diagnostic.isMisfit_unexpected_iff.1 misfit)
    | false =>
      obtain ⟨-, head, -⟩ := Cursor.of_body_prefix shown ends
      obtain ⟨form, settled, here, there⟩ := exists_settled_form (congrArg Token.kind head)
      rw [here] at h
      rw [there]
      exact settled.refuses shown misfit h

/-! ## Rules -/

section Rules

variable {c c' rest : Cursor} (shown : c.body <+: c'.body)

include shown

/-- A statement that is refused for a token that did not fit is refused where more tokens follow, and the rule with
it. -/
theorem program_refuses {d : Diagnostic} (misfit : d.IsMisfit) (h : program c = .error d rest) :
    ∃ rest', program c' = .error d rest' := by
  obtain ⟨taken, ss, spelled, begins, starts, refused⟩ := program_eq_error h
  have behind := Cursor.skip_body_prefix shown taken.length
  obtain ⟨rest', refused'⟩ := settled_statement.refuses behind misfit refused
  have away : (c.skip taken.length).atEnd = false := by
    apply Cursor.atEnd_eq_false_of_kind
    intro ends
    rw [ends] at starts
    cases starts
  obtain ⟨-, head, -⟩ := Cursor.of_body_prefix behind away
  rw [← head] at starts
  refine ⟨rest', ?_⟩
  unfold program
  rw [statements_of_spelled spelled (begins.trans shown), statements_of_error starts refused']

/-- A rule that is read up to a token that starts no statement is read up to this token where more tokens follow. -/
theorem program_yields {p : Program} (h : program c = .ok p rest) (away : rest.atEnd = false) :
    ∃ rest', program c' = .ok p rest' ∧ rest.body <+: rest'.body := by
  obtain ⟨taken, spelled, begins, rfl, no⟩ := program_eq_ok_iff.1 h
  have behind := Cursor.skip_body_prefix shown taken.length
  obtain ⟨-, head, -⟩ := Cursor.of_body_prefix behind away
  rw [← head] at no
  exact ⟨_, program_eq_ok_iff.2 ⟨taken, spelled, begins.trans shown, rfl, no⟩, behind⟩

end Rules

end Reader

/-- Tokens that are refused for one that did not fit are refused in the same way where others follow them. -/
theorem Program.ofTokens_eq_error_of_prefix {tokens tokens' : List Token}
    (shown : beforeEnd tokens <+: beforeEnd tokens') {d : Diagnostic} (misfit : d.IsMisfit)
    (refused : ofTokens tokens = .error d) : ofTokens tokens' = .error d := by
  rw [← Cursor.body_ofList, ← Cursor.body_ofList tokens'] at shown
  unfold ofTokens at refused ⊢
  obtain ⟨rest, h⟩ := Reader.onTokens_eq_error_iff.1 refused
  rw [Reader.onTokens_eq_error_iff]
  rcases Reader.ended_eq_error h with inside | ⟨p, read, away, rfl⟩
  · obtain ⟨rest', inside'⟩ := Reader.program_refuses shown misfit inside
    exact ⟨rest', Reader.bind_of_error inside'⟩
  · -- the rule is read, and the token behind it does not fit in the longer sequence either
    obtain ⟨rest', read', left⟩ := Reader.program_yields shown read away
    obtain ⟨away', head, -⟩ := Cursor.of_body_prefix left away
    refine ⟨rest', ?_⟩
    rw [Reader.bind_of_ok read']
    apply Reader.bind_of_error
    rw [Reader.finish, away', ← head]
    rfl

/-! ## Texts -/

/-- A text is refused for the first stray character of it. -/
theorem tokenize_of_stray {text : String} {met : List Token} {c : Char} {place : Place} {later : List Entry}
    (same : entries text = met.map Entry.token ++ .stray c place :: later) :
    tokenize text = .error (.stray c place) := by
  rw [tokenize_eq, same, List.mapM_append, mapM_asToken_eq_ok_iff.2 rfl]
  rfl

/-- A text that is not tokenized is not read. -/
theorem Program.ofText_eq_error_of_tokenize {text : String} {d : Diagnostic} (refused : tokenize text = .error d) :
    ofText text = .error d := by
  unfold ofText
  rw [refused]
  rfl

/-- A text that is not tokenized is refused for a character of it. -/
theorem exists_stray_of_tokenize_eq_error {text : String} {d : Diagnostic} (refused : tokenize text = .error d) :
    ∃ before c after, before ++ c :: after = text.toList ∧ d = .stray c (.counted before) := by
  obtain ⟨met, c, place, later, same, rfl⟩ := tokenize_eq_error refused
  have member : .stray c place ∈ entries text := by rw [same]; simp
  obtain ⟨before, pointed, after, split, stands⟩ := exists_of_mem_scan member
  rw [Place.beginning_through] at stands
  cases stands
  refine ⟨before, c, after, ?_, rfl⟩
  rw [← split, List.append_assoc, List.singleton_append]

section Behind

variable {s₁ w : String} (nonempty : w ≠ "") (blank : ∀ c ∈ w.toList, isBlank c = true) (s₂ : String)

include nonempty blank

/-- A text with a stray character is refused for the first one also when white space and more text stand behind it. -/
theorem tokenize_append_of_stray {met : List Token} {c : Char} {place : Place} {later : List Entry}
    (same : entries s₁ = met.map Entry.token ++ .stray c place :: later) :
    tokenize (s₁ ++ w ++ s₂) = .error (.stray c place) := by
  have whole : entries (s₁ ++ w ++ s₂) = _ := entries_append nonempty blank s₂
  rw [same, List.append_assoc, List.cons_append] at whole
  exact tokenize_of_stray whole

section Tokenized

variable {met : List Token} (same : entries s₁ = met.map Entry.token)

include same

/-- Behind a text without stray characters and white space, a stray character is refused where it stands. -/
theorem tokenize_append_eq_error {d : Diagnostic} (refused : tokenize s₂ = .error d) :
    ∃ before c after, before ++ c :: after = s₂.toList ∧
      tokenize (s₁ ++ w ++ s₂) = .error (.stray c (.counted ((s₁ ++ w).toList ++ before))) := by
  obtain ⟨before, c, after, split, rfl⟩ := exists_stray_of_tokenize_eq_error refused
  have moved : (Place.endOf (s₁ ++ w)).beyond (.counted before) = .counted ((s₁ ++ w).toList ++ before) := by
    rw [← Place.beginning_through, ← Place.beginning_through, Place.beyond_beginning_through, Place.through_append]
    rfl
  refine ⟨before, c, after, split, ?_⟩
  rw [tokenize_append nonempty blank s₂ same, refused, ← moved, ← Diagnostic.beyond_stray]
  rfl

/-- A token that did not fit is refused in the same way where white space and more tokens follow. -/
theorem Program.ofText_append_of_misfit {d : Diagnostic} (misfit : d.IsMisfit) (refused : ofText s₁ = .error d)
    {tokens : List Token} (tokenized : tokenize s₂ = .ok tokens) : ofText (s₁ ++ w ++ s₂) = .error d := by
  unfold ofText at refused ⊢
  rw [tokenize_eq_ok_iff.2 ⟨met, same, rfl⟩] at refused
  rw [tokenize_append nonempty blank s₂ same, tokenized]
  -- all tokens of the first text come first in the longer one
  have shown : beforeEnd (met ++ [.endAt (Place.beginning.through s₁.toList)]) <+:
      beforeEnd (met ++ tokens.map (Token.beyond (.endOf (s₁ ++ w)))) := by
    have proper := kind_ne_of_entries same
    rw [beforeEnd_ended proper rfl, beforeEnd_append proper]
    exact List.prefix_append _ _
  exact ofTokens_eq_error_of_prefix shown misfit refused

end Tokenized

end Behind

/-- A refused text stays refused when white space and another text are written behind it. A stray character is refused
as before, whatever follows. A token that did not fit is refused as before, in every particular, if the second text
is tokenized; and if it is not, a stray character of the second text is refused where it stands. -/
theorem first_refusal_stands {s₁ : String} {d : Diagnostic} (refused : Program.ofText s₁ = .error d) {w : String}
    (nonempty : w ≠ "") (blank : ∀ c ∈ w.toList, isBlank c = true) (s₂ : String) :
    (∀ character, d.cause = .unrecognized character → Program.ofText (s₁ ++ w ++ s₂) = .error d) ∧
    (∀ phrase expected found lexeme, d.cause = .unexpected phrase expected found lexeme → found ≠ .endOfInput →
      (∀ tokens, tokenize s₂ = .ok tokens → Program.ofText (s₁ ++ w ++ s₂) = .error d) ∧
      (∀ d₂, tokenize s₂ = .error d₂ → ∃ before c after, before ++ c :: after = s₂.toList ∧
        Program.ofText (s₁ ++ w ++ s₂) = .error (.stray c (.counted ((s₁ ++ w).toList ++ before))))) := by
  rcases Reader.exact_program_ofTokens.tokenize_bind_eq_error refused with
    ⟨met, c, place, later, same, rfl⟩ | ⟨met, same, phrase, expected, t, -, told⟩
  · constructor
    · intro character lexical
      exact Program.ofText_eq_error_of_tokenize (tokenize_append_of_stray nonempty blank s₂ same)
    · intro phrase expected found lexeme syntactic
      cases syntactic
  · constructor
    · intro character lexical
      rw [told] at lexical
      cases lexical
    · intro phrase' expected' found lexeme syntactic other
      have misfit : d.IsMisfit := ⟨_, _, _, _, syntactic, other⟩
      constructor
      · intro tokens tokenized
        exact Program.ofText_append_of_misfit nonempty blank s₂ same misfit refused tokenized
      · intro d₂ unlexed
        obtain ⟨before, c, after, split, whole⟩ := tokenize_append_eq_error nonempty blank s₂ same unlexed
        exact ⟨before, c, after, split, Program.ofText_eq_error_of_tokenize whole⟩

/-- An exclamation mark at the very end is no symbol although an equals sign comes behind the gap; a number in place
of a name is refused before rules that follow, and behind a stray character that follows. -/
theorem first_refusal_stands_before_more :
    Program.ofText "WHERE a !" = .error (.stray '!' ⟨8, 1, 9⟩) ∧
    Program.ofText ("WHERE a !" ++ " " ++ "= 1") = .error (.stray '!' ⟨8, 1, 9⟩) ∧
    Program.ofText "WATCH 5" = .error (.unexpected (.subject .watch) [.word] (.readAt ⟨6, 1, 7⟩ .digits ['5'])) ∧
    Program.ofText ("WATCH 5" ++ "\n" ++ "SOURCE b") =
      .error (.unexpected (.subject .watch) [.word] (.readAt ⟨6, 1, 7⟩ .digits ['5'])) ∧
    ∃ before c after, before ++ c :: after = "é $".toList ∧
      Program.ofText ("WATCH 5" ++ "\n" ++ "é $") =
        .error (.stray c (.counted (("WATCH 5" ++ "\n").toList ++ before))) := by
  have mark : Program.ofText "WHERE a !" = .error (.stray '!' ⟨8, 1, 9⟩) := by cbv
  have misfit : Program.ofText "WATCH 5" =
      .error (.unexpected (.subject .watch) [.word] (.readAt ⟨6, 1, 7⟩ .digits ['5'])) := by cbv
  have rule : tokenize "SOURCE b" = .ok [.readAt ⟨0, 1, 1⟩ (.keyword (.subject .source)) "SOURCE".toList,
      .readAt ⟨7, 1, 8⟩ .word ['b'], .endAt ⟨8, 1, 9⟩] := by cbv
  have letter : tokenize "é $" = .error (.stray 'é' ⟨0, 1, 1⟩) := by cbv
  have space : ∀ c ∈ " ".toList, isBlank c = true := List.all_eq_true.1 (by decide)
  have feed : ∀ c ∈ "\n".toList, isBlank c = true := List.all_eq_true.1 (by decide)
  have stands := (first_refusal_stands misfit (by decide) feed "SOURCE b").2 _ _ _ _ rfl (by decide)
  have stray := (first_refusal_stands misfit (by decide) feed "é $").2 _ _ _ _ rfl (by decide)
  exact ⟨mark, (first_refusal_stands mark (by decide) space "= 1").1 _ rfl, misfit, stands.1 _ rule, stray.2 _ letter⟩

end WatchLang
