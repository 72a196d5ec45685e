import Mathlib
import WatchLang.Proofs.RuleReading

/-!
# Refusals come as early as they can

When tokens are refused, the token that the diagnostic describes is the first with which they cannot begin anything
that is read, and the kinds that it lists are just those that could have stood there. Both are said of the reading
itself, over all continuations, which may have further ends of the input in them; exactness brings them down to
the phrases of the grammar.
-/

set_option autoImplicit false

namespace WatchLang

section Acceptance

variable {α : Type} (read : List Token → Except Diagnostic α)

/-- Tokens that are read. -/
def Accepted (tokens : List Token) : Prop :=
  ∃ a, read tokens = .ok a

/-- Tokens that can be gone on with so that all of it is read. -/
def Viable (tokens : List Token) : Prop :=
  ∃ more, Accepted read (tokens ++ more)

/-- A refusal that describes the token with a given index, counted in the tokens before the end of the input and the end
behind them. -/
structure Earliest (tokens : List Token) (index : Nat) (found : Token) (expected : List Kind) : Prop where
  within : index ≤ (beforeEnd tokens).length
  described : (Cursor.ofList tokens).toList[index]? = some found
  ends_iff : found.kind = .endOfInput ↔ index = (beforeEnd tokens).length
  viable : Viable read ((beforeEnd tokens).take index)
  stuck : index < (beforeEnd tokens).length → ¬ Viable read ((beforeEnd tokens).take (index + 1))
  expected_iff : ∀ k, k ∈ expected ↔
    (k ≠ .endOfInput ∧ ∃ t more, t.kind = k ∧ Accepted read ((beforeEnd tokens).take index ++ t :: more)) ∨
      (k = .endOfInput ∧ Accepted read ((beforeEnd tokens).take index))
  distinct : expected.Nodup

end Acceptance

namespace Reader.ExactOnTokens

variable {α : Type} {read : List Token → Except Diagnostic α} {Spelled : List Token → α → Prop}

/-- Tokens are read exactly if those before the end of the input are a phrase. -/
theorem accepted_iff (exact : ExactOnTokens read Spelled) {tokens : List Token} :
    Accepted read tokens ↔ Phrases Spelled (beforeEnd tokens) := by
  constructor
  · rintro ⟨a, h⟩
    exact ⟨a, exact.yields.1 h⟩
  · rintro ⟨a, spelled⟩
    exact ⟨a, exact.yields.2 spelled⟩

/-- The tokens of a phrase are read. -/
theorem accepted_of_phrase (exact : ExactOnTokens read Spelled) {tokens : List Token}
    (phrase : Phrases Spelled tokens) : Accepted read tokens := by
  obtain ⟨a, spelled⟩ := phrase
  rw [exact.accepted_iff, beforeEnd_eq_self (exact.proper spelled)]
  exact ⟨a, spelled⟩

/-- Tokens and one more are gone on with by what makes a phrase of them up to its end. -/
theorem accepted_append_cons_iff (exact : ExactOnTokens read Spelled) {tokens : List Token} {t : Token}
    (proper : ∀ t ∈ tokens, t.kind ≠ .endOfInput) (away : t.kind ≠ .endOfInput) (more : List Token) :
    Accepted read (tokens ++ t :: more) ↔ Phrases Spelled (tokens ++ t :: beforeEnd more) := by
  rw [exact.accepted_iff, beforeEnd_append proper, beforeEnd_cons away]

/-- The kinds that can follow some tokens are those of the tokens with which they can be gone on with, and the end of
the input where they are read as they are. -/
theorem canFollow_iff (exact : ExactOnTokens read Spelled) {tokens : List Token}
    (proper : ∀ t ∈ tokens, t.kind ≠ .endOfInput) (k : Kind) :
    CanFollow (Phrases Spelled) tokens k ↔
      (k ≠ .endOfInput ∧ ∃ t more, t.kind = k ∧ Accepted read (tokens ++ t :: more)) ∨
        (k = .endOfInput ∧ Accepted read tokens) := by
  constructor
  · rintro (⟨ends, phrase⟩ | ⟨away, t, more, kind, phrase⟩)
    · exact Or.inr ⟨ends, exact.accepted_of_phrase phrase⟩
    · exact Or.inl ⟨away, t, more, kind, exact.accepted_of_phrase phrase⟩
  · rintro (⟨away, t, more, kind, accepted⟩ | ⟨ends, accepted⟩)
    · have phrase := (exact.accepted_append_cons_iff proper (kind ▸ away) more).1 accepted
      exact Or.inr ⟨away, t, _, kind, phrase⟩
    · rw [exact.accepted_iff, beforeEnd_eq_self proper] at accepted
      exact Or.inl ⟨ends, accepted⟩

/-- A refusal by a reading that is exact comes at the earliest token and lists the kinds that can stand there. -/
theorem earliest (exact : ExactOnTokens read Spelled) {tokens : List Token} {d : Diagnostic}
    (refused : read tokens = .error d) :
    ∃ index found phrase expected, d = .unexpected phrase expected found ∧
      Earliest read tokens index found expected := by
  obtain ⟨rest, taken, expected, begins, ⟨phrase, told⟩, blocked, -⟩ := exact.refuses refused
  -- the index is the number of tokens taken when the blocked one was met
  have proper : ∀ t ∈ taken, t.kind ≠ .endOfInput := fun t member =>
    Cursor.kind_ne_of_mem_body (begins.subset member)
  have described := Cursor.getElem?_toList_of_le begins.length_le
  have ends_iff := Cursor.atEnd_skip_iff begins
  have goesOn := Cursor.exists_body_eq_append begins
  have within := begins.length_le
  have cut := List.prefix_iff_eq_take.1 begins
  rw [Cursor.atEnd_iff] at ends_iff
  rw [Cursor.body_ofList] at ends_iff goesOn within cut
  refine ⟨taken.length, _, phrase, expected, told, within, described, ?_, ?_, ?_, ?_, blocked.distinct⟩
  · rw [ends_iff]
    constructor
    · intro whole
      rw [← whole]
    · intro lengths
      rw [cut, lengths, List.take_length]
  · rw [← cut]
    obtain ⟨more, phrase⟩ := blocked.viable
    exact ⟨more, exact.accepted_of_phrase phrase⟩
  · intro before
    have away : ((Cursor.ofList tokens).skip taken.length).head.kind ≠ .endOfInput := by
      intro ends
      rw [← ends_iff.1 ends] at before
      exact Nat.lt_irrefl _ before
    obtain ⟨later, whole⟩ := goesOn away
    rintro ⟨more, accepted⟩
    rw [whole, List.take_append, List.take_of_length_le (Nat.le_succ _), Nat.add_sub_cancel_left,
      List.take_succ_cons, List.take_zero, List.append_assoc, List.singleton_append,
      exact.accepted_append_cons_iff proper away] at accepted
    exact blocked.stuck _ accepted
  · intro k
    rw [← cut, ← exact.canFollow_iff proper]
    exact blocked.lists k

end Reader.ExactOnTokens

/-- Wherever tokens are refused as a rule or as a condition, the token described is the first with which nothing that is
read begins, and the kinds listed are, without repetition, just those of the tokens that could have stood there, with
the end of the input where the tokens before would have been read alone. -/
theorem refusals_earliest :
    (∀ tokens d, Program.ofTokens tokens = .error d →
      ∃ index found phrase expected, d = .unexpected phrase expected found ∧
        Earliest Program.ofTokens tokens index found expected) ∧
    (∀ tokens d, Condition.ofTokens tokens = .error d →
      ∃ index found phrase expected, d = .unexpected phrase expected found ∧
        Earliest Condition.ofTokens tokens index found expected) := by
  constructor
  · intro tokens d refused
    exact Reader.exact_program_ofTokens.earliest refused
  · intro tokens d refused
    exact Reader.exact_condition_ofTokens.earliest refused

/-- A symbol of unknown text is refused when it has been taken already, and is still the token described. -/
theorem refusals_earliest_unknown_symbol :
    Condition.ofTokens [⟨.word, "a", 1, 1, ⟨0, 1⟩⟩, ⟨.symbol, "~", 1, 3, ⟨2, 3⟩⟩] =
      .error (.unexpected .condition Reader.comparisons ⟨.symbol, "~", 1, 3, ⟨2, 3⟩⟩) ∧
    (∃ index found phrase expected,
      Diagnostic.unexpected .condition Reader.comparisons ⟨.symbol, "~", 1, 3, ⟨2, 3⟩⟩ =
        .unexpected phrase expected found ∧
      Earliest Condition.ofTokens [⟨.word, "a", 1, 1, ⟨0, 1⟩⟩, ⟨.symbol, "~", 1, 3, ⟨2, 3⟩⟩] index found expected) ∧
    Program.ofTokens [⟨.word, "a", 1, 1, ⟨0, 1⟩⟩] =
      .error (.unexpected .program (Kind.statementStarts ++ [.endOfInput]) ⟨.word, "a", 1, 1, ⟨0, 1⟩⟩) ∧
    (∃ index found phrase expected,
      Diagnostic.unexpected .program (Kind.statementStarts ++ [.endOfInput]) ⟨.word, "a", 1, 1, ⟨0, 1⟩⟩ =
        .unexpected phrase expected found ∧
      Earliest Program.ofTokens [⟨.word, "a", 1, 1, ⟨0, 1⟩⟩] index found expected) := by
  have condition : Condition.ofTokens [⟨.word, "a", 1, 1, ⟨0, 1⟩⟩, ⟨.symbol, "~", 1, 3, ⟨2, 3⟩⟩] =
      .error (.unexpected .condition Reader.comparisons ⟨.symbol, "~", 1, 3, ⟨2, 3⟩⟩) := by cbv
  have program : Program.ofTokens [⟨.word, "a", 1, 1, ⟨0, 1⟩⟩] =
      .error (.unexpected .program (Kind.statementStarts ++ [.endOfInput]) ⟨.word, "a", 1, 1, ⟨0, 1⟩⟩) := by cbv
  exact ⟨condition, refusals_earliest.2 _ _ condition, program, refusals_earliest.1 _ _ program⟩

end WatchLang
