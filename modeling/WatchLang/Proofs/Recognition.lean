import WatchLang.Proofs.ParallelReading

/-!
# Reading recognizes the grammar

Tokens are read as a rule just when those before the first end of the input spell one, and the rule that is read is
the one that they spell. This is exactness for whole sequences; that nothing behind the end matters, for acceptance
and for refusals alike, is what reading side by side gives.
-/

set_option autoImplicit false

namespace WatchLang

/-- Tokens spell one value at most when some way of reading is exact for them. -/
theorem Reader.ExactOnTokens.unique {α : Type} {read : List Token → Except Diagnostic α}
    {Spelled : List Token → α → Prop} (exact : ExactOnTokens read Spelled) {tokens : List Token} {a b : α}
    (spelled : Spelled tokens a) (spelled' : Spelled tokens b) : a = b := by
  have whole := beforeEnd_eq_self (exact.proper spelled)
  rw [← whole] at spelled spelled'
  have read := exact.yields.2 spelled
  rw [exact.yields.2 spelled'] at read
  cases read
  rfl

/-- A rule or a condition is read from tokens exactly when the tokens before the first end of the input spell it, which
they do for one at most; and whatever stands behind an end of the input has no influence, be the tokens accepted or
refused. -/
theorem reading_recognizes_grammar :
    (∀ tokens p, Program.ofTokens tokens = .ok p ↔ p.Spelled (beforeEnd tokens)) ∧
    (∀ tokens c, Condition.ofTokens tokens = .ok c ↔ c.Spelled (beforeEnd tokens)) ∧
    (∀ tokens (p q : Program), p.Spelled tokens → q.Spelled tokens → p = q) ∧
    (∀ tokens (c d : Condition), c.Spelled tokens → d.Spelled tokens → c = d) ∧
    (∀ before after after' (e : Token), e.kind = .endOfInput →
      Program.ofTokens (before ++ e :: after) = Program.ofTokens (before ++ e :: after') ∧
      Condition.ofTokens (before ++ e :: after) = Condition.ofTokens (before ++ e :: after')) := by
  refine ⟨?_, ?_, ?_, ?_, ?_⟩
  · intro tokens p
    exact Reader.exact_program_ofTokens.yields
  · intro tokens c
    exact Reader.exact_condition_ofTokens.yields
  · intro tokens p q spelled spelled'
    exact Reader.exact_program_ofTokens.unique spelled spelled'
  · intro tokens c d spelled spelled'
    exact Reader.exact_condition_ofTokens.unique spelled spelled'
  · intro before after after' e ends
    exact ⟨Program.ofTokens_append_end before after after' ends,
      Condition.ofTokens_append_end before after after' ends⟩

/-- Behind the end of the input neither a further statement nor a token out of place changes a refusal. -/
theorem reading_recognizes_grammar_behind_end :
    Token.kind ⟨.endOfInput, "", 1, 7, ⟨6, 6⟩⟩ = .endOfInput ∧
    Program.ofTokens ([⟨.keyword (.subject .source), "SOURCE", 1, 1, ⟨0, 6⟩⟩] ++
        ⟨.endOfInput, "", 1, 7, ⟨6, 6⟩⟩ :: [⟨.word, "a", 1, 8, ⟨7, 8⟩⟩]) =
      Program.ofTokens ([⟨.keyword (.subject .source), "SOURCE", 1, 1, ⟨0, 6⟩⟩] ++
        ⟨.endOfInput, "", 1, 7, ⟨6, 6⟩⟩ :: []) :=
  ⟨rfl, (reading_recognizes_grammar.2.2.2.2 _ _ _ ⟨.endOfInput, "", 1, 7, ⟨6, 6⟩⟩ rfl).1⟩

end WatchLang
