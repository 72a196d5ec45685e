import WatchLang.Proofs.ParallelReading
import WatchLang.Proofs.Relocating
import WatchLang.Proofs.Standing

/-!
# Rules one after the other

A rule and, behind white space, any other text are read together as they are read apart: the statements of the second
follow those of the first, and a refusal of the second is the same refusal at the place to which it has moved. Three
steps carry this. Tokenizing splits at the white space (`tokenize_append`). Statements that come first are read and
leave the reader where it would begin on the tokens behind them, so nothing about the first rule reaches the second
(`Program.ofTokens_append`). And reading passes places through to its refusals without looking at them
(`Program.ofTokens_beyond`).
-/

set_option autoImplicit false

namespace WatchLang

/-! ## Tokens at other places -/

/-- The same tokens beyond an origin are read as the same rule, or refused beyond the origin. -/
theorem Program.ofTokens_beyond (origin : Place) {tokens : List Token} (ends : ∃ e ∈ tokens, e.kind = .endOfInput) :
    ofTokens (tokens.map (Token.beyond origin)) = (ofTokens tokens).mapError (Diagnostic.beyond origin) := by
  have kinds : ∀ t t' : Token, t' = t.beyond origin → t'.kind = t.kind := by
    rintro t _ rfl
    rfl
  have renames : ∀ t t' : Token, t' = t.beyond origin → t.RenamedTo .identity t' := by
    rintro t _ rfl
    exact t.renamedTo_identity
  have related : List.Forall₂ (fun t t' : Token => t' = t.beyond origin) tokens (tokens.map (Token.beyond origin)) := by
    rw [List.forall₂_map_right_iff]
    exact List.forall₂_same.2 fun t _ => rfl
  have agree := ofTokens_alike renames (Cursor.alike_of_forall₂ kinds related ends)
  generalize ofTokens tokens = alone at agree ⊢
  generalize ofTokens (tokens.map (Token.beyond origin)) = moved at agree ⊢
  cases agree with
  | ok values =>
    rw [values, rename_identity]
    rfl
  | error found =>
    rw [found]
    rfl

/-! ## Statements before other tokens -/

/-- Statements that stand next come first in the rule that is read. -/
theorem Reader.program_of_spelled {taken : List Token} {ss : List Statement} (h : Statement.SpelledAll taken ss)
    {cursor : Cursor} (begins : taken <+: cursor.body) :
    program cursor =
      (do let p ← program; return ⟨ss ++ p.statements⟩ : Reader Program) (cursor.skip taken.length) := by
  simp only [bind, EStateM.bind, program]
  rw [statements_of_spelled h begins]
  obtain ⟨read, refusal, rest⟩ := statements (cursor.skip taken.length)
  cases refusal <;> rfl

/-- Behind statements, tokens are read as they would be alone, or refused as they would be alone. -/
theorem Program.ofTokens_append {first : List Token} {ss : List Statement} (h : Statement.SpelledAll first ss)
    {more : List Token} (nonempty : more ≠ []) :
    ofTokens (first ++ more) = (ofTokens more).map fun p => ⟨ss ++ p.statements⟩ := by
  have begins : first <+: (Cursor.ofList (first ++ more)).body := by
    rw [Cursor.body_ofList, beforeEnd_append h.proper]
    exact List.prefix_append first _
  have read := Reader.program_of_spelled h begins
  rw [Cursor.skip_ofList_append h.proper nonempty] at read
  simp only [ofTokens, Reader.onTokens, bind, EStateM.bind, read]
  -- what the reader of rules comes to on the tokens behind the statements, and then whether the input ends there
  cases Reader.program (Cursor.ofList more) with
  | error d rest => rfl
  | ok p rest =>
    simp only [pure, EStateM.pure]
    cases Reader.finish .program Kind.statementStarts rest <;> rfl

/-! ## Whole texts -/

/-- Behind a rule and white space a text is read as it would be alone, or refused as it would be alone. -/
theorem Program.ofText_append {s₁ w : String} {p₁ : Program} (first : ofText s₁ = .ok p₁) (nonempty : w ≠ "")
    (blank : ∀ c ∈ w.toList, isBlank c = true) (s₂ : String) :
    ofText (s₁ ++ w ++ s₂) =
      ((ofText s₂).mapError (Diagnostic.beyond (.endOf (s₁ ++ w)))).map fun p => ⟨p₁.statements ++ p.statements⟩ := by
  obtain ⟨met, same, -, spelled⟩ := ofText_eq_ok_iff.1 first
  unfold ofText
  rw [tokenize_append nonempty blank s₂ same]
  cases tokenized : tokenize s₂ with
  | error d => rfl
  | ok tokens =>
    have ends : ∃ e ∈ tokens, e.kind = .endOfInput := by
      obtain ⟨met', -, rfl⟩ := tokenize_eq_ok_iff.1 tokenized
      exact ⟨_, List.mem_append_right _ List.mem_cons_self, rfl⟩
    have some : tokens.map (Token.beyond (.endOf (s₁ ++ w))) ≠ [] := by
      obtain ⟨e, member, -⟩ := ends
      exact List.ne_nil_of_mem (List.mem_map_of_mem member)
    have read := ofTokens_append spelled some
    rw [ofTokens_beyond (.endOf (s₁ ++ w)) ends] at read
    exact read

/-- A rule, white space and a second text are read as one text. If the second text is a rule, its statements follow
those of the first. If it is refused, the whole is refused for the same cause, with the bytes moved by the length of
what stands before the second text, the line counted on from the last line there, and the column on the first line of
the second text counted on from the last column there. -/
theorem reading_behind_rule {s₁ w : String} {p₁ : Program} (first : Program.ofText s₁ = .ok p₁) (nonempty : w ≠ "")
    (blank : ∀ c ∈ w.toList, isBlank c = true) (s₂ : String) :
    (∀ p₂, Program.ofText s₂ = .ok p₂ →
      Program.ofText (s₁ ++ w ++ s₂) = .ok ⟨p₁.statements ++ p₂.statements⟩) ∧
    (∀ d, Program.ofText s₂ = .error d → 0 < d.line ∧ 0 < d.column ∧
      Program.ofText (s₁ ++ w ++ s₂) = .error (d.beyond (.counted (s₁ ++ w).toList))) := by
  have whole := Program.ofText_append first nonempty blank s₂
  rw [Place.endOf, Place.beginning_through] at whole
  constructor
  · intro p₂ second
    rw [whole, second]
    rfl
  · intro d refused
    obtain ⟨_, _, _, _, points⟩ := Reader.exact_program_ofTokens.exists_pointsAt refused
    have line := points.line
    have column := points.column
    refine ⟨by omega, by omega, ?_⟩
    rw [whole, refused]
    rfl

/-- Behind a rule, a line feed and a no-break space the second text begins at line two, column two, byte eleven. -/
theorem reading_behind_rule_on_second_line :
    Program.ofText "SOURCE a" = .ok ⟨[.subject .source "a"]⟩ ∧
    Program.ofText "WATCH b" = .ok ⟨[.subject .watch "b"]⟩ ∧
    Program.ofText ("SOURCE a" ++ "\n\u00a0" ++ "WATCH b") = .ok ⟨[.subject .source "a", .subject .watch "b"]⟩ ∧
    Program.ofText "WATCH 5" = .error (.unexpected (.subject .watch) [.word] (.readAt ⟨6, 1, 7⟩ .digits ['5'])) ∧
    Program.ofText ("SOURCE a" ++ "\n\u00a0" ++ "WATCH 5") =
      .error (.unexpected (.subject .watch) [.word] (.readAt ⟨17, 2, 8⟩ .digits ['5'])) := by
  have rule : Program.ofText "SOURCE a" = .ok ⟨[.subject .source "a"]⟩ := by cbv
  have more : Program.ofText "WATCH b" = .ok ⟨[.subject .watch "b"]⟩ := by cbv
  have refused : Program.ofText "WATCH 5" =
      .error (.unexpected (.subject .watch) [.word] (.readAt ⟨6, 1, 7⟩ .digits ['5'])) := by cbv
  have space : ∀ c ∈ "\n\u00a0".toList, isBlank c = true := List.all_eq_true.1 (by decide)
  have accepted := (reading_behind_rule rule (by decide) space "WATCH b").1 _ more
  have moved := (reading_behind_rule rule (by decide) space "WATCH 5").2 _ refused
  exact ⟨rule, more, accepted, refused, moved.2.2⟩

end WatchLang
