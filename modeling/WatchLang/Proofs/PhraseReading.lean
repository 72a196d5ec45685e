import WatchLang.Program.Grammar
import WatchLang.Proofs.ExactReading

/-!
# Every phrase is read exactly

The readers of names, conditions and statements are exact for the grammar: each of their steps is, and exactness carries
over to sequences. The step that compares takes one token and may still refuse it, since a symbol is expected by its
kind but understood by its text; it is treated as a single token that spells a comparison. A statement is exact
because the next token leaves only one form open, whose reading begins by taking that token.
-/

set_option autoImplicit false

namespace WatchLang

/-- The symbols that are looked up and their comparisons are those of the grammar. -/
theorem Comparison.ofSymbol?_eq_some_iff {text : String} {c : Comparison} :
    ofSymbol? text = some c ↔ (text, c) ∈ symbolMeanings := by
  rw [ofSymbol?_eq_some_iff_symbol]
  constructor
  · rintro (⟨other, rfl⟩ | ⟨rfl, rfl⟩)
    · cases c
      case contains => exact absurd rfl other
      all_goals decide
    · decide
  · intro listed
    simp only [symbolMeanings, List.mem_cons, Prod.mk.injEq, List.not_mem_nil, or_false] at listed
    rcases listed with ⟨rfl, rfl⟩ | ⟨rfl, rfl⟩ | ⟨rfl, rfl⟩ | ⟨rfl, rfl⟩ | ⟨rfl, rfl⟩ | ⟨rfl, rfl⟩ | ⟨rfl, rfl⟩ <;>
      decide

/-- A symbol spells the comparison that is found under its text. -/
theorem Comparison.spelled_iff_of_symbol {t : Token} {c : Comparison} (kind : t.kind = .symbol) :
    Spelled t c ↔ ofSymbol? t.lexeme = some c := by
  rw [ofSymbol?_eq_some_iff]
  constructor
  · intro spelled
    cases spelled with
    | symbol _ meaning => exact meaning
    | contains reserved =>
      rw [kind] at reserved
      cases reserved
  · exact .symbol kind

/-- The keyword for containment spells containment and nothing else. -/
theorem Comparison.spelled_iff_of_contains {t : Token} {c : Comparison} (kind : t.kind = .keyword .contains) :
    Spelled t c ↔ c = .contains := by
  constructor
  · intro spelled
    cases spelled with
    | symbol symbol _ =>
      rw [kind] at symbol
      cases symbol
    | contains _ => rfl
  · rintro rfl
    exact .contains kind

namespace Reader

/-- The name of a statement is read exactly from one word. -/
theorem exact_name (phrase : Phrase) :
    Exact (name phrase) (Alone fun t text => t.kind = .word ∧ text = t.lexeme) := by
  have word := exact_expect [.word] phrase (by decide) (by decide) (by decide)
  refine (word.map Token.lexeme).congr ?_
  intro tokens text
  constructor
  · rintro ⟨t', ⟨t, rfl, found, rfl⟩, rfl⟩
    exact ⟨t', rfl, List.mem_singleton.1 found, rfl⟩
  · rintro ⟨t, rfl, kind, rfl⟩
    exact ⟨t, ⟨t, rfl, List.mem_singleton.2 kind, rfl⟩, rfl⟩

/-! ## Conditions -/

/-- A token that compares is understood when it spells a comparison; a symbol of unknown text is refused. -/
theorem comparison_eq {t : Token} (found : t.kind ∈ comparisons) (cursor : Cursor) :
    (∃ c, Comparison.Spelled t c ∧ (∀ c', Comparison.Spelled t c' → c' = c) ∧
        comparison t cursor = .ok c cursor) ∨
      ((∀ c, ¬ Comparison.Spelled t c) ∧ t.kind = .symbol ∧ Comparison.ofSymbol? t.lexeme = none ∧
        comparison t cursor = .error (.unexpected .condition comparisons t) cursor) := by
  simp only [comparisons, List.mem_cons, List.not_mem_nil, or_false] at found
  rcases found with kind | kind
  · have spelled_iff : ∀ c, Comparison.Spelled t c ↔ Comparison.ofSymbol? t.lexeme = some c :=
      fun c => Comparison.spelled_iff_of_symbol kind
    cases known : Comparison.ofSymbol? t.lexeme with
    | some c =>
      refine Or.inl ⟨c, (spelled_iff c).2 known, ?_, ?_⟩
      · intro c' spelled
        exact Option.some.inj (((spelled_iff c').1 spelled).symm.trans known)
      · simp only [comparison, kind, known]
        rfl
    | none =>
      refine Or.inr ⟨?_, kind, rfl, ?_⟩
      · intro c spelled
        rw [spelled_iff, known] at spelled
        cases spelled
      · simp only [comparison, kind, known]
        rfl
  · refine Or.inl ⟨.contains, .contains kind, fun c' => (Comparison.spelled_iff_of_contains kind).1, ?_⟩
    simp only [comparison, kind]
    rfl

/-- A token that spells a comparison is of one of the kinds of comparisons. -/
theorem kind_mem_of_spelled {t : Token} {c : Comparison} (h : Comparison.Spelled t c) :
    t.kind ∈ comparisons := by
  cases h with
  | symbol kind _ => simp [kind, comparisons]
  | contains kind => simp [kind, comparisons]

/-- Taking and understanding a token that compares is exact for the tokens that spell a comparison. -/
theorem exact_sign :
    Exact (expect comparisons .condition >>= comparison) (Alone Comparison.Spelled) := by
  refine exact_alone comparisons (by decide) (by decide) (by decide) ?_ ?_ ?_
  · intro k
    constructor
    · intro found
      simp only [comparisons, List.mem_cons, List.not_mem_nil, or_false] at found
      rcases found with rfl | rfl
      · exact ⟨⟨.symbol, "=", 1, 1, ⟨0, 0⟩⟩, .equal, rfl, .symbol rfl (by decide)⟩
      · exact ⟨⟨.keyword .contains, "", 1, 1, ⟨0, 0⟩⟩, .contains, rfl, .contains rfl⟩
    · rintro ⟨t, c, rfl, spelled⟩
      exact kind_mem_of_spelled spelled
  · intro cursor c rest
    constructor
    · intro h
      obtain ⟨t, middle, h₁, h₂⟩ := bind_eq_ok h
      obtain ⟨found, rfl, rfl⟩ := expect_eq_ok h₁
      rcases comparison_eq found cursor.tail with ⟨c', spelled, -, understood⟩ | ⟨-, -, -, refused⟩
      · obtain ⟨rfl, rfl⟩ := ok_unique understood h₂
        exact ⟨spelled, rfl⟩
      · rw [refused] at h₂
        cases h₂
    · rintro ⟨spelled, rfl⟩
      have found := kind_mem_of_spelled spelled
      have taken : expect comparisons .condition cursor = .ok cursor.head cursor.tail := by
        unfold expect
        rw [if_pos found]
      rw [bind_of_ok taken]
      rcases comparison_eq found cursor.tail with ⟨c', -, only, understood⟩ | ⟨nothing, -⟩
      · rw [understood, only c spelled]
      · exact absurd spelled (nothing c)
  · intro cursor d rest h
    rcases bind_eq_error h with h₁ | ⟨t, middle, h₁, h₂⟩
    · unfold expect at h₁
      split at h₁
      · cases h₁
      · next missing =>
        cases h₁
        exact ⟨fun c spelled => missing (kind_mem_of_spelled spelled), ⟨_, rfl⟩, Or.inl ⟨missing, rfl⟩⟩
    · obtain ⟨found, rfl, rfl⟩ := expect_eq_ok h₁
      rcases comparison_eq found cursor.tail with ⟨c, -, -, understood⟩ | ⟨nothing, kind, unknown, refused⟩
      · rw [understood] at h₂
        cases h₂
      · rw [refused] at h₂
        cases h₂
        exact ⟨nothing, ⟨_, rfl⟩, Or.inr ⟨found, kind, unknown, rfl⟩⟩

/-- A token spells an operand exactly when it is of a kind that can stand on the right side, and then only one. -/
theorem operand_spelled_iff {t : Token} {o : Operand} :
    Operand.Spelled t o ↔ t.kind ∈ operands ∧ o = operand t := by
  constructor
  · rintro (kind | kind | kind) <;> simp [kind, operands, operand]
  · rintro ⟨found, rfl⟩
    simp only [operands, List.mem_cons, List.not_mem_nil, or_false] at found
    rcases found with kind | kind | kind
    · rw [show operand t = .identifier t.lexeme by simp [operand, kind]]
      exact .identifier kind
    · rw [show operand t = .number t.lexeme by simp [operand, kind]]
      exact .number kind
    · rw [show operand t = .address t.lexeme by simp [operand, kind]]
      exact .address kind

/-- A condition is read exactly from the tokens that spell it. -/
theorem exact_condition : Exact condition Condition.Spelled := by
  have steps : condition = do
      let left ← name .condition
      let compared ← expect comparisons .condition >>= comparison
      let right ← expect operands .condition
      return ⟨left, compared, operand right⟩ := by
    simp only [condition, bind_assoc]
  have right := exact_expect operands .condition (by decide) (by decide) (by decide)
  have signed := fun left : String => exact_sign.bind fun compared =>
    right.map fun t => (⟨left, compared, operand t⟩ : Condition)
  rw [steps]
  refine ((exact_name .condition).bind signed).congr ?_
  intro tokens c
  constructor
  · rintro ⟨left, first, later, ⟨t, rfl, word, rfl⟩, ⟨compared, second, third, ⟨sign, rfl, spelled⟩,
      ⟨t'', ⟨t', rfl, found, rfl⟩, rfl⟩, rfl⟩, rfl⟩
    exact .mk word spelled (operand_spelled_iff.2 ⟨found, rfl⟩)
  · rintro ⟨word, spelled, operand⟩
    obtain ⟨found, rfl⟩ := operand_spelled_iff.1 operand
    exact ⟨_, _, _, ⟨_, rfl, word, rfl⟩, ⟨_, _, _, ⟨_, rfl, spelled⟩, ⟨_, ⟨_, rfl, found, rfl⟩, rfl⟩, rfl⟩, rfl⟩

/-! ## Statements -/

/-- The tokens of a statement that begins with a given reserved word. -/
def SpelledAs (k : Keyword) (tokens : List Token) (s : Statement) : Prop :=
  s.Spelled tokens ∧ s.keyword = k

/-- The tokens of a statement begin with its keyword. -/
theorem opening_of_spelled {tokens : List Token} {s : Statement} (h : s.Spelled tokens) :
    ∃ opening more, tokens = opening :: more ∧ opening.kind = .keyword s.keyword := by
  cases h with
  | subject keyword _ => exact ⟨_, _, rfl, keyword⟩
  | test keyword _ => exact ⟨_, _, rfl, keyword⟩
  | publish keyword _ _ => exact ⟨_, _, rfl, keyword⟩

/-- Of the token that opens a statement only the kind matters. -/
theorem spelled_of_same_opening {opening other : Token} {more : List Token} {s : Statement}
    (h : s.Spelled (opening :: more)) (same : other.kind = opening.kind) : s.Spelled (other :: more) := by
  cases h with
  | subject keyword word => exact .subject (same.trans keyword) word
  | test keyword condition => exact .test (same.trans keyword) condition
  | publish keyword goal word => exact .publish (same.trans keyword) goal word

/-- A statement that names a subject is read exactly. -/
theorem exact_subject (role : Role) : Exact (subject role) (SpelledAs (.subject role)) := by
  have opening := exact_expect [.keyword (.subject role)] (.subject role) (by simp) (by simp) (by simp)
  refine (opening.bind fun _ => (exact_name (.subject role)).map (Statement.subject role)).congr ?_
  intro tokens s
  constructor
  · rintro ⟨_, first, later, ⟨t, rfl, found, -⟩, ⟨text, ⟨named, rfl, word, rfl⟩, rfl⟩, rfl⟩
    exact ⟨.subject (List.mem_singleton.1 found) word, rfl⟩
  · rintro ⟨spelled, same⟩
    cases spelled with
    | subject keyword word =>
      cases same
      exact ⟨_, _, _, ⟨_, rfl, List.mem_singleton.2 keyword, rfl⟩, ⟨_, ⟨_, rfl, word, rfl⟩, rfl⟩, rfl⟩
    | test _ _ => cases same
    | publish _ _ _ => cases same

/-- A statement with a condition is read exactly. -/
theorem exact_test (connective : Connective) : Exact (test connective) (SpelledAs (.test connective)) := by
  have opening := exact_expect [.keyword (.test connective)] (.test connective) (by simp) (by simp) (by simp)
  refine (opening.bind fun _ => exact_condition.map (Statement.test connective)).congr ?_
  intro tokens s
  constructor
  · rintro ⟨_, first, later, ⟨t, rfl, found, -⟩, ⟨c, spelled, rfl⟩, rfl⟩
    exact ⟨.test (List.mem_singleton.1 found) spelled, rfl⟩
  · rintro ⟨spelled, same⟩
    cases spelled with
    | test keyword condition =>
      cases same
      exact ⟨_, [_], _, ⟨_, rfl, List.mem_singleton.2 keyword, rfl⟩, ⟨_, condition, rfl⟩, rfl⟩
    | subject _ _ => cases same
    | publish _ _ _ => cases same

/-- A token names a target exactly when it is of the kind of one, and then only that. -/
theorem kind_eq_target_iff {t : Token} {goal : Target} :
    t.kind = .keyword (.target goal) ↔ t.kind ∈ targets ∧ goal = target t := by
  constructor
  · intro kind
    cases goal <;> simp [kind, targets, target]
  · rintro ⟨found, rfl⟩
    simp only [targets, List.mem_cons, List.not_mem_nil, or_false] at found
    rcases found with kind | kind <;> simp [kind, target]

/-- A statement that publishes is read exactly. -/
theorem exact_publish : Exact publish (SpelledAs .publish) := by
  have opening := exact_expect [.keyword .publish] .publish (by decide) (by decide) (by decide)
  have goal := exact_expect targets .publish (by decide) (by decide) (by decide)
  have aimed := fun _ : Token => goal.bind fun place =>
    (exact_name .publish).map fun channel => Statement.publish (target place) channel
  refine (opening.bind aimed).congr ?_
  intro tokens s
  constructor
  · rintro ⟨_, first, later, ⟨t, rfl, found, -⟩, ⟨place, second, third, ⟨place', rfl, listed, rfl⟩,
      ⟨text, ⟨channel, rfl, word, rfl⟩, rfl⟩, rfl⟩, rfl⟩
    exact ⟨.publish (List.mem_singleton.1 found) (kind_eq_target_iff.2 ⟨listed, rfl⟩) word, rfl⟩
  · rintro ⟨spelled, same⟩
    cases spelled with
    | publish keyword goal word =>
      obtain ⟨listed, rfl⟩ := kind_eq_target_iff.1 goal
      exact ⟨_, _, _, ⟨_, rfl, List.mem_singleton.2 keyword, rfl⟩,
        ⟨_, _, _, ⟨_, rfl, listed, rfl⟩, ⟨_, ⟨_, rfl, word, rfl⟩, rfl⟩, rfl⟩, rfl⟩
    | subject _ _ => cases same
    | test _ _ => cases same

/-- The next token leaves one form of statement open, or none. -/
theorem statement_cases (cursor : Cursor) :
    (∃ k form, cursor.head.kind = .keyword k ∧ Exact form (SpelledAs k) ∧ statement cursor = form cursor) ∨
      (cursor.head.kind.startsStatement = false ∧
        statement cursor = refuse .statement Kind.statementStarts cursor) := by
  unfold statement
  split
  · next role kind => exact Or.inl ⟨_, subject role, kind, exact_subject role, rfl⟩
  · next connective kind => exact Or.inl ⟨_, test connective, kind, exact_test connective, rfl⟩
  · next kind => exact Or.inl ⟨_, publish, kind, exact_publish, rfl⟩
  · next notSubject notTest notPublish =>
    refine Or.inr ⟨?_, rfl⟩
    unfold Kind.startsStatement
    split
    · next role kind => exact absurd kind (notSubject role)
    · next connective kind => exact absurd kind (notTest connective)
    · next kind => exact absurd kind notPublish
    · rfl

/-- A token with the keyword of an exact form begins a statement of this form. -/
theorem exists_spelledAs {k : Keyword} {form : Reader Statement} (exact : Exact form (SpelledAs k))
    {t : Token} (kind : t.kind = .keyword k) : ∃ more s, SpelledAs k (t :: more) s := by
  obtain ⟨tokens, s, spelled, keyword⟩ := exact.inhabited
  obtain ⟨opening, more, rfl, reserved⟩ := opening_of_spelled spelled
  rw [keyword] at reserved
  exact ⟨more, s, spelled_of_same_opening spelled (kind.trans reserved.symm), keyword⟩

/-- A statement can begin with just the kinds that are said to start one. -/
theorem startsStatement_iff {t : Token} :
    t.kind.startsStatement = true ↔ ∃ more s, Statement.Spelled (t :: more) s := by
  constructor
  · intro starts
    have opens : ∃ more s, ∃ k, SpelledAs k (t :: more) s := by
      unfold Kind.startsStatement at starts
      split at starts
      · next role kind =>
        obtain ⟨more, s, spelled⟩ := exists_spelledAs (exact_subject role) kind
        exact ⟨more, s, _, spelled⟩
      · next connective kind =>
        obtain ⟨more, s, spelled⟩ := exists_spelledAs (exact_test connective) kind
        exact ⟨more, s, _, spelled⟩
      · next kind =>
        obtain ⟨more, s, spelled⟩ := exists_spelledAs exact_publish kind
        exact ⟨more, s, _, spelled⟩
      · cases starts
    obtain ⟨more, s, k, spelled, -⟩ := opens
    exact ⟨more, s, spelled⟩
  · rintro ⟨more, s, spelled⟩
    obtain ⟨opening, more', same, kind⟩ := opening_of_spelled spelled
    obtain ⟨rfl, -⟩ := List.cons.inj same
    rw [kind]
    cases s <;> rfl

/-- The kinds listed for the beginning of a statement are those of the tokens that open one. -/
theorem mem_statementStarts_iff {k : Kind} :
    k ∈ Kind.statementStarts ↔ ∃ t more, t.kind = k ∧ Phrases Statement.Spelled (t :: more) := by
  rw [← Kind.startsStatement_iff_mem]
  constructor
  · intro starts
    obtain ⟨more, s, spelled⟩ := startsStatement_iff (t := ⟨k, "", 1, 1, ⟨0, 0⟩⟩).1 starts
    exact ⟨_, more, rfl, s, spelled⟩
  · rintro ⟨t, more, rfl, s, spelled⟩
    exact startsStatement_iff.2 ⟨more, s, spelled⟩

/-- A kind that does not start a statement is not on the list of those that do. -/
theorem not_mem_statementStarts {k : Kind} (no : k.startsStatement = false) : k ∉ Kind.statementStarts := by
  rw [← Kind.startsStatement_iff_mem, no]
  exact Bool.false_ne_true

/-- At a token that starts no statement nothing has been taken, and the kinds that start one are expected. -/
theorem blocked_before_statement {t : Token} (no : t.kind.startsStatement = false) :
    Blocked (Phrases Statement.Spelled) [] t Kind.statementStarts where
  viable := by
    obtain ⟨tokens, s, spelled, -⟩ := exact_publish.inhabited
    exact ⟨tokens, s, spelled⟩
  stuck := by
    rintro more ⟨s, spelled⟩
    rw [startsStatement_iff.2 ⟨more, s, spelled⟩] at no
    cases no
  lists := by
    intro k
    rw [mem_statementStarts_iff]
    constructor
    · rintro ⟨t, more, rfl, s, spelled⟩
      have starts := startsStatement_iff.2 ⟨more, s, spelled⟩
      refine Or.inr ⟨?_, t, more, rfl, s, spelled⟩
      intro ends
      rw [ends] at starts
      cases starts
    · rintro (⟨-, s, spelled⟩ | ⟨-, t, more, kind, phrase⟩)
      · obtain ⟨opening, more, same, -⟩ := opening_of_spelled spelled
        cases same
      · exact ⟨t, more, kind, phrase⟩
  distinct := by decide

/-- A form that was refused had its reserved word taken, so what blocks the form blocks every statement. -/
theorem Refusal.of_form {k : Keyword} {form : Reader Statement} {cursor rest : Cursor} {d : Diagnostic}
    {taken : List Token} {expected : List Kind} (exact : Exact form (SpelledAs k))
    (kind : cursor.head.kind = .keyword k)
    (refusal : Refusal (Phrases (SpelledAs k)) cursor d rest taken expected) :
    Refusal (Phrases Statement.Spelled) cursor d rest taken expected := by
  cases taken with
  | nil =>
    obtain ⟨more, s, spelled⟩ := exists_spelledAs exact kind
    exact absurd ⟨s, spelled⟩ (refusal.blocked.stuck more)
  | cons t ts =>
    obtain ⟨later, body⟩ := refusal.begins
    obtain ⟨-, rfl, -⟩ := Cursor.of_body_eq_cons body.symm
    refine { refusal with blocked := refusal.blocked.congr ?_ }
    intro more
    constructor
    · rintro ⟨s, spelled, -⟩
      exact ⟨s, spelled⟩
    · rintro ⟨s, spelled⟩
      obtain ⟨opening, more', same, reserved⟩ := opening_of_spelled spelled
      obtain ⟨rfl, -⟩ := List.cons.inj same
      exact ⟨s, spelled, Kind.keyword.inj (reserved.symm.trans kind)⟩

/-- A statement is read exactly: its keyword tells which of the exact forms goes on. -/
theorem exact_statement : Exact statement Statement.Spelled where
  proper := by
    intro tokens s spelled
    cases spelled with
    | subject keyword word => exact (exact_subject _).proper ⟨.subject keyword word, rfl⟩
    | test keyword condition => exact (exact_test _).proper ⟨.test keyword condition, rfl⟩
    | publish keyword goal word => exact exact_publish.proper ⟨.publish keyword goal word, rfl⟩
  inhabited := by
    obtain ⟨tokens, s, spelled, -⟩ := exact_publish.inhabited
    exact ⟨tokens, s, spelled⟩
  yields := by
    intro cursor s rest
    rcases statement_cases cursor with ⟨k, form, kind, exact, same⟩ | ⟨no, same⟩
    · rw [same, exact.yields]
      constructor
      · rintro ⟨taken, ⟨spelled, -⟩, begins, rfl⟩
        exact ⟨taken, spelled, begins, rfl⟩
      · rintro ⟨taken, spelled, ⟨more, body⟩, rfl⟩
        obtain ⟨opening, more', rfl, reserved⟩ := opening_of_spelled spelled
        obtain ⟨-, rfl, -⟩ := Cursor.of_body_eq_cons body.symm
        rw [kind] at reserved
        exact ⟨_, ⟨spelled, (Kind.keyword.inj reserved).symm⟩, ⟨more, body⟩, rfl⟩
    · rw [same]
      constructor
      · intro h
        cases h
      · rintro ⟨taken, spelled, ⟨more, body⟩, -⟩
        obtain ⟨opening, more', rfl, -⟩ := opening_of_spelled spelled
        obtain ⟨-, rfl, -⟩ := Cursor.of_body_eq_cons body.symm
        rw [startsStatement_iff.2 ⟨more', s, spelled⟩] at no
        cases no
  refuses := by
    intro cursor d rest h
    rcases statement_cases cursor with ⟨k, form, kind, exact, same⟩ | ⟨no, same⟩
    · rw [same] at h
      obtain ⟨taken, expected, refusal⟩ := exact.refuses h
      exact ⟨taken, expected, refusal.of_form exact kind⟩
    · rw [same] at h
      cases h
      exact ⟨[], _, List.nil_prefix, ⟨_, rfl⟩, blocked_before_statement no, Or.inl ⟨not_mem_statementStarts no, rfl⟩⟩

end Reader

end WatchLang
