import WatchLang.Proofs.Concatenation

/-!
# Conditions alone and in rules

A condition can be read by itself, with nothing behind it, or as what a test adds to a rule. Both are one reading, and
only what may follow differs. Behind the reserved word of a test the reader of conditions begins where it would begin
on the tokens alone (`Reader.statement_of_opening`), so a condition that is not complete is refused in the same way.
One that is complete spells a statement together with the reserved word, and the tokens behind a statement are read as
they would be alone (`Program.ofTokens_append`); so where a condition by itself is refused for a further token, a rule
goes on from that token.
-/

set_option autoImplicit false

namespace WatchLang

/-! ## Tests -/

section Opening

variable {opening : Token} {connective : Connective} (opens : opening.kind = .keyword (.test connective))

include opens

/-- Behind the reserved word of a test just a condition completes the test. -/
theorem Statement.spelled_test_iff {tokens : List Token} {c : Condition} :
    (Statement.test connective c).Spelled (opening :: tokens) ↔ c.Spelled tokens := by
  constructor
  · intro spelled
    cases spelled with
    | test _ condition => exact condition
  · exact .test opens

/-- A rule that consists of a test is spelled by the reserved word and a condition. -/
theorem Program.spelled_test_iff {tokens : List Token} {c : Condition} :
    Program.Spelled (opening :: tokens) ⟨[.test connective c]⟩ ↔ c.Spelled tokens := by
  rw [← Statement.spelled_test_iff opens]
  constructor
  · intro spelled
    generalize whole : opening :: tokens = all at spelled
    cases spelled with
    | cons head tail =>
      cases tail
      rwa [List.append_nil] at whole ⊢
  · intro spelled
    have alone := Statement.SpelledAll.cons spelled .nil
    rwa [List.append_nil] at alone

end Opening

namespace Reader

variable {cursor rest : Cursor} {connective : Connective} (opens : cursor.head.kind = .keyword (.test connective))

include opens

/-- Behind the reserved word of a test the condition is read. -/
theorem statement_of_opening :
    statement cursor = (do return .test connective (← condition) : Reader Statement) cursor.tail := by
  have taken : expect [.keyword (.test connective)] (.test connective) cursor = .ok cursor.head cursor.tail := by
    unfold expect
    rw [if_pos (List.mem_singleton.2 opens)]
  unfold statement
  rw [opens]
  exact bind_of_ok taken

/-- A rule is refused where its first test is. -/
theorem program_of_condition_error {d : Diagnostic} (refused : condition cursor.tail = .error d rest) :
    program cursor = .error d rest := by
  have inside : statement cursor = .error d rest := by
    rw [statement_of_opening opens]
    exact bind_of_error refused
  have starts : cursor.head.kind.startsStatement = true := by
    rw [opens]
    rfl
  unfold program
  rw [statements_of_error starts inside]

end Reader

/-! ## Conditions by themselves -/

/-- How a refusal of tokens as a condition by itself comes about, and what becomes of it when the tokens stand behind
the reserved word of a test. Either no condition is complete, and the rule is refused in the same way; or a condition
is complete and a further token follows, and the rule goes on from this token. -/
inductive Condition.RefusalInRule (tokens : List Token) (opening : Token) (connective : Connective)
    (d : Diagnostic) : Prop
  | incomplete {rest : Cursor} (refused : Reader.condition (.ofList tokens) = .error d rest)
      (lacking : ∀ taken c, Condition.Spelled taken c → ¬ taken <+: tokens)
      (rule : Program.ofTokens (opening :: tokens) = .error d)
  | followed {c : Condition} {rest : Cursor} {taken : List Token} {next : Token} {later : List Token}
      (read : Reader.condition (.ofList tokens) = .ok c rest) (spelled : c.Spelled taken)
      (split : tokens = taken ++ next :: later) (away : next.kind ≠ .endOfInput)
      (told : d = .unexpected .condition [.endOfInput] next)
      (rule : Program.ofTokens (opening :: tokens) =
        (Program.ofTokens (next :: later)).map fun p => ⟨.test connective c :: p.statements⟩)

section Alone

variable {tokens : List Token}

/-- Tokens that are refused as a condition before one is complete begin with none. -/
theorem Reader.not_prefix_of_condition_error {d : Diagnostic} {rest : Cursor}
    (refused : condition (.ofList tokens) = .error d rest) {taken : List Token} {c : Condition}
    (spelled : c.Spelled taken) : ¬ taken <+: tokens := by
  intro begins
  obtain ⟨extra, -, whole⟩ := Cursor.toList_ofList tokens
  have shown : taken <+: (Cursor.ofList tokens).toList := by
    rw [whole]
    exact begins.trans (List.prefix_append tokens extra)
  have inside := Cursor.prefix_body (exact_condition.proper spelled) shown
  exact exact_condition.not_prefix_of_refused refused spelled inside

/-- Where a condition is complete and the input does not end, the tokens are those of the condition and then others. -/
theorem Reader.exists_split_of_condition_ok {c : Condition} {rest : Cursor}
    (read : condition (.ofList tokens) = .ok c rest) (away : rest.atEnd = false) :
    ∃ taken later, c.Spelled taken ∧ tokens = taken ++ rest.head :: later := by
  obtain ⟨taken, spelled, begins, rfl⟩ := exact_condition.yields.1 read
  have other : ((Cursor.ofList tokens).skip taken.length).head.kind ≠ .endOfInput := by
    rw [ne_eq, ← Cursor.atEnd_iff, away]
    exact Bool.false_ne_true
  obtain ⟨later, body⟩ := Cursor.exists_body_eq_append begins other
  have shown : beforeEnd tokens <+: tokens := List.takeWhile_prefix _
  rw [← Cursor.body_ofList, body] at shown
  obtain ⟨more, whole⟩ := shown
  rw [List.append_assoc, List.cons_append] at whole
  exact ⟨taken, later ++ more, spelled, whole.symm⟩

variable {opening : Token} {connective : Connective} (opens : opening.kind = .keyword (.test connective))

include opens

/-- Behind a complete condition a rule goes on as it would alone. -/
theorem Program.ofTokens_test_append {taken : List Token} {c : Condition} (spelled : c.Spelled taken)
    {more : List Token} (nonempty : more ≠ []) :
    ofTokens (opening :: (taken ++ more)) = (ofTokens more).map fun p => ⟨.test connective c :: p.statements⟩ :=
  ofTokens_append ((Program.spelled_test_iff opens).2 spelled) nonempty

/-- Behind the reserved word of a test, tokens that are refused before a condition is complete are refused in the same
way. -/
theorem Program.ofTokens_of_condition_error (nonempty : tokens ≠ []) {d : Diagnostic} {rest : Cursor}
    (refused : Reader.condition (.ofList tokens) = .error d rest) : ofTokens (opening :: tokens) = .error d := by
  have away : opening.kind ≠ .endOfInput := by
    rw [opens]
    simp
  have head : (Cursor.ofList (opening :: tokens)).head = opening := by
    obtain ⟨extra, -, whole⟩ := Cursor.toList_ofList (opening :: tokens)
    exact Cursor.head_eq_of_toList whole
  rw [← Cursor.tail_ofList_cons away nonempty] at refused
  unfold ofTokens
  rw [Reader.onTokens_eq_error_iff]
  exact ⟨rest, Reader.bind_of_error (Reader.program_of_condition_error (by rw [head, opens]) refused)⟩

end Alone

/-- Tokens that end in the end of the input are a condition by themselves just when, behind the reserved word of a
test, they are the rule that consists of this test. Where they are refused as a condition, the rule is refused in the
same way if no condition was complete. If one was, and only a further token was refused, the rule has the test as its
first statement and is read on from this token, or refused there, as the tokens from it on would be alone. -/
theorem condition_reads_as_in_rule {tokens : List Token} (ended : tokens.getLast?.map Token.kind = some .endOfInput)
    {opening : Token} {connective : Connective} (opens : opening.kind = .keyword (.test connective)) :
    (∀ c, Condition.ofTokens tokens = .ok c ↔
      Program.ofTokens (opening :: tokens) = .ok ⟨[.test connective c]⟩) ∧
    ∀ d, Condition.ofTokens tokens = .error d → Condition.RefusalInRule tokens opening connective d := by
  constructor
  · intro c
    have away : opening.kind ≠ .endOfInput := by
      rw [opens]
      simp
    rw [Reader.exact_condition_ofTokens.yields, Reader.exact_program_ofTokens.yields, beforeEnd_cons away,
      Program.spelled_test_iff opens]
  · intro d refused
    have nonempty : tokens ≠ [] := by
      rintro rfl
      cases ended
    obtain ⟨rest, stopped⟩ := Reader.onTokens_eq_error_iff.1 refused
    rcases Reader.ended_eq_error stopped with inside | ⟨c, read, away, rfl⟩
    · exact .incomplete inside (fun taken c => Reader.not_prefix_of_condition_error inside)
        (Program.ofTokens_of_condition_error opens nonempty inside)
    · obtain ⟨taken, later, spelled, split⟩ := Reader.exists_split_of_condition_ok read away
      have other : rest.head.kind ≠ .endOfInput := by
        rw [ne_eq, ← Cursor.atEnd_iff, away]
        exact Bool.false_ne_true
      have rule := Program.ofTokens_test_append opens spelled (List.cons_ne_nil rest.head later)
      rw [← split] at rule
      exact .followed read spelled split other rfl rule

/-- A condition is the rule of its test; a name behind it is refused by the condition alone and, as no statement
begins with it, by the rule; and what lacks a comparison is refused in the same way by both. -/
theorem condition_reads_as_in_rule_before_misfit :
    ∃ condition followed lacking : List Token, ∃ opening : Token, ∃ d d' : Diagnostic,
      tokenize "a>1" = .ok condition ∧ tokenize "a>1 b" = .ok followed ∧ tokenize "a 5" = .ok lacking ∧
      condition.getLast?.map Token.kind = some .endOfInput ∧ followed.getLast?.map Token.kind = some .endOfInput ∧
      lacking.getLast?.map Token.kind = some .endOfInput ∧ opening.kind = .keyword (.test .or) ∧
      Condition.ofTokens condition = .ok ⟨"a", .greater, .number "1"⟩ ∧
      Program.ofTokens (opening :: condition) = .ok ⟨[.test .or ⟨"a", .greater, .number "1"⟩]⟩ ∧
      Condition.ofTokens followed = .error d ∧ Condition.RefusalInRule followed opening .or d ∧
      Condition.ofTokens lacking = .error d' ∧ Condition.RefusalInRule lacking opening .or d' := by
  let a : Token := .readAt ⟨0, 1, 1⟩ .word ['a']
  let sign : Token := .readAt ⟨1, 1, 2⟩ .symbol ['>']
  let one : Token := .readAt ⟨2, 1, 3⟩ .digits ['1']
  let b : Token := .readAt ⟨4, 1, 5⟩ .word ['b']
  let five : Token := .readAt ⟨2, 1, 3⟩ .digits ['5']
  let opening : Token := .readAt ⟨0, 1, 1⟩ (.keyword (.test .or)) "OR".toList
  have read : Condition.ofTokens [a, sign, one, .endAt ⟨3, 1, 4⟩] = .ok ⟨"a", .greater, .number "1"⟩ := by cbv
  have behind : Condition.ofTokens [a, sign, one, b, .endAt ⟨5, 1, 6⟩] =
      .error (.unexpected .condition [.endOfInput] b) := by cbv
  have unsigned : Condition.ofTokens [a, five, .endAt ⟨3, 1, 4⟩] =
      .error (.unexpected .condition Reader.comparisons five) := by cbv
  have opens : opening.kind = .keyword (.test .or) := rfl
  refine ⟨[a, sign, one, .endAt ⟨3, 1, 4⟩], [a, sign, one, b, .endAt ⟨5, 1, 6⟩], [a, five, .endAt ⟨3, 1, 4⟩], opening,
    _, _, by cbv, by cbv, by cbv, rfl, rfl, rfl, opens, read, ?_, behind, ?_, unsigned, ?_⟩
  · exact ((condition_reads_as_in_rule rfl opens).1 _).1 read
  · exact (condition_reads_as_in_rule rfl opens).2 _ behind
  · exact (condition_reads_as_in_rule rfl opens).2 _ unsigned

end WatchLang
