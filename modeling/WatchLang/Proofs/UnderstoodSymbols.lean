import WatchLang.Proofs.MatchedPrefixes
import WatchLang.Proofs.Standing

/-!
# Symbols of a text are understood

Reading expects a symbol by its kind and then looks the comparison up by its text, so tokens made by hand can be
refused for a symbol that stands for nothing, in words that contradict themselves: a symbol was expected and a symbol
was found. The tokens of a text are never refused like that, because scanning cuts off just the symbols that stand for
comparisons. That every symbol left to read is understood is kept by each call of a reader, since calls only take
tokens away, and while it holds each refusal finds a token of a kind that was not expected
(`Reader.Refusal.coherent`).
-/

set_option autoImplicit false

namespace WatchLang

/-- A refusal that lists the kind of what it found among the kinds that it expected. -/
def Diagnostic.IsContradictory (d : Diagnostic) : Prop :=
  ∃ phrase expected found lexeme, d.cause = .unexpected phrase expected found lexeme ∧ found ∈ expected

/-- A refusal of a token contradicts itself if the kind of the token is among those expected. -/
theorem Diagnostic.isContradictory_unexpected_iff {phrase : Phrase} {expected : List Kind} {t : Token} :
    (unexpected phrase expected t).IsContradictory ↔ t.kind ∈ expected := by
  constructor
  · rintro ⟨_, _, _, _, ⟨⟩, listed⟩
    exact listed
  · intro listed
    exact ⟨_, _, _, _, rfl, listed⟩

/-! ## Symbols that are understood -/

/-- A token that stands for a comparison if it is a symbol. -/
def Token.IsUnderstood (t : Token) : Prop :=
  t.kind = .symbol → ∃ c, Comparison.ofSymbol? t.lexeme = some c

/-- A token that is a lexeme of its kind is understood. -/
theorem Item.IsWritten.isUnderstood {t : Token} (written : t.item.IsWritten) : t.IsUnderstood := by
  intro symbol
  have lexeme : IsLexeme t.kind t.lexeme.toList := written
  rw [symbol] at lexeme
  generalize same : t.lexeme.toList = text at lexeme
  obtain ⟨listed⟩ := lexeme
  rw [String.toList_inj] at same
  rw [← same] at listed
  cases known : Comparison.ofSymbol? t.lexeme with
  | some c => exact ⟨c, rfl⟩
  | none => exact absurd listed (Comparison.not_mem_symbols known)

/-- Every symbol among the tokens of a text is understood. -/
theorem isUnderstood_of_tokenize {text : String} {tokens : List Token} (tokenized : tokenize text = .ok tokens) :
    ∀ t ∈ tokens, t.IsUnderstood := by
  obtain ⟨met, same, rfl⟩ := tokenize_eq_ok_iff.1 tokenized
  rw [List.forall_mem_append, List.forall_mem_singleton]
  refine ⟨fun t member => (isWritten_of_entries same t member).isUnderstood, ?_⟩
  intro symbol
  cases symbol

/-- A cursor with only tokens left that are understood. -/
def Cursor.Understood (cursor : Cursor) : Prop :=
  ∀ t ∈ cursor.toList, t.IsUnderstood

/-- A cursor made from understood tokens has only such tokens left. -/
theorem Cursor.understood_ofList {tokens : List Token} (h : ∀ t ∈ tokens, t.IsUnderstood) :
    (ofList tokens).Understood := by
  obtain ⟨extra, ends, whole⟩ := toList_ofList tokens
  unfold Understood
  rw [whole, List.forall_mem_append]
  refine ⟨h, fun e member symbol => ?_⟩
  rw [ends e member] at symbol
  cases symbol

/-- What is understood stays so when tokens are taken away. -/
theorem Cursor.Understood.of_suffix {cursor rest : Cursor} {taken : List Token} (understood : cursor.Understood)
    (split : cursor.toList = taken ++ rest.toList) : rest.Understood := by
  intro t member
  apply understood t
  rw [split]
  exact List.mem_append_right _ member

namespace Reader

/-- A token that compares and is understood is read as a comparison wherever it stands. -/
theorem comparison_eq_pure {t : Token} (understood : t.IsUnderstood) (found : t.kind ∈ comparisons) :
    ∃ c, comparison t = pure c := by
  simp only [comparisons, List.mem_cons, List.not_mem_nil, or_false] at found
  rcases found with symbol | contains
  · obtain ⟨c, known⟩ := understood symbol
    exact ⟨c, by simp only [comparison, symbol, known]⟩
  · exact ⟨.contains, by simp only [comparison, contains]⟩

/-- Of the tokens that compare only a symbol is refused, and as what was expected. -/
theorem comparison_eq_error {t : Token} (found : t.kind ∈ comparisons) {cursor rest : Cursor} {d : Diagnostic}
    (refused : comparison t cursor = .error d rest) : d = .unexpected .condition comparisons t := by
  rcases comparison_eq found cursor with ⟨c, -, -, read⟩ | ⟨-, -, -, told⟩
  · rw [read] at refused
    cases refused
  · rw [told] at refused
    cases refused
    rfl

/-! ## Refusals -/

/-- Where every symbol is understood, a refusal finds what it did not expect. -/
theorem Refusal.coherent {phrases : List Token → Prop} {cursor rest : Cursor} {d : Diagnostic} {taken : List Token}
    {expected : List Kind} (refusal : Refusal phrases cursor d rest taken expected) (understood : cursor.Understood) :
    ¬ d.IsContradictory := by
  obtain ⟨phrase, rfl⟩ := refusal.told
  rw [Diagnostic.isContradictory_unexpected_iff]
  intro found
  rcases refusal.left with ⟨missing, -⟩ | ⟨-, symbol, unknown, -⟩
  · exact missing found
  · have member := List.mem_of_getElem? (Cursor.getElem?_toList_of_le refusal.begins.length_le)
    obtain ⟨c, known⟩ := understood _ member symbol
    rw [unknown] at known
    cases known

/-- An exact reader does not contradict itself on understood tokens. -/
theorem Exact.coherent {α : Type} {reader : Reader α} {Spelled : List Token → α → Prop} (exact : Exact reader Spelled)
    {cursor rest : Cursor} {d : Diagnostic} (refused : reader cursor = .error d rest) (understood : cursor.Understood) :
    ¬ d.IsContradictory := by
  obtain ⟨taken, expected, refusal⟩ := exact.refuses refused
  exact refusal.coherent understood

/-- An exact reading of understood tokens does not contradict itself. -/
theorem ExactOnTokens.coherent {α : Type} {read : List Token → Except Diagnostic α} {Spelled : List Token → α → Prop}
    (exact : ExactOnTokens read Spelled) {tokens : List Token} (understood : ∀ t ∈ tokens, t.IsUnderstood)
    {d : Diagnostic} (refused : read tokens = .error d) : ¬ d.IsContradictory := by
  obtain ⟨rest, taken, expected, refusal⟩ := exact.refuses refused
  exact refusal.coherent (Cursor.understood_ofList understood)

/-- No refusal of a text contradicts itself. -/
theorem ExactOnTokens.coherent_of_tokenize {α : Type} {read : List Token → Except Diagnostic α}
    {Spelled : List Token → α → Prop} (exact : ExactOnTokens read Spelled) {text : String} {d : Diagnostic}
    (refused : (do read (← tokenize text)) = .error d) : ¬ d.IsContradictory := by
  cases tokenized : tokenize text with
  | ok tokens =>
    rw [tokenized] at refused
    exact exact.coherent (isUnderstood_of_tokenize tokenized) refused
  | error d' =>
    rw [tokenized] at refused
    cases refused
    obtain ⟨met, c, place, later, -, rfl⟩ := tokenize_eq_error tokenized
    rintro ⟨_, _, _, _, ⟨⟩, -⟩

/-- Reading a program from understood tokens does not lead to a contradiction. -/
theorem program_coherent {cursor rest : Cursor} {d : Diagnostic} (refused : program cursor = .error d rest)
    (understood : cursor.Understood) : ¬ d.IsContradictory := by
  obtain ⟨whole, ss, -, begins, -, inside⟩ := program_eq_error refused
  exact exact_statement.coherent inside (understood.of_suffix (Cursor.toList_eq_append begins))

end Reader

/-! ## Runs of calls -/

namespace Call

/-- Where every symbol is understood, a call is not refused in words that contradict themselves, unless it asked for the
end of the input and listed the kinds itself. -/
theorem coherent (call : Call) {cursor rest : Cursor} {d : Diagnostic} (refused : call.reader cursor = .error d rest)
    (understood : cursor.Understood) :
    ¬ d.IsContradictory ∨ ∃ phrase expected t, d = .unexpected phrase (expected ++ [.endOfInput]) t := by
  cases call with
  | program =>
    rcases Reader.bind_eq_error refused with refused | ⟨p, rest, -, ⟨⟩⟩
    exact Or.inl (Reader.program_coherent refused understood)
  | statement => exact Or.inl ((Reader.exact_statement.map Answer.statement).coherent refused understood)
  | subject role => exact Or.inl (((Reader.exact_subject role).map Answer.statement).coherent refused understood)
  | test connective => exact Or.inl (((Reader.exact_test connective).map Answer.statement).coherent refused understood)
  | publish => exact Or.inl ((Reader.exact_publish.map Answer.statement).coherent refused understood)
  | condition => exact Or.inl ((Reader.exact_condition.map Answer.condition).coherent refused understood)
  | finish phrase expected =>
    rcases Reader.bind_eq_error refused with refused | ⟨_, rest, -, ⟨⟩⟩
    unfold Reader.finish at refused
    split at refused
    · cases refused
    · cases refused
      exact Or.inr ⟨_, _, _, rfl⟩

/-- Where every symbol is understood, no call is refused as a symbol of unknown text is. -/
theorem ne_of_comparison_error (call : Call) {cursor : Cursor} {d : Diagnostic}
    (refused : (call.answer cursor).1 = .error d) (understood : cursor.Understood) {t : Token}
    (found : t.kind ∈ Reader.comparisons) (place rest : Cursor) : Reader.comparison t place ≠ .error d rest := by
  intro unknown
  cases Reader.comparison_eq_error found unknown
  unfold answer at refused
  split at refused
  · cases refused
  · next stopped =>
    cases refused
    rcases call.coherent stopped understood with coherent | ⟨phrase, expected, t', told⟩
    · exact coherent (Diagnostic.isContradictory_unexpected_iff.2 found)
    · -- the kinds that compare do not end in the end of the input
      have kinds := congrArg Diagnostic.cause told
      simp only [Diagnostic.unexpected, Cause.unexpected.injEq] at kinds
      have last := congrArg List.getLast? kinds.2.1
      rw [List.getLast?_concat] at last
      cases last

/-- A run of calls keeps every symbol understood. -/
theorem understood_answerAll {cursor : Cursor} (understood : cursor.Understood) (calls : List Call) :
    (answerAll cursor calls).2.Understood := by
  obtain ⟨taken, split, -⟩ := answerAll_removes cursor calls
  exact understood.of_suffix split

/-- In a run of calls no call is refused as a symbol of unknown text is, if every symbol is understood at the
beginning. -/
theorem ne_of_mem_answerAll {cursor : Cursor} (understood : cursor.Understood) (calls : List Call) {d : Diagnostic}
    (refused : .error d ∈ (answerAll cursor calls).1) {t : Token} (found : t.kind ∈ Reader.comparisons)
    (place rest : Cursor) : Reader.comparison t place ≠ .error d rest := by
  induction calls generalizing cursor with
  | nil => cases refused
  | cons call calls ih =>
    rcases List.mem_cons.1 refused with here | later
    · exact call.ne_of_comparison_error here.symm understood found place rest
    · obtain ⟨taken, split, -⟩ := call.answer_takes cursor
      exact ih (understood.of_suffix split) later

end Call

/-- Every symbol among the tokens of a text stands for a comparison. So in whatever state a reader of these tokens is
left by calls, refused ones included, each token left to read that compares is understood, and no call is ever refused
as a symbol of unknown text is; and a rule or a condition is never refused for a token of a kind that was expected. -/
theorem symbols_understood (text : String) :
    (∀ tokens, tokenize text = .ok tokens →
      (∀ t ∈ tokens, t.kind = .symbol → ∃ c, Comparison.ofSymbol? t.lexeme = some c) ∧
      ∀ calls,
        (∀ t ∈ Call.left tokens calls, t.kind ∈ Reader.comparisons → ∃ c, Reader.comparison t = pure c) ∧
        ∀ d, .error d ∈ (Call.answerAll (.ofList tokens) calls).1 →
          ∀ t place rest, t.kind ∈ Reader.comparisons → Reader.comparison t place ≠ .error d rest) ∧
    (∀ d, Program.ofText text = .error d → ¬ d.IsContradictory) ∧
    ∀ d, Condition.ofText text = .error d → ¬ d.IsContradictory := by
  refine ⟨?_, ?_, ?_⟩
  · intro tokens tokenized
    have understood := isUnderstood_of_tokenize tokenized
    have start := Cursor.understood_ofList understood
    refine ⟨understood, fun calls => ⟨?_, ?_⟩⟩
    · intro t member found
      exact Reader.comparison_eq_pure (Call.understood_answerAll start calls t member) found
    · intro d refused t place rest found
      exact Call.ne_of_mem_answerAll start calls refused found place rest
  · intro d refused
    exact Reader.exact_program_ofTokens.coherent_of_tokenize refused
  · intro d refused
    exact Reader.exact_condition_ofTokens.coherent_of_tokenize refused

/-- The second of two equals signs is left by a test that was refused for it, and is understood; the rule is refused
for it where only operands were expected. -/
theorem symbols_understood_behind_refusal :
    ∃ tokens sign d d', tokenize "WHERE a = = b" = .ok tokens ∧
      .error d ∈ (Call.answerAll (.ofList tokens) [.test .gate]).1 ∧ sign ∈ Call.left tokens [.test .gate] ∧
      sign.kind = .symbol ∧ (∃ c, Reader.comparison sign = pure c) ∧
      (∀ place rest, Reader.comparison sign place ≠ .error d rest) ∧
      Program.ofText "WHERE a = = b" = .error d' ∧ ¬ d'.IsContradictory := by
  let sign : Token := .readAt ⟨10, 1, 11⟩ .symbol ['=']
  obtain ⟨tokens, tokenized, refused, left⟩ : ∃ tokens, tokenize "WHERE a = = b" = .ok tokens ∧
      .error (.unexpected .condition Reader.operands sign) ∈ (Call.answerAll (.ofList tokens) [.test .gate]).1 ∧
      sign ∈ Call.left tokens [.test .gate] := by
    refine ⟨[.readAt ⟨0, 1, 1⟩ (.keyword (.test .gate)) "WHERE".toList, .readAt ⟨6, 1, 7⟩ .word ['a'],
      .readAt ⟨8, 1, 9⟩ .symbol ['='], sign, .readAt ⟨12, 1, 13⟩ .word ['b'], .endAt ⟨13, 1, 14⟩], by cbv, ?_, ?_⟩
    · exact List.mem_singleton.2 (by cbv)
    · exact List.mem_cons_self
  have whole : Program.ofText "WHERE a = = b" = .error (.unexpected .condition Reader.operands sign) := by cbv
  have understood := ((symbols_understood "WHERE a = = b").1 tokens tokenized).2 [.test .gate]
  have compares : sign.kind ∈ Reader.comparisons := List.mem_cons_self
  exact ⟨tokens, sign, _, _, tokenized, refused, left, rfl, understood.1 sign left compares,
    fun place rest => understood.2 _ refused sign place rest compares, whole, (symbols_understood _).2.1 _ whole⟩

end WatchLang
