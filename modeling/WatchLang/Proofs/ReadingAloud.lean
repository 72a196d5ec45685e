import Mathlib
import WatchLang.Aloud
import WatchLang.Proofs.RuleReading

/-!
# What is said when a rule is read aloud

A reading says the same events whatever was said before it, so it is known by its outcome and these events
(`Aloud.Says`). Reading one thing after another says the events of both, unless the first is refused. By the recursion
of the loop, statements say one event for each of them up to the refusal, and a rule adds one for its outcome. What is
said when a text is read aloud is therefore what the record of the reading lists, and reading aloud comes to what
reading comes to.
-/

set_option autoImplicit false

namespace WatchLang

/-- What reading statements yields, or what refused one of them. -/
def Reader.Progress.outcome (progress : Progress) : Except Diagnostic (List Statement × Cursor) :=
  match progress.refusal with
  | none => .ok (progress.statements, progress.rest)
  | some d => .error d

namespace Aloud

/-- A reading that comes to an outcome and says events on the way, whatever was said before. -/
def Says {α : Type} (reading : Aloud α) (outcome : Except Diagnostic α) (events : List Event) : Prop :=
  ∀ said, reading said =
    match outcome with
    | .ok a => .ok a (said ++ events)
    | .error diagnostic => .error diagnostic (said ++ events)

namespace Says

variable {α β : Type} {reading : Aloud α} {events : List Event}

/-- Yielding a value says nothing. -/
theorem pure (a : α) : Says (pure a) (.ok a) [] := by
  intro said
  rw [List.append_nil]
  rfl

/-- A refusal says nothing. -/
theorem throw (d : Diagnostic) : Says (throw d : Aloud α) (.error d) [] := by
  intro said
  rw [List.append_nil]
  rfl

/-- Saying an event says this event. -/
theorem say (e : Event) : Says (say e) (.ok ()) [e] := fun _ => rfl

/-- Going on with a result says nothing. -/
theorem ofExcept (result : Except Diagnostic α) : Says (MonadExcept.ofExcept result) result [] := by
  cases result with
  | ok a => exact .pure a
  | error d => exact .throw d

/-- Behind a reading that yields a value, both say their events. -/
theorem bind_ok {a : α} (first : Says reading (.ok a) events) {next : α → Aloud β} {result : Except Diagnostic β}
    {later : List Event} (second : Says (next a) result later) : Says (reading >>= next) result (events ++ later) := by
  intro said
  rw [← List.append_assoc, ← second]
  simp only [Bind.bind, EStateM.bind, first said]

/-- Behind a reading that is refused, nothing more is said. -/
theorem bind_error {d : Diagnostic} (first : Says reading (.error d) events) (next : α → Aloud β) :
    Says (reading >>= next) (.error d) events := by
  intro said
  simp only [Bind.bind, EStateM.bind, first said]

/-- Making something else of what was read says nothing. -/
theorem map {result : Except Diagnostic α} (h : Says reading result events) (f : α → β) :
    Says (do let a ← reading; return f a) (result.map f) events := by
  intro said
  simp only [Bind.bind, EStateM.bind, h said]
  cases result <;> rfl

/-- What was said stays said when it is observed how a reading came out. -/
theorem observed {result : Except Diagnostic α} (h : Says reading result events) :
    Says (observing reading) (.ok result) events := by
  intro said
  have first := h said
  cases result with
  | ok a | error d =>
    simp only [observing, tryCatch, tryCatchThe, MonadExceptOf.tryCatch, EStateM.tryCatch, Bind.bind, EStateM.bind,
      first]
    rfl

/-- What is heard of a reading is what it says. -/
theorem heard_eq {result : Except Diagnostic α} (h : Says reading result events) :
    reading.heard = (result, events) := by
  unfold heard
  rw [h []]
  cases result <;> rfl

end Says

/-- Tokenizing a text aloud says how many tokens there are. -/
theorem says_tokens_ok {text : String} {cut : List Token} (tokenized : tokenize text = .ok cut) :
    Says (tokens text) (.ok cut) [.tokenized cut.length] := by
  unfold tokens
  rw [tokenized]
  exact (Says.say _).bind_ok (.ofExcept _)

/-- Tokenizing a text aloud says why it is refused. -/
theorem says_tokens_error {text : String} {d : Diagnostic} (refused : tokenize text = .error d) :
    Says (tokens text) (.error d) [.notTokenized d] := by
  unfold tokens
  rw [refused]
  exact (Says.say _).bind_ok (.ofExcept _)

/-! ## Statements -/

/-- Where no statement starts, none is read aloud. -/
theorem statements_of_not_starts {cursor : Cursor} (no : cursor.head.kind.startsStatement = false) :
    statements cursor = pure ([], cursor) := by
  rw [statements, if_neg (by rw [no]; exact Bool.false_ne_true)]

/-- Where a statement is read, its keyword is said, and the next statements are read aloud. -/
theorem statements_of_ok {cursor rest : Cursor} {s : Statement} (starts : cursor.head.kind.startsStatement = true)
    (read : Reader.statement cursor = .ok s rest) :
    statements cursor = do
      say (.statementRead s.keyword)
      let (later, place) ← statements rest
      return (s :: later, place) := by
  rw [statements, if_pos starts]
  split
  · next s' rest' read' =>
    obtain ⟨rfl, rfl⟩ := Reader.ok_unique read read'
    rfl
  · next d rest' refused => cases read.symm.trans refused

/-- Where a statement is refused, nothing is said about it. -/
theorem statements_of_error {cursor rest : Cursor} {d : Diagnostic}
    (starts : cursor.head.kind.startsStatement = true) (refused : Reader.statement cursor = .error d rest) :
    statements cursor = throw d := by
  rw [statements, if_pos starts]
  split
  · next s rest' read => cases refused.symm.trans read
  · next d' rest' refused' =>
    cases refused.symm.trans refused'
    rfl

/-- Each statement that is read is said, those before a refusal too. -/
theorem says_statements (cursor : Cursor) :
    Says (statements cursor) (Reader.statements cursor).outcome
      ((Reader.statements cursor).statements.map (.statementRead ·.keyword)) := by
  -- the recursion of the loop, which reading aloud goes through in the same way
  fun_induction Reader.statements cursor with
  | case1 cursor starts s rest read later ih =>
    have more : { later with statements := s :: later.statements }.outcome =
        later.outcome.map fun behind => (s :: behind.1, behind.2) := by
      unfold Reader.Progress.outcome
      cases later.refusal <;> rfl
    rw [statements_of_ok starts read, more]
    exact (Says.say _).bind_ok (ih.map _)
  | case2 cursor starts d rest refused =>
    rw [statements_of_error starts refused]
    exact .throw d
  | case3 cursor no =>
    rw [Bool.not_eq_true] at no
    rw [statements_of_not_starts no]
    exact .pure _

/-! ## Rules -/

/-- Reading tokens as a program says its statements. -/
theorem says_program (tokens : List Token) :
    Says (program tokens) (Program.ofTokens tokens)
      ((Reader.statements (.ofList tokens)).statements.map (.statementRead ·.keyword)) := by
  have read := says_statements (.ofList tokens)
  unfold program Program.ofTokens Reader.onTokens
  cases progress : Reader.statements (.ofList tokens) with
  | mk ss refusal rest =>
    rw [progress] at read
    cases refusal with
    | some d =>
      have refused : Reader.program (.ofList tokens) = .error d rest := by
        rw [Reader.program, progress]
      rw [Reader.bind_of_error refused]
      exact read.bind_error _
    | none =>
      have accepted : Reader.program (.ofList tokens) = .ok ⟨ss⟩ rest := by
        rw [Reader.program, progress]
      rw [Reader.bind_of_ok accepted]
      rw [← List.append_nil (List.map _ _)]
      refine read.bind_ok ?_
      cases ends : Reader.finish .program Kind.statementStarts rest with
      | ok _ place =>
        rw [Reader.bind_of_ok ends]
        simp only [ends]
        exact .pure _
      | error d place =>
        rw [Reader.bind_of_error ends]
        simp only [ends]
        exact .throw d

/-- Reading a rule aloud says what its trace tells. -/
theorem says_rule (tokens : List Token) : Says (rule tokens) (Program.ofTokens tokens) (Trace.ofTokens tokens) :=
  (says_program tokens).observed.bind_ok ((Says.say _).bind_ok (.ofExcept _))

/-- What is said when a text is read aloud is what the record lists, and the outcome is that of reading it. -/
theorem says_ofText (text : String) : Says (ofText text) (Program.ofText text) (Trace.ofRule text) := by
  unfold ofText Program.ofText Trace.ofRule
  cases tokenized : tokenize text with
  | ok cut => exact (says_tokens_ok tokenized).bind_ok (says_rule cut)
  | error d => exact (says_tokens_error tokenized).bind_error _

end Aloud

end WatchLang
