import WatchLang.Proofs.PhraseReading

/-!
# Whole sequences are read exactly

Statements are read one after the other, so what reading them comes to follows statement by statement from the
exactness of one: it ends behind the longest run of statements, either at a token that starts none or inside the one
that was refused. A rule and a stand-alone condition are read exactly in turn, now for whole sequences of tokens, of
which only those before the first end of the input count.
-/

set_option autoImplicit false

namespace WatchLang

/-! ## Statements one after the other -/

namespace Statement.SpelledAll

/-- Tokens of some statements and then tokens of others spell all of these statements. -/
theorem append {first second : List Token} {ss ss' : List Statement} (h : SpelledAll first ss)
    (h' : SpelledAll second ss') : SpelledAll (first ++ second) (ss ++ ss') := by
  induction h with
  | nil => exact h'
  | cons head _ ih =>
    rw [List.append_assoc]
    exact .cons head ih

/-- No token of statements is an end of the input. -/
theorem proper {tokens : List Token} {ss : List Statement} (h : SpelledAll tokens ss) :
    ∀ t ∈ tokens, t.kind ≠ .endOfInput := by
  induction h with
  | nil =>
    intro t member
    cases member
  | cons head _ ih =>
    intro t member
    rcases List.mem_append.1 member with here | later
    · exact Reader.exact_statement.proper head t here
    · exact ih t later

/-- Tokens of statements begin with those of a first statement. -/
theorem exists_first {t : Token} {tokens : List Token} {ss : List Statement} (h : SpelledAll (t :: tokens) ss) :
    ∃ (first later : List Token) (s : Statement) (ss' : List Statement),
      t :: tokens = first ++ later ∧ s.Spelled first ∧ SpelledAll later ss' := by
  generalize whole : t :: tokens = all at h
  cases h with
  | nil => cases whole
  | cons head tail => exact ⟨_, _, _, _, rfl, head, tail⟩

/-- Behind statements just statements complete statements. -/
theorem append_iff {first : List Token} {ss : List Statement} (h : SpelledAll first ss) (more : List Token) :
    Reader.Phrases SpelledAll (first ++ more) ↔ Reader.Phrases SpelledAll more := by
  constructor
  · intro whole
    induction h with
    | nil => exact whole
    | @cons head later s ss' spelled _ ih =>
      apply ih
      obtain ⟨all, whole⟩ := whole
      obtain ⟨opening, after, rfl, -⟩ := Reader.opening_of_spelled spelled
      obtain ⟨head', later', s', ss'', same, spelled', tail⟩ := exists_first whole
      have same : (opening :: after) ++ (later ++ more) = head' ++ later' := by simpa using same
      obtain ⟨rfl, -⟩ := Reader.exact_statement.unique spelled spelled' same
      rw [List.append_cancel_left same]
      exact ⟨ss'', tail⟩
  · rintro ⟨ss', tail⟩
    exact ⟨ss ++ ss', h.append tail⟩

end Statement.SpelledAll

namespace Reader

/-! ## The loop -/

/-- Where no statement starts, none is read. -/
theorem statements_of_not_starts {cursor : Cursor} (no : cursor.head.kind.startsStatement = false) :
    statements cursor = ⟨[], none, cursor⟩ := by
  rw [statements, if_neg (by rw [no]; exact Bool.false_ne_true)]

/-- Where a statement is read, it comes before those that are read behind it. -/
theorem statements_of_ok {cursor rest : Cursor} {s : Statement}
    (starts : cursor.head.kind.startsStatement = true) (h : statement cursor = .ok s rest) :
    statements cursor = { statements rest with statements := s :: (statements rest).statements } := by
  rw [statements, if_pos starts]
  split
  · next first rest' h' =>
    obtain ⟨rfl, rfl⟩ := ok_unique h h'
    rfl
  · next d rest' h' =>
    rw [h] at h'
    cases h'

/-- Where a statement is refused, reading statements stops with this refusal. -/
theorem statements_of_error {cursor rest : Cursor} {d : Diagnostic}
    (starts : cursor.head.kind.startsStatement = true) (h : statement cursor = .error d rest) :
    statements cursor = ⟨[], some d, rest⟩ := by
  rw [statements, if_pos starts]
  split
  · next first rest' h' =>
    rw [h] at h'
    cases h'
  · next d' rest' h' =>
    rw [h] at h'
    cases h'
    rfl

/-- Statements that come next are read, and reading goes on behind them. -/
theorem statements_of_spelled {taken : List Token} {ss : List Statement} (h : Statement.SpelledAll taken ss)
    {cursor : Cursor} (begins : taken <+: cursor.body) :
    statements cursor =
      { statements (cursor.skip taken.length) with
        statements := ss ++ (statements (cursor.skip taken.length)).statements } := by
  -- on the derivation; the cursor moves on with it
  induction h generalizing cursor with
  | nil => rfl
  | @cons first later s ss' spelled _ ih =>
    obtain ⟨here, there⟩ := Cursor.append_prefix_body_iff.1 begins
    have read := exact_statement.yields.2 ⟨first, spelled, here, rfl⟩
    have starts : cursor.head.kind.startsStatement = true := by
      obtain ⟨opening, after, rfl, -⟩ := opening_of_spelled spelled
      obtain ⟨more, body⟩ := here
      obtain ⟨-, rfl, -⟩ := Cursor.of_body_eq_cons body.symm
      exact startsStatement_iff.2 ⟨after, s, spelled⟩
    rw [statements_of_ok starts read, ih there, Cursor.skip_append]
    rfl

/-- How reading statements ends at a cursor: before a token that starts none, or with the refusal of one. -/
def EndsAt (place : Cursor) (progress : Progress) : Prop :=
  match progress.refusal with
  | none => place.head.kind.startsStatement = false ∧ progress.rest = place
  | some d => place.head.kind.startsStatement = true ∧ statement place = .error d progress.rest

/-- Reading statements comes to the statements that stand next, and ends behind them. -/
theorem statements_reads (cursor : Cursor) :
    ∃ taken, Statement.SpelledAll taken (statements cursor).statements ∧ taken <+: cursor.body ∧
      EndsAt (cursor.skip taken.length) (statements cursor) := by
  -- the recursion of the loop; what is taken grows by one statement at each round
  fun_induction statements cursor with
  | case1 cursor starts s rest h later ih =>
    obtain ⟨first, spelled, begins, rfl⟩ := exact_statement.yields.1 h
    obtain ⟨taken, spelledAll, begins', ends⟩ := ih
    refine ⟨first ++ taken, .cons spelled spelledAll, Cursor.append_prefix_body_iff.2 ⟨begins, begins'⟩, ?_⟩
    rw [Cursor.skip_append]
    exact ends
  | case2 cursor starts d rest h => exact ⟨[], .nil, List.nil_prefix, starts, h⟩
  | case3 cursor no =>
    rw [Bool.not_eq_true] at no
    exact ⟨[], .nil, List.nil_prefix, no, rfl⟩

/-! ## Whole sequences of tokens -/

/-- A way to read whole sequences that yields just the values that the tokens before the end of the input spell, and
refuses others as early as can be. -/
structure ExactOnTokens {α : Type} (read : List Token → Except Diagnostic α)
    (Spelled : List Token → α → Prop) : Prop where
  proper : ∀ {tokens a}, Spelled tokens a → ∀ t ∈ tokens, t.kind ≠ .endOfInput
  yields : ∀ {tokens a}, read tokens = .ok a ↔ Spelled (beforeEnd tokens) a
  refuses : ∀ {tokens d}, read tokens = .error d →
    ∃ rest taken expected, Refusal (Phrases Spelled) (.ofList tokens) d rest taken expected

/-- Tokens that are ended are read as what the tokens before the end spell. -/
theorem ExactOnTokens.ended_eq_ok_iff {α : Type} {read : List Token → Except Diagnostic α}
    {Spelled : List Token → α → Prop} (exact : ExactOnTokens read Spelled) {tokens : List Token}
    (proper : ∀ t ∈ tokens, t.kind ≠ .endOfInput) {e : Token} (ends : e.kind = .endOfInput) {a : α} :
    read (tokens ++ [e]) = .ok a ↔ Spelled tokens a := by
  rw [exact.yields, beforeEnd_ended proper ends]

/-- Tokens are read as a value if a cursor made from them is. -/
theorem onTokens_eq_ok_iff {α : Type} {reader : Reader α} {tokens : List Token} {a : α} :
    onTokens reader tokens = .ok a ↔ ∃ rest, reader (.ofList tokens) = .ok a rest := by
  unfold onTokens
  split
  · next a' rest h => simp [h]
  · next d rest h => simp [h]

/-- Tokens are refused if a cursor made from them is. -/
theorem onTokens_eq_error_iff {α : Type} {reader : Reader α} {tokens : List Token} {d : Diagnostic} :
    onTokens reader tokens = .error d ↔ ∃ rest, reader (.ofList tokens) = .error d rest := by
  unfold onTokens
  split
  · next a' rest h => simp [h]
  · next d' rest h => simp [h]

/-- Reading something with nothing behind it: it is read, and then the input ends. -/
theorem ended_eq_ok_iff {α : Type} {reader : Reader α} {phrase : Phrase} {expected : List Kind}
    {cursor rest : Cursor} {a : α} :
    (do let a ← reader; finish phrase expected; return a : Reader α) cursor = .ok a rest ↔
      reader cursor = .ok a rest ∧ rest.atEnd = true := by
  constructor
  · intro h
    obtain ⟨a', middle, read, h⟩ := bind_eq_ok h
    obtain ⟨_, middle', finished, h⟩ := bind_eq_ok h
    unfold finish at finished
    split at finished
    · next ends =>
      cases finished
      cases h
      exact ⟨read, ends⟩
    · cases finished
  · rintro ⟨read, ends⟩
    have finished : finish phrase expected rest = .ok () rest := by
      unfold finish
      rw [if_pos ends]
    rw [bind_of_ok read, bind_of_ok finished]
    rfl

/-- What is refused with nothing allowed behind it is refused itself, or is read and has something behind it. -/
theorem ended_eq_error {α : Type} {reader : Reader α} {phrase : Phrase} {expected : List Kind}
    {cursor rest : Cursor} {d : Diagnostic}
    (h : (do let a ← reader; finish phrase expected; return a : Reader α) cursor = .error d rest) :
    reader cursor = .error d rest ∨
      ∃ a, reader cursor = .ok a rest ∧ rest.atEnd = false ∧
        d = .unexpected phrase (expected ++ [.endOfInput]) rest.head := by
  rcases bind_eq_error h with refused | ⟨a, middle, read, h⟩
  · exact Or.inl refused
  · refine Or.inr ⟨a, ?_⟩
    rcases bind_eq_error h with refused | ⟨_, middle', _, h⟩
    · unfold finish at refused
      split at refused
      · cases refused
      · next away =>
        rw [Bool.not_eq_true] at away
        cases refused
        exact ⟨read, away, rfl⟩
    · cases h

/-- Something left where the input had to end is of none of the expected kinds, if it is of none of those listed
before. -/
theorem leftAt_ended {cursor : Cursor} {kinds : List Kind} (away : cursor.atEnd = false)
    (missing : cursor.head.kind ∉ kinds) : LeftAt cursor (kinds ++ [.endOfInput]) cursor := by
  refine Or.inl ⟨?_, rfl⟩
  rw [List.mem_append, List.mem_singleton, not_or]
  refine ⟨missing, fun ends => ?_⟩
  rw [Cursor.atEnd_iff.2 ends] at away
  cases away

/-- Tokens are read as a condition exactly if they spell it. -/
theorem exact_condition_ofTokens : ExactOnTokens Condition.ofTokens Condition.Spelled where
  proper := exact_condition.proper
  yields := by
    intro tokens c
    unfold Condition.ofTokens
    rw [onTokens_eq_ok_iff]
    constructor
    · rintro ⟨rest, h⟩
      obtain ⟨read, ends⟩ := ended_eq_ok_iff.1 h
      obtain ⟨taken, spelled, begins, rfl⟩ := exact_condition.yields.1 read
      have whole := (Cursor.atEnd_skip_iff begins).1 ends
      rwa [whole, Cursor.body_ofList] at spelled
    · intro spelled
      rw [← Cursor.body_ofList] at spelled
      have read := exact_condition.yields.2 ⟨_, spelled, List.prefix_rfl, rfl⟩
      exact ⟨_, ended_eq_ok_iff.2 ⟨read, (Cursor.atEnd_skip_iff List.prefix_rfl).2 rfl⟩⟩
  refuses := by
    intro tokens d h
    unfold Condition.ofTokens at h
    obtain ⟨rest, h⟩ := onTokens_eq_error_iff.1 h
    rcases ended_eq_error h with refused | ⟨c, read, away, rfl⟩
    · exact ⟨rest, exact_condition.refuses refused⟩
    · obtain ⟨taken, spelled, begins, rfl⟩ := exact_condition.yields.1 read
      have left := leftAt_ended away List.not_mem_nil
      exact ⟨_, taken, _, begins, ⟨_, rfl⟩, exact_condition.blocked_behind spelled _, left⟩

/-! ## Rules -/

/-- A rule is read up to a token that starts no statement. -/
theorem program_eq_ok_iff {cursor rest : Cursor} {p : Program} :
    program cursor = .ok p rest ↔
      ∃ taken, p.Spelled taken ∧ taken <+: cursor.body ∧ rest = cursor.skip taken.length ∧
        rest.head.kind.startsStatement = false := by
  constructor
  · intro h
    obtain ⟨taken, spelled, begins, ends⟩ := statements_reads cursor
    unfold program at h
    split at h
    · next ss rest' progress =>
      cases h
      rw [progress] at spelled ends
      obtain ⟨no, place⟩ := ends
      cases place
      exact ⟨taken, spelled, begins, rfl, no⟩
    · cases h
  · rintro ⟨taken, spelled, begins, rfl, no⟩
    unfold program
    rw [statements_of_spelled spelled begins, statements_of_not_starts no, List.append_nil]

/-- A rule is refused inside the first statement that is not read. -/
theorem program_eq_error {cursor rest : Cursor} {d : Diagnostic} (h : program cursor = .error d rest) :
    ∃ taken ss, Statement.SpelledAll taken ss ∧ taken <+: cursor.body ∧
      (cursor.skip taken.length).head.kind.startsStatement = true ∧
      statement (cursor.skip taken.length) = .error d rest := by
  obtain ⟨taken, spelled, begins, ends⟩ := statements_reads cursor
  unfold program at h
  split at h
  · cases h
  · next ss d' rest' progress =>
    cases h
    rw [progress] at spelled ends
    exact ⟨taken, ss, spelled, begins, ends⟩

/-- What blocks a statement that has begun blocks the statements that it would be the first of. -/
theorem Blocked.statements {taken : List Token} {next : Token} {expected : List Kind}
    (blocked : Blocked (Phrases Statement.Spelled) taken next expected) (begun : taken ≠ [])
    (late : ∀ first s, Statement.Spelled first s → ¬ first <+: taken) :
    Blocked (Phrases Statement.SpelledAll) taken next expected := by
  refine blocked.followed ?_ ?_ ?_
  · rintro ⟨s, spelled⟩
    exact late taken s spelled List.prefix_rfl
  · rintro tokens ⟨s, spelled⟩
    refine ⟨[], [s], ?_⟩
    exact .cons spelled .nil
  · rintro tokens ⟨ss, spelled⟩
    obtain ⟨t, ts, rfl⟩ := List.exists_cons_of_ne_nil begun
    obtain ⟨first, later, s, ss', same, head, -⟩ := spelled.exists_first
    obtain ⟨t', more, rfl, rfl⟩ := exists_of_not_prefix same (late first s head)
    exact ⟨t', more, later, rfl, s, head⟩

/-- Where no statement begins, only a statement or the end of the input could have come. -/
theorem blocked_between_statements {next : Token} (no : next.kind.startsStatement = false) :
    Blocked (Phrases Statement.SpelledAll) [] next (Kind.statementStarts ++ [.endOfInput]) where
  viable := ⟨[], [], .nil⟩
  stuck := by
    rintro more ⟨ss, spelled⟩
    obtain ⟨first, later, s, ss', same, head, -⟩ := Statement.SpelledAll.exists_first spelled
    obtain ⟨opening, after, rfl, -⟩ := opening_of_spelled head
    obtain ⟨rfl, -⟩ := List.cons.inj same
    rw [startsStatement_iff.2 ⟨after, s, head⟩] at no
    cases no
  lists := by
    intro k
    rw [List.mem_append, List.mem_singleton, mem_statementStarts_iff]
    constructor
    · rintro (⟨t, more, rfl, s, spelled⟩ | ends)
      · refine Or.inr ⟨exact_statement.proper spelled t List.mem_cons_self, t, more, rfl, [s], ?_⟩
        have alone := Statement.SpelledAll.cons spelled .nil
        rwa [List.append_nil] at alone
      · exact Or.inl ⟨ends, [], .nil⟩
    · rintro (⟨ends, -⟩ | ⟨-, t, more, kind, ss, spelled⟩)
      · exact Or.inr ends
      · obtain ⟨first, later, s, ss', same, head, -⟩ := Statement.SpelledAll.exists_first spelled
        obtain ⟨opening, after, rfl, -⟩ := opening_of_spelled head
        obtain ⟨rfl, -⟩ := List.cons.inj same
        exact Or.inl ⟨_, after, kind, s, head⟩
  distinct := by decide

/-- Behind the tokens of some statements, a program goes on with those of further statements. -/
theorem phrases_program_append_iff {taken : List Token} {ss : List Statement}
    (spelled : Statement.SpelledAll taken ss) (more : List Token) :
    Phrases Program.Spelled (taken ++ more) ↔ Phrases Statement.SpelledAll more := by
  rw [← spelled.append_iff]
  constructor
  · rintro ⟨p, all⟩
    exact ⟨p.statements, all⟩
  · rintro ⟨ss, all⟩
    exact ⟨⟨ss⟩, all⟩

/-- Tokens are read as a program exactly if they spell it. -/
theorem exact_program_ofTokens : ExactOnTokens Program.ofTokens Program.Spelled where
  proper := Statement.SpelledAll.proper
  yields := by
    intro tokens p
    unfold Program.ofTokens
    rw [onTokens_eq_ok_iff]
    constructor
    · rintro ⟨rest, h⟩
      obtain ⟨read, ends⟩ := ended_eq_ok_iff.1 h
      obtain ⟨taken, spelled, begins, rfl, -⟩ := program_eq_ok_iff.1 read
      have whole := (Cursor.atEnd_skip_iff begins).1 ends
      rwa [whole, Cursor.body_ofList] at spelled
    · intro spelled
      rw [← Cursor.body_ofList] at spelled
      have ends := (Cursor.atEnd_skip_iff (c := .ofList tokens) List.prefix_rfl).2 rfl
      have no : ((Cursor.ofList tokens).skip (Cursor.ofList tokens).body.length).head.kind.startsStatement =
          false := by
        rw [Cursor.atEnd_iff.1 ends]
        rfl
      have read := program_eq_ok_iff.2 ⟨_, spelled, List.prefix_rfl, rfl, no⟩
      exact ⟨_, ended_eq_ok_iff.2 ⟨read, ends⟩⟩
  refuses := by
    intro tokens d h
    unfold Program.ofTokens at h
    obtain ⟨rest, h⟩ := onTokens_eq_error_iff.1 h
    rcases ended_eq_error h with refused | ⟨p, read, away, rfl⟩
    · obtain ⟨taken, ss, spelled, begins, starts, refused⟩ := program_eq_error refused
      obtain ⟨more, expected, refusal⟩ := exact_statement.refuses refused
      -- the statement had begun, since its first token starts one, and was not complete
      have late : ∀ first s, Statement.Spelled first s → ¬ first <+: more := fun first s spelled' begins' =>
        exact_statement.not_prefix_of_refused refused spelled' (begins'.trans refusal.begins)
      have begun : more ≠ [] := by
        rintro rfl
        obtain ⟨after, s, opened⟩ := startsStatement_iff.1 starts
        exact refusal.blocked.stuck after ⟨s, opened⟩
      have blocked := refusal.blocked.statements begun late
      have inside : Refusal (Phrases Statement.SpelledAll) _ _ _ more expected := { refusal with blocked }
      exact ⟨rest, _, expected, inside.behind begins (phrases_program_append_iff spelled)⟩
    · obtain ⟨taken, spelled, begins, rfl, no⟩ := program_eq_ok_iff.1 read
      have between : Refusal (Phrases Statement.SpelledAll) ((Cursor.ofList tokens).skip taken.length) _ _ [] _ :=
        ⟨List.nil_prefix, ⟨.program, rfl⟩, blocked_between_statements no,
          leftAt_ended away (not_mem_statementStarts no)⟩
      exact ⟨_, _, _, between.behind begins (phrases_program_append_iff spelled)⟩

end Reader

end WatchLang
