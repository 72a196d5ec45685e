import Mathlib
import WatchLang.Proofs.MatchedPrefixes

/-!
# Cut rules

What is left of a rule whose tokens are cut off at some point. No token within a statement is of a kind that starts
one, so the tokens of such kinds are those that the statements begin with, one for each
(`Statement.SpelledAll.map_kind_starters`), and a cut before one of them, or behind all tokens, is a cut between
statements: what stands before it is a rule of its own, made of the statements before the cut. A cut anywhere else
leaves the beginning of a phrase that is not all of it. No token of it is out of place, so it is refused for the end
of the input and for nothing before that (`Reader.ExactOnTokens.refused_at_end`).
-/

set_option autoImplicit false

namespace WatchLang

/-! ## Tokens that start statements -/

/-- A token that spells a comparison starts no statement. -/
theorem Comparison.Spelled.starts_eq_false {t : Token} {c : Comparison} (h : Comparison.Spelled t c) :
    t.kind.startsStatement = false := by
  cases h with
  | symbol kind _ | contains kind =>
    rw [kind]
    rfl

/-- A token that spells an operand starts no statement. -/
theorem Operand.Spelled.starts_eq_false {t : Token} {o : Operand} (h : Operand.Spelled t o) :
    t.kind.startsStatement = false := by
  cases h with
  | identifier kind | number kind | address kind =>
    rw [kind]
    rfl

/-- The tokens of kinds that start statements. -/
def starters (tokens : List Token) : List Token :=
  tokens.filter fun t => t.kind.startsStatement

/-- Where no token starts a statement, there are no starters. -/
theorem starters_eq_nil {tokens : List Token} (none : ∀ t ∈ tokens, t.kind.startsStatement = false) :
    starters tokens = [] := by
  refine List.filter_eq_nil_iff.2 fun t member => ?_
  rw [none t member]
  exact Bool.false_ne_true

/-- The starters of some tokens come before those of the tokens behind them. -/
theorem starters_append (first second : List Token) : starters (first ++ second) = starters first ++ starters second :=
  List.filter_append _ _

/-- No token of a condition starts a statement. -/
theorem Condition.Spelled.starts_eq_false {tokens : List Token} {c : Condition} (h : c.Spelled tokens) :
    ∀ t ∈ tokens, t.kind.startsStatement = false := by
  obtain ⟨word, comparison, operand⟩ := h
  have left : Kind.startsStatement .word = false := rfl
  simp only [List.forall_mem_cons, word, left, comparison.starts_eq_false, operand.starts_eq_false, true_and]
  exact fun t member => absurd member List.not_mem_nil

/-- Within a statement no token starts another one. -/
theorem Statement.Spelled.starts_eq_false_of_mem {opening : Token} {later : List Token} {s : Statement}
    (h : s.Spelled (opening :: later)) : ∀ t ∈ later, t.kind.startsStatement = false := by
  cases h with
  | subject _ word => simp [word, Kind.startsStatement]
  | test _ condition => exact condition.starts_eq_false
  | publish _ goal word => simp [goal, word, Kind.startsStatement]

/-- The only starter among the tokens of a statement is its keyword. -/
theorem Statement.Spelled.map_kind_starters {tokens : List Token} {s : Statement} (h : s.Spelled tokens) :
    (starters tokens).map Token.kind = [.keyword s.keyword] := by
  obtain ⟨opening, later, rfl, kind⟩ := Reader.opening_of_spelled h
  have starts : opening.kind.startsStatement = true := Reader.startsStatement_iff.2 ⟨later, s, h⟩
  have first : starters (opening :: later) = opening :: starters later :=
    List.filter_cons_of_pos starts
  rw [first, starters_eq_nil h.starts_eq_false_of_mem, List.map_singleton, kind]

/-- The tokens that start statements are of the kinds that the statements begin with, one for each. -/
theorem Statement.SpelledAll.map_kind_starters {tokens : List Token} {ss : List Statement} (h : SpelledAll tokens ss) :
    (starters tokens).map Token.kind = ss.map fun s => .keyword s.keyword := by
  induction h with
  | nil => rfl
  | cons head _ ih =>
    rw [starters_append, List.map_append, head.map_kind_starters, ih, List.map_cons, List.singleton_append]

/-- Statements have one starter each. -/
theorem Statement.SpelledAll.length_starters {tokens : List Token} {ss : List Statement} (h : SpelledAll tokens ss) :
    (starters tokens).length = ss.length := by
  have lengths := congrArg List.length h.map_kind_starters
  rwa [List.length_map, List.length_map] at lengths

/-- The tokens of statements, counted by the forms of the statements. -/
theorem Statement.sum_size (ss : List Statement) :
    (ss.map size).sum =
      2 * ss.countP (· matches .subject ..) + 3 * ss.countP (· matches .publish ..) +
        4 * ss.countP (· matches .test ..) := by
  induction ss with
  | nil => rfl
  | cons s ss ih =>
    rw [List.map_cons, List.sum_cons, ih]
    cases s <;> simp [size] <;> omega

/-! ## Cuts between statements -/

/-- Whether a cut before a number of tokens is between statements: all tokens are before it, or the first one behind it
starts a statement. -/
def CutsBetween (tokens : List Token) (cut : Nat) : Prop :=
  cut = tokens.length ∨ ∃ t, tokens[cut]? = some t ∧ t.kind.startsStatement = true

/-- Before a cut between statements stand the tokens of some statements. -/
theorem Statement.SpelledAll.exists_take {tokens : List Token} {ss : List Statement} (h : SpelledAll tokens ss)
    {cut : Nat} (between : CutsBetween tokens cut) : ∃ n, SpelledAll (tokens.take cut) (ss.take n) := by
  -- on the derivation; a cut behind the first statement is one in the tokens of the others
  induction h generalizing cut with
  | nil => exact ⟨0, by rw [List.take_nil]; exact .nil⟩
  | @cons first later s ss head tail ih =>
    by_cases behind : first.length ≤ cut
    · obtain ⟨further, rfl⟩ := Nat.exists_eq_add_of_le behind
      have between' : CutsBetween later further := by
        rcases between with all | ⟨t, there, starts⟩
        · rw [List.length_append, Nat.add_left_cancel_iff] at all
          exact Or.inl all
        · rw [List.getElem?_append_right (Nat.le_add_right _ _), Nat.add_sub_cancel_left] at there
          exact Or.inr ⟨t, there, starts⟩
      obtain ⟨n, spelled⟩ := ih between'
      refine ⟨n + 1, ?_⟩
      rw [List.take_length_add_append, List.take_succ_cons]
      exact .cons head spelled
    · obtain ⟨opening, inner, rfl, -⟩ := Reader.opening_of_spelled head
      rcases between with all | ⟨t, there, starts⟩
      · rw [List.length_append] at all
        omega
      · -- a token that starts a statement can only be the first one of this statement
        cases cut with
        | zero => exact ⟨0, .nil⟩
        | succ cut =>
          rw [List.length_cons, Nat.add_le_add_iff_right, Nat.not_le] at behind
          rw [List.cons_append, List.getElem?_cons_succ, List.getElem?_append_left behind] at there
          have inside := head.starts_eq_false_of_mem t (List.mem_of_getElem? there)
          rw [starts] at inside
          cases inside

/-- Before a cut between statements stand just the statements whose first tokens do. -/
theorem Statement.SpelledAll.take {tokens : List Token} {ss : List Statement} (h : SpelledAll tokens ss)
    {cut : Nat} (between : CutsBetween tokens cut) :
    SpelledAll (tokens.take cut) (ss.take (starters (tokens.take cut)).length) := by
  obtain ⟨n, spelled⟩ := h.exists_take between
  rw [spelled.length_starters, List.length_take, ← List.take_eq_take_min]
  exact spelled

/-- Where the tokens before a cut spell statements, the cut is between statements. -/
theorem Statement.SpelledAll.cutsBetween {tokens : List Token} {ss ss' : List Statement} (h : SpelledAll tokens ss)
    {cut : Nat} (le : cut ≤ tokens.length) (before : SpelledAll (tokens.take cut) ss') : CutsBetween tokens cut := by
  have whole : Reader.Phrases SpelledAll (tokens.take cut ++ tokens.drop cut) := ⟨ss, by rwa [List.take_append_drop]⟩
  obtain ⟨ss'', behind⟩ := (before.append_iff _).1 whole
  cases left : tokens.drop cut with
  | nil => exact Or.inl (Nat.le_antisymm le (List.drop_eq_nil_iff.1 left))
  | cons t more =>
    rw [left] at behind
    obtain ⟨first, later, s, ss₃, same, head, -⟩ := behind.exists_first
    obtain ⟨opening, inner, rfl, -⟩ := Reader.opening_of_spelled head
    obtain ⟨rfl, -⟩ := List.cons.inj same
    have there : tokens[cut]? = some t := by rw [← List.head?_drop, left, List.head?_cons]
    exact Or.inr ⟨t, there, Reader.startsStatement_iff.2 ⟨inner, s, head⟩⟩

/-! ## Cut readings -/

namespace Reader.ExactOnTokens

variable {α : Type} {read : List Token → Except Diagnostic α} {Spelled : List Token → α → Prop}

/-- The beginning of a phrase is refused for the end behind it, if it is refused. -/
theorem refused_at_end (exact : ExactOnTokens read Spelled) {first more : List Token} {a : α}
    (spelled : Spelled (first ++ more) a) {e : Token} (ends : e.kind = .endOfInput) {d : Diagnostic}
    (refused : read (first ++ [e]) = .error d) : ∃ phrase expected, d = .unexpected phrase expected e := by
  have proper : ∀ t ∈ first, t.kind ≠ .endOfInput := fun t member =>
    exact.proper spelled t (List.mem_append_left _ member)
  have body : (Cursor.ofList (first ++ [e])).body = first := by
    rw [Cursor.body_ofList, beforeEnd_ended proper ends]
  obtain ⟨rest, taken, expected, begins, ⟨phrase, told⟩, blocked, -⟩ := exact.refuses refused
  by_cases stopped : ((Cursor.ofList (first ++ [e])).skip taken.length).atEnd = true
  · have whole := (Cursor.atEnd_skip_iff begins).1 stopped
    rw [body] at whole
    rw [whole, Cursor.skip_ofList_append proper (List.cons_ne_nil e [])] at told
    have head : (Cursor.ofList [e]).head = e := by
      rw [← List.nil_append [e], Cursor.ofList_append_end [] ends]
      rfl
    rw [head] at told
    exact ⟨phrase, expected, told⟩
  · -- the token described would be one with which the phrase does go on
    rw [Cursor.atEnd_iff] at stopped
    obtain ⟨later, split⟩ := Cursor.exists_body_eq_append begins stopped
    rw [body] at split
    rw [split, List.append_assoc, List.cons_append] at spelled
    exact absurd ⟨a, spelled⟩ (blocked.stuck (later ++ more))

end Reader.ExactOnTokens

/-- Of the tokens of a rule those of kinds that start statements are as many as its statements and, in order, of the
kinds of their reserved words; two tokens spell a statement that names a subject, three one that publishes and four a
test. Cut off before any of its tokens and ended there, a rule is one just when the cut is between statements. It is
the rule of the statements before the cut then, and otherwise it is refused for the end of the input that was put
there. -/
theorem cut_rules_end_between_statements {tokens : List Token} (proper : ∀ t ∈ tokens, t.kind ≠ .endOfInput) {e : Token}
    (ends : e.kind = .endOfInput) {p : Program} (read : Program.ofTokens (tokens ++ [e]) = .ok p) :
    (starters tokens).map Token.kind = p.statements.map (fun s => .keyword s.keyword) ∧
    tokens.length = 2 * p.statements.countP (· matches .subject ..) + 3 * p.statements.countP (· matches .publish ..) +
      4 * p.statements.countP (· matches .test ..) ∧
    ∀ cut ≤ tokens.length, ∀ e' : Token, e'.kind = .endOfInput →
      ((∃ q, Program.ofTokens (tokens.take cut ++ [e']) = .ok q) ↔ CutsBetween tokens cut) ∧
      (CutsBetween tokens cut → Program.ofTokens (tokens.take cut ++ [e']) =
        .ok ⟨p.statements.take (starters (tokens.take cut)).length⟩) ∧
      (¬ CutsBetween tokens cut → ∃ phrase expected,
        Program.ofTokens (tokens.take cut ++ [e']) = .error (.unexpected phrase expected e')) := by
  have spelled : p.Spelled tokens := (Reader.exact_program_ofTokens.ended_eq_ok_iff proper ends).1 read
  refine ⟨spelled.map_kind_starters, ?_, ?_⟩
  · rw [spelled.length, Statement.sum_size]
  · intro cut le e' ends'
    have proper' : ∀ t ∈ tokens.take cut, t.kind ≠ .endOfInput := fun t member => proper t (List.mem_of_mem_take member)
    have read_iff : ∀ q : Program, Program.ofTokens (tokens.take cut ++ [e']) = .ok q ↔ q.Spelled (tokens.take cut) :=
      fun q => Reader.exact_program_ofTokens.ended_eq_ok_iff proper' ends'
    have accepted_iff : (∃ q, Program.ofTokens (tokens.take cut ++ [e']) = .ok q) ↔ CutsBetween tokens cut := by
      constructor
      · rintro ⟨q, accepted⟩
        exact spelled.cutsBetween le ((read_iff q).1 accepted)
      · intro between
        exact ⟨_, (read_iff ⟨_⟩).2 (spelled.take between)⟩
    refine ⟨accepted_iff, fun between => (read_iff ⟨_⟩).2 (spelled.take between), fun inside => ?_⟩
    cases outcome : Program.ofTokens (tokens.take cut ++ [e']) with
    | ok q => exact absurd (accepted_iff.1 ⟨q, outcome⟩) inside
    | error d =>
      rw [← List.take_append_drop cut tokens] at spelled
      obtain ⟨phrase, expected, rfl⟩ := Reader.exact_program_ofTokens.refused_at_end spelled ends' outcome
      exact ⟨phrase, expected, rfl⟩

/-- Cut behind its first statement a rule is that statement; cut behind a target it is refused for the end put there. -/
theorem cut_rules_end_between_statements_in_publish :
    ∃ tokens e, tokenize "SOURCE a PUBLISH LOG_PUBLISHER b" = .ok (tokens ++ [e]) ∧
      (∀ t ∈ tokens, t.kind ≠ .endOfInput) ∧ e.kind = .endOfInput ∧
      Program.ofTokens (tokens ++ [e]) = .ok ⟨[.subject .source "a", .publish .log "b"]⟩ ∧
      Program.ofTokens (tokens.take 2 ++ [e]) = .ok ⟨[.subject .source "a"]⟩ ∧
      ∃ phrase expected, Program.ofTokens (tokens.take 4 ++ [e]) = .error (.unexpected phrase expected e) := by
  obtain ⟨tokens, e, tokenized, proper, ends, read, between, one, inside, le⟩ : ∃ tokens e,
      tokenize "SOURCE a PUBLISH LOG_PUBLISHER b" = .ok (tokens ++ [e]) ∧
      (∀ t ∈ tokens, t.kind ≠ .endOfInput) ∧ e.kind = .endOfInput ∧
      Program.ofTokens (tokens ++ [e]) = .ok ⟨[.subject .source "a", .publish .log "b"]⟩ ∧
      CutsBetween tokens 2 ∧ (starters (tokens.take 2)).length = 1 ∧ ¬ CutsBetween tokens 4 ∧ 4 ≤ tokens.length := by
    refine ⟨[.readAt ⟨0, 1, 1⟩ (.keyword (.subject .source)) "SOURCE".toList, .readAt ⟨7, 1, 8⟩ .word ['a'],
      .readAt ⟨9, 1, 10⟩ (.keyword .publish) "PUBLISH".toList,
      .readAt ⟨17, 1, 18⟩ (.keyword (.target .log)) "LOG_PUBLISHER".toList, .readAt ⟨31, 1, 32⟩ .word ['b']],
      .endAt ⟨32, 1, 33⟩, by cbv, by decide, rfl, by cbv, Or.inr ⟨_, rfl, rfl⟩, rfl, ?_, by decide⟩
    rintro (all | ⟨t, there, starts⟩)
    · cases all
    · cases there
      cases starts
  have cuts := (cut_rules_end_between_statements proper ends read).2.2
  have first := (cuts 2 (by omega) e ends).2.1 between
  rw [one] at first
  exact ⟨tokens, e, tokenized, proper, ends, read, first, (cuts 4 le e ends).2.2 inside⟩

end WatchLang
