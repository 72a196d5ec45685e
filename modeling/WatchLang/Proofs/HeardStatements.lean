import WatchLang.Proofs.MatchedPrefixes
import WatchLang.Proofs.ReadingAloud
import WatchLang.Proofs.Standing

/-!
# What is heard of a reading

The record of a reading tells how far the reading came. The statements that are heard are those that stand complete at
the front of the tokens, since reading statements ends where no further one stands (`Reader.not_spelled_of_endsAt`),
whether the rule is accepted there or refused. What a text says about the first token behind them splits the text, and
the part before it is scanned as the tokens of these statements: a lexeme that ended before what followed ends before
less of it (`exists_scan_before`). So the statements heard before a refusal are those of a shorter text that is
accepted.
-/

set_option autoImplicit false

namespace WatchLang

/-! ## Completed statements -/

/-- How far tokens are statements: the tokens of those that stand complete at the front, one behind the other, and the
first token that belongs to none of them. -/
structure Completed (tokens whole : List Token) (ss : List Statement) (next : Token) (later : List Token) : Prop where
  split : tokens = whole ++ next :: later
  spelled : Statement.SpelledAll whole ss
  furthest : ∀ first s, first <+: next :: later → ¬ Statement.Spelled first s

namespace Reader

/-- No statement stands where reading statements ends. -/
theorem not_spelled_of_endsAt {place : Cursor} {progress : Progress} (ends : EndsAt place progress) {first : List Token}
    {s : Statement} (begins : first <+: place.toList) : ¬ s.Spelled first := by
  intro spelled
  have shown := Cursor.prefix_body (exact_statement.proper spelled) begins
  unfold EndsAt at ends
  cases refusal : progress.refusal with
  | some d =>
    simp only [refusal] at ends
    exact exact_statement.not_prefix_of_refused ends.2 spelled shown
  | none =>
    simp only [refusal] at ends
    obtain ⟨opening, after, rfl, -⟩ := opening_of_spelled spelled
    obtain ⟨more, body⟩ := shown
    obtain ⟨-, rfl, -⟩ := Cursor.of_body_eq_cons body.symm
    have starts := startsStatement_iff.2 ⟨after, s, spelled⟩
    rw [ends.1] at starts
    cases starts

/-- Reading statements reads those that stand complete at the front. -/
theorem statements_completed (cursor : Cursor) :
    ∃ whole next later, Completed cursor.toList whole (statements cursor).statements next later := by
  obtain ⟨whole, spelled, begins, ends⟩ := statements_reads cursor
  obtain ⟨later, left⟩ := (cursor.skip whole.length).toList_eq_head_cons
  refine ⟨whole, (cursor.skip whole.length).head, later, ?_, spelled, ?_⟩
  · rw [← left]
    exact Cursor.toList_eq_append begins
  · rw [← left]
    exact fun first s => not_spelled_of_endsAt ends

end Reader

/-- The statements of a rule that is accepted are those that were read. -/
theorem Program.statements_of_ofTokens {tokens : List Token} {p : Program} (accepted : ofTokens tokens = .ok p) :
    (Reader.statements (.ofList tokens)).statements = p.statements := by
  unfold ofTokens at accepted
  obtain ⟨rest, h⟩ := Reader.onTokens_eq_ok_iff.1 accepted
  obtain ⟨read, -⟩ := Reader.ended_eq_ok_iff.1 h
  unfold Reader.program at read
  split at read
  · next ss rest' progress =>
    cases read
    rw [progress]
  · cases read

/-! ## The text before a token -/

/-- The characters before an entry are scanned as the tokens before it. -/
theorem exists_scan_before {place : Place} {cs : List Char} {met : List Token} {e : Entry} {later : List Entry}
    (scanned : scan place cs = met.map Entry.token ++ e :: later) :
    ∃ before after, before ++ after = cs ∧ e.span.start = (place.through before).offset ∧
      scan place before = met.map Entry.token := by
  revert scanned
  -- the recursion of scanning; where an entry is met, it is the one asked for or one before it
  fun_induction scan place cs generalizing met with
  | case1 place => exact fun scanned => by simp at scanned
  | case2 place c more blank ih =>
    intro scanned
    obtain ⟨before, after, rfl, start, same⟩ := ih scanned
    exact ⟨c :: before, after, rfl, start, by rw [scan_blank blank, same]⟩
  | case3 place c more inside l cut ih =>
    intro scanned
    have whole := Lexeme.text_append_rest cut
    have lexeme := (isLongest_of_first? cut).legal.1
    cases met with
    | nil =>
      cases scanned
      exact ⟨[], c :: more, rfl, rfl, by rw [scan]; rfl⟩
    | cons t met =>
      obtain ⟨first, others⟩ := List.cons.inj scanned
      obtain ⟨before, after, rest, start, same⟩ := ih others
      refine ⟨l.text ++ before, after, ?_, ?_, ?_⟩
      · rw [List.append_assoc, rest, whole]
      · rwa [Place.through_append]
      · -- the lexeme ended before what followed, and does before less
        have ends := (first?_lexeme_iff lexeme).1 (by rw [whole]; exact cut)
        rw [← rest] at ends
        have alone := (first?_lexeme_iff lexeme).2 ends.of_append
        rw [scan_cut alone, same, List.map_cons, first]
  | case4 place c more inside nothing ih =>
    intro scanned
    cases met with
    | nil =>
      cases scanned
      exact ⟨[], c :: more, rfl, rfl, by rw [scan]; rfl⟩
    | cons t met =>
      cases scanned

/-- The text before a token is scanned as the tokens before it. -/
theorem exists_entries_before {text : String} {whole later : List Token} {next : Token}
    (tokenized : tokenize text = .ok (whole ++ next :: later)) :
    ∃ before after, before ++ after = text.toList ∧ byteLength before = next.span.start ∧
      entries (String.ofList before) = whole.map Entry.token := by
  have offset : ∀ cs, (Place.beginning.through cs).offset = byteLength cs := fun cs =>
    (Place.offset_through _ cs).trans (Nat.zero_add _)
  obtain ⟨met, same, split⟩ := tokenize_eq_ok_iff.1 tokenized
  rcases List.eq_nil_or_concat later with rfl | ⟨others, last, rfl⟩
  · -- the token is the end of the input, behind the whole text
    obtain ⟨rfl, ends⟩ := List.append_inj' split rfl
    cases ends
    exact ⟨text.toList, [], List.append_nil _, (offset _).symm, by rwa [String.ofList_toList]⟩
  · rw [List.concat_eq_append, ← List.cons_append, ← List.append_assoc] at split
    obtain ⟨rfl, -⟩ := List.append_inj' split rfl
    rw [List.map_append, List.map_cons] at same
    obtain ⟨before, after, joined, start, scanned⟩ := exists_scan_before same
    refine ⟨before, after, joined, ?_, ?_⟩
    · rw [← offset, ← start]
      rfl
    · rwa [entries, String.toList_ofList]

/-- The text before the first token that belongs to no completed statement spells just the completed statements. -/
theorem Completed.exists_text_before {text : String} {tokens whole later : List Token} {ss : List Statement}
    {next : Token} (completed : Completed tokens whole ss next later) (tokenized : tokenize text = .ok tokens) :
    ∃ before after, before ++ after = text.toList ∧ byteLength before = next.span.start ∧
      Program.ofText (String.ofList before) = .ok ⟨ss⟩ := by
  rw [completed.split] at tokenized
  obtain ⟨before, after, joined, start, same⟩ := exists_entries_before tokenized
  have read := Program.ofText_eq_ok_iff.2 ⟨whole, same, isWritten_of_entries same, completed.spelled⟩
  exact ⟨before, after, joined, start, read⟩

/-- How far the tokens of a text are statements: as far as they are read. -/
theorem completed_of_tokenize {text : String} {tokens : List Token} (tokenized : tokenize text = .ok tokens) :
    ∃ whole next later, Completed tokens whole (Reader.statements (.ofList tokens)).statements next later := by
  obtain ⟨met, -, rfl⟩ := tokenize_eq_ok_iff.1 tokenized
  have completed := Reader.statements_completed (.ofList (met ++ [.endAt (Place.beginning.through text.toList)]))
  rw [Cursor.ofList_append_end met rfl] at completed ⊢
  exact completed

/-! ## Notices -/

/-- What is heard of a text is what happens when it is read aloud, in order, beside the same outcome. A text that is
not tokenized is heard once, with its diagnostic. Otherwise the number of its tokens is heard first, then each
statement that stands complete at the front with its reserved word, and last either the number of statements of the
rule, which are just those heard, or the diagnostic that refused it. The text up to the first token that belongs to
none of these statements is a rule of its own, made of just them. -/
theorem heard_statements (text : String) :
    (Aloud.ofText text).heard = (Program.ofText text, Trace.ofRule text) ∧
    (∀ d, tokenize text = .error d →
      (Trace.ofRule text).map Event.notice = [⟨.debug, "rejected rule text", .diagnostic d.message⟩]) ∧
    ∀ tokens, tokenize text = .ok tokens → ∃ whole ss next later last,
      Completed tokens whole ss next later ∧
      (Trace.ofRule text).map Event.notice =
        [⟨.trace, "tokenized rule text", .count tokens.length⟩] ++
          ss.map (fun s => ⟨.trace, "parsed statement", .keyword s.keyword.spelling⟩) ++ [last] ∧
      (∀ p, Program.ofText text = .ok p →
        p.statements = ss ∧ last = ⟨.debug, "parsed rule", .statements p.statements.length⟩) ∧
      (∀ d, Program.ofText text = .error d → last = ⟨.debug, "rejected rule", .diagnostic d.message⟩) ∧
      ∃ before after, before ++ after = text.toList ∧ byteLength before = next.span.start ∧
        Program.ofText (String.ofList before) = .ok ⟨ss⟩ := by
  refine ⟨(Aloud.says_ofText text).heard_eq, ?_, ?_⟩
  · intro d refused
    rw [Trace.ofRule, refused]
    rfl
  · intro tokens tokenized
    have outcome : Program.ofText text = Program.ofTokens tokens := by
      rw [Program.ofText, tokenized]
      rfl
    obtain ⟨whole, next, later, completed⟩ := completed_of_tokenize tokenized
    refine ⟨whole, _, next, later, (Event.ofOutcome (Program.ofText text)).notice, completed, ?_, ?_, ?_,
      completed.exists_text_before tokenized⟩
    · rw [Trace.ofRule, tokenized, outcome]
      simp only [Trace.ofTokens, List.map_cons, List.map_append, List.map_map, List.map_nil]
      rfl
    · intro p read
      rw [read]
      rw [outcome] at read
      exact ⟨(Program.statements_of_ofTokens read).symm, rfl⟩
    · intro d refused
      rw [refused]
      rfl

/-- A statement before one that is refused is heard, and the text before that one is a rule with just that statement. -/
theorem heard_statements_before_misfit :
    tokenize "SOURCE a\nWATCH 5" = .ok [.readAt ⟨0, 1, 1⟩ (.keyword (.subject .source)) "SOURCE".toList,
      .readAt ⟨7, 1, 8⟩ .word ['a'], .readAt ⟨9, 2, 1⟩ (.keyword (.subject .watch)) "WATCH".toList,
      .readAt ⟨15, 2, 7⟩ .digits ['5'], .endAt ⟨16, 2, 8⟩] ∧
    (Trace.ofRule "SOURCE a\nWATCH 5").map Event.notice =
      [⟨.trace, "tokenized rule text", .count 5⟩, ⟨.trace, "parsed statement", .keyword "SOURCE"⟩,
        ⟨.debug, "rejected rule", .diagnostic "2:7: expected word in watch statement, found digit"⟩] ∧
    ∃ before after ss, before ++ after = "SOURCE a\nWATCH 5".toList ∧ Program.ofText (String.ofList before) = .ok ⟨ss⟩ ∧
      ss.map (fun s => (Event.statementRead s.keyword).notice) =
        [⟨.trace, "parsed statement", .keyword "SOURCE"⟩] := by
  have tokenized : tokenize "SOURCE a\nWATCH 5" = .ok [.readAt ⟨0, 1, 1⟩ (.keyword (.subject .source)) "SOURCE".toList,
      .readAt ⟨7, 1, 8⟩ .word ['a'], .readAt ⟨9, 2, 1⟩ (.keyword (.subject .watch)) "WATCH".toList,
      .readAt ⟨15, 2, 7⟩ .digits ['5'], .endAt ⟨16, 2, 8⟩] := by cbv
  have notices : (Trace.ofRule "SOURCE a\nWATCH 5").map Event.notice =
      [⟨.trace, "tokenized rule text", .count 5⟩, ⟨.trace, "parsed statement", .keyword "SOURCE"⟩] ++
        [⟨.debug, "rejected rule", .diagnostic "2:7: expected word in watch statement, found digit"⟩] := by cbv
  obtain ⟨whole, ss, next, later, last, -, heard, -, -, before, after, joined, -, read⟩ :=
    (heard_statements "SOURCE a\nWATCH 5").2.2 _ tokenized
  obtain ⟨statements, -⟩ := List.append_inj' (heard.symm.trans notices) rfl
  exact ⟨tokenized, notices, before, after, ss, joined, read, List.append_cancel_left statements⟩

end WatchLang
