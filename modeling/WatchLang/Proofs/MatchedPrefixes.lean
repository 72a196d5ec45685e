import Mathlib
import WatchLang.Program.Calls
import WatchLang.Proofs.RuleReading
import WatchLang.Token.Longest

/-!
# Calls take matched prefixes away

A reader of rules may be used call by call and on after refusals, and whatever is called for, the tokens left to read
change in one way only: a call takes some away from the front, never the end of the input. What it takes is told by
the grammar. An answer stands for just the tokens that were taken, and a refusal took the beginning of a phrase, in
which the next token has no place. The next token is left there and is the one described, with one exception:
a symbol of unknown text is of a fitting kind, is taken, and is described then. Both follow from the exactness of the
readers (`Reader.Exact.takes`), call by call; since the tokens taken by a run of calls are those taken by each of them,
what is left is always an end part of the tokens that the run began with.
-/

set_option autoImplicit false

namespace WatchLang

/-- Tokens with the end of the input behind them: it is added right behind the last one, or at the beginning of an empty
text, unless they end in it. -/
def withEnd (tokens : List Token) : List Token :=
  match tokens.getLast? with
  | none => [.endAt .beginning]
  | some t => if t.kind = .endOfInput then tokens else tokens ++ [Cursor.endBehind t]

namespace Cursor

/-- A cursor made from tokens stands for them with the end of the input behind. -/
theorem toList_ofList_eq_withEnd (tokens : List Token) : (ofList tokens).toList = withEnd tokens := by
  unfold ofList withEnd
  cases ending : tokens.getLast? with
  | none => rfl
  | some t =>
    by_cases ends : t.kind = .endOfInput
    · obtain ⟨before, rfl⟩ := List.getLast?_eq_some_iff.1 ending
      simp only [dif_pos ends, if_pos ends, toList, List.dropLast_concat]
    · simp only [dif_neg ends, if_neg ends, toList]

/-- Skipping tokens that stand next takes just these off the list. -/
theorem toList_eq_append {c : Cursor} {taken : List Token} (begins : taken <+: c.body) :
    c.toList = taken ++ (c.skip taken.length).toList := by
  induction taken generalizing c with
  | nil => rfl
  | cons t taken ih =>
    obtain ⟨more, body⟩ := begins
    obtain ⟨away, rfl, rest⟩ := of_body_eq_cons body.symm
    have later := ih (c := c.tail) ⟨more, rest.symm⟩
    rw [toList_eq_cons away, later]
    rfl

end Cursor

/-! ## Taking and stopping -/

/-- Tokens that begin a phrase and are not yet all of it. -/
def Begun (phrases : List Token → Prop) (taken : List Token) : Prop :=
  ∃ next more, phrases (taken ++ next :: more)

/-- A refusal that took the beginning of a phrase and left the rest. The token described is the next one left, and no
token of its kind has a place there; or it is the last one taken, a symbol of unknown text where a symbol has a
place. -/
inductive Stopped (phrases : List Token → Prop) (d : Diagnostic) (taken rest : List Token) : Prop
  | before {next : Token} {later : List Token} {phrase : Phrase} {expected : List Kind} (begun : Begun phrases taken)
      (left : rest = next :: later) (misfit : ∀ t more, t.kind = next.kind → ¬ phrases (taken ++ t :: more))
      (told : d = .unexpected phrase expected next)
  | behind {first : List Token} {sign known : Token} {phrase : Phrase} {expected : List Kind}
      (last : taken = first ++ [sign]) (symbol : sign.kind = .symbol) (unknown : sign.lexeme ∉ symbols)
      (fits : known.kind = .symbol) (begun : Begun phrases (first ++ [known]))
      (told : d = .unexpected phrase expected sign)

/-- A text that is the symbol of no comparison is not on the list of symbols. -/
theorem Comparison.not_mem_symbols {text : String} (unknown : ofSymbol? text = none) : text ∉ symbols := by
  have known : ∀ sign ∈ symbols, ofSymbol? sign ≠ none := by decide
  exact fun listed => known text listed unknown

namespace Reader.Exact

variable {α : Type} {reader : Reader α} {Spelled : List Token → α → Prop} {cursor rest : Cursor}

/-- A value stands for just the tokens that were taken. -/
theorem takes (exact : Exact reader Spelled) {a : α} (read : reader cursor = .ok a rest) :
    ∃ taken, cursor.toList = taken ++ rest.toList ∧ Spelled taken a := by
  obtain ⟨taken, spelled, begins, rfl⟩ := exact.yields.1 read
  exact ⟨taken, Cursor.toList_eq_append begins, spelled⟩

/-- What was taken before a refusal is not a phrase yet. -/
theorem begun (exact : Exact reader Spelled) {d : Diagnostic} (refused : reader cursor = .error d rest)
    {taken : List Token} {expected : List Kind} (refusal : Refusal (Phrases Spelled) cursor d rest taken expected) :
    Begun (Phrases Spelled) taken := by
  obtain ⟨more, a, spelled⟩ := refusal.blocked.viable
  cases more with
  | nil =>
    rw [List.append_nil] at spelled
    exact absurd refusal.begins (exact.not_prefix_of_refused refused spelled)
  | cons next more => exact ⟨next, more, a, spelled⟩

/-- A refusal takes the beginning of a phrase, if no phrase ends in a symbol. -/
theorem stops (exact : Exact reader Spelled)
    (followed : ∀ tokens a t, Spelled tokens a → tokens.getLast? = some t → t.kind ≠ .symbol) {d : Diagnostic}
    (refused : reader cursor = .error d rest) :
    ∃ taken, cursor.toList = taken ++ rest.toList ∧ (∀ t ∈ taken, t.kind ≠ .endOfInput) ∧
      Stopped (Phrases Spelled) d taken rest.toList := by
  obtain ⟨taken, expected, refusal⟩ := exact.refuses refused
  obtain ⟨phrase, told⟩ := refusal.told
  have split := Cursor.toList_eq_append refusal.begins
  have proper : ∀ t ∈ taken, t.kind ≠ .endOfInput := fun t member =>
    Cursor.kind_ne_of_mem_body (refusal.begins.subset member)
  rcases refusal.left with ⟨missing, rfl⟩ | ⟨found, symbol, unknown, rfl⟩
  · obtain ⟨later, left⟩ := Cursor.toList_eq_head_cons (cursor.skip taken.length)
    refine ⟨taken, split, proper, .before (exact.begun refused refusal) left ?_ told⟩
    -- a token of the kind of the next one would have made the kind an expected one
    rintro t more kind ⟨a, spelled⟩
    have away : t.kind ≠ .endOfInput := exact.proper spelled t (List.mem_append_right _ List.mem_cons_self)
    rw [← kind] at missing
    exact missing ((refusal.blocked.lists _).2 (Or.inr ⟨away, t, more, rfl, a, spelled⟩))
  · have away : (cursor.skip taken.length).atEnd = false := by
      simp [Cursor.atEnd, symbol]
    refine ⟨taken ++ [(cursor.skip taken.length).head], ?_, ?_, ?_⟩
    · rw [split, Cursor.toList_eq_cons away, List.append_assoc, List.singleton_append]
    · rw [List.forall_mem_append]
      refine ⟨proper, fun t member => ?_⟩
      rw [List.mem_singleton.1 member, symbol]
      simp
    · rcases (refusal.blocked.lists _).1 found with ⟨ends, -⟩ | ⟨-, known, more, kind, a, spelled⟩
      · rw [ends] at symbol
        cases symbol
      · rw [symbol] at kind
        refine .behind rfl symbol (Comparison.not_mem_symbols unknown) kind ?_ told
        cases more with
        | nil => exact absurd kind (followed _ a known spelled List.getLast?_concat)
        | cons next more => exact ⟨next, more, a, by rwa [List.append_assoc]⟩

end Reader.Exact

/-! ## Phrases -/

/-- No condition ends in a symbol. -/
theorem Condition.Spelled.kind_last {tokens : List Token} {c : Condition} {t : Token} (h : c.Spelled tokens)
    (last : tokens.getLast? = some t) : t.kind ≠ .symbol := by
  obtain ⟨-, -, operand⟩ := h
  cases last
  cases operand with
  | identifier kind | number kind | address kind => simp [kind]

/-- No statement ends in a symbol. -/
theorem Statement.Spelled.kind_last {tokens : List Token} {s : Statement} {t : Token} (h : s.Spelled tokens)
    (last : tokens.getLast? = some t) : t.kind ≠ .symbol := by
  cases h with
  | subject _ word | publish _ _ word =>
    cases last
    simp [word]
  | test _ condition =>
    obtain ⟨word, comparison, operand⟩ := condition
    rw [List.getLast?_cons_cons] at last
    exact (Condition.Spelled.mk word comparison operand).kind_last last

/-- No statements end in a symbol. -/
theorem Statement.SpelledAll.kind_last {tokens : List Token} {ss : List Statement} {t : Token}
    (h : SpelledAll tokens ss) (last : tokens.getLast? = some t) : t.kind ≠ .symbol := by
  induction h with
  | nil => cases last
  | cons head _ ih =>
    rw [List.getLast?_append, Option.or_eq_some_iff] at last
    rcases last with later | ⟨-, here⟩
    · exact ih later
    · exact head.kind_last here

/-- The number of tokens that spell a statement. -/
def Statement.size : Statement → Nat
  | subject _ _ => 2
  | test _ _ => 4
  | publish _ _ => 3

/-- Three tokens spell a condition. -/
theorem Condition.Spelled.length {tokens : List Token} {c : Condition} (h : c.Spelled tokens) : tokens.length = 3 := by
  cases h
  rfl

/-- As many tokens spell a statement as its size tells. -/
theorem Statement.Spelled.length {tokens : List Token} {s : Statement} (h : s.Spelled tokens) :
    tokens.length = s.size := by
  cases h with
  | subject | publish => rfl
  | test _ condition => rw [List.length_cons, condition.length, size]

/-- The sizes of statements add up to the number of tokens that spell them. -/
theorem Statement.SpelledAll.length {tokens : List Token} {ss : List Statement} (h : SpelledAll tokens ss) :
    tokens.length = (ss.map Statement.size).sum := by
  induction h with
  | nil => rfl
  | cons head _ ih => rw [List.length_append, head.length, ih, List.map_cons, List.sum_cons]

/-! ## Single calls -/

/-- The number of tokens that an answer stands for. -/
def Answer.size : Answer → Nat
  | program p => (p.statements.map Statement.size).sum
  | statement s => s.size
  | condition _ => 3
  | finished => 0

namespace Call

/-- Tokens that spell what a call asks for, and the answer that they stand for. -/
def Spelled : Call → List Token → Answer → Prop
  | program, tokens, answer => ∃ p : Program, p.Spelled tokens ∧ answer = .program p
  | statement, tokens, answer => ∃ s : Statement, s.Spelled tokens ∧ answer = .statement s
  | subject role, tokens, answer => ∃ s, Reader.SpelledAs (.subject role) tokens s ∧ answer = .statement s
  | test connective, tokens, answer => ∃ s, Reader.SpelledAs (.test connective) tokens s ∧ answer = .statement s
  | publish, tokens, answer => ∃ s, Reader.SpelledAs .publish tokens s ∧ answer = .statement s
  | condition, tokens, answer => ∃ c : Condition, c.Spelled tokens ∧ answer = .condition c
  | finish _ _, tokens, answer => tokens = [] ∧ answer = .finished

/-- How a call is refused. For a program some whole statements are taken, and then it stops inside the next one; where
nothing may follow, nothing is taken and the next token is described; any other phrase stops inside itself. -/
def Refused : Call → Diagnostic → List Token → List Token → Prop
  | program, d, taken, rest =>
    ∃ whole ss begun, taken = whole ++ begun ∧ Statement.SpelledAll whole ss ∧
      Stopped (Reader.Phrases Statement.Spelled) d begun rest
  | finish phrase expected, d, taken, rest =>
    taken = [] ∧ ∃ next later, rest = next :: later ∧ next.kind ≠ .endOfInput ∧
      d = .unexpected phrase (expected ++ [.endOfInput]) next
  | call, d, taken, rest => Stopped (Reader.Phrases call.Spelled) d taken rest

/-- What a call takes: no end of the input, and if it is answered just the tokens that the answer stands for. -/
structure Takes (call : Call) (outcome : Except Diagnostic Answer) (taken rest : List Token) : Prop where
  proper : ∀ t ∈ taken, t.kind ≠ .endOfInput
  answered : ∀ answer, outcome = .ok answer → call.Spelled taken answer ∧ taken.length = answer.size
  refused : ∀ d, outcome = .error d → call.Refused d taken rest

/-- As many tokens spell an answer as its size tells. -/
theorem length_of_spelled {call : Call} {tokens : List Token} {answer : Answer} (h : call.Spelled tokens answer) :
    tokens.length = answer.size := by
  cases call with
  | program =>
    obtain ⟨p, spelled, rfl⟩ := h
    exact spelled.length
  | statement =>
    obtain ⟨s, spelled, rfl⟩ := h
    exact spelled.length
  | subject | test | publish =>
    obtain ⟨s, ⟨spelled, -⟩, rfl⟩ := h
    exact spelled.length
  | condition =>
    obtain ⟨c, spelled, rfl⟩ := h
    exact spelled.length
  | finish =>
    obtain ⟨rfl, rfl⟩ := h
    rfl

/-- No phrase ends in a symbol. -/
theorem kind_last_of_spelled {call : Call} {tokens : List Token} {answer : Answer} {t : Token}
    (h : call.Spelled tokens answer) (last : tokens.getLast? = some t) : t.kind ≠ .symbol := by
  cases call with
  | program =>
    obtain ⟨p, spelled, rfl⟩ := h
    exact spelled.kind_last last
  | statement =>
    obtain ⟨s, spelled, rfl⟩ := h
    exact spelled.kind_last last
  | subject | test | publish =>
    obtain ⟨s, ⟨spelled, -⟩, rfl⟩ := h
    exact spelled.kind_last last
  | condition =>
    obtain ⟨c, spelled, rfl⟩ := h
    exact spelled.kind_last last
  | finish =>
    obtain ⟨rfl, rfl⟩ := h
    cases last

/-- Tokens taken off a cursor, none of which ends the input. -/
def Removed (cursor : Cursor) (taken : List Token) (rest : Cursor) : Prop :=
  cursor.toList = taken ++ rest.toList ∧ ∀ t ∈ taken, t.kind ≠ .endOfInput

section Outcome

variable {call : Call} {cursor : Cursor}
  (answered : ∀ {a rest}, call.reader cursor = .ok a rest → ∃ taken, Removed cursor taken rest ∧ call.Spelled taken a)
  (refused : ∀ {d rest}, call.reader cursor = .error d rest →
    ∃ taken, Removed cursor taken rest ∧ call.Refused d taken rest.toList)

include answered refused

/-- What a call takes, from what its reader takes when it yields an answer and when it refuses. -/
theorem answer_takes_of_reader :
    ∃ taken, cursor.toList = taken ++ (call.answer cursor).2.toList ∧
      call.Takes (call.answer cursor).1 taken (call.answer cursor).2.toList := by
  unfold answer
  split
  · next a rest read =>
    obtain ⟨taken, ⟨split, proper⟩, spelled⟩ := answered read
    refine ⟨taken, split, proper, ?_, ?_⟩
    · rintro _ ⟨⟩
      exact ⟨spelled, length_of_spelled spelled⟩
    · rintro _ ⟨⟩
  · next d rest stopped =>
    obtain ⟨taken, ⟨split, proper⟩, told⟩ := refused stopped
    refine ⟨taken, split, proper, ?_, ?_⟩
    · rintro _ ⟨⟩
    · rintro _ ⟨⟩
      exact told

end Outcome

/-- A call whose reader is exact takes the tokens of its answer, or the beginning of a phrase. -/
theorem answer_takes_of_exact (call : Call) (exact : Reader.Exact call.reader call.Spelled)
    (single : call.Refused = Stopped (Reader.Phrases call.Spelled)) (cursor : Cursor) :
    ∃ taken, cursor.toList = taken ++ (call.answer cursor).2.toList ∧
      call.Takes (call.answer cursor).1 taken (call.answer cursor).2.toList := by
  apply answer_takes_of_reader
  · intro a rest read
    obtain ⟨taken, split, spelled⟩ := exact.takes read
    exact ⟨taken, ⟨split, exact.proper spelled⟩, spelled⟩
  · intro d rest refused
    obtain ⟨taken, split, proper, stopped⟩ := exact.stops (fun _ _ _ => kind_last_of_spelled) refused
    rw [single]
    exact ⟨taken, ⟨split, proper⟩, stopped⟩

/-- A program takes whole statements, and where it is refused the beginning of one more. -/
theorem program_takes (cursor : Cursor) :
    ∃ taken, cursor.toList = taken ++ (program.answer cursor).2.toList ∧
      program.Takes (program.answer cursor).1 taken (program.answer cursor).2.toList := by
  apply answer_takes_of_reader
  · intro a rest h
    obtain ⟨p, rest, read, ⟨⟩⟩ := Reader.bind_eq_ok h
    obtain ⟨taken, spelled, begins, rfl, -⟩ := Reader.program_eq_ok_iff.1 read
    exact ⟨taken, ⟨Cursor.toList_eq_append begins, spelled.proper⟩, p, spelled, rfl⟩
  · intro d rest h
    rcases Reader.bind_eq_error h with refused | ⟨p, rest, -, ⟨⟩⟩
    obtain ⟨whole, ss, spelled, begins, -, inside⟩ := Reader.program_eq_error refused
    have last := fun tokens s t => @Statement.Spelled.kind_last tokens s t
    obtain ⟨begun, split, proper, stopped⟩ := Reader.exact_statement.stops last inside
    refine ⟨whole ++ begun, ⟨?_, List.forall_mem_append.2 ⟨spelled.proper, proper⟩⟩, whole, ss, begun, rfl, spelled,
      stopped⟩
    rw [Cursor.toList_eq_append begins, split, List.append_assoc]

/-- Asking for the end of the input takes nothing. -/
theorem finish_takes (phrase : Phrase) (expected : List Kind) (cursor : Cursor) :
    ∃ taken, cursor.toList = taken ++ ((finish phrase expected).answer cursor).2.toList ∧
      (finish phrase expected).Takes ((finish phrase expected).answer cursor).1 taken
        ((finish phrase expected).answer cursor).2.toList := by
  have none : Removed cursor [] cursor := ⟨rfl, fun t member => absurd member List.not_mem_nil⟩
  apply answer_takes_of_reader
  · intro a rest h
    obtain ⟨_, rest, read, ⟨⟩⟩ := Reader.bind_eq_ok h
    unfold Reader.finish at read
    split at read
    · cases read
      exact ⟨[], none, rfl, rfl⟩
    · cases read
  · intro d rest h
    rcases Reader.bind_eq_error h with refused | ⟨_, rest, -, ⟨⟩⟩
    unfold Reader.finish at refused
    split at refused
    · cases refused
    · next away =>
      cases refused
      obtain ⟨later, left⟩ := cursor.toList_eq_head_cons
      exact ⟨[], none, rfl, _, later, left, fun ends => away (Cursor.atEnd_iff.2 ends), rfl⟩

/-- Every call takes tokens away from the front, and what it takes is told by its outcome. -/
theorem answer_takes (call : Call) (cursor : Cursor) :
    ∃ taken, cursor.toList = taken ++ (call.answer cursor).2.toList ∧
      call.Takes (call.answer cursor).1 taken (call.answer cursor).2.toList := by
  cases call with
  | program => exact program_takes cursor
  | statement => exact answer_takes_of_exact statement (Reader.exact_statement.map Answer.statement) rfl cursor
  | subject role =>
    exact answer_takes_of_exact (subject role) ((Reader.exact_subject role).map Answer.statement) rfl cursor
  | test connective =>
    exact answer_takes_of_exact (test connective) ((Reader.exact_test connective).map Answer.statement) rfl cursor
  | publish => exact answer_takes_of_exact publish (Reader.exact_publish.map Answer.statement) rfl cursor
  | condition => exact answer_takes_of_exact condition (Reader.exact_condition.map Answer.condition) rfl cursor
  | finish phrase expected => exact finish_takes phrase expected cursor

/-! ## Runs of calls -/

/-- The tokens left to read after calls made one after the other. -/
def left (tokens : List Token) (calls : List Call) : List Token :=
  (answerAll (.ofList tokens) calls).2.toList

/-- Calls made after other calls go on from the cursor that these leave. -/
theorem answerAll_append (cursor : Cursor) (calls more : List Call) :
    answerAll cursor (calls ++ more) =
      ((answerAll cursor calls).1 ++ (answerAll (answerAll cursor calls).2 more).1,
        (answerAll (answerAll cursor calls).2 more).2) := by
  induction calls generalizing cursor with
  | nil => rfl
  | cons call calls ih =>
    simp only [List.cons_append, answerAll, ih]

/-- Every call has an answer. -/
theorem length_answerAll (cursor : Cursor) (calls : List Call) : (answerAll cursor calls).1.length = calls.length := by
  induction calls generalizing cursor with
  | nil => rfl
  | cons call calls ih => simp only [answerAll, List.length_cons, ih]

/-- A run of calls takes tokens away from the front, none of which ends the input. -/
theorem answerAll_removes (cursor : Cursor) (calls : List Call) :
    ∃ taken, Removed cursor taken (answerAll cursor calls).2 := by
  -- on the calls; the tokens taken add up
  induction calls generalizing cursor with
  | nil => exact ⟨[], rfl, fun t member => absurd member List.not_mem_nil⟩
  | cons call calls ih =>
    obtain ⟨first, split, takes⟩ := call.answer_takes cursor
    obtain ⟨later, split', proper⟩ := ih (call.answer cursor).2
    refine ⟨first ++ later, ?_, List.forall_mem_append.2 ⟨takes.proper, proper⟩⟩
    rw [split, split', List.append_assoc]
    rfl

end Call

/-- Whatever is called for one after the other, and however often calls are refused in between: before the first call
all tokens are left to read; after each call an end part of them is left that ends in the end of the input, and no end
of the input was ever taken away; and the call took tokens from the front of what was left before it, as its outcome
tells. -/
theorem calls_take_matched_prefixes (tokens : List Token) (earlier : List Call) (call : Call) (later : List Call) :
    Call.left tokens [] = withEnd tokens ∧
    (∃ gone, withEnd tokens = gone ++ Call.left tokens (earlier ++ [call]) ∧ ∀ t ∈ gone, t.kind ≠ .endOfInput) ∧
    (∃ ahead last, Call.left tokens (earlier ++ [call]) = ahead ++ [last] ∧ last.kind = .endOfInput) ∧
    ∃ outcome taken, (Call.answerAll (.ofList tokens) (earlier ++ call :: later)).1[earlier.length]? = some outcome ∧
      Call.left tokens earlier = taken ++ Call.left tokens (earlier ++ [call]) ∧
      call.Takes outcome taken (Call.left tokens (earlier ++ [call])) := by
  have start : Call.left tokens [] = withEnd tokens := Cursor.toList_ofList_eq_withEnd tokens
  refine ⟨start, ?_, ?_, ?_⟩
  · rw [← start]
    exact Call.answerAll_removes (.ofList tokens) (earlier ++ [call])
  · exact ⟨_, _, rfl, (Call.answerAll (.ofList tokens) (earlier ++ [call])).2.last_ends⟩
  · have here : Call.left tokens (earlier ++ [call]) =
        (call.answer (Call.answerAll (.ofList tokens) earlier).2).2.toList := by
      rw [Call.left, Call.answerAll_append]
      rfl
    obtain ⟨taken, split, takes⟩ := call.answer_takes (Call.answerAll (.ofList tokens) earlier).2
    rw [here]
    refine ⟨_, taken, ?_, split, takes⟩
    rw [Call.answerAll_append, ← Call.length_answerAll (.ofList tokens) earlier,
      List.getElem?_append_right (Nat.le_refl _), Nat.sub_self]
    rfl

end WatchLang
