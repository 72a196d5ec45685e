import WatchLang.Proofs.MatchedPrefixes
import WatchLang.Reader.Steps

/-!
# Cursors keep their end and their tokens

However a cursor is used, what is left of it is an end part of the tokens that it was made from, the end of the input
comes last in it, and the tokens that are missing were handed out one by one. That no use of a cursor fails is said
with the same steps on a bare sequence of tokens, which knows nothing of an end: where it is empty, there is no first
token to look at and none to take away, and a step has no outcome (`Step.takeBare?`). A cursor and the bare sequence of
its tokens do the same at each step (`Step.takeBare?_toList`), and so in every run.
-/

set_option autoImplicit false

namespace WatchLang.Cursor.Step

/-! ## Bare sequences -/

/-- The first token of a bare sequence, and the sequence that is left: without it, unless it ends the input. -/
def advanceBare? : List Token → Option (Token × List Token)
  | [] => none
  | t :: more => some (t, if t.kind = .endOfInput then t :: more else more)

/-- A step on a bare sequence of tokens. It has no outcome where a first token is asked for and there is none. -/
def takeBare? (tokens : List Token) : Step → Option (Reply × List Token)
  | peek => do
    let t ← tokens.head?
    return (.token t, tokens)
  | peekKind => do
    let t ← tokens.head?
    return (.kind t.kind, tokens)
  | atEnd => do
    let t ← tokens.head?
    return (.truth (t.kind = .endOfInput), tokens)
  | remaining => return (.count tokens.length, tokens)
  | advance => do
    let (t, rest) ← advanceBare? tokens
    return (.token t, rest)
  | expect expected phrase => do
    let t ← tokens.head?
    if t.kind ∈ expected then
      let (taken, rest) ← advanceBare? tokens
      return (.token taken, rest)
    else return (.refusal (.unexpected phrase expected t), tokens)

/-- Steps on a bare sequence taken one after the other, for as long as each has an outcome. -/
def takeBareAll? (tokens : List Token) : List Step → Option (List Reply × List Token)
  | [] => return ([], tokens)
  | step :: steps => do
    let (reply, rest) ← step.takeBare? tokens
    let (replies, last) ← takeBareAll? rest steps
    return (reply :: replies, last)

/-- Advancing takes the first token away, unless it is the end of the input. -/
theorem toList_tail (c : Cursor) : c.tail.toList = if c.head.kind = .endOfInput then c.toList else c.toList.tail := by
  cases ends : c.atEnd with
  | true => rw [tail_of_atEnd ends, if_pos (atEnd_iff.1 ends)]
  | false =>
    have away : ¬ c.head.kind = .endOfInput := by simp [← atEnd_iff, ends]
    rw [if_neg away, toList_eq_cons ends, List.tail_cons]

/-- On the sequence that a cursor stands for, advancing has the same outcome as on the cursor. -/
theorem advanceBare?_toList (c : Cursor) : advanceBare? c.toList = some (c.head, c.tail.toList) := by
  obtain ⟨more, whole⟩ := c.toList_eq_head_cons
  rw [toList_tail, whole]
  rfl

/-- A step on a cursor is the step on the bare sequence of its tokens. -/
theorem takeBare?_toList (c : Cursor) (step : Step) :
    step.takeBare? c.toList = some ((step.take c).1, (step.take c).2.toList) := by
  have head := c.head?_toList
  cases step with
  | peek | peekKind | atEnd =>
    simp only [takeBare?, head]
    rfl
  | remaining => rfl
  | advance =>
    simp only [takeBare?, advanceBare?_toList]
    rfl
  | expect expected phrase =>
    by_cases found : c.head.kind ∈ expected
    · simp [takeBare?, head, advanceBare?_toList, take, Reader.expect, found]
    · simp [takeBare?, head, take, Reader.expect, Reader.refuse, found]

/-- On the sequence that a cursor stands for, all steps have the same outcome as on the cursor. -/
theorem takeBareAll?_toList (c : Cursor) (steps : List Step) :
    takeBareAll? c.toList steps = some ((takeAll c steps).1, (takeAll c steps).2.toList) := by
  induction steps generalizing c with
  | nil => rfl
  | cons step steps ih =>
    simp only [takeBareAll?, takeBare?_toList, Option.bind_eq_bind, Option.bind_some, ih]
    rfl

/-! ## Runs of steps -/

/-- Steps taken after other steps go on from the cursor that these leave. -/
theorem takeAll_append (c : Cursor) (steps more : List Step) :
    takeAll c (steps ++ more) =
      ((takeAll c steps).1 ++ (takeAll (takeAll c steps).2 more).1, (takeAll (takeAll c steps).2 more).2) := by
  induction steps generalizing c with
  | nil => rfl
  | cons step steps ih => simp only [List.cons_append, takeAll, ih]

/-- Every step has a reply. -/
theorem length_takeAll (c : Cursor) (steps : List Step) : (takeAll c steps).1.length = steps.length := by
  induction steps generalizing c with
  | nil => rfl
  | cons step steps ih => simp only [takeAll, List.length_cons, ih]

/-- At the end of the input no step moves a cursor. -/
theorem take_of_atEnd {c : Cursor} (ends : c.atEnd = true) (step : Step) : (step.take c).2 = c := by
  have stays := tail_of_atEnd ends
  cases step with
  | peek | peekKind | atEnd | remaining => rfl
  | advance => exact stays
  | expect expected phrase =>
    by_cases found : c.head.kind ∈ expected
    · simp [take, Reader.expect, found, stays]
    · simp [take, Reader.expect, Reader.refuse, found]

/-- At the end of the input the cursor stays, and each step is replied to as if it were the first one. -/
theorem takeAll_of_atEnd {c : Cursor} (ends : c.atEnd = true) (steps : List Step) :
    takeAll c steps = (steps.map fun step => (step.take c).1, c) := by
  induction steps with
  | nil => rfl
  | cons step steps ih => simp only [takeAll, take_of_atEnd ends, ih, List.map_cons]

/-! ## Tokens handed out -/

/-- The token that a step hands out with its reply, which is the one that advancing or expecting took away. Looking
hands out none, and the end of the input is never taken away. -/
def handed : Step → Reply → List Token
  | advance, .token t | expect _ _, .token t => if t.kind = .endOfInput then [] else [t]
  | _, _ => []

/-- The tokens that steps hand out with their replies, in order. -/
def handedAll (steps : List Step) (replies : List Reply) : List Token :=
  (List.zipWith handed steps replies).flatten

/-- What a cursor stands for is the token that advancing takes away and what it leaves. -/
theorem toList_eq_handed_tail (c : Cursor) :
    c.toList = (if c.head.kind = .endOfInput then [] else [c.head]) ++ c.tail.toList := by
  obtain ⟨more, whole⟩ := c.toList_eq_head_cons
  rw [toList_tail, whole]
  split <;> rfl

/-- What a step takes off the tokens left is what it hands out. -/
theorem toList_eq_handed (c : Cursor) (step : Step) :
    c.toList = step.handed (step.take c).1 ++ (step.take c).2.toList := by
  cases step with
  | peek | peekKind | atEnd | remaining => rfl
  | advance => exact toList_eq_handed_tail c
  | expect expected phrase =>
    by_cases found : c.head.kind ∈ expected
    · simp only [take, Reader.expect, if_pos found]
      exact toList_eq_handed_tail c
    · simp only [take, Reader.expect, if_neg found]
      rfl

/-- What a cursor stands for is the tokens that steps hand out and what they leave. -/
theorem toList_eq_handedAll (c : Cursor) (steps : List Step) :
    c.toList = handedAll steps (takeAll c steps).1 ++ (takeAll c steps).2.toList := by
  -- on the steps; the tokens handed out add up
  induction steps generalizing c with
  | nil => rfl
  | cons step steps ih =>
    calc c.toList = step.handed (step.take c).1 ++ (step.take c).2.toList := toList_eq_handed c step
      _ = step.handed (step.take c).1 ++ (handedAll steps (takeAll (step.take c).2 steps).1 ++
            (takeAll (step.take c).2 steps).2.toList) := by rw [← ih]
      _ = handedAll (step :: steps) (takeAll c (step :: steps)).1 ++ (takeAll c (step :: steps)).2.toList := by
        simp only [handedAll, takeAll, List.zipWith_cons_cons, List.flatten_cons, List.append_assoc]

/-! ## Cursors made from tokens -/

/-- The replies to steps on a cursor made from tokens. -/
def replies (tokens : List Token) (steps : List Step) : List Reply :=
  (takeAll (.ofList tokens) steps).1

/-- The tokens left after steps on a cursor made from tokens. -/
def left (tokens : List Token) (steps : List Step) : List Token :=
  (takeAll (.ofList tokens) steps).2.toList

/-- What holds after steps on a cursor made from tokens, when a token is next and others are left behind it. -/
structure Keeps (tokens : List Token) (steps : List Step) (next : Token) (more : List Token) : Prop where
  /-- These are the tokens left, and the end of the input is the last of them. -/
  left_eq : left tokens steps = next :: more
  ends : ∃ ahead last, next :: more = ahead ++ [last] ∧ last.kind = .endOfInput
  /-- On the bare sequence every step has an outcome, the same as on the cursor. -/
  bare : takeBareAll? (withEnd tokens) steps = some (replies tokens steps, next :: more)
  /-- The tokens handed out are those that stood before the ones left, each once. -/
  handed_eq : withEnd tokens = handedAll steps (replies tokens steps) ++ next :: more
  /-- A token of an expected kind is given and taken away, unless it ends the input. -/
  given : ∀ (expected : List Kind) (phrase : Phrase), next.kind ∈ expected →
    replies tokens (steps ++ [expect expected phrase]) = replies tokens steps ++ [Reply.token next] ∧
    left tokens (steps ++ [expect expected phrase]) = if next.kind = .endOfInput then next :: more else more
  /-- A token of another kind is described and stays. -/
  described : ∀ (expected : List Kind) (phrase : Phrase), next.kind ∉ expected →
    replies tokens (steps ++ [expect expected phrase]) =
      replies tokens steps ++ [Reply.refusal (.unexpected phrase expected next)] ∧
    left tokens (steps ++ [expect expected phrase]) = next :: more
  /-- At an end of the input no further step takes anything away, and advancing keeps giving that token. -/
  ended : next.kind = .endOfInput → ∀ later, left tokens (steps ++ later) = next :: more ∧
    ∀ n, later[n]? = some .advance → (replies tokens (steps ++ later))[steps.length + n]? = some (.token next)

section After

variable (tokens : List Token) (steps : List Step)

/-- Further steps are replied to where the first ones have led. -/
theorem replies_append (more : List Step) :
    replies tokens (steps ++ more) = replies tokens steps ++ (takeAll (takeAll (.ofList tokens) steps).2 more).1 := by
  rw [replies, takeAll_append]
  rfl

/-- Further steps leave what they leave where the first ones have led. -/
theorem left_append (more : List Step) :
    left tokens (steps ++ more) = (takeAll (takeAll (.ofList tokens) steps).2 more).2.toList := by
  rw [left, takeAll_append]

/-- What an expectation adds to the replies, and what it leaves. -/
theorem expect_after {next : Token} {more : List Token} (left_eq : left tokens steps = next :: more)
    (expected : List Kind) (phrase : Phrase) :
    (replies tokens (steps ++ [expect expected phrase]), left tokens (steps ++ [expect expected phrase])) =
      if next.kind ∈ expected then
        (replies tokens steps ++ [Reply.token next], if next.kind = .endOfInput then next :: more else more)
      else (replies tokens steps ++ [Reply.refusal (.unexpected phrase expected next)], next :: more) := by
  rw [replies_append, left_append]
  unfold left at left_eq
  generalize (takeAll (.ofList tokens) steps).2 = c at left_eq ⊢
  have head : c.head = next := head_eq_of_toList left_eq
  have tail := toList_tail c
  rw [left_eq, head, List.tail_cons] at tail
  by_cases found : next.kind ∈ expected
  · simp [takeAll, take, Reader.expect, head, found, tail]
  · simp [takeAll, take, Reader.expect, Reader.refuse, head, found, left_eq]

end After

/-- Whatever steps are taken on a cursor made from tokens, none is without an outcome. What is left afterwards is an
end part of the tokens with the end of the input behind them, and that comes last in it; the tokens handed out are
just those before it, in order. Expecting goes by the kind of the next token alone, and describes that token when it
refuses. At an end of the input, be it in the middle, the cursor stays for good. -/
theorem steps_keep_tokens (tokens : List Token) (steps : List Step) : ∃ next more, Keeps tokens steps next more := by
  obtain ⟨more, left_eq⟩ := (takeAll (.ofList tokens) steps).2.toList_eq_head_cons
  have start := toList_ofList_eq_withEnd tokens
  refine ⟨(takeAll (.ofList tokens) steps).2.head, more, left_eq, ?_, ?_, ?_, ?_, ?_, ?_⟩
  · exact ⟨_, _, left_eq.symm, (takeAll (.ofList tokens) steps).2.last_ends⟩
  · rw [← start, takeBareAll?_toList, left_eq]
    rfl
  · rw [← start, ← left_eq]
    exact toList_eq_handedAll (.ofList tokens) steps
  · intro expected phrase found
    have after := expect_after tokens steps left_eq expected phrase
    rwa [if_pos found, Prod.mk.injEq] at after
  · intro expected phrase missing
    have after := expect_after tokens steps left_eq expected phrase
    rwa [if_neg missing, Prod.mk.injEq] at after
  · intro ends later
    have stays := takeAll_of_atEnd (atEnd_iff.2 ends) later
    constructor
    · rw [left_append, stays, left_eq]
    · intro n asked
      have length : (replies tokens steps).length = steps.length := length_takeAll _ _
      rw [replies_append, stays, ← length, List.getElem?_append_right (Nat.le_add_right _ _), Nat.add_sub_cancel_left,
        List.getElem?_map, asked]
      rfl

/-- Behind an end of the input in the middle a word is never reached, and the end is given as often as it is asked
for. -/
example :
    let tokens : List Token := [⟨.digits, "5", 1, 1, ⟨0, 1⟩⟩, ⟨.endOfInput, "", 1, 2, ⟨1, 1⟩⟩,
      ⟨.word, "a", 1, 3, ⟨2, 3⟩⟩]
    let steps : List Step := [.advance, .advance, .expect [.word] .condition, .expect [.endOfInput] .program,
      .remaining]
    handedAll steps (replies tokens steps) = tokens.take 1 ∧ (replies tokens steps)[4]? = some (.count 3) := by decide

end WatchLang.Cursor.Step
