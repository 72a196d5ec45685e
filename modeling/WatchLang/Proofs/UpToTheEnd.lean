import WatchLang.Token.Cursor

/-!
# What a cursor shows

Reading never passes the first end of the input, so only the tokens before it can become part of a phrase.
`beforeEnd` is that part of a list and `Cursor.body` that of a cursor; `Cursor.skip` is the cursor some tokens
further on. Together they let a reading be told by lists alone: a cursor is at the end when its body is empty, and
otherwise its body is the head followed by the body of its tail.
-/

set_option autoImplicit false

namespace WatchLang

/-- The tokens before the first end of the input, all of them if it never comes. -/
def beforeEnd (tokens : List Token) : List Token :=
  tokens.takeWhile fun t => t.kind ≠ .endOfInput

/-- No token before the end of the input is one. -/
theorem kind_ne_of_mem_beforeEnd {tokens : List Token} {t : Token} (h : t ∈ beforeEnd tokens) :
    t.kind ≠ .endOfInput := by
  have kept := List.all_eq_true.1 List.all_takeWhile t h
  simpa using kept

/-- Where the input does not end in the first tokens, these are kept and the rest is cut. -/
theorem beforeEnd_append {tokens : List Token} (h : ∀ t ∈ tokens, t.kind ≠ .endOfInput)
    (more : List Token) : beforeEnd (tokens ++ more) = tokens ++ beforeEnd more := by
  apply List.takeWhile_append_of_pos
  intro t member
  simpa using h t member

/-- Where no token is an end of the input, all stand before it. -/
theorem beforeEnd_eq_self {tokens : List Token} (h : ∀ t ∈ tokens, t.kind ≠ .endOfInput) :
    beforeEnd tokens = tokens := by
  have whole := beforeEnd_append h []
  simpa [beforeEnd] using whole

/-- A first token that is no end of the input stands before it. -/
theorem beforeEnd_cons {t : Token} (h : t.kind ≠ .endOfInput) (more : List Token) :
    beforeEnd (t :: more) = t :: beforeEnd more := by
  simp [beforeEnd, h]

/-- Tokens before an end of the input stand before the end up to their own first one, whatever follows. -/
theorem beforeEnd_append_end (tokens after : List Token) {e : Token} (h : e.kind = .endOfInput) :
    beforeEnd (tokens ++ e :: after) = beforeEnd tokens := by
  induction tokens with
  | nil => simp [beforeEnd, h]
  | cons t ts ih =>
    unfold beforeEnd at ih ⊢
    rw [List.cons_append, List.takeWhile_cons, List.takeWhile_cons, ih]

/-- Tokens that are no end of the input are all before one that is put behind them. -/
theorem beforeEnd_ended {tokens : List Token} (h : ∀ t ∈ tokens, t.kind ≠ .endOfInput) {e : Token}
    (ends : e.kind = .endOfInput) : beforeEnd (tokens ++ [e]) = tokens := by
  rw [beforeEnd_append_end tokens [] ends, beforeEnd_eq_self h]

namespace Cursor

/-- The tokens that a cursor shows before the end of the input. -/
def body (c : Cursor) : List Token :=
  beforeEnd c.toList

/-- The cursor some tokens further on. -/
def skip (c : Cursor) : Nat → Cursor
  | 0 => c
  | n + 1 => c.tail.skip n

/-- Skipping no token changes nothing. -/
@[simp] theorem skip_zero (c : Cursor) : c.skip 0 = c := rfl

/-- Skipping is additive. -/
theorem skip_add (c : Cursor) (m n : Nat) : c.skip (m + n) = (c.skip m).skip n := by
  induction m generalizing c with
  | zero => rw [Nat.zero_add, skip_zero]
  | succ m ih =>
    rw [Nat.succ_add]
    exact ih c.tail

/-- A cursor is at its end if its head is the end of the input. -/
theorem atEnd_iff {c : Cursor} : c.atEnd = true ↔ c.head.kind = .endOfInput := by
  simp [atEnd]

/-- A cursor stands for a list that begins with its head. -/
theorem toList_eq_head_cons (c : Cursor) : ∃ more, c.toList = c.head :: more := by
  have first := c.head?_toList
  obtain ⟨more, h⟩ := List.head?_eq_some_iff.1 first
  exact ⟨more, h⟩

/-- The head of a cursor is the first of the tokens that it stands for. -/
theorem head_eq_of_toList {c : Cursor} {t : Token} {more : List Token} (h : c.toList = t :: more) : c.head = t := by
  have first := c.head?_toList
  rw [h, List.head?_cons, Option.some.injEq] at first
  exact first.symm

/-- At its end a cursor shows no tokens. -/
theorem body_of_atEnd {c : Cursor} (h : c.atEnd = true) : c.body = [] := by
  obtain ⟨more, whole⟩ := c.toList_eq_head_cons
  have ends := atEnd_iff.1 h
  simp [body, beforeEnd, whole, ends]

/-- Away from the end the head is the first token left to read. -/
theorem body_eq_cons {c : Cursor} (h : c.atEnd = false) : c.body = c.head :: c.tail.body := by
  have away : c.head.kind ≠ .endOfInput := by
    intro ends
    rw [atEnd_iff.2 ends] at h
    cases h
  simp [body, beforeEnd, toList_eq_cons h, away]

/-- A cursor shows no tokens exactly at its end. -/
theorem body_eq_nil_iff {c : Cursor} : c.body = [] ↔ c.atEnd = true := by
  cases h : c.atEnd with
  | true => simp [body_of_atEnd h]
  | false => simp [body_eq_cons h]

/-- What the first token left to read says about the cursor. -/
theorem of_body_eq_cons {c : Cursor} {t : Token} {more : List Token} (h : c.body = t :: more) :
    c.atEnd = false ∧ c.head = t ∧ c.tail.body = more := by
  have away : c.atEnd = false := by
    cases ends : c.atEnd with
    | true => rw [body_of_atEnd ends] at h; cases h
    | false => rfl
  rw [body_eq_cons away] at h
  obtain ⟨first, later⟩ := List.cons.inj h
  exact ⟨away, first, later⟩

/-- No token that a cursor shows is an end of the input. -/
theorem kind_ne_of_mem_body {c : Cursor} {t : Token} (h : t ∈ c.body) : t.kind ≠ .endOfInput :=
  kind_ne_of_mem_beforeEnd h

/-- Advancing takes the first of the tokens shown away. -/
@[simp] theorem body_tail (c : Cursor) : c.tail.body = c.body.tail := by
  cases h : c.atEnd with
  | true => rw [tail_of_atEnd h, body_of_atEnd h, List.tail_nil]
  | false => rw [body_eq_cons h, List.tail_cons]

/-- Skipping takes as many of the tokens shown away. -/
@[simp] theorem body_skip (c : Cursor) (n : Nat) : (c.skip n).body = c.body.drop n := by
  induction n generalizing c with
  | zero => rfl
  | succ n ih =>
    have step := ih c.tail
    rw [body_tail, List.drop_tail] at step
    exact step

/-- Behind the tokens of two lists the cursor is where it is behind those of the second, gone on from the first. -/
theorem skip_append (c : Cursor) (first second : List Token) :
    c.skip (first ++ second).length = (c.skip first.length).skip second.length := by
  rw [List.length_append, skip_add]

/-- What is left to read begins with two lists of tokens when it begins with the first, and behind it with the
second. -/
theorem append_prefix_body_iff {c : Cursor} {first second : List Token} :
    first ++ second <+: c.body ↔ first <+: c.body ∧ second <+: (c.skip first.length).body := by
  rw [body_skip]
  constructor
  · rintro ⟨more, body⟩
    rw [← body, List.append_assoc, List.drop_left]
    exact ⟨List.prefix_append first _, List.prefix_append second more⟩
  · rintro ⟨⟨more, body⟩, begins⟩
    rw [← body, List.drop_left] at begins
    rw [← body]
    exact (List.prefix_append_right_inj first).2 begins

/-- Away from the end, the token behind the first tokens left to read is the next one left. -/
theorem exists_body_eq_append {c : Cursor} {taken : List Token} (begins : taken <+: c.body)
    (away : (c.skip taken.length).head.kind ≠ .endOfInput) :
    ∃ more, c.body = taken ++ (c.skip taken.length).head :: more := by
  obtain ⟨later, body⟩ := begins
  have there : (c.skip taken.length).atEnd = false := by
    cases ends : (c.skip taken.length).atEnd with
    | true => exact absurd (atEnd_iff.1 ends) away
    | false => rfl
  have rest := body_eq_cons there
  rw [body_skip, ← body, List.drop_left] at rest
  exact ⟨_, by rw [← body, ← rest]⟩

/-- Tokens that stand next, none of which ends the input, are shown. -/
theorem prefix_body {c : Cursor} {first : List Token} (proper : ∀ t ∈ first, t.kind ≠ .endOfInput)
    (begins : first <+: c.toList) : first <+: c.body := by
  obtain ⟨more, whole⟩ := begins
  rw [body, ← whole, beforeEnd_append proper]
  exact List.prefix_append _ _

/-- Behind the first tokens left to read the input ends just when they are all of them. -/
theorem atEnd_skip_iff {c : Cursor} {taken : List Token} (begins : taken <+: c.body) :
    (c.skip taken.length).atEnd = true ↔ taken = c.body := by
  obtain ⟨more, body⟩ := begins
  rw [← body_eq_nil_iff, body_skip, ← body, List.drop_left]
  simp

/-- Up to the end of the input, the head after some tokens is the token of the list with that index. -/
theorem getElem?_toList_of_le {c : Cursor} {n : Nat} (h : n ≤ c.body.length) :
    c.toList[n]? = some (c.skip n).head := by
  induction n generalizing c with
  | zero => rw [← List.head?_eq_getElem?, head?_toList, skip_zero]
  | succ n ih =>
    cases ends : c.atEnd with
    | true => rw [body_of_atEnd ends] at h; cases h
    | false =>
      rw [body_eq_cons ends, List.length_cons] at h
      rw [toList_eq_cons ends, List.getElem?_cons_succ]
      exact ih (Nat.le_of_succ_le_succ h)

/-- The tokens that a cursor is made from are followed by an end of the input, unless they end in one. -/
theorem toList_ofList (tokens : List Token) :
    ∃ extra : List Token, (∀ e ∈ extra, e.kind = .endOfInput) ∧
      (ofList tokens).toList = tokens ++ extra := by
  unfold ofList
  split
  · next empty =>
    rw [List.getLast?_eq_none_iff] at empty
    subst empty
    exact ⟨[.endAt .beginning], by simp [Token.endAt, Token.readAt], rfl⟩
  · next t ending =>
    split
    · obtain ⟨before, rfl⟩ := List.getLast?_eq_some_iff.1 ending
      refine ⟨[], by simp, ?_⟩
      rw [List.append_nil, List.dropLast_concat, toList]
    · exact ⟨[endBehind t], by simp [endBehind], rfl⟩

/-- A cursor shows the tokens that it is made from, up to the first end of the input. -/
@[simp] theorem body_ofList (tokens : List Token) : (ofList tokens).body = beforeEnd tokens := by
  obtain ⟨extra, ends, whole⟩ := toList_ofList tokens
  rw [body, whole]
  cases extra with
  | nil => rw [List.append_nil]
  | cons e extra => exact beforeEnd_append_end tokens extra (ends e List.mem_cons_self)

/-- A cursor on tokens with an end of the input behind them has this end as its own. -/
theorem ofList_append_end (before : List Token) {e : Token} (ends : e.kind = .endOfInput) :
    ofList (before ++ [e]) = ⟨before, e, ends⟩ := by
  unfold ofList
  rw [List.getLast?_concat]
  simp only [ends, dite_true, List.dropLast_concat]

/-- One token further on, a cursor made from tokens is the one made from the tokens behind it. -/
theorem tail_ofList_cons {t : Token} (away : t.kind ≠ .endOfInput) {more : List Token} (nonempty : more ≠ []) :
    (ofList (t :: more)).tail = ofList more := by
  have inside : ∀ rest last ends, (⟨t :: rest, last, ends⟩ : Cursor).tail = ⟨rest, last, ends⟩ := by
    intro rest last ends
    simp [tail, atEnd, head, away]
  unfold ofList
  rw [List.getLast?_cons_of_ne_nil nonempty]
  split
  · next empty => exact absurd (List.getLast?_eq_none_iff.1 empty) nonempty
  · split
    · rw [List.dropLast_cons_of_ne_nil nonempty, inside]
    · exact inside _ _ _

/-- Skipping tokens that are no end of the input leads to the cursor on those behind them. -/
theorem skip_ofList_append {first more : List Token} (proper : ∀ t ∈ first, t.kind ≠ .endOfInput)
    (nonempty : more ≠ []) : (ofList (first ++ more)).skip first.length = ofList more := by
  induction first with
  | nil => rfl
  | cons t first ih =>
    obtain ⟨away, later⟩ := List.forall_mem_cons.1 proper
    have behind : first ++ more ≠ [] := List.append_ne_nil_of_right_ne_nil _ nonempty
    rw [List.cons_append, List.length_cons, skip, tail_ofList_cons away behind, ih later]

end Cursor

end WatchLang
