import WatchLang.Diagnostic.Basic
import WatchLang.Token.Cursor

/-!
# Readers

A reader moves a cursor and either yields a value or refuses with a diagnostic. Either way it leaves the cursor
where it came to: behind the tokens that fitted, before the one that did not. Only `expect` takes a token, and all
readers are put together from it. The lemmas at the end say that such readers never go back, and that expecting a
reserved word takes it.
-/

set_option autoImplicit false

namespace WatchLang

/-- What reads from a cursor, and may refuse. -/
abbrev Reader (α : Type) : Type :=
  EStateM Diagnostic Cursor α

namespace Reader

/-- Refuse the next token, which is none of those that the phrase can go on with. -/
def refuse {α : Type} (phrase : Phrase) (expected : List Kind) : Reader α := fun cursor =>
  .error (.unexpected phrase expected cursor.head) cursor

/-- Take the next token if it is of one of the expected kinds. -/
def expect (expected : List Kind) (phrase : Phrase) : Reader Token := fun cursor =>
  if cursor.head.kind ∈ expected then .ok cursor.head cursor.tail
  else refuse phrase expected cursor

/-- Nothing more: the end of the input has to be next. -/
def finish (phrase : Phrase) (expected : List Kind) : Reader Unit := fun cursor =>
  if cursor.atEnd then .ok () cursor
  else refuse phrase (expected ++ [.endOfInput]) cursor

/-- The value of a reader on a sequence of tokens. -/
def onTokens {α : Type} (reader : Reader α) (tokens : List Token) : Except Diagnostic α :=
  match reader (.ofList tokens) with
  | .ok value _ => .ok value
  | .error diagnostic _ => .error diagnostic

/-! ## Readers only move forward -/

/-- A reader that never leaves more tokens than it was given. -/
def Forward {α : Type} (reader : Reader α) : Prop :=
  ∀ cursor value rest, reader cursor = .ok value rest → rest.remaining ≤ cursor.remaining

/-- A reader that, when it yields a value, has taken a token. -/
def Taking {α : Type} (reader : Reader α) : Prop :=
  ∀ cursor value rest, reader cursor = .ok value rest → rest.remaining < cursor.remaining

/-- A token that was expected is the head of the cursor, and the cursor advances. -/
theorem expect_eq_ok {expected : List Kind} {phrase : Phrase} {cursor rest : Cursor} {t : Token}
    (h : expect expected phrase cursor = .ok t rest) :
    cursor.head.kind ∈ expected ∧ t = cursor.head ∧ rest = cursor.tail := by
  unfold expect at h
  split at h
  · next found => cases h; exact ⟨found, rfl, rfl⟩
  · cases h

/-- What two readers yield one after the other, the first yields a value for and then the second. -/
theorem bind_eq_ok {α β : Type} {reader : Reader α} {next : α → Reader β} {cursor rest : Cursor}
    {b : β} (h : (reader >>= next) cursor = .ok b rest) :
    ∃ a middle, reader cursor = .ok a middle ∧ next a middle = .ok b rest := by
  simp only [bind, EStateM.bind] at h
  split at h
  · next a middle first => exact ⟨a, middle, first, h⟩
  · cases h

/-- Yielding a value does not move. -/
theorem forward_pure {α : Type} (a : α) : Forward (pure a : Reader α) := by
  intro cursor value rest h
  cases h
  exact Nat.le_refl _

/-- A refusal yields no value to move for. -/
theorem forward_throw {α : Type} (d : Diagnostic) : Forward (throw d : Reader α) := by
  intro cursor value rest h
  cases h

/-- Expecting a token moves forward at most. -/
theorem forward_expect (expected : List Kind) (phrase : Phrase) :
    Forward (expect expected phrase) := by
  intro cursor t rest h
  obtain ⟨-, -, rfl⟩ := expect_eq_ok h
  exact cursor.remaining_tail_le

/-- Two readers that only move forward do so one after the other. -/
theorem Forward.bind {α β : Type} {reader : Reader α} {next : α → Reader β} (first : Forward reader)
    (second : ∀ a, Forward (next a)) : Forward (reader >>= next) := by
  intro cursor value rest h
  obtain ⟨a, middle, h₁, h₂⟩ := bind_eq_ok h
  exact Nat.le_trans (second a _ _ _ h₂) (first _ _ _ h₁)

/-- Expecting a reserved word takes it, and what follows moves on from there. -/
theorem taking_keyword {β : Type} (k : Keyword) (phrase : Phrase) {next : Token → Reader β}
    (second : ∀ a, Forward (next a)) : Taking (expect [.keyword k] phrase >>= next) := by
  intro cursor value rest h
  obtain ⟨a, middle, h₁, h₂⟩ := bind_eq_ok h
  obtain ⟨found, -, rfl⟩ := expect_eq_ok h₁
  have away : cursor.atEnd = false := by
    simp only [List.mem_singleton] at found
    simp [Cursor.atEnd, found]
  exact Nat.lt_of_le_of_lt (second a _ _ _ h₂) (Cursor.remaining_tail_lt away)

end Reader

end WatchLang
