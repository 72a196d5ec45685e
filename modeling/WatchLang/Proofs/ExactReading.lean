import WatchLang.Program.Reader
import WatchLang.Proofs.UpToTheEnd

/-!
# Readers that are exact

A reader is exact for a relation between tokens and values when it yields a value on just the tokens that spell one,
and when each of its refusals comes at the first token with which no phrase goes on and lists just the kinds with which
one does. Exactness is said once for a reader and carries over to what is put together from it: `Exact.bind` reads one
phrase after another, and the tokens of the first are told from those of the second because no phrase of an exact
reader begins another (`Exact.unique`). The two ways for a sequence to be refused are `Blocked.followed`, in
the first phrase, and `Blocked.behind`, in the second.
-/

set_option autoImplicit false

namespace WatchLang.Reader

/-- The tokens that spell something. -/
def Phrases {α : Type} (Spelled : List Token → α → Prop) (tokens : List Token) : Prop :=
  ∃ a, Spelled tokens a

/-- Whether a kind can come next after some tokens on the way to a phrase. The end of the input can when the tokens
are a phrase already. -/
def CanFollow (phrases : List Token → Prop) (taken : List Token) (k : Kind) : Prop :=
  (k = .endOfInput ∧ phrases taken) ∨
    (k ≠ .endOfInput ∧ ∃ t more, t.kind = k ∧ phrases (taken ++ t :: more))

/-- Tokens that begin a phrase, a next token with which no phrase goes on, and the kinds with which one does. -/
structure Blocked (phrases : List Token → Prop) (taken : List Token) (next : Token)
    (expected : List Kind) : Prop where
  viable : ∃ more, phrases (taken ++ more)
  stuck : ∀ more, ¬ phrases (taken ++ next :: more)
  lists : ∀ k, k ∈ expected ↔ CanFollow phrases taken k
  distinct : expected.Nodup

/-- Where a refusal leaves a cursor that stands before the token that did not fit: there, if the token is of no expected
kind; and behind the token, if its kind was expected but it is a symbol of unknown text. -/
def LeftAt (cursor : Cursor) (expected : List Kind) (rest : Cursor) : Prop :=
  (cursor.head.kind ∉ expected ∧ rest = cursor) ∨
    (cursor.head.kind ∈ expected ∧ cursor.head.kind = .symbol ∧ Comparison.ofSymbol? cursor.head.lexeme = none ∧
      rest = cursor.tail)

/-- A refusal that took some tokens of a phrase and was blocked by the next one. -/
structure Refusal (phrases : List Token → Prop) (cursor : Cursor) (d : Diagnostic) (rest : Cursor)
    (taken : List Token) (expected : List Kind) : Prop where
  begins : taken <+: cursor.body
  told : ∃ phrase, d = .unexpected phrase expected (cursor.skip taken.length).head
  blocked : Blocked phrases taken (cursor.skip taken.length).head expected
  left : LeftAt (cursor.skip taken.length) expected rest

/-- A reader of just the tokens that spell a value, which refuses others as early as can be. -/
structure Exact {α : Type} (reader : Reader α) (Spelled : List Token → α → Prop) : Prop where
  proper : ∀ {tokens a}, Spelled tokens a → ∀ t ∈ tokens, t.kind ≠ .endOfInput
  inhabited : ∃ tokens, Phrases Spelled tokens
  yields : ∀ {cursor a rest}, reader cursor = .ok a rest ↔
    ∃ taken, Spelled taken a ∧ taken <+: cursor.body ∧ rest = cursor.skip taken.length
  refuses : ∀ {cursor d rest}, reader cursor = .error d rest →
    ∃ taken expected, Refusal (Phrases Spelled) cursor d rest taken expected

/-! ## Being blocked -/

/-- The same kinds can follow in two families of phrases whose members go on alike. -/
theorem canFollow_congr {phrases others : List Token → Prop} {taken prior : List Token}
    (h : ∀ more, phrases (taken ++ more) ↔ others (prior ++ more)) (k : Kind) :
    CanFollow phrases taken k ↔ CanFollow others prior k := by
  have now : phrases taken ↔ others prior := by
    simpa using h []
  unfold CanFollow
  simp only [now, h]

/-- What is blocked in a family of phrases is blocked in another whose members go on alike. -/
theorem Blocked.congr {phrases others : List Token → Prop} {taken prior : List Token} {next : Token}
    {expected : List Kind} (h : ∀ more, phrases (taken ++ more) ↔ others (prior ++ more))
    (blocked : Blocked phrases taken next expected) : Blocked others prior next expected where
  viable := by
    obtain ⟨more, phrase⟩ := blocked.viable
    exact ⟨more, (h more).1 phrase⟩
  stuck := by
    intro more phrase
    exact blocked.stuck more ((h (next :: more)).2 phrase)
  lists := by
    intro k
    rw [blocked.lists k]
    exact canFollow_congr h k
  distinct := blocked.distinct

/-- Tokens that are no phrase yet and that no phrase begins are blocked in the same way when something has to follow
the phrase. -/
theorem Blocked.followed {phrases sequences : List Token → Prop} {taken : List Token} {next : Token}
    {expected : List Kind} (blocked : Blocked phrases taken next expected)
    (unfinished : ¬ phrases taken)
    (complete : ∀ tokens, phrases tokens → ∃ more, sequences (tokens ++ more))
    (split : ∀ tokens, sequences (taken ++ tokens) →
      ∃ t more later, tokens = t :: more ++ later ∧ phrases (taken ++ t :: more)) :
    Blocked sequences taken next expected where
  viable := by
    obtain ⟨more, phrase⟩ := blocked.viable
    obtain ⟨later, sequence⟩ := complete _ phrase
    exact ⟨more ++ later, by rwa [← List.append_assoc]⟩
  stuck := by
    intro tokens sequence
    obtain ⟨t, more, later, same, phrase⟩ := split _ sequence
    obtain ⟨rfl, -⟩ := List.cons.inj same
    exact blocked.stuck more phrase
  lists := by
    intro k
    rw [blocked.lists k]
    constructor
    · rintro (⟨-, phrase⟩ | ⟨away, t, more, kind, phrase⟩)
      · exact absurd phrase unfinished
      · obtain ⟨later, sequence⟩ := complete _ phrase
        refine Or.inr ⟨away, t, more ++ later, kind, ?_⟩
        simpa using sequence
    · rintro (⟨-, sequence⟩ | ⟨away, t, tokens, kind, sequence⟩)
      · rw [← List.append_nil taken] at sequence
        obtain ⟨t, more, later, same, -⟩ := split _ sequence
        cases same
      · obtain ⟨t', more, later, same, phrase⟩ := split _ sequence
        obtain ⟨rfl, -⟩ := List.cons.inj same
        exact Or.inr ⟨away, t, more, kind, phrase⟩
  distinct := blocked.distinct

/-- A refusal behind tokens is one of what the tokens and the phrase after them make up. -/
theorem Refusal.behind {phrases others : List Token → Prop} {cursor rest : Cursor} {d : Diagnostic}
    {first taken : List Token} {expected : List Kind}
    (refusal : Refusal phrases (cursor.skip first.length) d rest taken expected) (begins : first <+: cursor.body)
    (h : ∀ more, others (first ++ more) ↔ phrases more) :
    Refusal others cursor d rest (first ++ taken) expected where
  begins := Cursor.append_prefix_body_iff.2 ⟨begins, refusal.begins⟩
  told := by
    rw [Cursor.skip_append]
    exact refusal.told
  blocked := by
    rw [Cursor.skip_append]
    refine refusal.blocked.congr ?_
    intro more
    rw [List.append_assoc]
    exact (h (taken ++ more)).symm
  left := by
    rw [Cursor.skip_append]
    exact refusal.left

/-- A list that does not end within some tokens, but begins what they begin, goes on behind them. -/
theorem exists_of_not_prefix {taken tokens first second : List Token}
    (same : taken ++ tokens = first ++ second) (late : ¬ first <+: taken) :
    ∃ t more, tokens = t :: more ++ second ∧ first = taken ++ t :: more := by
  rcases List.append_eq_append_iff.1 same with ⟨more, rfl, rfl⟩ | ⟨more, rfl, -⟩
  · cases more with
    | nil =>
      rw [List.append_nil] at late
      exact absurd List.prefix_rfl late
    | cons t more => exact ⟨t, more, rfl, rfl⟩
  · exact absurd (List.prefix_append first more) late

/-! ## Exact readers -/

/-- Where the first of two readers yields a value, the second goes on from there. -/
theorem bind_of_ok {α β : Type} {reader : Reader α} {next : α → Reader β} {cursor middle : Cursor} {a : α}
    (h : reader cursor = .ok a middle) : (reader >>= next) cursor = next a middle := by
  simp only [bind, EStateM.bind, h]

/-- Where the first of two readers refuses, both together do. -/
theorem bind_of_error {α β : Type} {reader : Reader α} {next : α → Reader β} {cursor rest : Cursor} {d : Diagnostic}
    (h : reader cursor = .error d rest) : (reader >>= next) cursor = .error d rest := by
  simp only [bind, EStateM.bind, h]

/-- A refusal of one reader after another is that of the first, or that of the second behind the first. -/
theorem bind_eq_error {α β : Type} {reader : Reader α} {next : α → Reader β} {cursor rest : Cursor}
    {d : Diagnostic} (h : (reader >>= next) cursor = .error d rest) :
    reader cursor = .error d rest ∨
      ∃ a middle, reader cursor = .ok a middle ∧ next a middle = .error d rest := by
  simp only [bind, EStateM.bind] at h
  split at h
  · next a middle first => exact Or.inr ⟨a, middle, first, h⟩
  · next d' rest' first =>
    cases h
    exact Or.inl first

/-- A reader yields at most one value on a cursor. -/
theorem ok_unique {α : Type} {reader : Reader α} {cursor rest rest' : Cursor} {a a' : α}
    (h : reader cursor = .ok a rest) (h' : reader cursor = .ok a' rest') : a = a' ∧ rest = rest' := by
  rw [h] at h'
  cases h'
  exact ⟨rfl, rfl⟩

/-- Skipping two beginnings of what is left to read leads to one cursor only if they are the same. -/
theorem prefix_eq_of_skip_eq {cursor : Cursor} {first second : List Token} (h : first <+: cursor.body)
    (h' : second <+: cursor.body) (same : cursor.skip first.length = cursor.skip second.length) :
    first = second := by
  have left := congrArg (fun c : Cursor => c.body.length) same
  simp only [Cursor.body_skip, List.length_drop] at left
  have le := h.length_le
  have le' := h'.length_le
  have lengths : first.length = second.length := by omega
  rw [List.prefix_iff_eq_take.1 h, List.prefix_iff_eq_take.1 h', lengths]

namespace Exact

variable {α β : Type} {reader : Reader α} {Spelled : List Token → α → Prop}

/-- No phrase begins another, and tokens spell one value. -/
theorem eq_of_prefix (exact : Exact reader Spelled) {first second : List Token} {a b : α}
    (spelled : Spelled first a) (spelled' : Spelled second b) (begins : first <+: second) :
    first = second ∧ a = b := by
  -- On the longer of the two both are read, and one cursor is read in one way only.
  have body : (Cursor.ofList second).body = second := by
    rw [Cursor.body_ofList, beforeEnd_eq_self (exact.proper spelled')]
  have begins' : first <+: (Cursor.ofList second).body := by rwa [body]
  have whole : second <+: (Cursor.ofList second).body := by simp only [body, List.prefix_rfl]
  have short := exact.yields.2 ⟨first, spelled, begins', rfl⟩
  have long := exact.yields.2 ⟨second, spelled', whole, rfl⟩
  obtain ⟨value, rest⟩ := ok_unique short long
  exact ⟨prefix_eq_of_skip_eq begins' whole rest, value⟩

/-- Of two phrases that begin one sequence neither is longer, so they are the same. -/
theorem unique (exact : Exact reader Spelled) {first second more later : List Token} {a b : α}
    (spelled : Spelled first a) (spelled' : Spelled second b) (same : first ++ more = second ++ later) :
    first = second ∧ a = b := by
  have begins : first <+: first ++ more := List.prefix_append first more
  have begins' : second <+: first ++ more := ⟨later, same.symm⟩
  rcases List.prefix_or_prefix_of_prefix begins begins' with short | short
  · exact exact.eq_of_prefix spelled spelled' short
  · obtain ⟨tokens, values⟩ := exact.eq_of_prefix spelled' spelled short
    exact ⟨tokens.symm, values.symm⟩

/-- No phrase of an exact reader goes on behind another one. -/
theorem not_longer (exact : Exact reader Spelled) {taken more : List Token} {next : Token} {a b : α}
    (spelled : Spelled taken a) : ¬ Spelled (taken ++ next :: more) b := by
  intro longer
  obtain ⟨same, -⟩ := exact.eq_of_prefix spelled longer (List.prefix_append _ _)
  have lengths := congrArg List.length same
  rw [List.length_append, List.length_cons] at lengths
  omega

/-- Behind a complete phrase every token is blocked, and only the end of the input can follow. -/
theorem blocked_behind (exact : Exact reader Spelled) {taken : List Token} {a : α} (spelled : Spelled taken a)
    (next : Token) : Blocked (Phrases Spelled) taken next [.endOfInput] where
  viable := ⟨[], a, by rwa [List.append_nil]⟩
  stuck := by
    rintro more ⟨b, longer⟩
    exact exact.not_longer spelled longer
  lists := by
    intro k
    rw [List.mem_singleton]
    constructor
    · intro ends
      exact Or.inl ⟨ends, a, spelled⟩
    · rintro (⟨ends, -⟩ | ⟨-, t, more, -, b, longer⟩)
      · exact ends
      · exact absurd longer (exact.not_longer spelled)
  distinct := by decide

/-- Where an exact reader refuses a cursor, no phrase of it comes next. -/
theorem not_prefix_of_refused (exact : Exact reader Spelled) {cursor rest : Cursor} {d : Diagnostic}
    (refused : reader cursor = .error d rest) {tokens : List Token} {a : α}
    (spelled : Spelled tokens a) : ¬ tokens <+: cursor.body := by
  intro begins
  have yielded := exact.yields.2 ⟨tokens, spelled, begins, rfl⟩
  rw [refused] at yielded
  cases yielded

/-- A reader that is exact for a spelling is so for an equivalent one. -/
theorem congr {Spelled' : List Token → α → Prop} (exact : Exact reader Spelled)
    (h : ∀ tokens a, Spelled tokens a ↔ Spelled' tokens a) : Exact reader Spelled' := by
  have same : Spelled = Spelled' := by
    funext tokens a
    exact propext (h tokens a)
  rwa [← same]

/-- Yielding a value is exact: no tokens spell just this value. -/
theorem pure (a : α) : Exact (pure a : Reader α) fun tokens b => tokens = [] ∧ b = a where
  proper := by
    rintro tokens b ⟨rfl, -⟩ t member
    cases member
  inhabited := ⟨[], a, rfl, rfl⟩
  yields := by
    intro cursor b rest
    constructor
    · intro h
      cases h
      exact ⟨[], ⟨rfl, rfl⟩, List.nil_prefix, rfl⟩
    · rintro ⟨-, ⟨rfl, rfl⟩, -, rfl⟩
      rfl
  refuses := by
    intro cursor d rest h
    cases h

/-- The tokens of one phrase and, behind them, those of another that depends on what the first spells. -/
def InSequence (Spelled : List Token → α → Prop) (Then : α → List Token → β → Prop)
    (tokens : List Token) (b : β) : Prop :=
  ∃ a first second, Spelled first a ∧ Then a second b ∧ tokens = first ++ second

/-- Behind a phrase just the phrases that may follow it complete the sequence. -/
theorem inSequence_append_iff (exact : Exact reader Spelled) {Then : α → List Token → β → Prop}
    {first : List Token} {a : α} (spelled : Spelled first a) (more : List Token) :
    Phrases (InSequence Spelled Then) (first ++ more) ↔ Phrases (Then a) more := by
  constructor
  · rintro ⟨b, a', first', second, spelled', follows, same⟩
    obtain ⟨rfl, rfl⟩ := exact.unique spelled spelled' same
    rw [List.append_cancel_left same]
    exact ⟨b, follows⟩
  · rintro ⟨b, follows⟩
    exact ⟨b, a, first, more, spelled, follows, rfl⟩

section Sequence

variable {next : α → Reader β} {Then : α → List Token → β → Prop} {cursor rest : Cursor}

/-- Exact readers one after the other yield what tokens spell in sequence. -/
theorem bind_eq_ok_iff (exact : Exact reader Spelled) (exacts : ∀ a, Exact (next a) (Then a)) {b : β} :
    (reader >>= next) cursor = .ok b rest ↔
      ∃ taken, InSequence Spelled Then taken b ∧ taken <+: cursor.body ∧
        rest = cursor.skip taken.length := by
  constructor
  · intro h
    obtain ⟨a, middle, h₁, h₂⟩ := bind_eq_ok h
    obtain ⟨first, spelled, begins, rfl⟩ := exact.yields.1 h₁
    obtain ⟨second, follows, begins', rfl⟩ := (exacts a).yields.1 h₂
    exact ⟨first ++ second, ⟨a, first, second, spelled, follows, rfl⟩,
      Cursor.append_prefix_body_iff.2 ⟨begins, begins'⟩, (cursor.skip_append first second).symm⟩
  · rintro ⟨-, ⟨a, first, second, spelled, follows, rfl⟩, begins, rfl⟩
    obtain ⟨begins, begins'⟩ := Cursor.append_prefix_body_iff.1 begins
    have h₁ := exact.yields.2 ⟨first, spelled, begins, rfl⟩
    have h₂ := (exacts a).yields.2 ⟨second, follows, begins', rfl⟩
    rw [bind_of_ok h₁, h₂, Cursor.skip_append]

/-- A refusal in the first phrase is one in the sequence: something has to follow the phrase, so what it can go on with
is what the sequence can. -/
theorem refusal_first (exact : Exact reader Spelled) (exacts : ∀ a, Exact (next a) (Then a))
    {d : Diagnostic} (refused : reader cursor = .error d rest) :
    ∃ taken expected, Refusal (Phrases (InSequence Spelled Then)) cursor d rest taken expected := by
  obtain ⟨taken, expected, refusal⟩ := exact.refuses refused
  refine ⟨taken, expected, { refusal with blocked := refusal.blocked.followed ?_ ?_ ?_ }⟩
  · rintro ⟨a, spelled⟩
    exact exact.not_prefix_of_refused refused spelled refusal.begins
  · rintro tokens ⟨a, spelled⟩
    obtain ⟨second, b, follows⟩ := (exacts a).inhabited
    exact ⟨second, b, a, tokens, second, spelled, follows, rfl⟩
  · rintro tokens ⟨b, a, first, second, spelled, follows, same⟩
    have late : ¬ first <+: taken := fun begins =>
      exact.not_prefix_of_refused refused spelled (begins.trans refusal.begins)
    obtain ⟨t, more, rfl, rfl⟩ := exists_of_not_prefix same late
    exact ⟨t, more, second, rfl, a, spelled⟩

/-- Reading one phrase after another is exact when both readers are. -/
theorem bind (exact : Exact reader Spelled) (exacts : ∀ a, Exact (next a) (Then a)) :
    Exact (reader >>= next) (InSequence Spelled Then) where
  proper := by
    rintro tokens b ⟨a, first, second, spelled, follows, rfl⟩ t member
    rcases List.mem_append.1 member with before | after
    · exact exact.proper spelled t before
    · exact (exacts a).proper follows t after
  inhabited := by
    obtain ⟨first, a, spelled⟩ := exact.inhabited
    obtain ⟨second, b, follows⟩ := (exacts a).inhabited
    exact ⟨first ++ second, b, a, first, second, spelled, follows, rfl⟩
  yields := exact.bind_eq_ok_iff exacts
  refuses := by
    intro cursor d rest h
    -- the first reader refuses, or the second one does behind the tokens of the first
    rcases bind_eq_error h with h₁ | ⟨a, middle, h₁, h₂⟩
    · exact exact.refusal_first exacts h₁
    · obtain ⟨first, spelled, begins, rfl⟩ := exact.yields.1 h₁
      obtain ⟨taken, expected, refusal⟩ := (exacts a).refuses h₂
      exact ⟨_, expected, refusal.behind begins (exact.inSequence_append_iff spelled)⟩

end Sequence

/-- What is made from the value of an exact reader is spelled by the same tokens. -/
theorem map (exact : Exact reader Spelled) (f : α → β) :
    Exact (do return f (← reader)) fun tokens b => ∃ a, Spelled tokens a ∧ b = f a := by
  refine (exact.bind fun a => pure (f a)).congr ?_
  intro tokens b
  constructor
  · rintro ⟨a, first, -, spelled, ⟨rfl, rfl⟩, rfl⟩
    rw [List.append_nil]
    exact ⟨a, spelled, rfl⟩
  · rintro ⟨a, spelled, rfl⟩
    exact ⟨a, tokens, [], spelled, ⟨rfl, rfl⟩, (List.append_nil tokens).symm⟩

end Exact

/-! ## Single tokens -/

section Single

variable {α : Type} {One : Token → α → Prop} {expected : List Kind}

/-- The lists of one token that spells a value. -/
def Alone (One : Token → α → Prop) (tokens : List Token) (a : α) : Prop :=
  ∃ t, tokens = [t] ∧ One t a

/-- Before a single token, a token that spells nothing is blocked, and the kinds of those that do can follow. -/
theorem blocked_alone (nonempty : expected ≠ []) (distinct : expected.Nodup) (away : .endOfInput ∉ expected)
    (lists : ∀ k, k ∈ expected ↔ ∃ t a, t.kind = k ∧ One t a) {next : Token} (nothing : ∀ a, ¬ One next a) :
    Blocked (Phrases (Alone One)) [] next expected where
  viable := by
    obtain ⟨k, ks, rfl⟩ := List.exists_cons_of_ne_nil nonempty
    obtain ⟨t, a, -, one⟩ := (lists k).1 List.mem_cons_self
    exact ⟨[t], a, t, rfl, one⟩
  stuck := by
    rintro more ⟨a, t, same, one⟩
    obtain ⟨rfl, -⟩ := List.cons.inj same
    exact nothing a one
  lists := by
    intro k
    constructor
    · intro found
      obtain ⟨t, a, kind, one⟩ := (lists k).1 found
      exact Or.inr ⟨fun ends => away (ends ▸ found), t, [], kind, a, t, rfl, one⟩
    · rintro (⟨-, a, t, same, -⟩ | ⟨-, t, more, kind, a, t', same, one⟩)
      · cases same
      · obtain ⟨rfl, -⟩ := List.cons.inj same
        exact (lists k).2 ⟨t, a, kind, one⟩
  distinct := distinct

/-- A reader of the next token is exact when it yields what the token spells, and otherwise expects just the kinds of
the tokens that spell something. -/
theorem exact_alone {reader : Reader α} (expected : List Kind) (nonempty : expected ≠ []) (distinct : expected.Nodup)
    (away : .endOfInput ∉ expected) (lists : ∀ k, k ∈ expected ↔ ∃ t a, t.kind = k ∧ One t a)
    (yields : ∀ {cursor a rest}, reader cursor = .ok a rest ↔ One cursor.head a ∧ rest = cursor.tail)
    (refuses : ∀ {cursor d rest}, reader cursor = .error d rest → (∀ a, ¬ One cursor.head a) ∧
      (∃ phrase, d = .unexpected phrase expected cursor.head) ∧ LeftAt cursor expected rest) :
    Exact reader (Alone One) := by
  have proper : ∀ {t a}, One t a → t.kind ≠ .endOfInput := fun {t a} one ends =>
    away (ends ▸ (lists t.kind).2 ⟨t, a, rfl, one⟩)
  refine ⟨?_, ?_, ?_, ?_⟩
  · rintro tokens a ⟨t, rfl, one⟩ t' member
    rw [List.mem_singleton.1 member]
    exact proper one
  · obtain ⟨k, ks, rfl⟩ := List.exists_cons_of_ne_nil nonempty
    obtain ⟨t, a, -, one⟩ := (lists k).1 List.mem_cons_self
    exact ⟨[t], a, t, rfl, one⟩
  · intro cursor a rest
    rw [yields]
    constructor
    · rintro ⟨one, rfl⟩
      have inside : cursor.atEnd = false := by
        cases ends : cursor.atEnd with
        | true => exact absurd (Cursor.atEnd_iff.1 ends) (proper one)
        | false => rfl
      exact ⟨[cursor.head], ⟨_, rfl, one⟩, ⟨_, (Cursor.body_eq_cons inside).symm⟩, rfl⟩
    · rintro ⟨-, ⟨t, rfl, one⟩, ⟨more, body⟩, rfl⟩
      obtain ⟨-, rfl, -⟩ := Cursor.of_body_eq_cons body.symm
      exact ⟨one, rfl⟩
  · intro cursor d rest h
    obtain ⟨nothing, told, left⟩ := refuses h
    exact ⟨[], expected, List.nil_prefix, told, blocked_alone nonempty distinct away lists nothing, left⟩

end Single

/-- Expecting is exact for the tokens of the expected kinds. -/
theorem exact_expect (expected : List Kind) (phrase : Phrase) (nonempty : expected ≠ [])
    (distinct : expected.Nodup) (away : .endOfInput ∉ expected) :
    Exact (expect expected phrase) (Alone fun t t' => t.kind ∈ expected ∧ t' = t) := by
  refine exact_alone expected nonempty distinct away ?_ ?_ ?_
  · intro k
    constructor
    · intro found
      exact ⟨⟨k, "", 1, 1, ⟨0, 0⟩⟩, _, rfl, found, rfl⟩
    · rintro ⟨t, t', rfl, found, -⟩
      exact found
  · intro cursor t rest
    constructor
    · intro h
      obtain ⟨found, rfl, rfl⟩ := expect_eq_ok h
      exact ⟨⟨found, rfl⟩, rfl⟩
    · rintro ⟨⟨found, rfl⟩, rfl⟩
      unfold expect
      rw [if_pos found]
  · intro cursor d rest h
    unfold expect at h
    split at h
    · cases h
    · next missing =>
      cases h
      exact ⟨fun t found => missing found.1, ⟨phrase, rfl⟩, Or.inl ⟨missing, rfl⟩⟩

end WatchLang.Reader
