import Mathlib.Data.List.Forall2
import WatchLang.Proofs.Renaming
import WatchLang.Proofs.RuleReading

/-!
# Readings side by side

Two cursors that show related tokens, one for one up to the first end of the input, are read in the same way: every
reader yields on both or is refused on both, at tokens with the same index and in the same words. What may differ is
what the relation of the tokens lets differ, which is a renaming at most. Since cursors are compared only up to the end
of the input, it follows that nothing behind it is ever looked at.
-/

set_option autoImplicit false

namespace WatchLang

/-- Cursors that show related tokens, one for one, up to the first end of the input. -/
inductive Cursor.Alike (R : Token → Token → Prop) : Cursor → Cursor → Prop
  | ended {c c' : Cursor} (ends : c.atEnd = true) (ends' : c'.atEnd = true) (heads : R c.head c'.head) :
      Alike R c c'
  | more {c c' : Cursor} (away : c.atEnd = false) (away' : c'.atEnd = false) (heads : R c.head c'.head)
      (tails : Alike R c.tail c'.tail) : Alike R c c'

namespace Cursor.Alike

variable {R : Token → Token → Prop} {c c' : Cursor}

/-- Cursors that are alike have related heads. -/
theorem head (h : Alike R c c') : R c.head c'.head := by
  cases h with
  | ended _ _ heads => exact heads
  | more _ _ heads _ => exact heads

/-- Of cursors that are alike, both or neither are at their end. -/
theorem atEnd_eq (h : Alike R c c') : c.atEnd = c'.atEnd := by
  cases h with
  | ended ends ends' _ => rw [ends, ends']
  | more away away' _ _ => rw [away, away']

/-- Cursors that are alike remain so when each advances. -/
theorem tail (h : Alike R c c') : Alike R c.tail c'.tail := by
  cases h with
  | ended ends ends' heads =>
    rw [tail_of_atEnd ends, tail_of_atEnd ends']
    exact .ended ends ends' heads
  | more _ _ _ tails => exact tails

/-- Tokens that are related one for one up to an end of the input are shown alike, whatever stands behind it. -/
theorem of_forall₂ (kinds : ∀ t t', R t t' → t'.kind = t.kind) {shown shown' after after' : List Token}
    (related : List.Forall₂ R shown shown') (ends : ∃ e ∈ shown, e.kind = .endOfInput)
    (h : c.toList = shown ++ after) (h' : c'.toList = shown' ++ after') : Alike R c c' := by
  -- on the related tokens; the cursors move on with them until the input ends
  induction related generalizing c c' with
  | nil =>
    obtain ⟨e, member, -⟩ := ends
    cases member
  | @cons t t' shown shown' first later ih =>
    have head : t = c.head := (head_eq_of_toList h).symm
    have head' : t' = c'.head := (head_eq_of_toList h').symm
    have same : c.atEnd = c'.atEnd := by
      unfold atEnd
      rw [← head, ← head', kinds t t' first]
    rw [head, head'] at first
    cases away : c.atEnd with
    | true => exact .ended away (same.symm.trans away) first
    | false =>
      have away' : c'.atEnd = false := same.symm.trans away
      rw [toList_eq_cons away, List.cons_append] at h
      rw [toList_eq_cons away', List.cons_append] at h'
      obtain ⟨e, member, last⟩ := ends
      have further : e ∈ shown := by
        refine (List.mem_cons.1 member).resolve_left fun front => ?_
        rw [front, head] at last
        rw [atEnd_iff.2 last] at away
        cases away
      exact .more away away' first (ih ⟨e, further, last⟩ (List.cons.inj h).2 (List.cons.inj h').2)

end Cursor.Alike

namespace Reader

/-- Outcomes that agree: related values, or refusals in the same words of related tokens; and cursors that are
alike. -/
inductive Agree {α β : Type} (R : Token → Token → Prop) (V : α → β → Prop) :
    EStateM.Result Diagnostic Cursor α → EStateM.Result Diagnostic Cursor β → Prop
  | ok {a : α} {b : β} {rest rest' : Cursor} (values : V a b) (left : Cursor.Alike R rest rest') :
      Agree R V (.ok a rest) (.ok b rest')
  | error {phrase : Phrase} {expected : List Kind} {t t' : Token} {rest rest' : Cursor} (found : R t t')
      (left : Cursor.Alike R rest rest') :
      Agree R V (.error (.unexpected phrase expected t) rest) (.error (.unexpected phrase expected t') rest')

/-- Readers whose outcomes agree on cursors that are alike. -/
def Parallel {α β : Type} (R : Token → Token → Prop) (V : α → β → Prop) (reader : Reader α)
    (reader' : Reader β) : Prop :=
  ∀ cursor cursor', Cursor.Alike R cursor cursor' → Agree R V (reader cursor) (reader' cursor')

namespace Parallel

variable {α β γ δ : Type} {R : Token → Token → Prop} {V : α → β → Prop} {W : γ → δ → Prop}

/-- Yielding related values is parallel. -/
theorem pure {a : α} {b : β} (h : V a b) : Parallel R V (pure a) (pure b) := by
  intro cursor cursor' alike
  exact .ok h alike

/-- One reading after another goes alike when both do. -/
theorem bind {reader : Reader α} {reader' : Reader β} {next : α → Reader γ} {next' : β → Reader δ}
    (first : Parallel R V reader reader') (second : ∀ a b, V a b → Parallel R W (next a) (next' b)) :
    Parallel R W (reader >>= next) (reader' >>= next') := by
  intro cursor cursor' alike
  have outcome := first cursor cursor' alike
  simp only [Bind.bind, EStateM.bind]
  generalize reader cursor = left at outcome
  generalize reader' cursor' = right at outcome
  cases outcome with
  | ok values left => exact second _ _ values _ _ left
  | error found left => exact .error found left

/-- Refusing the next token is parallel. -/
theorem refuse (phrase : Phrase) (expected : List Kind) :
    Parallel R V (Reader.refuse phrase expected) (Reader.refuse phrase expected) := by
  intro cursor cursor' alike
  exact .error alike.head alike

end Parallel

/-- Readings of statements that agree: the same statements renamed, and then no refusal, or refusals in the same words
of related tokens. -/
inductive AgreeProgress (R : Token → Token → Prop) (r : Renaming) : Progress → Progress → Prop
  | ended {ss : List Statement} {rest rest' : Cursor} (left : Cursor.Alike R rest rest') :
      AgreeProgress R r ⟨ss, none, rest⟩ ⟨ss.map (·.rename r), none, rest'⟩
  | refused {ss : List Statement} {phrase : Phrase} {expected : List Kind} {t t' : Token} {rest rest' : Cursor}
      (found : R t t') (left : Cursor.Alike R rest rest') :
      AgreeProgress R r ⟨ss, some (.unexpected phrase expected t), rest⟩
        ⟨ss.map (·.rename r), some (.unexpected phrase expected t'), rest'⟩

section Rename

variable {R : Token → Token → Prop} {r : Renaming} (renames : ∀ t t', R t t' → t.RenamedTo r t')

/-- Ending goes alike, since cursors that are alike are at the end together. -/
theorem parallel_finish (phrase : Phrase) (expected : List Kind) :
    Parallel R Eq (finish phrase expected) (finish phrase expected) := by
  intro cursor cursor' alike
  unfold finish
  rw [alike.atEnd_eq]
  split
  · exact .ok rfl alike
  · exact Parallel.refuse phrase _ cursor cursor' alike

include renames

/-- Expecting a token is parallel: related tokens are of the same kind, so both are accepted or neither is. -/
theorem parallel_expect (expected : List Kind) (phrase : Phrase) :
    Parallel R (fun t t' => R t t' ∧ t.kind ∈ expected) (expect expected phrase) (expect expected phrase) := by
  intro cursor cursor' alike
  have same := (renames _ _ alike.head).1
  unfold expect
  rw [same]
  split
  · next found => exact .ok ⟨alike.head, found⟩ alike.tail
  · exact Parallel.refuse phrase expected cursor cursor' alike

/-- Reading a name is parallel: the names read are renamed. -/
theorem parallel_name (phrase : Phrase) :
    Parallel R (fun text text' => text' = r.name text) (name phrase) (name phrase) := by
  refine (parallel_expect renames [.word] phrase).bind ?_
  rintro t t' ⟨related, found⟩
  apply Parallel.pure
  have renamed := (renames t t' related).2
  rwa [List.mem_singleton.1 found] at renamed

/-- Related tokens that are comparisons stand for the same one. -/
theorem parallel_comparison {t t' : Token} (related : R t t') (found : t.kind ∈ comparisons) :
    Parallel R (fun c c' => c' = c) (comparison t) (comparison t') := by
  obtain ⟨kind, lexeme⟩ := renames t t' related
  simp only [comparisons, List.mem_cons, List.not_mem_nil, or_false] at found
  rcases found with symbol | contains
  · have same : t'.lexeme = t.lexeme := by
      rw [lexeme, symbol]
      rfl
    simp only [comparison, kind, symbol, same]
    cases Comparison.ofSymbol? t.lexeme with
    | some c => exact Parallel.pure rfl
    | none =>
      intro cursor cursor' alike
      exact .error related alike
  · simp only [comparison, kind, contains]
    exact Parallel.pure rfl

/-- Related tokens that are operands stand for renamed ones. -/
theorem operand_renamed {t t' : Token} (related : R t t') (found : t.kind ∈ operands) :
    operand t' = (operand t).rename r := by
  obtain ⟨kind, lexeme⟩ := renames t t' related
  simp only [operands, List.mem_cons, List.not_mem_nil, or_false] at found
  rcases found with h | h | h <;> simp [operand, kind, lexeme, h, Operand.rename, Renaming.text]

/-- Reading a condition is parallel: the conditions read are renamed. -/
theorem parallel_condition :
    Parallel R (fun c c' => c' = c.rename r) condition condition := by
  refine (parallel_name renames .condition).bind ?_
  rintro left left' rfl
  refine (parallel_expect renames comparisons .condition).bind ?_
  rintro sign sign' ⟨related, found⟩
  refine (parallel_comparison renames related found).bind ?_
  rintro c c' rfl
  refine (parallel_expect renames operands .condition).bind ?_
  rintro right right' ⟨related, found⟩
  apply Parallel.pure
  rw [operand_renamed renames related found]
  rfl

/-- Reading a statement that names a subject is parallel. -/
theorem parallel_subject (role : Role) :
    Parallel R (fun s s' => s' = s.rename r) (subject role) (subject role) := by
  refine (parallel_expect renames _ _).bind ?_
  rintro _ _ -
  refine (parallel_name renames _).bind ?_
  rintro text text' rfl
  exact Parallel.pure rfl

/-- Reading a statement with a condition is parallel. -/
theorem parallel_test (connective : Connective) :
    Parallel R (fun s s' => s' = s.rename r) (test connective) (test connective) := by
  refine (parallel_expect renames _ _).bind ?_
  rintro _ _ -
  refine (parallel_condition renames).bind ?_
  rintro c c' rfl
  exact Parallel.pure rfl

/-- Reading a statement that publishes is parallel. -/
theorem parallel_publish : Parallel R (fun s s' => s' = s.rename r) publish publish := by
  refine (parallel_expect renames _ _).bind ?_
  rintro _ _ -
  refine (parallel_expect renames _ _).bind ?_
  rintro place place' ⟨related, -⟩
  have same : target place' = target place := by
    unfold target
    rw [(renames place place' related).1]
  refine (parallel_name renames _).bind ?_
  rintro text text' rfl
  apply Parallel.pure
  rw [same]
  rfl

/-- A statement of any form is read alike, since the form depends on a kind alone. -/
theorem parallel_statement : Parallel R (fun s s' => s' = s.rename r) statement statement := by
  intro cursor cursor' alike
  unfold statement
  rw [(renames _ _ alike.head).1]
  split
  · next role _ => exact parallel_subject renames role cursor cursor' alike
  · next connective _ => exact parallel_test renames connective cursor cursor' alike
  · exact parallel_publish renames cursor cursor' alike
  · exact Parallel.refuse _ _ cursor cursor' alike

/-! ## Whole rules -/

/-- Statements are read alike until one is refused, and then both are. -/
theorem statements_alike (cursor cursor' : Cursor) (alike : Cursor.Alike R cursor cursor') :
    AgreeProgress R r (statements cursor) (statements cursor') := by
  -- the recursion of the loop on the left; the loop on the right takes the same branch at each round
  revert cursor'
  fun_induction statements cursor with
  | case1 cursor starts s rest h later ih =>
    intro cursor' alike
    have starts' : cursor'.head.kind.startsStatement = true := by
      rwa [(renames _ _ alike.head).1]
    have outcome := parallel_statement renames cursor cursor' alike
    rw [h] at outcome
    generalize h' : statement cursor' = right at outcome
    cases outcome with
    | ok values left =>
      have agree := ih _ left
      subst values
      rw [statements_of_ok starts' h']
      change AgreeProgress R r later _ at agree
      generalize later = progress at agree ⊢
      generalize statements _ = progress' at agree ⊢
      cases agree with
      | ended left => exact .ended left
      | refused found left => exact .refused found left
  | case2 cursor starts d rest h =>
    intro cursor' alike
    have starts' : cursor'.head.kind.startsStatement = true := by
      rwa [(renames _ _ alike.head).1]
    have outcome := parallel_statement renames cursor cursor' alike
    rw [h] at outcome
    generalize h' : statement cursor' = right at outcome
    cases outcome with
    | error found left =>
      rw [statements_of_error starts' h']
      exact .refused found left
  | case3 cursor no =>
    intro cursor' alike
    have no' : cursor'.head.kind.startsStatement = false := by
      rw [Bool.not_eq_true] at no
      rwa [(renames _ _ alike.head).1]
    rw [statements_of_not_starts no']
    exact .ended alike

/-- Reading a program is parallel: the programs read are renamed. -/
theorem parallel_program : Parallel R (fun p p' => p' = p.rename r) program program := by
  intro cursor cursor' alike
  have progress := statements_alike renames cursor cursor' alike
  unfold program
  generalize statements cursor = left at progress
  generalize statements cursor' = right at progress
  cases progress with
  | ended left => exact .ok rfl left
  | refused found left => exact .error found left

end Rename

/-- Whole readings that agree: related values, or refusals in the same words of related tokens. -/
inductive AgreeOnTokens {α β : Type} (R : Token → Token → Prop) (V : α → β → Prop) :
    Except Diagnostic α → Except Diagnostic β → Prop
  | ok {a : α} {b : β} (values : V a b) : AgreeOnTokens R V (.ok a) (.ok b)
  | error {phrase : Phrase} {expected : List Kind} {t t' : Token} (found : R t t') :
      AgreeOnTokens R V (.error (.unexpected phrase expected t)) (.error (.unexpected phrase expected t'))

/-- Parallel readers agree on tokens that make cursors which are alike. -/
theorem onTokens_alike {α β : Type} {R : Token → Token → Prop} {V : α → β → Prop} {reader : Reader α}
    {reader' : Reader β} (h : Parallel R V reader reader') {tokens tokens' : List Token}
    (alike : Cursor.Alike R (.ofList tokens) (.ofList tokens')) :
    AgreeOnTokens R V (onTokens reader tokens) (onTokens reader' tokens') := by
  have outcome := h _ _ alike
  unfold onTokens
  generalize reader (.ofList tokens) = left at outcome
  generalize reader' (.ofList tokens') = right at outcome
  cases outcome with
  | ok values _ => exact .ok values
  | error found _ => exact .error found

/-- A parallel reader remains so where the end of the input is looked for behind it. -/
theorem Parallel.ended {α : Type} {R : Token → Token → Prop} {f : α → α} {reader : Reader α}
    (h : Parallel R (fun a a' => a' = f a) reader reader) (phrase : Phrase) (expected : List Kind) :
    Parallel R (fun a a' => a' = f a)
      (do let a ← reader; finish phrase expected; return a)
      (do let a ← reader; finish phrase expected; return a) := by
  refine h.bind ?_
  rintro a a' rfl
  refine (parallel_finish phrase expected).bind ?_
  rintro _ _ -
  exact Parallel.pure rfl

end Reader

section Whole

variable {R : Token → Token → Prop} {r : Renaming} {tokens tokens' : List Token}

/-- Tokens that make cursors which are alike are read as renamed programs. -/
theorem Program.ofTokens_alike (renames : ∀ t t', R t t' → t.RenamedTo r t')
    (alike : Cursor.Alike R (.ofList tokens) (.ofList tokens')) :
    Reader.AgreeOnTokens R (fun p p' => p' = p.rename r) (ofTokens tokens) (ofTokens tokens') :=
  Reader.onTokens_alike ((Reader.parallel_program renames).ended _ _) alike

/-- Tokens that make cursors which are alike are read as renamed conditions. -/
theorem Condition.ofTokens_alike (renames : ∀ t t', R t t' → t.RenamedTo r t')
    (alike : Cursor.Alike R (.ofList tokens) (.ofList tokens')) :
    Reader.AgreeOnTokens R (fun c c' => c' = c.rename r) (ofTokens tokens) (ofTokens tokens') :=
  Reader.onTokens_alike ((Reader.parallel_condition renames).ended _ _) alike

end Whole

/-! ## Nothing is read behind the end -/

/-- Related tokens with an end of the input among them make cursors that are alike, whatever stands behind them. -/
theorem Cursor.alike_ofList {R : Token → Token → Prop} (kinds : ∀ t t', R t t' → t'.kind = t.kind)
    {shown shown' : List Token} (related : List.Forall₂ R shown shown') (ends : ∃ e ∈ shown, e.kind = .endOfInput)
    (after after' : List Token) : Alike R (ofList (shown ++ after)) (ofList (shown' ++ after')) := by
  obtain ⟨extra, -, whole⟩ := toList_ofList (shown ++ after)
  obtain ⟨extra', -, whole'⟩ := toList_ofList (shown' ++ after')
  rw [List.append_assoc] at whole whole'
  exact Alike.of_forall₂ kinds related ends whole whole'

/-- Related tokens with an end of the input among them make cursors that are alike. -/
theorem Cursor.alike_of_forall₂ {R : Token → Token → Prop} (kinds : ∀ t t', R t t' → t'.kind = t.kind)
    {tokens tokens' : List Token} (related : List.Forall₂ R tokens tokens')
    (ends : ∃ e ∈ tokens, e.kind = .endOfInput) :
    Alike R (ofList tokens) (ofList tokens') := by
  have alike := alike_ofList kinds related ends [] []
  rwa [List.append_nil, List.append_nil] at alike

/-- What stands behind an end of the input is not shown. -/
theorem Cursor.alike_behind_end (before after after' : List Token) {e : Token} (ends : e.kind = .endOfInput) :
    Alike Eq (ofList (before ++ e :: after)) (ofList (before ++ e :: after')) := by
  have related : List.Forall₂ Eq (before ++ [e]) (before ++ [e]) := List.forall₂_refl _
  have alike := alike_ofList (fun t t' same => congrArg Token.kind same.symm) related ⟨e, by simp, ends⟩ after after'
  rwa [List.append_assoc, List.append_assoc] at alike

/-- Readings that agree up to a renaming that changes nothing, at the same tokens, are the same. -/
theorem Reader.AgreeOnTokens.eq {α : Type} {f : α → α} (identity : ∀ a, f a = a) {left right : Except Diagnostic α}
    (agree : AgreeOnTokens Eq (fun a a' => a' = f a) left right) : left = right := by
  cases agree with
  | ok values => rw [values, identity]
  | error found => rw [found]

/-- Readings that agree up to a renaming that changes nothing differ at most in what refusals say of related tokens. -/
theorem Reader.AgreeOnTokens.mapError_eq {α ε : Type} {R : Token → Token → Prop} {f : α → α}
    (identity : ∀ a, f a = a) {say say' : Diagnostic → ε}
    (told : ∀ phrase expected t t', R t t' → say' (.unexpected phrase expected t') =
      say (.unexpected phrase expected t))
    {left right : Except Diagnostic α} (agree : AgreeOnTokens R (fun a a' => a' = f a) left right) :
    right.mapError say' = left.mapError say := by
  cases agree with
  | ok values =>
    rw [values, identity]
    rfl
  | error found => exact congrArg Except.error (told _ _ _ _ found)

/-- A token is renamed to itself by the identity. -/
theorem Token.renamedTo_identity_of_eq (t t' : Token) (same : t = t') : t.RenamedTo .identity t' := by
  rw [← same]
  exact t.renamedTo_identity

/-- What stands behind an end of the input plays no part in the reading of a rule. -/
theorem Program.ofTokens_append_end (before after after' : List Token) {e : Token} (ends : e.kind = .endOfInput) :
    ofTokens (before ++ e :: after) = ofTokens (before ++ e :: after') :=
  (ofTokens_alike Token.renamedTo_identity_of_eq (Cursor.alike_behind_end before after after' ends)).eq rename_identity

/-- What stands behind the first end of the input does not matter for a condition. -/
theorem Condition.ofTokens_append_end (before after after' : List Token) {e : Token} (ends : e.kind = .endOfInput) :
    ofTokens (before ++ e :: after) = ofTokens (before ++ e :: after') :=
  (ofTokens_alike Token.renamedTo_identity_of_eq (Cursor.alike_behind_end before after after' ends)).eq rename_identity

end WatchLang
