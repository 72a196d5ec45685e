import WatchLang.Proofs.EarliestRefusal
import WatchLang.Proofs.ParallelReading

/-!
# Reading goes along with renaming

Names, numbers and addresses are never looked into while tokens are read, and neither is the place of a token. So where
other texts and other places are given to the tokens, the tree that was read is read with the other texts in it, and a
refusal is the same refusal of the token that now has the same index. Two runs side by side give the tree and the words
of the refusal (`Program.ofTokens_alike`). The index asks for more, since equal tokens may become unlike: it is the
length of the longest part that can be gone on with (`Earliest`), and tokens can be gone on with whatever their texts
are, since with all texts erased they are the same tokens (`Reader.GoesAlong.viable_iff`).
-/

set_option autoImplicit false

namespace WatchLang

/-! ## Tokens without their texts -/

/-- Every name, number and address becomes the empty text. -/
def Renaming.erasing : Renaming := ⟨fun _ => "", fun _ => "", fun _ => ""⟩

/-- A token with the text erased that a reading would only carry through. -/
def Token.erased (t : Token) : Token :=
  { t with lexeme := Renaming.erasing.text t.kind t.lexeme }

/-- A token is renamed to what is left when its text is erased. -/
theorem Token.renamedTo_erased (t : Token) : t.RenamedTo .erasing t.erased :=
  ⟨rfl, rfl⟩

/-- Erasing leaves nothing of a renaming but the place. -/
theorem Token.RenamedTo.erased {r : Renaming} {t t' : Token} (renamed : t.RenamedTo r t') :
    t.RenamedTo .erasing t'.erased := by
  obtain ⟨kind, lexeme⟩ := renamed
  refine ⟨kind, ?_⟩
  simp only [Token.erased, kind, lexeme]
  cases t.kind <;> rfl

/-- Tokens that are renamed to others are renamed to these with their texts erased as well. -/
theorem Token.erased_of_renamed {r : Renaming} {tokens tokens' : List Token}
    (renamed : List.Forall₂ (RenamedTo r) tokens tokens') :
    List.Forall₂ (RenamedTo .erasing) tokens (tokens'.map erased) := by
  rw [List.forall₂_map_right_iff]
  exact renamed.imp fun _ _ renamed => renamed.erased

/-- Tokens are renamed to what is left when their texts are erased. -/
theorem Token.renamed_erased (tokens : List Token) : List.Forall₂ (RenamedTo .erasing) tokens (tokens.map erased) := by
  rw [List.forall₂_map_right_iff]
  exact List.forall₂_same.2 fun t _ => t.renamedTo_erased

/-- Tokens renamed one for one are so before the end of the input, which comes at the same index. -/
theorem beforeEnd_renamed {r : Renaming} {tokens tokens' : List Token}
    (renamed : List.Forall₂ (Token.RenamedTo r) tokens tokens') :
    List.Forall₂ (Token.RenamedTo r) (beforeEnd tokens) (beforeEnd tokens') := by
  induction renamed with
  | nil => exact .nil
  | cons first later ih =>
    unfold beforeEnd at ih ⊢
    rw [List.takeWhile_cons, List.takeWhile_cons, first.1]
    split
    · exact .cons first ih
    · exact .nil

/-- Where the input ends among tokens, fewer of them stand before the end. -/
theorem length_beforeEnd_lt {tokens : List Token} (ends : ∃ e ∈ tokens, e.kind = .endOfInput) :
    (beforeEnd tokens).length < tokens.length := by
  have shown : beforeEnd tokens <+: tokens := List.takeWhile_prefix _
  apply Nat.lt_of_le_of_ne shown.length_le
  intro whole
  obtain ⟨e, member, last⟩ := ends
  rw [← shown.eq_of_length whole] at member
  exact kind_ne_of_mem_beforeEnd member last

/-- A refusal of a token tells the phrase, the kinds expected and the token. -/
theorem Diagnostic.unexpected_inj {phrase phrase' : Phrase} {expected expected' : List Kind} {t t' : Token} :
    unexpected phrase expected t = unexpected phrase' expected' t' ↔
      phrase = phrase' ∧ expected = expected' ∧ t = t' := by
  obtain ⟨kind, lexeme, line, column, span⟩ := t
  obtain ⟨kind', lexeme', line', column', span'⟩ := t'
  simp only [unexpected, Diagnostic.mk.injEq, Cause.unexpected.injEq, Token.mk.injEq]
  tauto

/-! ## The index of a refusal -/

section Index

variable {α : Type} {read : List Token → Except Diagnostic α} {tokens tokens' : List Token}

/-- The first of some viable tokens are viable. -/
theorem Viable.take (viable : Viable read tokens) (n : Nat) : Viable read (tokens.take n) := by
  obtain ⟨more, accepted⟩ := viable
  refine ⟨tokens.drop n ++ more, ?_⟩
  rwa [← List.append_assoc, List.take_append_drop]

variable {index index' : Nat} {found found' : Token} {expected expected' : List Kind}

/-- Other tokens that are as many are refused no later, where no more of them can be gone on with. -/
theorem Earliest.index_le (earliest : Earliest read tokens index found expected)
    (earliest' : Earliest read tokens' index' found' expected')
    (lengths : (beforeEnd tokens').length = (beforeEnd tokens).length)
    (viable : ∀ n, Viable read ((beforeEnd tokens').take n) → Viable read ((beforeEnd tokens).take n)) :
    index' ≤ index := by
  by_contra later
  rw [Nat.not_le] at later
  have before : index < (beforeEnd tokens).length := by
    rw [← lengths]
    exact Nat.lt_of_lt_of_le later earliest'.within
  -- what the other tokens are refused behind holds one token more than these can begin with
  have longer := (viable index' earliest'.viable).take (index + 1)
  rw [List.take_take, Nat.min_eq_left later] at longer
  exact earliest.stuck before longer

/-- Where the input ends among the tokens, the token described is one of them. -/
theorem Earliest.getElem? (earliest : Earliest read tokens index found expected)
    (ends : (beforeEnd tokens).length < tokens.length) : tokens[index]? = some found := by
  obtain ⟨extra, -, whole⟩ := Cursor.toList_ofList tokens
  have described := earliest.described
  have within : index < tokens.length := Nat.lt_of_le_of_lt earliest.within ends
  rwa [whole, List.getElem?_append_left within] at described

end Index

/-! ## Readings that go along -/

/-- Where a renaming leads, told for one reading of some tokens and of the same tokens renamed: what was read is read
renamed, and what was refused is refused in the same words, of the renamed token with the same index, which on either
side is the earliest that could be refused. -/
structure RenamedOutcome {α : Type} (read : List Token → Except Diagnostic α) (rename : Renaming → α → α)
    (r : Renaming) (tokens tokens' : List Token) : Prop where
  ok : ∀ a, read tokens = .ok a → read tokens' = .ok (rename r a)
  error : ∀ d, read tokens = .error d →
    ∃ index found found' phrase expected,
      tokens[index]? = some found ∧ tokens'[index]? = some found' ∧ found.RenamedTo r found' ∧
      d = .unexpected phrase expected found ∧ read tokens' = .error (.unexpected phrase expected found') ∧
      Earliest read tokens index found expected ∧ Earliest read tokens' index found' expected

namespace Reader

/-- A reading that agrees with itself on renamed tokens among which the input ends. -/
def GoesAlong {α : Type} (read : List Token → Except Diagnostic α) (rename : Renaming → α → α) : Prop :=
  ∀ {r : Renaming} {tokens tokens' : List Token}, List.Forall₂ (Token.RenamedTo r) tokens tokens' →
    (∃ e ∈ tokens, e.kind = .endOfInput) →
    AgreeOnTokens (Token.RenamedTo r) (fun a a' => a' = rename r a) (read tokens) (read tokens')

namespace GoesAlong

variable {α : Type} {read : List Token → Except Diagnostic α} {rename : Renaming → α → α}
  {Spelled : List Token → α → Prop} {r : Renaming} {tokens tokens' : List Token}

/-- Whether tokens are read does not depend on their texts, also where the input does not end among them. -/
theorem accepted_iff (along : GoesAlong read rename) (exact : ExactOnTokens read Spelled)
    (renamed : List.Forall₂ (Token.RenamedTo r) tokens tokens') : Accepted read tokens ↔ Accepted read tokens' := by
  -- an end of the input changes nothing behind tokens, so it may be put there
  let e : Token := .endAt .beginning
  have ended : ∀ ts : List Token, Accepted read (ts ++ [e]) ↔ Accepted read ts := by
    intro ts
    rw [exact.accepted_iff, exact.accepted_iff, beforeEnd_append_end ts [] rfl]
  have both : List.Forall₂ (Token.RenamedTo r) (tokens ++ [e]) (tokens' ++ [e]) :=
    List.rel_append renamed (.cons ⟨rfl, rfl⟩ .nil)
  have agree := along both ⟨e, by simp, rfl⟩
  rw [← ended tokens, ← ended tokens']
  unfold Accepted
  generalize read (tokens ++ [e]) = outcome at agree ⊢
  generalize read (tokens' ++ [e]) = outcome' at agree ⊢
  cases agree with
  | ok values => simp
  | error found => simp

/-- Tokens can be gone on with whenever they can be with other texts, and by the same tokens. -/
theorem viable_iff (along : GoesAlong read rename) (exact : ExactOnTokens read Spelled)
    (renamed : List.Forall₂ (Token.RenamedTo r) tokens tokens') : Viable read tokens ↔ Viable read tokens' := by
  unfold Viable
  apply exists_congr
  intro more
  -- the renaming need not reach the texts of what follows, so both sides are compared with what erasing leaves of them
  have left : List.Forall₂ (Token.RenamedTo .erasing) (tokens ++ more) ((tokens' ++ more).map Token.erased) := by
    rw [List.map_append]
    exact List.rel_append (Token.erased_of_renamed renamed) (Token.renamed_erased more)
  have right := Token.renamed_erased (tokens' ++ more)
  exact (along.accepted_iff exact left).trans (along.accepted_iff exact right).symm

variable {index index' : Nat} {found found' : Token} {expected expected' : List Kind}

/-- Tokens and the same tokens renamed are refused at the same index. -/
theorem index_eq (along : GoesAlong read rename) (exact : ExactOnTokens read Spelled)
    (renamed : List.Forall₂ (Token.RenamedTo r) tokens tokens') (earliest : Earliest read tokens index found expected)
    (earliest' : Earliest read tokens' index' found' expected') : index' = index := by
  have shown := beforeEnd_renamed renamed
  have viable : ∀ n, Viable read ((beforeEnd tokens).take n) ↔ Viable read ((beforeEnd tokens').take n) :=
    fun n => along.viable_iff exact (List.forall₂_take n shown)
  apply Nat.le_antisymm
  · exact earliest.index_le earliest' shown.length_eq.symm fun n => (viable n).2
  · exact earliest'.index_le earliest shown.length_eq fun n => (viable n).1

/-- A reading that is exact and agrees with itself on renamed tokens goes along with the renaming, indices and all. -/
theorem renamedOutcome (along : GoesAlong read rename) (exact : ExactOnTokens read Spelled)
    (renamed : List.Forall₂ (Token.RenamedTo r) tokens tokens') (ends : ∃ e ∈ tokens, e.kind = .endOfInput) :
    RenamedOutcome read rename r tokens tokens' := by
  have agree := along renamed ends
  constructor
  · intro a accepted
    rw [accepted] at agree
    generalize read tokens' = outcome' at agree ⊢
    cases agree with
    | ok values => rw [values]
  · intro d refused
    rw [refused] at agree
    generalize refused' : read tokens' = outcome' at agree
    cases agree with
    | @error phrase expected t t' related =>
      obtain ⟨index, found, _, _, told, earliest⟩ := exact.earliest refused
      obtain ⟨index', found', _, _, told', earliest'⟩ := exact.earliest refused'
      obtain ⟨rfl, rfl, rfl⟩ := Diagnostic.unexpected_inj.1 told
      obtain ⟨rfl, rfl, rfl⟩ := Diagnostic.unexpected_inj.1 told'
      have same : index' = index := along.index_eq exact renamed earliest earliest'
      subst same
      have cut := length_beforeEnd_lt ends
      have cut' : (beforeEnd tokens').length < tokens'.length := by
        rwa [← (beforeEnd_renamed renamed).length_eq, ← renamed.length_eq]
      exact ⟨index', t, t', phrase, expected, earliest.getElem? cut, earliest'.getElem? cut', related, rfl, rfl,
        earliest, earliest'⟩

end GoesAlong

end Reader

/-- Reading programs goes along with renamings. -/
theorem Program.ofTokens_goesAlong : Reader.GoesAlong ofTokens fun r p => p.rename r := by
  intro r tokens tokens' renamed ends
  have alike := Cursor.alike_of_forall₂ (fun _ _ renamed => renamed.1) renamed ends
  exact ofTokens_alike (fun _ _ renamed => renamed) alike

/-- Reading conditions goes along with renamings. -/
theorem Condition.ofTokens_goesAlong : Reader.GoesAlong ofTokens fun r c => c.rename r := by
  intro r tokens tokens' renamed ends
  have alike := Cursor.alike_of_forall₂ (fun _ _ renamed => renamed.1) renamed ends
  exact ofTokens_alike (fun _ _ renamed => renamed) alike

/-- Where tokens among which the input ends are given other names, numbers, addresses and places, what was read of them
as a rule or as a condition is read with the other texts in it, and what was refused is refused in the same phrase, with
the same kinds expected, of the token that now has the same index. -/
theorem reading_goes_along_renaming {r : Renaming} {tokens tokens' : List Token}
    (renamed : List.Forall₂ (Token.RenamedTo r) tokens tokens') (ends : ∃ e ∈ tokens, e.kind = .endOfInput) :
    RenamedOutcome Program.ofTokens (fun r p => p.rename r) r tokens tokens' ∧
      RenamedOutcome Condition.ofTokens (fun r c => c.rename r) r tokens tokens' := by
  constructor
  · exact Program.ofTokens_goesAlong.renamedOutcome Reader.exact_program_ofTokens renamed ends
  · exact Condition.ofTokens_goesAlong.renamedOutcome Reader.exact_condition_ofTokens renamed ends

/-- A name may even be given the text of a reserved word and a number no text at all, since kinds alone are read. Where
that does not make a condition, the refusal moves with its token. -/
theorem reading_goes_along_renaming_to_reserved_word :
    List.Forall₂ (Token.RenamedTo ⟨fun _ => "watch", fun _ => "", id⟩)
      [⟨.word, "a", 1, 1, ⟨0, 1⟩⟩, ⟨.symbol, "=", 1, 2, ⟨1, 2⟩⟩, ⟨.digits, "5", 1, 3, ⟨2, 3⟩⟩,
        ⟨.endOfInput, "", 1, 4, ⟨3, 3⟩⟩]
      [⟨.word, "watch", 7, 2, ⟨9, 0⟩⟩, ⟨.symbol, "=", 3, 0, ⟨4, 4⟩⟩, ⟨.digits, "", 7, 2, ⟨9, 0⟩⟩,
        ⟨.endOfInput, "", 0, 0, ⟨0, 0⟩⟩] ∧
    Condition.ofTokens [⟨.word, "a", 1, 1, ⟨0, 1⟩⟩, ⟨.symbol, "=", 1, 2, ⟨1, 2⟩⟩, ⟨.digits, "5", 1, 3, ⟨2, 3⟩⟩,
      ⟨.endOfInput, "", 1, 4, ⟨3, 3⟩⟩] = .ok ⟨"a", .equal, .number "5"⟩ ∧
    Condition.ofTokens [⟨.word, "watch", 7, 2, ⟨9, 0⟩⟩, ⟨.symbol, "=", 3, 0, ⟨4, 4⟩⟩, ⟨.digits, "", 7, 2, ⟨9, 0⟩⟩,
      ⟨.endOfInput, "", 0, 0, ⟨0, 0⟩⟩] = .ok ⟨"watch", .equal, .number ""⟩ ∧
    Program.ofTokens [⟨.word, "a", 1, 1, ⟨0, 1⟩⟩, ⟨.symbol, "=", 1, 2, ⟨1, 2⟩⟩, ⟨.digits, "5", 1, 3, ⟨2, 3⟩⟩,
      ⟨.endOfInput, "", 1, 4, ⟨3, 3⟩⟩] =
        .error (.unexpected .program (Kind.statementStarts ++ [.endOfInput]) ⟨.word, "a", 1, 1, ⟨0, 1⟩⟩) ∧
    Program.ofTokens [⟨.word, "watch", 7, 2, ⟨9, 0⟩⟩, ⟨.symbol, "=", 3, 0, ⟨4, 4⟩⟩, ⟨.digits, "", 7, 2, ⟨9, 0⟩⟩,
      ⟨.endOfInput, "", 0, 0, ⟨0, 0⟩⟩] =
        .error (.unexpected .program (Kind.statementStarts ++ [.endOfInput]) ⟨.word, "watch", 7, 2, ⟨9, 0⟩⟩) := by
  have renamed : List.Forall₂ (Token.RenamedTo ⟨fun _ => "watch", fun _ => "", id⟩)
      [⟨.word, "a", 1, 1, ⟨0, 1⟩⟩, ⟨.symbol, "=", 1, 2, ⟨1, 2⟩⟩, ⟨.digits, "5", 1, 3, ⟨2, 3⟩⟩,
        ⟨.endOfInput, "", 1, 4, ⟨3, 3⟩⟩]
      [⟨.word, "watch", 7, 2, ⟨9, 0⟩⟩, ⟨.symbol, "=", 3, 0, ⟨4, 4⟩⟩, ⟨.digits, "", 7, 2, ⟨9, 0⟩⟩,
        ⟨.endOfInput, "", 0, 0, ⟨0, 0⟩⟩] := by
    simp [Token.RenamedTo, Renaming.text]
  have accepted : Condition.ofTokens [⟨.word, "a", 1, 1, ⟨0, 1⟩⟩, ⟨.symbol, "=", 1, 2, ⟨1, 2⟩⟩,
      ⟨.digits, "5", 1, 3, ⟨2, 3⟩⟩, ⟨.endOfInput, "", 1, 4, ⟨3, 3⟩⟩] = .ok ⟨"a", .equal, .number "5"⟩ := by cbv
  have refused : Program.ofTokens [⟨.word, "a", 1, 1, ⟨0, 1⟩⟩, ⟨.symbol, "=", 1, 2, ⟨1, 2⟩⟩,
      ⟨.digits, "5", 1, 3, ⟨2, 3⟩⟩, ⟨.endOfInput, "", 1, 4, ⟨3, 3⟩⟩] =
        .error (.unexpected .program (Kind.statementStarts ++ [.endOfInput]) ⟨.word, "a", 1, 1, ⟨0, 1⟩⟩) := by cbv
  have outcomes := reading_goes_along_renaming renamed ⟨⟨.endOfInput, "", 1, 4, ⟨3, 3⟩⟩, by simp, rfl⟩
  refine ⟨renamed, accepted, outcomes.2.ok _ accepted, refused, ?_⟩
  obtain ⟨index, _, _, _, _, stands, stands', -, told, refused', -⟩ := outcomes.1.error _ refused
  obtain ⟨rfl, rfl, rfl⟩ := Diagnostic.unexpected_inj.1 told
  -- the token described stands only once among these, at the front
  have front : index = 0 := by
    rcases index with _ | _ | _ | _ | index
    · rfl
    all_goals simp at stands
  subst front
  rw [refused', ← Option.some.inj stands']

end WatchLang
