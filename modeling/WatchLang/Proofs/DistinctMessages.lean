import WatchLang.Diagnostic.Basic
import WatchLang.Proofs.Unambiguous

/-!
# Different refusals have different messages

A message tells the place of a refusal and its cause, all but the text of a token that was not expected. Its parts can
be taken off one by one (`Unambiguous`): the two numbers up to their colons, and then the account of the cause. The
names of kinds and those of phrases begin none of the others, so the names in an account need no quotation, although
some are of more than one word. How many kinds are listed is told by what stands around their names: a choice of none
and a choice of many have opening words that are no beginning of a name, and where there are no opening words an `or`
stands before the second name and none behind it.
-/

set_option autoImplicit false

namespace WatchLang

/-! ## Names -/

namespace Kind

/-- All kinds. -/
def all : List Kind :=
  [symbol, word, digits, address, endOfInput] ++ Keyword.all.map keyword

/-- Every kind is on the list of all kinds. -/
theorem mem_all (k : Kind) : k ∈ all := by
  cases k with
  | keyword k => exact List.mem_append_right _ (List.mem_map_of_mem (Keyword.mem_all k))
  | symbol | word | digits | address | endOfInput => decide

/-- No name of a kind begins the name of another. -/
theorem unambiguous_label : Unambiguous fun k : Kind => k.label.toList := by
  have apart : ∀ k ∈ all, ∀ l ∈ all, k.label.toList <+: l.label.toList → k = l := by decide
  exact .of_isPrefix fun k l => apart k (mem_all k) l (mem_all l)

end Kind

namespace Phrase

/-- All phrases. -/
def all : List Phrase :=
  [program, statement, subject .source, subject .watch, test .gate, test .and, test .or, publish, condition]

/-- Every phrase is on the list of all phrases. -/
theorem mem_all (p : Phrase) : p ∈ all := by
  cases p with
  | subject role => cases role <;> decide
  | test connective => cases connective <;> decide
  | program | statement | publish | condition => decide

/-- No name of a phrase begins the name of another. -/
theorem unambiguous_label : Unambiguous fun p : Phrase => p.label.toList := by
  have apart : ∀ p ∈ all, ∀ q ∈ all, p.label.toList <+: q.label.toList → p = q := by decide
  exact .of_isPrefix fun p q => apart p (mem_all p) q (mem_all q)

end Phrase

/-! ## Choices -/

/-- The letters of a choice by the number of its kinds: none; one or two, with an `or` before the second; or many, with
opening words and a comma before each but the first. -/
theorem toList_choiceOf (kinds : List Kind) :
    (kinds = [] ∧ (choiceOf kinds).toList = "nothing".toList) ∨
      (∃ k ks, kinds = k :: ks ∧ (choiceOf kinds).toList =
        k.label.toList ++ ks.flatMap fun l => " or ".toList ++ l.label.toList) ∨
      ∃ k ks, kinds = k :: ks ∧ (choiceOf kinds).toList =
        "one of ".toList ++ (k.label.toList ++ ks.flatMap fun l => ", ".toList ++ l.label.toList) := by
  match kinds with
  | [] => exact .inl ⟨rfl, rfl⟩
  | [only] => exact .inr (.inl ⟨only, [], rfl, by simp [choiceOf]⟩)
  | [first, second] => exact .inr (.inl ⟨first, [second], rfl, by simp [choiceOf]⟩)
  | first :: second :: third :: more =>
    refine .inr (.inr ⟨first, second :: third :: more, rfl, ?_⟩)
    rw [choiceOf, List.map_cons, intercalate_cons]
    · simp only [String.toList_append, String.toList_join, List.map_map, List.flatMap_map, Function.comp_apply]
    all_goals simp

/-- The name of a kind begins neither like a choice of none nor like a choice of many. -/
theorem Kind.label_append_ne (k : Kind) (rest rest' : List Char) :
    k.label.toList ++ rest ≠ "nothing".toList ++ rest' ∧ k.label.toList ++ rest ≠ "one of ".toList ++ rest' := by
  cases k <;> simp [label]

/-- A choice is taken off together with the word that stands between it and a phrase. -/
theorem unambiguous_choiceOf : Unambiguous fun kinds => (choiceOf kinds).toList ++ " in ".toList := by
  intro kinds kinds' rest rest' same
  simp only [List.append_assoc] at same
  -- opening words tell the three forms apart, since no name begins with them
  rcases toList_choiceOf kinds with ⟨rfl, none⟩ | ⟨k, ks, rfl, few⟩ | ⟨k, ks, rfl, more⟩ <;>
    rcases toList_choiceOf kinds' with ⟨rfl, none'⟩ | ⟨k', ks', rfl, few'⟩ | ⟨k', ks', rfl, more'⟩
  · exact ⟨rfl, by simpa only [List.append_cancel_left_eq] using same⟩
  · rw [none, few', List.append_assoc] at same
    exact absurd same.symm (k'.label_append_ne _ _).1
  · rw [none, more'] at same
    simp at same
  · rw [few, none', List.append_assoc] at same
    exact absurd same (k.label_append_ne _ _).1
  · rw [few, few', List.append_assoc, List.append_assoc] at same
    exact Kind.unambiguous_label.separated (by simp) same
  · rw [few, more', List.append_assoc, List.append_assoc] at same
    exact absurd same (k.label_append_ne _ _).2
  · rw [more, none'] at same
    simp at same
  · rw [more, few'] at same
    simp only [List.append_assoc] at same
    exact absurd same.symm (k'.label_append_ne _ _).2
  · rw [more, more'] at same
    simp only [List.append_assoc, List.append_cancel_left_eq] at same
    exact Kind.unambiguous_label.separated (by simp) same

/-! ## Accounts -/

/-- What is said of a stray character tells which it is, or that the text ends. -/
theorem unambiguous_strayText : Unambiguous fun character => (strayText character).toList := by
  intro character character' rest rest' same
  unfold strayText at same
  cases character with
  | none =>
    cases character' with
    | none => exact ⟨rfl, List.append_cancel_left same⟩
    | some c' => simp at same
  | some c =>
    cases character' with
    | none => simp at same
    | some c' =>
      simp only [String.toList_append, List.append_assoc, List.append_cancel_left_eq] at same
      obtain ⟨rfl, behind⟩ := Quoted.unambiguous_character same
      exact ⟨rfl, behind⟩

/-- No character is spoken of as unexpected in the way that a kind is. -/
theorem strayText_append_ne (character : Option Char) (rest rest' : List Char) :
    (strayText character).toList ++ rest ≠ "expected ".toList ++ rest' := by
  unfold strayText
  cases character <;> simp

/-- Causes that differ at most in the text of a token that was not expected. -/
inductive Cause.Alike : Cause → Cause → Prop
  | unrecognized (character : Option Char) : Alike (.unrecognized character) (.unrecognized character)
  | unexpected (phrase : Phrase) (expected : List Kind) (found : Kind) (lexeme lexeme' : String) :
      Alike (.unexpected phrase expected found lexeme) (.unexpected phrase expected found lexeme')

/-- An account tells a cause but for the text of a token. -/
theorem Cause.account_eq_iff (c c' : Cause) : c.account = c'.account ↔ c.Alike c' := by
  constructor
  · intro same
    have letters := congrArg String.toList same
    cases c with
    | unrecognized character =>
      cases c' with
      | unrecognized character' =>
        cases unambiguous_strayText.injective letters
        exact .unrecognized character
      | unexpected phrase' expected' found' lexeme' =>
        simp only [account, String.toList_append, List.append_assoc] at letters
        exact absurd ((List.append_nil _).trans letters) (strayText_append_ne character _ _)
    | unexpected phrase expected found lexeme =>
      cases c' with
      | unrecognized character' =>
        simp only [account, String.toList_append, List.append_assoc] at letters
        exact absurd ((List.append_nil _).trans letters.symm) (strayText_append_ne character' _ _)
      | unexpected phrase' expected' found' lexeme' =>
        simp only [account, String.toList_append, List.append_assoc] at letters
        obtain ⟨rfl, reading⟩ := unambiguous_choiceOf
          (by simpa only [List.append_assoc] using List.append_cancel_left letters)
        obtain ⟨rfl, finding⟩ := Phrase.unambiguous_label reading
        cases Kind.unambiguous_label.injective (List.append_cancel_left finding)
        exact .unexpected phrase expected found lexeme lexeme'
  · rintro (_ | _) <;> rfl

/-! ## Messages -/

/-- The letters of a message: the line and the column, each up to a colon, and the account behind a space. -/
theorem Diagnostic.toList_message (d : Diagnostic) :
    d.message.toList =
      (toString d.line).toList ++ ([':'] ++
        ((toString d.column).toList ++ ([':'] ++ (' ' :: d.cause.account.toList)))) := by
  simp [message]

/-- Two diagnostics have one message exactly when they name the same line and column and tell of one cause: both of
the same character or of the end of the text, or both of the same phrase with the same kinds expected, in the same
order, and the same kind found. -/
theorem Diagnostic.message_eq_iff (d e : Diagnostic) :
    d.message = e.message ↔ d.line = e.line ∧ d.column = e.column ∧ d.cause.Alike e.cause := by
  rw [← Cause.account_eq_iff]
  constructor
  · intro same
    have number : Unambiguous fun n : Nat => (toString n).toList ++ [':'] :=
      unambiguous_number fun _ => Nat.digitChar_ne ':' (by decide)
    have letters := congrArg String.toList same
    rw [toList_message, toList_message] at letters
    obtain ⟨line, behind⟩ := number (by simpa only [List.append_assoc] using letters)
    obtain ⟨column, account⟩ := number (by simpa only [List.append_assoc] using behind)
    exact ⟨line, column, String.toList_inj.1 (List.cons.inj account).2⟩
  · rintro ⟨line, column, account⟩
    rw [message, message, line, column, account]

end WatchLang
