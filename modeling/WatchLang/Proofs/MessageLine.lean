import WatchLang.Diagnostic.Basic

/-!
# Messages fill one line

A message can stand on a line of its own, since there is no line feed in it: not in the fixed wording, not in the
numbers, and not in the character that it may quote, because a line feed is quoted by an escape. So rows that end in a
line feed can be told apart when they are written one behind the other.
-/

set_option autoImplicit false

namespace WatchLang

/-- A text without line feeds. -/
def IsOneLine (text : String) : Prop :=
  '\n' ∉ text.toList

/-- Whether a text is one line can be decided, since its characters can be looked through. -/
instance (text : String) : Decidable (IsOneLine text) :=
  inferInstanceAs (Decidable (¬ _))

/-- Two texts that are one line each are one line together. -/
theorem IsOneLine.append {first second : String} (h : IsOneLine first) (h' : IsOneLine second) :
    IsOneLine (first ++ second) := by
  unfold IsOneLine at *
  rw [String.toList_append, List.mem_append]
  exact fun member => member.elim h h'

/-- Parts that are one line each are one line together, if the gap between them is. -/
theorem isOneLine_intercalate {gap : String} {parts : List String} (between : IsOneLine gap)
    (each : ∀ part ∈ parts, IsOneLine part) : IsOneLine (String.intercalate gap parts) := by
  induction parts with
  | nil => exact List.not_mem_nil
  | cons part parts ih =>
    obtain ⟨first, later⟩ := List.forall_mem_cons.1 each
    cases parts with
    | nil => rwa [String.intercalate_singleton]
    | cons next parts =>
      rw [String.intercalate_cons_cons]
      exact (first.append between).append (ih later)

/-! ## Numbers -/

/-- What is no digit is not among the digits of a number. -/
theorem not_mem_toDigits {c : Char} (other : ∀ d, Nat.digitChar d ≠ c) {base : Nat} (positional : 1 < base) (n : Nat) :
    c ∉ Nat.toDigits base n := by
  induction n using Nat.strongRecOn with
  | ind n ih =>
    rw [Nat.toDigits_eq_if positional]
    split
    · rw [List.mem_singleton]
      exact fun same => other n same.symm
    · next large =>
      have smaller : n / base < n := Nat.div_lt_self (by omega) positional
      rw [List.mem_append, List.mem_singleton]
      rintro (before | same)
      · exact ih _ smaller before
      · exact other _ same.symm

/-- No digit is a line feed. -/
theorem feed_not_mem_toDigits {base : Nat} (positional : 1 < base) (n : Nat) : '\n' ∉ Nat.toDigits base n :=
  not_mem_toDigits (fun _ => Nat.digitChar_ne '\n' (by decide)) positional n

/-- A number is one line. -/
theorem isOneLine_toString (n : Nat) : IsOneLine (toString n) := by
  unfold IsOneLine
  rw [Nat.toString_eq_repr, Nat.toList_repr]
  exact feed_not_mem_toDigits (by decide) n

/-! ## Names and quotations -/

/-- The spelling of a keyword is one line. -/
theorem Keyword.isOneLine_spelling (k : Keyword) : IsOneLine k.spelling := by
  have listed : ∀ k ∈ all, IsOneLine k.spelling := by decide
  exact listed k (mem_all k)

/-- The label of a kind is one line. -/
theorem Kind.isOneLine_label (k : Kind) : IsOneLine k.label := by
  cases k with
  | keyword k =>
    have mark : IsOneLine "'" := by decide
    exact (mark.append k.isOneLine_spelling).append mark
  | symbol | word | digits | address | endOfInput => decide

/-- The label of a phrase is one line. -/
theorem Phrase.isOneLine_label (p : Phrase) : IsOneLine p.label := by
  cases p with
  | subject role => cases role <;> decide
  | test connective => cases connective <;> decide
  | program | statement | publish | condition => decide

/-- A choice of kinds is one line. -/
theorem isOneLine_choiceOf (kinds : List Kind) : IsOneLine (choiceOf kinds) := by
  unfold choiceOf
  split
  · decide
  · exact Kind.isOneLine_label _
  · exact ((Kind.isOneLine_label _).append (by decide)).append (Kind.isOneLine_label _)
  · have labels : ∀ part ∈ kinds.map Kind.label, IsOneLine part := by
      intro part member
      obtain ⟨k, -, rfl⟩ := List.mem_map.1 member
      exact k.isOneLine_label
    exact IsOneLine.append (by decide) (isOneLine_intercalate (by decide) labels)

/-- A character is quoted without a line feed, be it one itself. -/
theorem Quoted.feed_not_mem_escape (mark c : Char) : '\n' ∉ escape mark c := by
  unfold escape
  split
  · decide
  split
  · decide
  split
  · decide
  split
  · decide
  next apart =>
  split
  · simpa using Ne.symm apart
  split
  · unfold codePoint
    simp [feed_not_mem_toDigits]
  · simpa using Ne.symm apart

/-- What is said about a stray character is one line, since a line feed is escaped there. -/
theorem isOneLine_strayText (character : Option Char) : IsOneLine (strayText character) := by
  cases character with
  | none => decide
  | some c =>
    have quoted : IsOneLine (Quoted.character c) := by
      unfold IsOneLine Quoted.character
      simp [Quoted.feed_not_mem_escape]
    exact IsOneLine.append (by decide) quoted

/-- What is said about a cause is one line. -/
theorem Cause.isOneLine_account (c : Cause) : IsOneLine c.account := by
  cases c with
  | unrecognized character => exact isOneLine_strayText character
  | unexpected phrase expected found lexeme =>
    have first : IsOneLine "expected " := by decide
    have second : IsOneLine " in " := by decide
    have third : IsOneLine ", found " := by decide
    have choice := (first.append (isOneLine_choiceOf expected)).append second
    exact ((choice.append phrase.isOneLine_label).append third).append found.isOneLine_label

/-- The message of a diagnostic fills one line. -/
theorem Diagnostic.isOneLine_message (d : Diagnostic) : IsOneLine d.message := by
  have mark : IsOneLine ":" := by decide
  have gap : IsOneLine ": " := by decide
  have place := ((isOneLine_toString d.line).append mark).append (isOneLine_toString d.column)
  exact (place.append gap).append d.cause.isOneLine_account

end WatchLang
