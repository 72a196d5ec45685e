import WatchLang.Proofs.InputLines
import WatchLang.Proofs.MessageLine
import WatchLang.Proofs.Tokenizing

/-!
# Checking reports line by line

A check goes through the lines of its input up to the first that is no text. Each line that is not blank has one row,
numbered by its place among all lines, which says that the line is a rule or why it is refused; what the rows say is
what reading that line alone gives (`Rows`). Blank lines are counted but have no row, and they are just the lines that
are read as the empty rule (`Program.ofText_eq_empty_iff`), since scanning skips what is blank and makes an entry of
everything else. The exit code sums up all lines, those behind the first that is no text included.
-/

set_option autoImplicit false

namespace WatchLang

/-! ## Blank texts -/

/-- A text that holds nothing but white space. -/
def OnlyBlank (text : String) : Prop :=
  ∀ c ∈ text.toList, isBlank c = true

/-- Whether a text is blank can be decided, since its characters can be looked through. -/
instance (text : String) : Decidable (OnlyBlank text) :=
  inferInstanceAs (Decidable (∀ c ∈ text.toList, isBlank c = true))

/-- Just the blank texts are read as the rule without statements. -/
theorem Program.ofText_eq_empty_iff {text : String} : Program.ofText text = .ok ⟨[]⟩ ↔ OnlyBlank text := by
  have nothing : entries text = [] ↔ OnlyBlank text := scan_eq_nil_iff
  rw [← nothing, ofText_eq_ok_iff]
  constructor
  · rintro ⟨met, same, -, spelled⟩
    cases spelled
    exact same
  · intro empty
    exact ⟨[], empty, fun t member => absurd member List.not_mem_nil, .nil⟩

/-! ## Rows -/

/-- The row for a text at a number: that it is a rule, or why it is refused. -/
inductive RowOf (number : Nat) (text : String) : String → Prop
  | accepted {p : Program} (read : Program.ofText text = .ok p) :
      RowOf number text ("\x1b[32m" ++ toString number ++ ": ok\x1b[0m\n")
  | refused {d : Diagnostic} (refused : Program.ofText text = .error d) :
      RowOf number text ("\x1b[33m" ++ toString number ++ ": " ++ d.message ++ "\x1b[0m\n")

/-- The rows for texts that are numbered on from a given number: one for each that is not blank, in order. -/
inductive Rows : Nat → List String → List String → Prop
  | nil {number : Nat} : Rows number [] []
  | skip {number : Nat} {text : String} {texts rows : List String} (blank : OnlyBlank text)
      (later : Rows (number + 1) texts rows) : Rows number (text :: texts) rows
  | cons {number : Nat} {text row : String} {texts rows : List String} (filled : ¬ OnlyBlank text)
      (here : RowOf number text row) (later : Rows (number + 1) texts rows) : Rows number (text :: texts) (row :: rows)

/-- A row is one line and the line feed that ends it. -/
theorem RowOf.exists_line {number : Nat} {text row : String} (h : RowOf number text row) :
    ∃ line, IsOneLine line ∧ row = line ++ "\n" := by
  have start : ∀ colour : String, IsOneLine colour → IsOneLine (colour ++ toString number) := fun colour plain =>
    plain.append (isOneLine_toString number)
  have ended : ∀ body tail : String, body ++ (tail ++ "\n") = body ++ tail ++ "\n" :=
    fun _ _ => String.append_assoc.symm
  cases h with
  | accepted =>
    have body : IsOneLine ("\x1b[32m" ++ toString number) := start _ (by decide)
    exact ⟨_, body.append (by decide), ended _ ": ok\x1b[0m"⟩
  | @refused d =>
    have gap : IsOneLine ": " := by decide
    have body : IsOneLine ("\x1b[33m" ++ toString number ++ ": " ++ d.message) :=
      ((start _ (by decide)).append gap).append d.isOneLine_message
    exact ⟨_, body.append (by decide), ended _ "\x1b[0m"⟩

/-- Each row is one line with a line feed behind it. -/
theorem Rows.exists_line {number : Nat} {texts rows : List String} (h : Rows number texts rows) :
    ∀ row ∈ rows, ∃ line, IsOneLine line ∧ row = line ++ "\n" := by
  induction h with
  | nil => exact fun row member => absurd member List.not_mem_nil
  | skip _ _ ih => exact ih
  | cons _ here _ ih => exact List.forall_mem_cons.2 ⟨here.exists_line, ih⟩

/-- The verdict on a blank text is that it is blank. -/
theorem Verdict.ofLine_of_blank {text : String} (blank : OnlyBlank text) : ofLine text = .blank := by
  unfold ofLine
  rw [if_pos (List.all_eq_true.2 blank)]

/-- The verdict on a text that is not blank gives the row of the text. -/
theorem Verdict.rowOf_ofLine {text : String} (filled : ¬ OnlyBlank text) (number : Nat) :
    RowOf number text ((ofLine text).row number) := by
  unfold ofLine
  rw [if_neg (mt List.all_eq_true.1 filled)]
  cases read : Program.ofText text with
  | ok p => exact .accepted read
  | error d => exact .refused read

/-- A line passes if it can be read; a blank one always can. -/
theorem Verdict.passes_ofLine_iff {text : String} :
    (ofLine text).passes = true ↔ (¬ OnlyBlank text → ∃ p, Program.ofText text = .ok p) := by
  by_cases blank : OnlyBlank text
  · rw [ofLine_of_blank blank]
    exact iff_of_true rfl fun filled => absurd blank filled
  · unfold ofLine
    rw [if_neg (mt List.all_eq_true.1 blank)]
    cases read : Program.ofText text with
    | ok p => exact iff_of_true rfl fun _ => ⟨p, rfl⟩
    | error d =>
      refine iff_of_false Bool.false_ne_true fun reads => ?_
      obtain ⟨p, ⟨⟩⟩ := reads blank

/-- What is written for texts is their rows. -/
theorem exists_rows (number : Nat) (texts : List String) :
    ∃ rows, Rows (number + 1) texts rows ∧
      String.join (((texts.map Verdict.ofLine).zipIdx number).map fun (verdict, i) => verdict.row (i + 1)) =
        String.join rows := by
  induction texts generalizing number with
  | nil => exact ⟨[], .nil, rfl⟩
  | cons text texts ih =>
    obtain ⟨rows, later, same⟩ := ih (number + 1)
    rw [List.map_cons, List.zipIdx_cons, List.map_cons, String.join_cons, same]
    by_cases blank : OnlyBlank text
    · refine ⟨rows, .skip blank later, ?_⟩
      rw [Verdict.ofLine_of_blank blank]
      exact String.empty_append
    · exact ⟨_, .cons blank (Verdict.rowOf_ofLine blank (number + 1)) later, String.join_cons.symm⟩

/-! ## Lines that are texts -/

/-- Lines begin with texts, up to the first that is none. -/
theorem exists_texts (lines : List (List UInt8)) :
    ∃ (texts : List String) (unread : List (List UInt8)), lines = texts.map encoded ++ unread ∧
      ∀ line, unread.head? = some line → decode? line = none := by
  induction lines with
  | nil => exact ⟨[], [], rfl, fun line none => by cases none⟩
  | cons line lines ih =>
    cases decoded : decode? line with
    | none =>
      refine ⟨[], line :: lines, rfl, ?_⟩
      rintro _ ⟨⟩
      exact decoded
    | some text =>
      obtain ⟨texts, unread, rfl, stops⟩ := ih
      refine ⟨text :: texts, unread, ?_, stops⟩
      rw [List.map_cons, decode?_eq_some_iff.1 decoded, List.cons_append]

section Check

variable {texts : List String} {unread : List (List UInt8)}
  (stops : ∀ line, unread.head? = some line → decode? line = none)

include stops

/-- Texts get their verdicts up to the first line that is no text. -/
theorem verdicts_append : verdicts (texts.map encoded ++ unread) = (texts.map Verdict.ofLine, unread.isEmpty) := by
  induction texts with
  | nil =>
    cases unread with
    | nil => rfl
    | cons line lines =>
      have none := stops line rfl
      rw [List.map_nil, List.nil_append, verdicts, none]
      rfl
  | cons text texts ih =>
    rw [List.map_cons, List.cons_append, verdicts, decode?_encoded]
    simp only [ih, List.map_cons]

/-- All lines pass exactly if each of them is a text that is blank or a rule. -/
theorem passes_iff :
    (unread.isEmpty && (texts.map Verdict.ofLine).all Verdict.passes) = true ↔
      ∀ line ∈ texts.map encoded ++ unread,
        ∃ text, encoded text = line ∧ (¬ OnlyBlank text → ∃ p, Program.ofText text = .ok p) := by
  cases unread with
  | nil =>
    rw [List.append_nil, List.forall_mem_map, List.isEmpty_nil, Bool.true_and, List.all_map, List.all_eq_true]
    refine forall₂_congr fun text _ => ?_
    rw [Function.comp_apply, Verdict.passes_ofLine_iff]
    constructor
    · exact fun reads => ⟨text, rfl, reads⟩
    · rintro ⟨other, same, reads⟩
      rwa [encoded_injective same] at reads
  | cons line lines =>
    refine iff_of_false Bool.false_ne_true fun reads => ?_
    obtain ⟨text, same, -⟩ := reads line (List.mem_append_right _ List.mem_cons_self)
    exact decode?_eq_none_iff.1 (stops line rfl) text same

/-- What a check answers, from the texts that the lines of the input begin with. -/
theorem checkInput_eq {input : List UInt8} (cut : CutIntoLines input (texts.map encoded ++ unread)) :
    checkInput input =
      ⟨if unread.isEmpty && (texts.map Verdict.ofLine).all Verdict.passes then 0 else 1,
        String.join (((texts.map Verdict.ofLine).zipIdx).map fun (verdict, i) => verdict.row (i + 1)),
        if unread.isEmpty then "" else unreadable⟩ := by
  unfold checkInput
  rw [← cutIntoLines_iff.1 cut, verdicts_append stops]

end Check

/-! ## Reports -/

/-- A check ends with exit code zero just when every line is a text that is blank or a rule. -/
theorem exit_check_eq_zero_iff (renderer : Renderer) {input : List UInt8} {lines : List (List UInt8)}
    (cut : CutIntoLines input lines) :
    (Command.check.run renderer input).exit = 0 ↔
      ∀ line ∈ lines, ∃ text, encoded text = line ∧ (¬ OnlyBlank text → ∃ p, Program.ofText text = .ok p) := by
  obtain ⟨texts, unread, rfl, stops⟩ := exists_texts lines
  have answer : Command.check.run renderer input = checkInput input := rfl
  rw [answer, checkInput_eq stops cut, ← passes_iff stops]
  dsimp only
  split
  · next passes => exact iff_of_true rfl passes
  · next fails => exact iff_of_false Nat.one_ne_zero fails

/-- What a check answers to lines: the texts that they begin with, up to the first line that is no text, have their
rows, each on a line of its own; and the exit code is zero just when every line is a text that is blank or a rule. -/
structure CheckReport (lines : List (List UInt8)) (texts rows : List String) (response : Response) : Prop where
  reads : ∃ unread, lines = texts.map encoded ++ unread ∧
    ∀ line, unread.head? = some line → ∀ text, encoded text ≠ line
  numbered : Rows 1 texts rows
  output : response.output = String.join rows
  separate : ∀ row ∈ rows, ∃ line, IsOneLine line ∧ row = line ++ "\n"
  exit_eq_zero_iff : response.exit = 0 ↔
    ∀ line ∈ lines, ∃ text, encoded text = line ∧ (¬ OnlyBlank text → ∃ p, Program.ofText text = .ok p)
  exit_eq_one : response.exit ≠ 0 → response.exit = 1
  errors : response.errors = if lines = texts.map encoded then "" else unreadable
  blank_iff : ∀ text ∈ texts, OnlyBlank text ↔ Program.ofText text = .ok ⟨[]⟩

/-- Every input is cut into lines in one way, and a check reports these line by line. -/
theorem check_reports_lines (renderer : Renderer) (input : List UInt8) :
    ∃ lines texts rows, (∀ other, CutIntoLines input other ↔ other = lines) ∧
      CheckReport lines texts rows (Command.check.run renderer input) := by
  obtain ⟨texts, unread, whole, stops⟩ := exists_texts (inputLines input)
  obtain ⟨rows, numbered, written⟩ := exists_rows 0 texts
  have cut : CutIntoLines input (texts.map encoded ++ unread) := cutIntoLines_iff.2 whole.symm
  have exit := exit_check_eq_zero_iff renderer (cutIntoLines_inputLines input)
  have answer : Command.check.run renderer input = checkInput input := rfl
  rw [checkInput_eq stops cut, written] at answer
  refine ⟨inputLines input, texts, rows, fun other => cutIntoLines_iff, ?_⟩
  rw [answer] at exit ⊢
  have complete : unread.isEmpty = true ↔ inputLines input = texts.map encoded := by
    rw [whole, List.isEmpty_iff, List.append_right_eq_self]
  exact {
    reads := ⟨unread, whole, fun line first => decode?_eq_none_iff.1 (stops line first)⟩
    numbered := numbered
    output := rfl
    separate := numbered.exists_line
    exit_eq_zero_iff := exit
    exit_eq_one := by
      split
      · exact fun other => absurd rfl other
      · exact fun _ => rfl
    errors := ite_congr (propext complete) (fun _ => rfl) (fun _ => rfl)
    blank_iff := fun text _ => Program.ofText_eq_empty_iff.symm }

/-- A blank line is counted, and the rows before a line that is no text are kept. -/
example : checkInput (encoded "\nWATCH a\n" ++ [255]) = ⟨1, "\x1b[32m2: ok\x1b[0m\n", unreadable⟩ := by cbv

end WatchLang
