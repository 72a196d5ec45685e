import Mathlib
import WatchLang.Diagnostic.Drawing
import WatchLang.Proofs.Concatenation
import WatchLang.Proofs.LineReports
import WatchLang.Proofs.RoundTrip
import WatchLang.Proofs.ShownRules

/-!
# Formatting against checking

Two commands that cut their input differently agree on it. Where a check passes every line, the lines are rules one
after the other with white space between them, so the whole input is one rule whose statements are those of the lines
(`Program.ofText_of_cut`), and its canonical text is put together from theirs. In the other direction, canonical text
holds no white space but single spaces (`eq_space_of_mem_spaced`), so what formatting writes is a line, and what it
writes for many rules is just as many lines, each of which is read as its rule.
-/

set_option autoImplicit false

namespace WatchLang

/-! ## Canonical texts one after the other -/

/-- A space stands between the canonical texts of statements, if there are some on both sides. -/
theorem Program.text_append {first later : List Statement} (nonempty : first ≠ []) (more : later ≠ []) :
    text ⟨first ++ later⟩ = text ⟨first⟩ ++ " " ++ text ⟨later⟩ := by
  unfold text
  rw [List.map_append]
  exact String.intercalate_append_of_ne_nil (mt List.map_eq_nil_iff.1 nonempty) (mt List.map_eq_nil_iff.1 more)

/-- The canonical text of rules one after the other is their canonical texts with spaces between them; rules without
statements are left out. -/
theorem Program.text_flatMap (programs : List Program) :
    text ⟨programs.flatMap statements⟩ =
      String.intercalate " " ((programs.filter fun p => p.statements ≠ []).map text) := by
  have dropped : ∀ ps : List Program, (ps.filter fun p => p.statements ≠ []) = [] ↔ ps.flatMap statements = [] := by
    intro ps
    simp [List.flatMap_eq_nil_iff, List.filter_eq_nil_iff]
  induction programs with
  | nil => rfl
  | cons p programs ih =>
    rw [List.flatMap_cons]
    by_cases empty : p.statements = []
    · rw [empty, List.nil_append, ih, List.filter_cons_of_neg (by simpa using empty)]
    · rw [List.filter_cons_of_pos (by simpa using empty), List.map_cons]
      by_cases last : programs.flatMap statements = []
      · -- nothing is written behind the rule, so no space is either
        rw [last, List.append_nil, (dropped programs).2 last, List.map_nil, String.intercalate_singleton]
      · have some : (programs.filter fun p => p.statements ≠ []).map text ≠ [] :=
          mt List.map_eq_nil_iff.1 (mt (dropped programs).1 last)
        rw [text_append empty last, String.intercalate_cons_of_ne_nil some, ih]

/-- White space in canonical text is a space. -/
theorem eq_space_of_mem_spaced {items : List Item} (written : ∀ i ∈ items, i.IsWritten) {c : Char}
    (member : c ∈ spaced items) (blank : isBlank c = true) : c = ' ' := by
  have inside : ∀ i : Item, i.IsWritten → c ∉ i.2.toList := by
    intro i lexeme within
    rw [lexeme.not_isBlank c within] at blank
    cases blank
  induction items with
  | nil => cases member
  | cons i items ih =>
    obtain ⟨first, later⟩ := List.forall_mem_cons.1 written
    cases items with
    | nil =>
      rw [spaced_singleton] at member
      exact absurd member (inside i first)
    | cons j items =>
      rw [spaced_cons_cons, List.mem_append, List.mem_cons] at member
      rcases member with within | space | behind
      · exact absurd within (inside i first)
      · exact space
      · exact ih later behind

namespace Program

variable {p : Program}

/-- The only blank character in the canonical text of a well-formed program is the space. -/
theorem eq_space_of_mem_text (h : p.WellFormed) {c : Char} (member : c ∈ p.text.toList) (blank : isBlank c = true) :
    c = ' ' := by
  rw [p.toList_text] at member
  exact eq_space_of_mem_spaced (wellFormed_iff.1 h) member blank

/-- Canonical text fills one line. -/
theorem isOneLine_text (h : p.WellFormed) : IsOneLine p.text :=
  fun member => absurd (eq_space_of_mem_text h member (by decide)) (by decide)

/-- There is no carriage return in the canonical text of a well-formed program. -/
theorem return_not_mem_text (h : p.WellFormed) : '\r' ∉ p.text.toList :=
  fun member => absurd (eq_space_of_mem_text h member (by decide)) (by decide)

/-- A well-formed rule is read from its text with a line feed behind it. -/
theorem ofText_text_feed (h : p.WellFormed) : ofText (p.text ++ "\n") = .ok p := by
  have feed : ∀ c ∈ "\n".toList, isBlank c = true := List.all_eq_true.1 (by decide)
  have nothing : ofText "" = .ok ⟨[]⟩ := ofText_eq_empty_iff.2 fun c member => by cases member
  have read := ofText_append (ofText_text h) (by decide) feed ""
  rw [nothing, String.append_empty] at read
  rw [read]
  exact congrArg (fun ss => Except.ok (Program.mk ss)) (List.append_nil p.statements)

/-- The text of a rule with statements is not blank. -/
theorem not_onlyBlank_text (h : p.WellFormed) (nonempty : p.statements ≠ []) : ¬ OnlyBlank p.text := by
  intro blank
  have empty := ofText_eq_empty_iff.2 blank
  rw [ofText_text h] at empty
  cases empty
  exact nonempty rfl

end Program

/-! ## Lines as rules -/

/-- A line is what is left of it without a carriage return, and perhaps that carriage return. -/
theorem eq_withoutReturn_or (line : List UInt8) : line = withoutReturn line ∨ line = withoutReturn line ++ [13] := by
  unfold withoutReturn
  split
  · next ends => exact .inr (List.dropLast_append_getLast? 13 ends).symm
  · exact .inl rfl

/-- Where every line is read as a rule, the input is a text that is read as the statements of all lines. -/
theorem Program.ofText_of_cut {input : List UInt8} {texts : List String} {programs : List Program}
    (cut : CutIntoLines input (texts.map encoded))
    (read : List.Forall₂ (fun text p => Program.ofText text = .ok p) texts programs) :
    ∃ whole, encoded whole = input ∧ Program.ofText whole = .ok ⟨programs.flatMap Program.statements⟩ := by
  generalize same : texts.map encoded = lines at cut
  induction cut generalizing texts programs with
  | nil =>
    obtain rfl := List.map_eq_nil_iff.1 same
    cases read
    exact ⟨"", rfl, Program.ofText_eq_empty_iff.2 fun c member => by cases member⟩
  | last nonempty unbroken =>
    obtain ⟨text, rfl, rfl⟩ := List.map_eq_singleton_iff.1 same
    obtain ⟨p, _, first, none, rfl⟩ := List.forall₂_cons_left_iff.1 read
    cases none
    refine ⟨text, rfl, ?_⟩
    rw [List.flatMap_singleton]
    exact first
  | @cons line rest lines unbroken later ih =>
    obtain ⟨text, others, rfl, kept, behind⟩ := List.map_eq_cons_iff.1 same
    obtain ⟨p, programs, first, more, rfl⟩ := List.forall₂_cons_left_iff.1 read
    obtain ⟨whole, bytes, reads⟩ := ih more behind
    -- what ends the line is white space between two rules
    have joined : ∀ ending : String, ending ≠ "" → (∀ c ∈ ending.toList, isBlank c = true) →
        Program.ofText (text ++ ending ++ whole) = .ok ⟨(p :: programs).flatMap Program.statements⟩ := by
      intro ending nonempty blank
      rw [Program.ofText_append first nonempty blank, reads]
      rfl
    rcases eq_withoutReturn_or line with plain | carriage
    · refine ⟨text ++ "\n" ++ whole, ?_, joined "\n" (by decide) (List.all_eq_true.1 (by decide))⟩
      rw [plain, ← kept, ← bytes, encoded_append, encoded_append, List.append_assoc]
      rfl
    · refine ⟨text ++ "\r\n" ++ whole, ?_, joined "\r\n" (by decide) (List.all_eq_true.1 (by decide))⟩
      rw [carriage, ← kept, ← bytes, encoded_append, encoded_append, List.append_assoc, List.append_assoc]
      rfl

/-! ## Formatting what a check passes -/

/-- Lines that pass are texts that are read as rules; blank ones are read as the rule without statements. -/
theorem exists_programs {lines : List (List UInt8)}
    (passes : ∀ line ∈ lines, ∃ text, encoded text = line ∧ (¬ OnlyBlank text → ∃ p, Program.ofText text = .ok p)) :
    ∃ (texts : List String) (programs : List Program), texts.map encoded = lines ∧
      List.Forall₂ (fun text p => Program.ofText text = .ok p) texts programs := by
  induction lines with
  | nil => exact ⟨[], [], rfl, .nil⟩
  | cons line lines ih =>
    obtain ⟨⟨text, rfl, reads⟩, more⟩ := List.forall_mem_cons.1 passes
    obtain ⟨texts, programs, rfl, read⟩ := ih more
    by_cases blank : OnlyBlank text
    · exact ⟨text :: texts, ⟨[]⟩ :: programs, rfl, .cons (Program.ofText_eq_empty_iff.2 blank) read⟩
    · obtain ⟨p, here⟩ := reads blank
      exact ⟨text :: texts, p :: programs, rfl, .cons here read⟩

/-- Where a check passes an input, formatting the input gives the canonical texts of the lines that are not blank, as
formatting each line alone gives them, in order and with single spaces between them. -/
theorem format_eq_intercalate_of_check (renderer : Renderer) (input : List UInt8)
    (passes : (Command.check.run renderer input).exit = 0) :
    ∃ texts canonicals : List String, CutIntoLines input (texts.map encoded) ∧
      List.Forall₂ (fun text canonical =>
          (Command.inspect .canonical "-").run renderer (encoded text) = ⟨0, canonical ++ "\n", ""⟩)
        (texts.filter fun text => ¬ OnlyBlank text) canonicals ∧
      (Command.inspect .canonical "-").run renderer input = ⟨0, String.intercalate " " canonicals ++ "\n", ""⟩ := by
  have cut := cutIntoLines_inputLines input
  obtain ⟨texts, programs, same, read⟩ := exists_programs ((exit_check_eq_zero_iff renderer cut).1 passes)
  rw [← same] at cut
  obtain ⟨whole, rfl, reads⟩ := Program.ofText_of_cut cut read
  refine ⟨texts, (programs.filter fun p => p.statements ≠ []).map Program.text, cut, ?_, ?_⟩
  · have kept : ∀ text p, Program.ofText text = .ok p → (¬ OnlyBlank text ↔ p.statements ≠ []) := by
      rintro text ⟨statements⟩ read
      rw [← Program.ofText_eq_empty_iff, read]
      simp
    have filtered := List.rel_filter (p := fun text => ¬ OnlyBlank text) (q := fun p => p.statements ≠ [])
      (fun text p read => by simpa using kept text p read) read
    rw [List.forall₂_map_right_iff]
    exact filtered.imp fun text p read => run_format_eq renderer read
  · rw [← Program.text_flatMap]
    exact run_format_eq renderer reads

/-- Two rules with blank lines between them pass, and formatting them all at once is formatting them one by one. -/
theorem format_eq_intercalate_of_check_two_rules :
    (Command.check.run .onPage (encoded "SOURCE a\r\n\t\n\nWHERE x =5")).exit = 0 ∧
    ∃ texts canonicals : List String, CutIntoLines (encoded "SOURCE a\r\n\t\n\nWHERE x =5") (texts.map encoded) ∧
      List.Forall₂ (fun text canonical =>
          (Command.inspect .canonical "-").run .onPage (encoded text) = ⟨0, canonical ++ "\n", ""⟩)
        (texts.filter fun text => ¬ OnlyBlank text) canonicals ∧
      (Command.inspect .canonical "-").run .onPage (encoded "SOURCE a\r\n\t\n\nWHERE x =5") =
        ⟨0, String.intercalate " " canonicals ++ "\n", ""⟩ := by
  have cut : ["SOURCE a", "\t", "", "WHERE x =5"].map encoded =
      inputLines (encoded "SOURCE a\r\n\t\n\nWHERE x =5") := by
    decide
  have first : Program.ofText "SOURCE a" = .ok ⟨[.subject .source "a"]⟩ := by cbv
  have last : Program.ofText "WHERE x =5" = .ok ⟨[.test .gate ⟨"x", .equal, .number "5"⟩]⟩ := by cbv
  have passes : (Command.check.run .onPage (encoded "SOURCE a\r\n\t\n\nWHERE x =5")).exit = 0 := by
    rw [exit_check_eq_zero_iff .onPage (cutIntoLines_iff.2 cut), List.forall_mem_map]
    intro text member
    refine ⟨text, rfl, fun filled => ?_⟩
    simp only [List.mem_cons, List.not_mem_nil, or_false] at member
    rcases member with rfl | rfl | rfl | rfl
    · exact ⟨_, first⟩
    · exact absurd (List.all_eq_true.1 (by decide)) filled
    · exact absurd (List.all_eq_true.1 (by decide)) filled
    · exact ⟨_, last⟩
  exact ⟨passes, format_eq_intercalate_of_check .onPage _ passes⟩

/-! ## Checking what formatting wrote -/

/-- A text without carriage returns loses none at its end. -/
theorem withoutReturn_encoded {text : String} (plain : '\r' ∉ text.toList) :
    withoutReturn (encoded text) = encoded text := by
  have absent : (encoded text).getLast? ≠ some 13 := fun last =>
    plain (mem_of_mem_encoded (List.mem_of_getLast? last) (by decide) rfl)
  exact if_neg absent

/-- Canonical texts with line feeds behind them are cut into these texts. -/
theorem cutIntoLines_join_text {programs : List Program} (h : ∀ p ∈ programs, p.WellFormed) :
    CutIntoLines (encoded (String.join (programs.map fun p => p.text ++ "\n")))
      ((programs.map Program.text).map encoded) := by
  induction programs with
  | nil => exact .nil
  | cons p programs ih =>
    obtain ⟨first, later⟩ := List.forall_mem_cons.1 h
    have unbroken : 10 ∉ encoded p.text := fun member =>
      p.isOneLine_text first (mem_of_mem_encoded member (by decide) rfl)
    have cut := CutIntoLines.cons unbroken (ih later)
    rw [withoutReturn_encoded (p.return_not_mem_text first)] at cut
    rw [List.map_cons, String.join_cons, encoded_append, encoded_append, List.append_assoc]
    exact cut

/-- Verdicts that all accept have the rows that say so, one for each number. -/
theorem rows_of_accepted {found : List Verdict} (accepted : ∀ v ∈ found, v = .accepted) :
    (found.zipIdx.map fun (v, i) => v.row (i + 1)) =
      (List.range found.length).map fun i => "\x1b[32m" ++ toString (i + 1) ++ ": ok\x1b[0m\n" := by
  have each : ∀ numbered ∈ found.zipIdx, numbered.1.row (numbered.2 + 1) = Verdict.accepted.row (numbered.2 + 1) := by
    intro numbered member
    rw [accepted _ (List.fst_mem_of_mem_zipIdx member)]
  calc
    _ = found.zipIdx.map fun numbered => Verdict.accepted.row (numbered.2 + 1) := List.map_congr_left each
    _ = (found.zipIdx.map Prod.snd).map fun i => Verdict.accepted.row (i + 1) := by
      rw [List.map_map]
      rfl
    _ = (List.range found.length).map fun i => Verdict.accepted.row (i + 1) := by
      rw [List.zipIdx_map_snd, List.range_eq_range']

/-- A check answers canonical texts of rules with statements, one on each line, with a row for each. -/
theorem run_check_join_text (renderer : Renderer) {programs : List Program}
    (h : ∀ p ∈ programs, p.WellFormed ∧ p.statements ≠ []) :
    Command.check.run renderer (encoded (String.join (programs.map fun p => p.text ++ "\n"))) =
      ⟨0, String.join ((List.range programs.length).map fun i => "\x1b[32m" ++ toString (i + 1) ++ ": ok\x1b[0m\n"),
        ""⟩ := by
  have cut := cutIntoLines_join_text fun p member => (h p member).1
  rw [← List.append_nil ((programs.map Program.text).map encoded)] at cut
  have answer := checkInput_eq (fun line none => by cases none) cut
  have accepted : ∀ v ∈ (programs.map Program.text).map Verdict.ofLine, v = .accepted := by
    simp only [List.map_map, List.forall_mem_map, Function.comp_apply]
    intro p member
    obtain ⟨formed, nonempty⟩ := h p member
    unfold Verdict.ofLine
    rw [if_neg (mt List.all_eq_true.1 (p.not_onlyBlank_text formed nonempty)), p.ofText_text formed]
  have passing : ((programs.map Program.text).map Verdict.ofLine).all Verdict.passes = true := by
    rw [List.all_eq_true]
    intro v member
    rw [accepted v member]
    rfl
  rw [rows_of_accepted accepted, List.length_map, List.length_map, passing] at answer
  exact answer

/-- Runs of formatting on rules with statements write canonical texts of well-formed rules. -/
theorem exists_canonical_outputs (renderer : Renderer) {runs : List ((rule : String) × Showing .canonical rule)}
    (rules : ∀ run ∈ runs, ∃ p, Program.ofText run.1 = .ok p ∧ p.statements ≠ []) :
    ∃ programs : List Program, (∀ p ∈ programs, p.WellFormed ∧ p.statements ≠ []) ∧
      (runs.map fun run => run.2.output renderer) = programs.map fun p => p.text ++ "\n" := by
  induction runs with
  | nil => exact ⟨[], fun p member => absurd member List.not_mem_nil, rfl⟩
  | cons run runs ih =>
    obtain ⟨⟨p, read, nonempty⟩, more⟩ := List.forall_mem_cons.1 rules
    obtain ⟨programs, formed, same⟩ := ih more
    refine ⟨p :: programs, List.forall_mem_cons.2 ⟨⟨Program.wellFormed_of_ofText read, nonempty⟩, formed⟩, ?_⟩
    rw [List.map_cons, List.map_cons, same, Showing.output, run.2.response_canonical renderer read]

/-- What formatting writes for rules with statements, which it is given or finds on the input, is checked as that many
rules, and formatting what it writes for one of them gives the same again. -/
theorem formatted_rules_stand (renderer : Renderer) (runs : List ((rule : String) × Showing .canonical rule))
    (rules : ∀ run ∈ runs, ∃ p, Program.ofText run.1 = .ok p ∧ p.statements ≠ []) :
    Command.check.run renderer (encoded (String.join (runs.map fun run => run.2.output renderer))) =
      ⟨0, String.join ((List.range runs.length).map fun i => "\x1b[32m" ++ toString (i + 1) ++ ": ok\x1b[0m\n"), ""⟩ ∧
    ∀ run ∈ runs, (run.2.response renderer).exit = 0 ∧
      (Command.inspect .canonical "-").run renderer (encoded (run.2.output renderer)) =
        ⟨0, run.2.output renderer, ""⟩ := by
  constructor
  · obtain ⟨programs, formed, same⟩ := exists_canonical_outputs renderer rules
    have count : runs.length = programs.length := by
      have lengths := congrArg List.length same
      rwa [List.length_map, List.length_map] at lengths
    rw [same, count]
    exact run_check_join_text renderer formed
  · intro run member
    obtain ⟨p, read, -⟩ := rules run member
    have answer := run.2.response_canonical renderer read
    have again := run_format_eq renderer (Program.ofText_text_feed (Program.wellFormed_of_ofText read))
    rw [Showing.output, answer]
    exact ⟨rfl, again⟩

/-- A rule on two lines of the input and a rule that is given with the command are written as a line each. -/
theorem formatted_rules_stand_two_rules :
    ∃ runs : List ((rule : String) × Showing .canonical rule),
      runs.map Sigma.fst = ["WATCH\u2003b\r\nPUBLISH WEBSOCKETS c\n", "WHERE x =5"] ∧
      (∀ run ∈ runs, ∃ p, Program.ofText run.1 = .ok p ∧ p.statements ≠ []) ∧
      Command.check.run .onPage (encoded (String.join (runs.map fun run => run.2.output .onPage))) =
        ⟨0, String.join ((List.range runs.length).map fun i => "\x1b[32m" ++ toString (i + 1) ++ ": ok\x1b[0m\n"), ""⟩ ∧
      ∀ run ∈ runs, (run.2.response .onPage).exit = 0 ∧
        (Command.inspect .canonical "-").run .onPage (encoded (run.2.output .onPage)) =
          ⟨0, run.2.output .onPage, ""⟩ := by
  have first : Program.ofText "WATCH\u2003b\r\nPUBLISH WEBSOCKETS c\n" =
      .ok ⟨[.subject .watch "b", .publish .websockets "c"]⟩ := by cbv
  have second : Program.ofText "WHERE x =5" = .ok ⟨[.test .gate ⟨"x", .equal, .number "5"⟩]⟩ := by cbv
  let runs : List ((rule : String) × Showing .canonical rule) :=
    [⟨_, .onInput .canonical "WATCH\u2003b\r\nPUBLISH WEBSOCKETS c\n"⟩, ⟨_, "WHERE x =5", [], rfl⟩]
  have rules : ∀ run ∈ runs, ∃ p, Program.ofText run.1 = .ok p ∧ p.statements ≠ [] :=
    List.forall_mem_cons.2 ⟨⟨_, first, by simp⟩, List.forall_mem_singleton.2 ⟨_, second, by simp⟩⟩
  exact ⟨runs, rfl, rules, formatted_rules_stand .onPage runs rules⟩

end WatchLang
