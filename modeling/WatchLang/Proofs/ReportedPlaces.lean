import WatchLang.Proofs.DrawnReports
import WatchLang.Proofs.Standing
import WatchLang.Proofs.Unambiguous

/-!
# Reports and messages name one place

A message begins with the line and the column that a diagnostic tells, and the header of a report names the line and the
column that a renderer finds the bytes of the diagnostic at. Renderers are documented to divide a text into the lines of
its page (`Renderer.Documented.lines_eq`) and to write the header for the first of the characters that are labelled. A
refusal of a text points at characters of it (`Diagnostic.PointsAt`), so the header of its report names the place on the
page where these stand (`Diagnostic.PointsAt.reportNames`). Where only line feeds start new lines before them, this is
the place that the message tells; only the end of a text that ends in a line feed is told as a line of its own and drawn
on the line before.
-/

set_option autoImplicit false

namespace WatchLang

/-! ## Headers -/

/-- A header names one place: the line is told up to a colon, and the column up to a space. -/
theorem Report.HeadedBy.unique {report : Report} {place place' : Nat × Nat} {written : String}
    (headed : report.HeadedBy place written) (headed' : report.HeadedBy place' written) : place = place' := by
  obtain ⟨margin, drawing, same⟩ := headed
  obtain ⟨margin', drawing', same'⟩ := headed'
  have frame : Unambiguous fun margin => List.replicate margin ' ' ++ ['╭'] :=
    .before_mark (fun m n same => by simpa using congrArg List.length same) fun n => by simp
  have line : Unambiguous fun n : Nat => (toString n).toList ++ [':'] :=
    unambiguous_number fun _ => Nat.digitChar_ne ':' (by decide)
  have column : Unambiguous fun n : Nat => (toString n).toList ++ [' '] :=
    unambiguous_number fun _ => Nat.digitChar_ne ' ' (by decide)
  have framed : "╭─[ <unknown>:".toList = ['╭'] ++ "─[ <unknown>:".toList := by simp
  have colon : ":".toList = [':'] := by simp
  have space : " ]\n".toList = [' '] ++ "]\n".toList := by simp
  rw [same] at same'
  replace same := congrArg String.toList same'
  simp only [String.toList_append, String.toList_ofList, List.append_assoc, List.append_cancel_left_eq, framed, colon,
    space] at same
  obtain ⟨-, header⟩ := frame (by simpa only [List.append_assoc] using same)
  obtain ⟨lines, behind⟩ := line (by simpa only [List.append_assoc] using List.append_cancel_left header)
  obtain ⟨columns, -⟩ := column (by simpa only [List.append_assoc] using behind)
  exact Prod.ext lines columns

/-- The report on a diagnostic that a renderer writes names a line and a column in its header. -/
def Diagnostic.ReportNames (d : Diagnostic) (renderer : Renderer) (text : String) (place : Nat × Nat) : Prop :=
  (d.buildReport false).HeadedBy place (d.report renderer text)

/-- A report that names a place names no other. -/
theorem Diagnostic.ReportNames.iff_eq {d : Diagnostic} {renderer : Renderer} {text : String} {place : Nat × Nat}
    (named : d.ReportNames renderer text place) (place' : Nat × Nat) :
    d.ReportNames renderer text place' ↔ place' = place := by
  constructor
  · intro named'
    exact Report.HeadedBy.unique named' named
  · rintro rfl
    exact named

/-! ## Documented renderers -/

section Documented

variable {renderer : Renderer} (documented : renderer.Documented)

include documented

/-- A renderer divides a text into the lines of its page. -/
theorem Renderer.Documented.lines_eq (text : String) : renderer.lines text = page text.toList := by
  have split := documented.splits text
  by_cases none : text = ""
  · subst none
    -- the end of the empty text is found on a line, so there is one, and it has no characters
    have last := documented.lineAt_end ""
    rcases SplitIntoLines.eq_of_nil split with empty | single
    · rw [empty] at last
      cases last
    · exact single
  · have filled : [] ∉ renderer.lines text := mt (documented.no_empty_line text) none
    rw [split.eq_cutPage filled, page_eq_cutPage (mt String.toList_eq_nil_iff.1 none)]

/-- A point of a text is found on the line of the page that it stands on. -/
theorem Renderer.Documented.lineAt_eq {text : String} {begun more : List Char} {earlier later : List (List Char)}
    (lines : renderer.lines text = earlier ++ (begun ++ more) :: later) (upTo : later = [] ∨ more ≠ []) :
    renderer.lineAt text (byteLength (earlier.flatten ++ begun)) = earlier.length := by
  by_cases none : more = []
  · obtain rfl := upTo.resolve_right (not_not_intro none)
    have kept := (documented.splits text).flatten_eq
    have last := documented.lineAt_end text
    rw [none, List.append_nil] at lines
    rw [lines, List.flatten_append, List.flatten_singleton] at kept
    rw [lines, ← kept, List.length_append, List.length_singleton] at last
    exact Nat.succ.inj last
  · exact documented.lineAt_within text earlier begun more later lines none

end Documented

/-! ## Refusals of texts -/

section Pointing

variable {d : Diagnostic} {text : String} {raws : List RawEntry} {before pointed after : List Char}
  (points : d.PointsAt text raws before pointed after)

include points

/-- A renderer's report on a refusal names the place on the page where the characters stand that are pointed at. -/
theorem Diagnostic.PointsAt.reportNames {renderer : Renderer} (documented : renderer.Documented) {place : Nat × Nat}
    (stands : StandsOnPage (page text.toList) before place) : d.ReportNames renderer text place := by
  obtain ⟨earlier, begun, more, later, lines, rfl, upTo, rfl⟩ := stands
  rw [← documented.lines_eq text] at lines
  exact documented.header (d.buildReport false) text _ pointed after earlier later begun more rfl rfl rfl points.split
    points.span lines rfl (documented.lineAt_eq lines upTo)

/-- A refusal points at characters behind just one beginning of the text. -/
theorem Diagnostic.PointsAt.before_eq {before' after' : List Char} (split : before' ++ after' = text.toList)
    (start : d.span.start = byteLength before') : before' = before ∧ after' = pointed ++ after := by
  have same : before ++ (pointed ++ after) = before' ++ after' := by
    rw [← List.append_assoc, points.split, split]
  rw [points.span] at start
  obtain ⟨between, rfl, rest⟩ := exists_of_byteLength_le same (Nat.le_of_eq start)
  have empty : between = [] := by
    rw [byteLength_append] at start
    exact byteLength_eq_zero_iff.1 (by simpa using start.symm)
  rw [empty, List.append_nil]
  rw [empty, List.nil_append] at rest
  exact ⟨rfl, rest.symm⟩

end Pointing

/-- A refusal of a text as a rule or as a condition begins behind some characters of it, which its bytes determine. If
only line feeds start new lines among these, then the header of the report that a documented renderer writes names the
line and the column that the message begins with, and nothing else. The one exception is the end of a text that ends
in a line feed: there the header names the line before, and on it the column right behind the line feed. -/
theorem report_names_place {renderer : Renderer} (documented : renderer.Documented) {text : String} {d : Diagnostic}
    (refused : Program.ofText text = .error d ∨ Condition.ofText text = .error d) :
    d.message = toString d.line ++ ":" ++ toString d.column ++ ": " ++ d.cause.account ∧
    (∃ before after, before ++ after = text.toList ∧ d.span.start = byteLength before) ∧
    ∀ before after, before ++ after = text.toList → d.span.start = byteLength before → BreaksAtFeeds before →
      (¬ (after = [] ∧ before.getLast? = some '\n') →
        ∀ place, d.ReportNames renderer text place ↔ place = (d.line, d.column)) ∧
      ∀ cs, after = [] → before = cs ++ ['\n'] →
        d.line = (Place.counted cs).line + 1 ∧
        ∀ place, d.ReportNames renderer text place ↔ place = (d.line - 1, (Place.counted cs).column + 1) := by
  obtain ⟨_, before, pointed, after, points⟩ :
      ∃ raws before pointed after, d.PointsAt text raws before pointed after := by
    rcases refused with program | condition
    · exact Reader.exact_program_ofTokens.exists_pointsAt program
    · exact Reader.exact_condition_ofTokens.exists_pointsAt condition
  have whole : before ++ (pointed ++ after) = text.toList := by rw [← List.append_assoc, points.split]
  refine ⟨rfl, ⟨before, pointed ++ after, whole, by rw [points.span]⟩, ?_⟩
  intro before' after' split start breaks
  obtain ⟨rfl, rfl⟩ := points.before_eq split start
  constructor
  · intro goesOn
    have stands := standsOnPage_counted breaks goesOn
    rw [split] at stands
    rw [points.line, points.column]
    exact (points.reportNames documented stands).iff_eq
  · intro cs last whole
    have line : d.line = (Place.counted cs).line + 1 := by
      rw [points.line, whole, List.count_append, List.count_singleton_self]
      rfl
    rw [last, List.append_nil] at split
    rw [whole] at breaks
    have stands := standsOnPage_end breaks
    rw [← whole] at stands
    nth_rewrite 1 [split] at stands
    rw [line, Nat.add_sub_cancel]
    exact ⟨rfl, (points.reportNames documented stands).iff_eq⟩

/-- Behind a carriage return and a line feed the report drawn on a page names the second line, as the message does;
and the end of a text behind its only line feed, which the message tells as the beginning of the second line, is
column eight of the first. -/
theorem report_names_place_behind_feeds :
    Renderer.onPage.Documented ∧
    Program.ofText "SOURCE a\r\nWATCH 5" =
      .error (.unexpected (.subject .watch) [.word] (.readAt ⟨16, 2, 7⟩ .digits ['5'])) ∧
    BreaksAtFeeds "SOURCE a\r\nWATCH ".toList ∧
    (Diagnostic.unexpected (.subject .watch) [.word] (.readAt ⟨16, 2, 7⟩ .digits ['5'])).ReportNames .onPage
      "SOURCE a\r\nWATCH 5" (2, 7) ∧
    Program.ofText "SOURCE\n" = .error (.unexpected (.subject .source) [.word] (.endAt ⟨7, 2, 1⟩)) ∧
    BreaksAtFeeds "SOURCE\n".toList ∧
    (Diagnostic.unexpected (.subject .source) [.word] (.endAt ⟨7, 2, 1⟩)).ReportNames .onPage "SOURCE\n" (1, 8) := by
  have misfit : Program.ofText "SOURCE a\r\nWATCH 5" =
      .error (.unexpected (.subject .watch) [.word] (.readAt ⟨16, 2, 7⟩ .digits ['5'])) := by cbv
  have ended : Program.ofText "SOURCE\n" = .error (.unexpected (.subject .source) [.word] (.endAt ⟨7, 2, 1⟩)) := by cbv
  have first : BreaksAtFeeds "SOURCE a\r\nWATCH ".toList := by decide
  have second : BreaksAtFeeds "SOURCE\n".toList := by decide
  have within := ((report_names_place Renderer.onPage_documented (Or.inl misfit)).2.2 _ ['5'] rfl rfl first).1 (by simp)
  have last := ((report_names_place Renderer.onPage_documented (Or.inl ended)).2.2 _ [] rfl rfl second).2
    "SOURCE".toList rfl rfl
  exact ⟨Renderer.onPage_documented, misfit, first, (within _).2 rfl, ended, second, (last.2 _).2 rfl⟩

end WatchLang
