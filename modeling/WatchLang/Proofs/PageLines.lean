import WatchLang.Proofs.Standing
import WatchLang.Text.Page

/-!
# Lines of a page and lines of a place

A place counts the line feeds before it, and a page is cut at every character that starts a new line on it. However a
text is split into such lines, if no empty line is left behind the last of these characters the lines are those that
`cutPage` cuts off (`SplitIntoLines.eq_cutPage`). Where the only such characters before a point are line feeds, alone or
behind a carriage return, both count the same lines. The text before the point consists of whole lines and of the
beginning of one more, its `lastLine`. Whole lines are cut by themselves whatever follows (`cutPage_append`), as many as
there are line feeds (`length_cutPage`), and the last line is the beginning of the next line of the page
(`exists_cutPage_begun`). Only at the end of a text that ends in a line feed do the two part: a page has no line behind
the last terminator, so this point stands on the line that ends there.
-/

set_option autoImplicit false

namespace WatchLang

/-- Characters among which only line feeds start a new line of a page, and carriage returns right before one. -/
def BreaksAtFeeds (cs : List Char) : Prop :=
  ∀ before c after, before ++ c :: after = cs → endsPageLine c = true → c = '\n' ∨ c = '\r' ∧ after.head? = some '\n'

/-- In no characters at all nothing starts a line. -/
theorem breaksAtFeeds_nil : BreaksAtFeeds [] := by
  intro before c after split
  simp at split

/-- Only line feeds start lines in some characters if this is so in those behind the first, and the first is a line feed
or a carriage return before one where it starts a line. -/
theorem breaksAtFeeds_cons_iff {c : Char} {cs : List Char} :
    BreaksAtFeeds (c :: cs) ↔
      (endsPageLine c = true → c = '\n' ∨ c = '\r' ∧ cs.head? = some '\n') ∧ BreaksAtFeeds cs := by
  constructor
  · intro breaks
    refine ⟨breaks [] c cs rfl, ?_⟩
    intro before d after split ends
    exact breaks (c :: before) d after (by rw [List.cons_append, split]) ends
  · rintro ⟨first, later⟩ before d after split ends
    cases before with
    | nil =>
      obtain ⟨rfl, rfl⟩ := List.cons.inj split
      exact first ends
    | cons b before => exact later before d after (List.cons.inj split).2 ends

/-- Whether only line feeds start lines can be decided, character by character. -/
instance decidableBreaksAtFeeds : (cs : List Char) → Decidable (BreaksAtFeeds cs)
  | [] => .isTrue breaksAtFeeds_nil
  | _ :: cs =>
    have := decidableBreaksAtFeeds cs
    decidable_of_iff' _ breaksAtFeeds_cons_iff

/-- Without the first character, still only line feeds start lines. -/
theorem BreaksAtFeeds.tail {c : Char} {cs : List Char} (breaks : BreaksAtFeeds (c :: cs)) : BreaksAtFeeds cs :=
  (breaksAtFeeds_cons_iff.1 breaks).2

/-- Behind the first of two texts, still only line feeds start lines. -/
theorem BreaksAtFeeds.of_append {first later : List Char} (breaks : BreaksAtFeeds (first ++ later)) :
    BreaksAtFeeds later := by
  induction first with
  | nil => exact breaks
  | cons c first ih => exact ih breaks.tail

/-- Before the second of two texts, still only line feeds start lines, unless a carriage return is parted from its line
feed. -/
theorem BreaksAtFeeds.of_append_left {first later : List Char} (breaks : BreaksAtFeeds (first ++ later))
    (ended : first.getLast? ≠ some '\r') : BreaksAtFeeds first := by
  intro before c after split ends
  have whole : before ++ c :: (after ++ later) = first ++ later := by rw [← split, List.append_assoc, List.cons_append]
  rcases breaks before c (after ++ later) whole ends with feed | ⟨rfl, next⟩
  · exact Or.inl feed
  · cases after with
    | nil => exact absurd (by rw [← split, List.getLast?_concat]) ended
    | cons d ds => exact Or.inr ⟨rfl, next⟩

/-- Characters that are whole lines: none at all, or the last of them is a line feed. -/
def WholeLines (cs : List Char) : Prop :=
  ∀ c ∈ cs.getLast?, c = '\n'

/-- Whole lines without their first character are whole lines. -/
theorem WholeLines.tail {c : Char} {cs : List Char} (whole : WholeLines (c :: cs)) : WholeLines cs := by
  intro d last
  apply whole
  rw [List.getLast?_cons_of_ne_nil (by rintro rfl; cases last)]
  exact last

/-! ## Cutting a page -/

/-- Only a text without characters is cut into no lines. -/
theorem cutPage_eq_nil_iff {cs : List Char} : cutPage cs = [] ↔ cs = [] := by
  constructor
  · intro none
    have kept := flatten_cutPage cs
    rw [none] at kept
    exact kept.symm
  · rintro rfl
    rfl

/-- A carriage return and a line feed at the front are cut off together. -/
theorem cutPage_pair (cs : List Char) : cutPage ('\r' :: '\n' :: cs) = ['\r', '\n'] :: cutPage cs := by
  rw [cutPage]

/-- A character at the front that ends a line is cut off alone, unless it is a carriage return before a line feed. -/
theorem cutPage_of_ends {c : Char} {cs : List Char} (ends : endsPageLine c = true)
    (apart : c = '\r' → cs.head? ≠ some '\n') : cutPage (c :: cs) = [c] :: cutPage cs := by
  rw [cutPage, if_pos ends]
  rintro more rfl rfl
  exact apart rfl rfl

/-- A character at the front that ends no line belongs to the first line that is cut off behind it. -/
theorem cutPage_of_inside {c : Char} {cs line : List Char} {lines : List (List Char)} (inside : endsPageLine c = false)
    (cut : cutPage cs = line :: lines) : cutPage (c :: cs) = (c :: line) :: lines := by
  rw [cutPage, if_neg (by rw [inside]; exact Bool.false_ne_true), cut]
  rintro more rfl rfl
  cases inside

/-- A single character that ends no line is a line. -/
theorem cutPage_singleton {c : Char} (inside : endsPageLine c = false) : cutPage [c] = [[c]] := by
  rw [cutPage, if_neg (by rw [inside]; exact Bool.false_ne_true)]
  · rfl
  · rintro more rfl ⟨⟩

/-- No line of a page is empty. -/
theorem ne_nil_of_mem_cutPage {cs line : List Char} (member : line ∈ cutPage cs) : line ≠ [] := by
  revert member
  fun_induction cutPage cs with
  | case1 => exact fun member => absurd member List.not_mem_nil
  | case2 cs ih | case3 c cs _ _ ih =>
    intro member
    rcases List.mem_cons.1 member with rfl | later
    · exact List.cons_ne_nil _ _
    · exact ih later
  | case4 c cs _ _ none ih =>
    intro member
    rw [List.mem_singleton.1 member]
    exact List.cons_ne_nil _ _
  | case5 c cs _ _ first lines cut ih =>
    intro member
    rcases List.mem_cons.1 member with rfl | later
    · exact List.cons_ne_nil _ _
    · exact ih (by rw [cut]; exact List.mem_cons_of_mem _ later)

/-- Whole lines are cut by themselves, whatever follows. -/
theorem cutPage_append {cs : List Char} (whole : WholeLines cs) (more : List Char) :
    cutPage (cs ++ more) = cutPage cs ++ cutPage more := by
  -- the recursion of cutting: no character, both characters of a terminator, another one, a character within a line
  fun_induction cutPage cs with
  | case1 => rfl
  | case2 cs ih => rw [List.cons_append, List.cons_append, cutPage_pair, ih whole.tail.tail, List.cons_append]
  | case3 c cs apart ends ih =>
    rw [List.cons_append, cutPage_of_ends ends, ih whole.tail, List.cons_append]
    rintro rfl next
    cases cs with
    | nil => cases whole '\r' rfl
    | cons d cs =>
      cases next
      exact apart cs rfl rfl
  | case4 c cs _ inside none ih =>
    cases cutPage_eq_nil_iff.1 none
    cases whole c rfl
    exact absurd rfl inside
  | case5 c cs _ inside line lines cut ih =>
    rw [Bool.not_eq_true] at inside
    have rest := ih whole.tail
    rw [cut, List.cons_append] at rest
    rw [List.cons_append, cutPage_of_inside inside rest, List.cons_append]

/-- Whole lines are as many as the line feeds, if nothing else starts a line. -/
theorem length_cutPage {cs : List Char} (whole : WholeLines cs) (breaks : BreaksAtFeeds cs) :
    (cutPage cs).length = cs.count '\n' := by
  fun_induction cutPage cs with
  | case1 => rfl
  | case2 cs ih =>
    have rest := ih whole.tail.tail breaks.tail.tail
    rw [List.length_cons, rest, List.count_cons_of_ne (by decide), List.count_cons_self]
  | case3 c cs apart ends ih =>
    have rest := ih whole.tail breaks.tail
    rcases breaks [] c cs rfl ends with rfl | ⟨rfl, next⟩
    · rw [List.length_cons, rest, List.count_cons_self]
    · obtain ⟨later, rfl⟩ := List.head?_eq_some_iff.1 next
      exact absurd rfl (apart later rfl)
  | case4 c cs _ inside none ih =>
    cases cutPage_eq_nil_iff.1 none
    cases whole c rfl
    exact absurd rfl inside
  | case5 c cs _ inside line lines cut ih =>
    have rest := ih whole.tail breaks.tail
    have other : c ≠ '\n' := by
      rintro rfl
      exact inside rfl
    rw [cut, List.length_cons] at rest
    rw [List.length_cons, rest, List.count_cons_of_ne other]

/-- What stands before something else and has no terminator in it is the beginning of the first line. -/
theorem exists_cutPage_begun {begun : List Char} (inside : ∀ c ∈ begun, endsPageLine c = false) {after : List Char}
    (some : begun ++ after ≠ []) :
    ∃ more later, cutPage (begun ++ after) = (begun ++ more) :: later ∧ (later = [] ∨ more ≠ []) := by
  induction begun with
  | nil =>
    obtain ⟨line, later, cut⟩ := List.exists_cons_of_ne_nil (mt cutPage_eq_nil_iff.1 some)
    exact ⟨line, later, cut, Or.inr (ne_nil_of_mem_cutPage (cut ▸ List.mem_cons_self))⟩
  | cons c begun ih =>
    obtain ⟨here, there⟩ := List.forall_mem_cons.1 inside
    by_cases alone : begun ++ after = []
    · obtain ⟨rfl, rfl⟩ := List.append_eq_nil_iff.1 alone
      exact ⟨[], [], cutPage_singleton here, Or.inl rfl⟩
    · obtain ⟨more, later, cut, upTo⟩ := ih there alone
      exact ⟨more, later, cutPage_of_inside here cut, upTo⟩

/-! ## Splitting a text into lines -/

/-- Splitting a text loses no character. -/
theorem SplitIntoLines.flatten_eq {cs : List Char} {lines : List (List Char)} (split : SplitIntoLines cs lines) :
    lines.flatten = cs := by
  induction split with
  | nil => rfl
  | last unbroken => exact List.flatten_singleton
  | cons unbroken ends later ih => rw [List.flatten_cons, ih]

/-- A text without characters has no line or an empty one. -/
theorem SplitIntoLines.eq_of_nil {lines : List (List Char)} (split : SplitIntoLines [] lines) :
    lines = [] ∨ lines = [[]] := by
  generalize same : [] = cs at split
  cases split with
  | nil => exact Or.inl rfl
  | last unbroken =>
    cases same
    exact Or.inr rfl
  | cons unbroken ends later => cases ends <;> simp at same

/-- A character that ends no line belongs to the line that follows. -/
theorem SplitIntoLines.push {c : Char} {cs line : List Char} {lines : List (List Char)}
    (inside : endsPageLine c = false) (split : SplitIntoLines cs (line :: lines)) :
    SplitIntoLines (c :: cs) ((c :: line) :: lines) := by
  generalize same : line :: lines = all at split
  cases split with
  | nil => cases same
  | last unbroken =>
    cases same
    exact .last (List.forall_mem_cons.2 ⟨inside, unbroken⟩)
  | cons unbroken ends later =>
    cases same
    have pushed := SplitIntoLines.cons (List.forall_mem_cons.2 ⟨inside, unbroken⟩) ends later
    exact pushed

/-- A text is split into the lines that are cut off it. -/
theorem splitIntoLines_cutPage (cs : List Char) : SplitIntoLines cs (cutPage cs) := by
  have none : ∀ c ∈ ([] : List Char), endsPageLine c = false := fun c member => absurd member List.not_mem_nil
  -- the recursion of cutting: no character, both characters of a terminator, another one, a character within a line
  fun_induction cutPage cs with
  | case1 => exact .nil
  | case2 cs ih =>
    have split := SplitIntoLines.cons none .pair ih
    exact split
  | case3 c cs apart ends ih =>
    have alone : c = '\r' → cs.head? ≠ some '\n' := by
      rintro rfl next
      obtain ⟨later, rfl⟩ := List.head?_eq_some_iff.1 next
      exact apart later rfl rfl
    have split := SplitIntoLines.cons none (.single ends alone) ih
    exact split
  | case4 c cs _ inside empty ih =>
    cases cutPage_eq_nil_iff.1 empty
    exact .last (List.forall_mem_singleton.2 (Bool.not_eq_true _ ▸ inside))
  | case5 c cs _ inside line lines cut ih =>
    rw [cut] at ih
    exact ih.push (Bool.not_eq_true _ ▸ inside)

/-- Characters that end no line are cut off as one line. -/
theorem cutPage_unbroken {line : List Char} (unbroken : ∀ c ∈ line, endsPageLine c = false) (some : line ≠ []) :
    cutPage line = [line] := by
  obtain ⟨more, later, cut, upTo⟩ :
      ∃ more later, cutPage (line ++ []) = (line ++ more) :: later ∧ (later = [] ∨ more ≠ []) :=
    exists_cutPage_begun unbroken (by rwa [List.append_nil])
  have kept := flatten_cutPage line
  rw [List.append_nil] at cut
  rw [cut, List.flatten_cons, List.append_assoc, List.append_right_eq_self, List.append_eq_nil_iff] at kept
  rcases upTo with rfl | filled
  · rw [cut, kept.1, List.append_nil]
  · exact absurd kept.1 filled

/-- A line is cut off as a whole with what ends it. -/
theorem cutPage_line {line ending rest : List Char} (unbroken : ∀ c ∈ line, endsPageLine c = false)
    (ends : EndsLineBefore rest ending) : cutPage (line ++ ending ++ rest) = (line ++ ending) :: cutPage rest := by
  induction line with
  | nil =>
    cases ends with
    | pair => exact cutPage_pair rest
    | single ends apart => exact cutPage_of_ends ends apart
  | cons c line ih =>
    obtain ⟨here, there⟩ := List.forall_mem_cons.1 unbroken
    exact cutPage_of_inside here (ih there)

/-- Lines that a text is split into are those that are cut off it, unless one of them is empty. -/
theorem SplitIntoLines.eq_cutPage {cs : List Char} {lines : List (List Char)} (split : SplitIntoLines cs lines)
    (filled : [] ∉ lines) : lines = cutPage cs := by
  induction split with
  | nil => rfl
  | @last line unbroken =>
    have some : line ≠ [] := by
      rintro rfl
      exact filled (List.mem_singleton.2 rfl)
    exact (cutPage_unbroken unbroken some).symm
  | cons unbroken ends later ih =>
    rw [cutPage_line unbroken ends, ih (mt (List.mem_cons_of_mem _) filled)]

/-- The page of a text with characters is what is cut off it. -/
theorem page_eq_cutPage {cs : List Char} (some : cs ≠ []) : page cs = cutPage cs := by
  unfold page
  split
  · next none => exact absurd (cutPage_eq_nil_iff.1 none) some
  · rfl

/-! ## Whole lines and the last one -/

/-- The last line has no line feed. -/
theorem feed_not_mem_lastLine (cs : List Char) : '\n' ∉ lastLine cs := by
  intro member
  rw [lastLine, List.mem_reverse] at member
  have kept := List.all_eq_true.1 List.all_takeWhile '\n' member
  simp at kept

/-- Characters are whole lines and the last line behind them. -/
theorem exists_wholeLines (cs : List Char) : ∃ whole, whole ++ lastLine cs = cs ∧ WholeLines whole := by
  refine ⟨(cs.reverse.dropWhile (· ≠ '\n')).reverse, ?_, ?_⟩
  · rw [lastLine, ← List.reverse_append, List.takeWhile_append_dropWhile, List.reverse_reverse]
  · intro c last
    rw [List.getLast?_reverse] at last
    have stops := List.head?_dropWhile_not (fun c => decide (c ≠ '\n')) cs.reverse
    rw [last] at stops
    simpa using stops

/-- Where only line feeds start new lines, none starts within the last line. -/
theorem not_ends_of_mem_lastLine {cs : List Char} (breaks : BreaksAtFeeds cs) :
    ∀ c ∈ lastLine cs, endsPageLine c = false := by
  intro c member
  obtain ⟨whole, split, -⟩ := exists_wholeLines cs
  rw [← split] at breaks
  obtain ⟨before, after, line⟩ := List.append_of_mem member
  have absent := feed_not_mem_lastLine cs
  rw [line] at absent
  rw [← Bool.not_eq_true]
  intro ends
  rcases breaks.of_append before c after line.symm ends with rfl | ⟨-, next⟩
  · exact absent (by simp)
  · obtain ⟨later, rfl⟩ := List.head?_eq_some_iff.1 next
    exact absent (by simp)

/-- All line feeds are in the whole lines before the last one. -/
theorem count_feed_eq {whole cs : List Char} (split : whole ++ lastLine cs = cs) :
    cs.count '\n' = whole.count '\n' := by
  have none := List.count_eq_zero.2 (feed_not_mem_lastLine cs)
  conv_lhs => rw [← split]
  rw [List.count_append, none, Nat.add_zero]

/-! ## Points on a page -/

/-- A point of a text on its page: whole lines are before it, and then the beginning of one more, the number of which
and the column behind which are counted from one. Where a line ends and another begins, the point is on the other. -/
def StandsOnPage (lines : List (List Char)) (before : List Char) (place : Nat × Nat) : Prop :=
  ∃ earlier begun more later, lines = earlier ++ (begun ++ more) :: later ∧ earlier.flatten ++ begun = before ∧
    (later = [] ∨ more ≠ []) ∧ place = (earlier.length + 1, begun.length + 1)

/-- Where only line feeds start new lines before a point of a text, the page counts its line and its column as its place
does, unless it is the end of a text that ends in a line feed. -/
theorem standsOnPage_counted {before after : List Char} (breaks : BreaksAtFeeds before)
    (goesOn : ¬ (after = [] ∧ before.getLast? = some '\n')) :
    StandsOnPage (page (before ++ after)) before ((Place.counted before).line, (Place.counted before).column) := by
  obtain ⟨whole, split, wholeLines⟩ := exists_wholeLines before
  by_cases none : lastLine before ++ after = []
  · obtain ⟨empty, rfl⟩ := List.append_eq_nil_iff.1 none
    rw [empty, List.append_nil] at split
    subst split
    cases last : whole.getLast? with
    | none =>
      rw [List.getLast?_eq_none_iff.1 last]
      exact ⟨[], [], [], [], rfl, rfl, Or.inl rfl, rfl⟩
    | some c =>
      cases wholeLines c last
      exact absurd ⟨rfl, last⟩ goesOn
  · obtain ⟨more, later, cut, upTo⟩ := exists_cutPage_begun (not_ends_of_mem_lastLine breaks) none
    have breaks' : BreaksAtFeeds whole := by
      rw [← split] at breaks
      exact breaks.of_append_left fun last => by cases wholeLines _ last
    have some : before ++ after ≠ [] := by
      rw [← split, List.append_assoc]
      exact List.append_ne_nil_of_right_ne_nil _ none
    have cutWhole : cutPage (before ++ after) = cutPage whole ++ (lastLine before ++ more) :: later := by
      conv_lhs => rw [← split, List.append_assoc, cutPage_append wholeLines, cut]
    refine ⟨cutPage whole, lastLine before, more, later, (page_eq_cutPage some).trans cutWhole, ?_, upTo, ?_⟩
    · rw [flatten_cutPage, split]
    · rw [length_cutPage wholeLines breaks', ← count_feed_eq split, Place.counted, Nat.add_comm 1, Nat.add_comm 1]

/-- The end of a text that ends in a line feed is on the page right behind this line feed, on the line that it ends. -/
theorem standsOnPage_end {cs : List Char} (breaks : BreaksAtFeeds (cs ++ ['\n'])) :
    StandsOnPage (page (cs ++ ['\n'])) (cs ++ ['\n']) ((Place.counted cs).line, (Place.counted cs).column + 1) := by
  obtain ⟨whole, split, wholeLines⟩ := exists_wholeLines cs
  have absent := List.count_eq_zero.2 (feed_not_mem_lastLine cs)
  have assembled : whole ++ (lastLine cs ++ ['\n']) = cs ++ ['\n'] := by rw [← List.append_assoc, split]
  have some : cs ++ ['\n'] ≠ [] := List.append_ne_nil_of_right_ne_nil _ (List.cons_ne_nil _ _)
  rw [← assembled] at breaks
  have breaks' : BreaksAtFeeds whole := breaks.of_append_left fun last => by cases wholeLines _ last
  -- the last line ends in the line feed, and none of the characters before it in the line ends one
  have single : cutPage (lastLine cs ++ ['\n']) = [lastLine cs ++ ['\n']] := by
    have last : WholeLines (lastLine cs ++ ['\n']) := by
      intro c ends
      rw [List.getLast?_concat] at ends
      exact (Option.some.inj ends).symm
    have lines := length_cutPage last breaks.of_append
    have kept := flatten_cutPage (lastLine cs ++ ['\n'])
    rw [List.count_append, absent, List.count_singleton_self, Nat.zero_add, List.length_eq_one_iff] at lines
    obtain ⟨line, only⟩ := lines
    rw [only, List.flatten_singleton] at kept
    rw [only, kept]
  have cutWhole : cutPage (cs ++ ['\n']) = cutPage whole ++ ((lastLine cs ++ ['\n']) ++ []) :: [] := by
    rw [← assembled, cutPage_append wholeLines, single, List.append_nil]
  refine ⟨cutPage whole, _, [], [], (page_eq_cutPage some).trans cutWhole, ?_, Or.inl rfl, ?_⟩
  · rw [flatten_cutPage, assembled]
  · rw [length_cutPage wholeLines breaks', ← count_feed_eq split, Place.counted, List.length_append,
      List.length_singleton, Nat.add_comm 1, Nat.add_comm 1]

end WatchLang
