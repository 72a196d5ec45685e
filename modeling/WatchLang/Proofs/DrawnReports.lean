import WatchLang.Diagnostic.Drawing
import WatchLang.Proofs.PageLines

/-!
# Drawn reports are as documented

`Renderer.onPage` draws reports on a page, and what is relied on of a renderer holds of it
(`Renderer.onPage_documented`). A point of a text that stands on a line of the page, before its end or on the last
line, is found on this line by the offset of its bytes (`pageLineAt_of_page`). The header is drawn with the number of
that line and with how many of its characters begin before the offset, and it is the first thing that a drawing shows
(`exists_drawing_eq`).
-/

set_option autoImplicit false

namespace WatchLang

/-! ## Lines by their offsets -/

/-- Lines are numbered on behind other lines, from the offset where these end. -/
theorem PageLine.sequence_append (number offset : Nat) (first later : List (List Char)) :
    sequence number offset (first ++ later) =
      sequence number offset first ++ sequence (number + first.length) (offset + byteLength first.flatten) later := by
  induction first generalizing number offset with
  | nil => rfl
  | cons line lines ih =>
    simp only [List.cons_append, sequence, ih, List.length_cons, List.flatten_cons, byteLength_append, Nat.add_assoc,
      Nat.add_comm 1]

/-- Lines numbered from an offset on begin there or behind it. -/
theorem PageLine.le_offset_of_mem {number offset : Nat} {lines : List (List Char)} {line : PageLine}
    (member : line ∈ sequence number offset lines) : offset ≤ line.offset := by
  induction lines generalizing number offset with
  | nil => cases member
  | cons first lines ih =>
    rcases List.mem_cons.1 member with rfl | later
    · exact Nat.le_refl _
    · have bound := ih later
      omega

/-- The characters before an offset are those that begin before it. -/
theorem columnAt_append (before more : List Char) : columnAt (before ++ more) (byteLength before) = before.length := by
  induction before with
  | nil => cases more <;> rfl
  | cons c before ih =>
    have size := c.utf8Size_pos
    rw [List.cons_append, columnAt, if_neg (by rw [byteLength_cons]; omega), byteLength_cons, Nat.add_sub_cancel_left,
      ih, List.length_cons]

/-- An offset behind some lines and some characters of the next falls on that line, unless it is its end and another
line begins there. -/
theorem pageLineAt_of_page {cs begun more : List Char} {earlier later : List (List Char)}
    (lines : page cs = earlier ++ (begun ++ more) :: later) (upTo : later = [] ∨ more ≠ []) :
    pageLineAt cs (byteLength (earlier.flatten ++ begun)) =
      ⟨1 + earlier.length, byteLength earlier.flatten, begun ++ more⟩ := by
  -- the lines behind begin beyond the offset, so the last line at or before it is the one that it stands on
  have beyond : (PageLine.sequence (1 + earlier.length + 1)
      (byteLength earlier.flatten + byteLength (begun ++ more)) later).filter
        (·.offset ≤ byteLength (earlier.flatten ++ begun)) = [] := by
    rw [List.filter_eq_nil_iff]
    intro line member
    rcases upTo with rfl | some
    · cases member
    · have bound := PageLine.le_offset_of_mem member
      have size := byteLength_pos some
      rw [decide_eq_true_eq]
      rw [byteLength_append] at bound ⊢
      omega
  unfold pageLineAt
  rw [lines, PageLine.sequence_append, PageLine.sequence, Nat.zero_add, List.filter_append, List.filter_cons_of_pos,
    beyond, List.getLastD_concat]
  rw [decide_eq_true_eq, byteLength_append]
  exact Nat.le_add_right _ _

/-- The place of a point on the page is found by the offset of its bytes. -/
theorem pagePlaceAt_of_page {cs begun more : List Char} {earlier later : List (List Char)}
    (lines : page cs = earlier ++ (begun ++ more) :: later) (upTo : later = [] ∨ more ≠ []) :
    pagePlaceAt cs (byteLength (earlier.flatten ++ begun)) = (earlier.length + 1, begun.length + 1) := by
  unfold pagePlaceAt
  rw [pageLineAt_of_page lines upTo]
  simp only [byteLength_append, Nat.add_sub_cancel_left, columnAt_append, Nat.add_comm 1]

/-! ## The page of a text -/

/-- A page has a line. -/
theorem page_ne_nil (cs : List Char) : page cs ≠ [] := by
  unfold page
  split
  · exact List.cons_ne_nil _ _
  · assumption

/-- A text is split into the lines of its page. -/
theorem splitIntoLines_page (cs : List Char) : SplitIntoLines cs (page cs) := by
  by_cases none : cs = []
  · rw [none]
    exact .last fun c member => absurd member List.not_mem_nil
  · rw [page_eq_cutPage none]
    exact splitIntoLines_cutPage cs

/-- Only the page of an empty text has an empty line. -/
theorem eq_nil_of_nil_mem_page {cs : List Char} (empty : [] ∈ page cs) : cs = [] := by
  by_contra some
  rw [page_eq_cutPage some] at empty
  exact ne_nil_of_mem_cutPage empty rfl

/-- The end of a text stands on the last line of its page. -/
theorem number_pageLineAt_end (cs : List Char) : (pageLineAt cs (byteLength cs)).number = (page cs).length := by
  obtain none | ⟨earlier, last, lines⟩ := List.eq_nil_or_concat (page cs)
  · exact absurd none (page_ne_nil cs)
  · rw [List.concat_eq_append] at lines
    have kept := (splitIntoLines_page cs).flatten_eq
    have whole : page cs = earlier ++ (last ++ []) :: [] := by rw [lines, List.append_nil]
    have here := pageLineAt_of_page whole (Or.inl rfl)
    rw [lines, List.flatten_append, List.flatten_singleton] at kept
    rw [kept] at here
    rw [here, lines, List.length_append, List.length_singleton, Nat.add_comm]

/-- The end of a line that another follows stands on the other. -/
theorem number_pageLineAt_next {cs line : List Char} {earlier later : List (List Char)}
    (lines : page cs = earlier ++ line :: later) (others : later ≠ []) :
    (pageLineAt cs (byteLength (earlier.flatten ++ line))).number = earlier.length + 2 := by
  obtain ⟨next, rest, rfl⟩ := List.exists_cons_of_ne_nil others
  have some : next ≠ [] := by
    rintro rfl
    have member : [] ∈ page cs := by simp [lines]
    have none := eq_nil_of_nil_mem_page member
    have single := congrArg List.length lines
    rw [none, List.length_append] at single
    simp only [page, cutPage, List.length_cons, List.length_nil] at single
    omega
  have regrouped : page cs = (earlier ++ [line]) ++ ([] ++ next) :: rest := by
    rw [lines, List.append_assoc, List.singleton_append, List.nil_append]
  have here := pageLineAt_of_page regrouped (Or.inr some)
  rw [List.flatten_append, List.flatten_singleton, List.append_nil] at here
  rw [here, List.length_append, List.length_singleton, Nat.add_comm]

/-! ## Headers -/

/-- A drawing begins with the header. -/
theorem Mark.exists_drawing_eq (m : Mark) (place : Nat × Nat) (message : String) :
    ∃ drawing, m.drawing place message =
      ([.space ((toString m.line.number).length + 2), .inked .frame "╭", .inked .frame "─", .inked .frame "[",
        .bare (" <unknown>:" ++ toString place.1 ++ ":" ++ toString place.2 ++ " "), .inked .frame "]",
        .newline] : List Piece) ++ drawing := by
  unfold drawing
  simp only [List.append_assoc]
  exact ⟨_, rfl⟩

/-- Characters of a text can be pointed at by their bytes. -/
theorem Mark.exists_ofSpan? {cs before pointed after : List Char} (split : before ++ pointed ++ after = cs) (ink : Ink) :
    ∃ mark, ofSpan? cs ⟨byteLength before, byteLength (before ++ pointed)⟩ ink = some mark := by
  have within : byteLength before ≤ byteLength cs ∧
      (byteLength before < byteLength (before ++ pointed) → byteLength (before ++ pointed) ≤ byteLength cs + 1) := by
    rw [← split]
    simp only [byteLength_append]
    omega
  unfold ofSpan?
  rw [if_pos within]
  exact ⟨_, rfl⟩

/-- A report that labels characters of a text is drawn under a header with their place on the page. -/
theorem Report.headedBy_drawn {report : Report} {cs before pointed after : List Char}
    (split : before ++ pointed ++ after = cs) (plain : report.coloured = false) (bytes : report.unit = .bytes)
    (labelled : report.label.range = report.range)
    (range : report.range = ⟨byteLength before, byteLength (before ++ pointed)⟩) :
    report.HeadedBy (pagePlaceAt cs (byteLength before)) (report.drawn cs) := by
  obtain ⟨mark, marked⟩ := Mark.exists_ofSpan? split report.label.colour.ink
  obtain ⟨drawing, drawn⟩ := mark.exists_drawing_eq (pagePlaceAt cs (byteLength before)) report.label.message
  have pieces : report.pieces cs =
      ([.inked .error ("[" ++ report.code ++ "] " ++ report.severity.name ++ ":"), .bare (" " ++ report.title),
        .newline] : List Piece) ++ mark.drawing (pagePlaceAt cs (byteLength before)) report.label.message := by
    unfold Report.pieces
    rw [bytes, labelled, range, OffsetUnit.bytesOf, marked]
  refine ⟨(toString mark.line.number).length + 2, String.join (drawing.map Piece.text), ?_⟩
  -- without inks the pieces are written one behind the other
  unfold Report.drawn
  rw [pieces, drawn, plain]
  simp only [Bool.false_eq_true, if_false, List.map_append, String.join_append]
  simp only [List.map_cons, List.map_nil, Piece.inked, Piece.bare, Piece.newline, Piece.space, String.join_cons,
    String.join_nil, String.append_empty, String.append_assoc, Severity.name]
  rw [← String.toList_inj]
  simp

/-- What is relied on of a renderer holds of the one that draws reports on a page. -/
theorem Renderer.onPage_documented : Renderer.onPage.Documented where
  splits text := splitIntoLines_page text.toList
  no_empty_line text empty := String.toList_eq_nil_iff.1 (eq_nil_of_nil_mem_page empty)
  lineAt_within text earlier begun more later lines some := by
    have here := pageLineAt_of_page lines (Or.inr some)
    show (pageLineAt text.toList _).number - 1 = earlier.length
    rw [here, Nat.add_sub_cancel_left]
  lineAt_end text := by
    have last := number_pageLineAt_end text.toList
    have some := List.length_pos_iff.2 (page_ne_nil text.toList)
    show (pageLineAt text.toList _).number - 1 + 1 = (page text.toList).length
    omega
  header := by
    intro report text before pointed after earlier later begun more plain bytes labelled split range lines upTo found
    change page text.toList = earlier ++ (begun ++ more) :: later at lines
    change (pageLineAt text.toList (byteLength before)).number - 1 = earlier.length at found
    have goesOn : later = [] ∨ more ≠ [] := by
      by_contra ended
      rw [not_or, not_not] at ended
      obtain ⟨others, rfl⟩ := ended
      rw [List.append_nil] at lines
      rw [← upTo, number_pageLineAt_next lines others] at found
      omega
    have headed := Report.headedBy_drawn split plain bytes labelled range
    rw [← upTo, pagePlaceAt_of_page lines goesOn] at headed
    exact headed

end WatchLang
