import WatchLang.Proofs.Tokenizing
import WatchLang.Relocation

/-!
# Scanning behind another text

A text that stands behind another one, with white space in between, is scanned as if it stood alone, only further on.
This takes two facts. Where the first text ends, white space follows, and before white space every lexeme is cut off as
it is at the end of a text; so no entry reaches over the seam (`scan_append`). And scanning looks at places only to
note them down; so from a place beyond an origin it yields the same entries, moved beyond that origin
(`scan_beyond`). What the whole text is tokenized to follows (`tokenize_append`): a stray character of the second text
is the first of the whole text if the first text has none.
-/

set_option autoImplicit false

namespace WatchLang

/-! ## Relocated entries -/

/-- A token that lies beyond an origin is read at the place beyond it. -/
theorem Token.beyond_readAt (origin place : Place) (kind : Kind) (text : List Char) :
    (readAt place kind text).beyond origin = readAt (origin.beyond place) kind text := by
  have bytes : origin.offset + (place.through text).offset = ((origin.beyond place).through text).offset := by
    rw [Place.offset_through, Place.offset_through, ← Nat.add_assoc]
    rfl
  simp only [Token.beyond, readAt, Span.beyond, Place.upTo, bytes]
  rfl

/-- A stray character that lies beyond an origin is refused at the place beyond it. -/
theorem Diagnostic.beyond_stray (origin place : Place) (c : Char) :
    (stray c place).beyond origin = stray c (origin.beyond place) := by
  have bytes : origin.offset + (place.past c).offset = ((origin.beyond place).past c).offset := by
    rw [Place.offset_past, Place.offset_past, ← Nat.add_assoc]
    rfl
  simp only [Diagnostic.beyond, stray, Span.beyond, Place.upTo, bytes]
  rfl

/-- An entry beyond an origin is taken as a token beyond it, or refused there. -/
theorem Entry.asToken_beyond (origin : Place) (e : Entry) :
    (e.beyond origin).asToken = (e.asToken.mapError (Diagnostic.beyond origin)).map (Token.beyond origin) := by
  cases e with
  | token t => rfl
  | stray c place => exact congrArg Except.error (Diagnostic.beyond_stray origin place c).symm

/-- Relocated entries are refused together with the others, and for the same cause. -/
theorem mapM_asToken_beyond (origin : Place) (es : List Entry) :
    (es.map (Entry.beyond origin)).mapM Entry.asToken =
      ((es.mapM Entry.asToken).mapError (Diagnostic.beyond origin)).map (List.map (Token.beyond origin)) := by
  induction es with
  | nil => rfl
  | cons e es ih =>
    rw [List.map_cons, List.mapM_cons, List.mapM_cons, ih, Entry.asToken_beyond]
    cases e.asToken with
    | error d => rfl
    | ok t => cases es.mapM Entry.asToken <;> rfl

/-- From a place beyond an origin the same entries are met, beyond that origin. -/
theorem scan_beyond (origin : Place) {place : Place} (line : 0 < place.line) (column : 0 < place.column)
    (cs : List Char) : scan (origin.beyond place) cs = (scan place cs).map (Entry.beyond origin) := by
  -- the recursion of scanning: a blank character, a lexeme, a stray character
  fun_induction scan place cs with
  | case1 place => rw [scan, List.map_nil]
  | case2 place c more blank ih =>
    have later := ih (Place.line_past_pos line c) (Place.column_past_pos place c)
    rw [scan_blank blank, ← Place.beyond_past origin line column, later]
  | case3 place c more inside l cut ih =>
    have later := ih (Place.line_through_pos line l.text) (Place.column_through_pos column l.text)
    rw [scan_cut cut, ← Place.beyond_through origin line column, later, ← Token.beyond_readAt]
    rfl
  | case4 place c more inside nothing ih =>
    have later := ih (Place.line_past_pos line c) (Place.column_past_pos place c)
    rw [Bool.not_eq_true] at inside
    rw [scan_stray inside nothing, ← Place.beyond_past origin line column, later]
    rfl

/-! ## The seam -/

/-- Before white space a text is scanned to its end, and then the rest is scanned from there. -/
theorem scan_append (place : Place) (cs : List Char) {rest : List Char}
    (blank : ∀ c, rest.head? = some c → isBlank c = true) :
    scan place (cs ++ rest) = scan place cs ++ scan (place.through cs) rest := by
  fun_induction scan place cs with
  | case1 place => rfl
  | case2 place c more first ih => rw [List.cons_append, scan_blank first, ih, Place.through_cons]
  | case3 place c more inside l cut ih =>
    have longer : Lexeme.first? (c :: more ++ rest) = some { l with rest := l.rest ++ rest } := by
      rw [first?_append blank, cut, Option.map_some]
    have whole := Lexeme.text_append_rest cut
    rw [scan_cut longer, ih, List.cons_append, ← Place.through_append, whole]
  | case4 place c more inside nothing ih =>
    have none : Lexeme.first? (c :: more ++ rest) = none := by
      rw [first?_append blank, nothing, Option.map_none]
    rw [Bool.not_eq_true] at inside
    rw [List.cons_append] at none ⊢
    rw [scan_stray inside none, ih, List.cons_append, Place.through_cons]

/-- The place where a text ends. -/
def Place.endOf (text : String) : Place :=
  beginning.through text.toList

section Seam

variable {s₁ w : String} (nonempty : w ≠ "") (blank : ∀ c ∈ w.toList, isBlank c = true) (s₂ : String)

include nonempty blank

/-- White space splits the entries of a text: those before it, and those behind it beyond the end of it. -/
theorem entries_append :
    entries (s₁ ++ w ++ s₂) = entries s₁ ++ (entries s₂).map (Entry.beyond (.endOf (s₁ ++ w))) := by
  have seam : ∀ c, (w.toList ++ s₂.toList).head? = some c → isBlank c = true := by
    intro c first
    obtain ⟨d, gap, same⟩ := List.exists_cons_of_ne_nil (mt String.toList_eq_nil_iff.1 nonempty)
    rw [same, List.cons_append, List.head?_cons, Option.some.injEq] at first
    rw [← first]
    exact blank d (by rw [same]; exact List.mem_cons_self)
  have behind := @scan_beyond (.endOf (s₁ ++ w)) .beginning Nat.one_pos Nat.one_pos s₂.toList
  rw [Place.beyond_beginning, Place.endOf, String.toList_append, Place.through_append] at behind
  simp only [entries, String.toList_append, List.append_assoc]
  rw [scan_append _ _ seam, scan_blanks blank, behind, Place.endOf, String.toList_append, Place.through_append]

/-- Behind a text without stray characters, a text is tokenized as it would be alone, or refused as it would be
alone. -/
theorem tokenize_append {met : List Token} (first : entries s₁ = met.map Entry.token) :
    tokenize (s₁ ++ w ++ s₂) =
      ((tokenize s₂).mapError (Diagnostic.beyond (.endOf (s₁ ++ w)))).map fun tokens =>
        met ++ tokens.map (Token.beyond (.endOf (s₁ ++ w))) := by
  have last : Token.endAt (Place.beginning.through (s₁ ++ w ++ s₂).toList) =
      (Token.endAt (Place.beginning.through s₂.toList)).beyond (.endOf (s₁ ++ w)) := by
    rw [Token.endAt, Token.endAt, Token.beyond_readAt, Place.beyond_beginning_through, Place.endOf,
      ← Place.through_append, ← String.toList_append]
  rw [tokenize_eq, tokenize_eq, entries_append nonempty blank s₂, List.mapM_append, mapM_asToken_eq_ok_iff.2 first,
    mapM_asToken_beyond, last]
  cases (entries s₂).mapM Entry.asToken with
  | error d => rfl
  | ok tokens =>
    apply congrArg Except.ok
    simp only [List.map_append, List.map_cons, List.map_nil, List.append_assoc]

end Seam

end WatchLang
