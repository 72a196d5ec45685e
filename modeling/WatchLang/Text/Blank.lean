import WatchLang.Text.CodePoints

/-!
# Blank characters

The characters with the Unicode property `White_Space`. They separate lexemes and mean nothing else,
and a line that holds only such characters is no rule.
-/

set_option autoImplicit false

namespace WatchLang

/-- The code points that count as white space. -/
def blanks : CodePoints where
  ranges := [
    (0x9, 0xD), (0x20, 0x20), (0x85, 0x85), (0xA0, 0xA0), (0x1680, 0x1680), (0x2000, 0x200A),
    (0x2028, 0x2029), (0x202F, 0x202F), (0x205F, 0x205F), (0x3000, 0x3000)]

/-- Whether a character is white space. -/
def isBlank (c : Char) : Bool :=
  blanks.has c

/-- Characters without the blank ones at their end. -/
def trimEnd : List Char → List Char
  | [] => []
  | c :: cs =>
    match trimEnd cs with
    | [] => if isBlank c then [] else [c]
    | kept => c :: kept

/-- Only blank characters are taken away. -/
theorem exists_trimEnd_append (cs : List Char) :
    ∃ tail, tail.all isBlank = true ∧ trimEnd cs ++ tail = cs := by
  induction cs with
  | nil => exact ⟨[], rfl, rfl⟩
  | cons c cs ih =>
    obtain ⟨tail, blank, whole⟩ := ih
    unfold trimEnd
    split
    · next empty =>
      rw [empty, List.nil_append] at whole
      subst whole
      split
      · next h => exact ⟨c :: tail, by simp [h, blank], rfl⟩
      · exact ⟨tail, blank, rfl⟩
    · exact ⟨tail, blank, by rw [List.cons_append, whole]⟩

end WatchLang
