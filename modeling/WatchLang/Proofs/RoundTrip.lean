import Mathlib
import WatchLang.Proofs.TokenText

/-!
# Printing and reading again

The canonical text of a tree is read back as the same tree exactly when the tree is well-formed. A well-formed
tree is written with lexemes, so its text is scanned back to tokens with its items, and those spell it. Conversely
whatever is read from a text is spelled by lexemes and is well-formed, so a tree that is not is never read from its own
text. It follows that whatever is read from any text survives printing.
-/

set_option autoImplicit false

namespace WatchLang

/-- A rule that is read from a text is well-formed. -/
theorem Program.wellFormed_of_ofText {text : String} {p : Program} (h : Program.ofText text = .ok p) :
    p.WellFormed := by
  obtain ⟨met, -, written, spelled⟩ := Program.ofText_eq_ok_iff.1 h
  exact Program.wellFormed_of_spelled spelled written

/-- A condition that is read from a text is well-formed. -/
theorem Condition.wellFormed_of_ofText {text : String} {c : Condition} (h : Condition.ofText text = .ok c) :
    c.WellFormed := by
  obtain ⟨met, -, written, spelled⟩ := Condition.ofText_eq_ok_iff.1 h
  exact Condition.wellFormed_of_spelled spelled written

/-- A text of spaced lexemes is scanned to tokens that have these as their items. -/
theorem entries_of_spaced {text : String} {items : List Item} (spacing : text.toList = spaced items)
    (written : ∀ i ∈ items, i.IsWritten) :
    ∃ met : List Token, entries text = met.map Entry.token ∧ (∀ t ∈ met, t.item.IsWritten) ∧
      met.map Token.item = items := by
  obtain ⟨met, scanned, same⟩ := scan_spaced written .beginning
  refine ⟨met, by rw [entries, spacing, scanned], ?_, same⟩
  intro t member
  refine written t.item ?_
  rw [← same]
  exact List.mem_map_of_mem member

/-- A well-formed rule is read from its text. -/
theorem Program.ofText_text {p : Program} (h : p.WellFormed) : Program.ofText p.text = .ok p := by
  obtain ⟨met, same, written, items⟩ := entries_of_spaced p.toList_text (Program.wellFormed_iff.1 h)
  exact Program.ofText_eq_ok_iff.2 ⟨met, same, written, Program.spelled_of_items items⟩

/-- A well-formed condition is read back from its text. -/
theorem Condition.ofText_text {c : Condition} (h : c.WellFormed) : Condition.ofText c.text = .ok c := by
  obtain ⟨met, same, written, items⟩ := entries_of_spaced c.toList_text (Condition.wellFormed_iff.1 h)
  exact Condition.ofText_eq_ok_iff.2 ⟨met, same, written, Condition.spelled_of_items items⟩

/-- Just the well-formed rules and conditions are read back from their texts, and everything that is read from any
text is one of them. -/
theorem text_read_back :
    (∀ p : Program, Program.ofText p.text = .ok p ↔ p.WellFormed) ∧
    (∀ text p, Program.ofText text = .ok p → Program.ofText p.text = .ok p) ∧
    (∀ c : Condition, Condition.ofText c.text = .ok c ↔ c.WellFormed) ∧
    (∀ text c, Condition.ofText text = .ok c → Condition.ofText c.text = .ok c) := by
  refine ⟨fun p => ⟨Program.wellFormed_of_ofText, Program.ofText_text⟩, ?_,
    fun c => ⟨Condition.wellFormed_of_ofText, Condition.ofText_text⟩, ?_⟩
  · intro text p read
    exact Program.ofText_text (Program.wellFormed_of_ofText read)
  · intro text c read
    exact Condition.ofText_text (Condition.wellFormed_of_ofText read)

/-- What is read from a text with other spacing and another sign for equality is read from its own text as well. -/
theorem text_read_back_respaced :
    Program.ofText "WHERE\n a =b" = .ok ⟨[.test .gate ⟨"a", .equal, .identifier "b"⟩]⟩ ∧
    Program.ofText (Program.text ⟨[.test .gate ⟨"a", .equal, .identifier "b"⟩]⟩) =
      .ok ⟨[.test .gate ⟨"a", .equal, .identifier "b"⟩]⟩ ∧
    Condition.ofText "a=b" = .ok ⟨"a", .equal, .identifier "b"⟩ ∧
    Condition.ofText (Condition.text ⟨"a", .equal, .identifier "b"⟩) = .ok ⟨"a", .equal, .identifier "b"⟩ := by
  have program : Program.ofText "WHERE\n a =b" = .ok ⟨[.test .gate ⟨"a", .equal, .identifier "b"⟩]⟩ := by cbv
  have condition : Condition.ofText "a=b" = .ok ⟨"a", .equal, .identifier "b"⟩ := by cbv
  exact ⟨program, text_read_back.2.1 _ _ program, condition, text_read_back.2.2.2 _ _ condition⟩

/-- A name with spaces in it, and a number that looks like an address, are printed but not read back. -/
example : ¬ Program.WellFormed ⟨[.subject .source "a WATCH b"]⟩ ∧
    ¬ Condition.WellFormed ⟨"a", .equal, .number "0x1"⟩ := by decide

end WatchLang
