import Mathlib
import WatchLang.Diagnostic.Drawing
import WatchLang.Proofs.DistinctOutlines
import WatchLang.Proofs.Recognition
import WatchLang.Proofs.RoundTrip
import WatchLang.Proofs.ShownRules

/-!
# Views tell the same rules apart

Formatting shows the canonical text of a rule, and parsing its outline. Neither hides a difference that the other
shows, and neither shows one that is not in the tree: two rules look alike in both or in none, and alike just when
their trees are equal. For outlines this is `Program.outline_injective`. Canonical text is read back as the tree that
it was printed from, so equal texts come from equal trees. The tokens of a rule, with a single equals sign for two,
are the items that its tree is written with, and these spell no other tree (`Program.items_injective`).
-/

set_option autoImplicit false

namespace WatchLang

/-! ## Trees, their texts and their items -/

namespace Program

/-- Different trees are written with different items. -/
theorem items_injective : Function.Injective items := by
  intro p q same
  -- tokens with the items, wherever they stand, spell both trees
  have tokens : ∃ tokens : List Token, tokens.map Token.item = p.items := by
    refine ⟨p.items.map fun i => ⟨i.1, i.2, 1, 1, ⟨0, 0⟩⟩, ?_⟩
    rw [List.map_map]
    exact List.map_id _
  obtain ⟨tokens, items⟩ := tokens
  exact Reader.exact_program_ofTokens.unique (spelled_of_items items) (spelled_of_items (items.trans same))

/-- Different well-formed trees have different canonical texts. -/
theorem eq_of_text_eq {p q : Program} (h : p.WellFormed) (h' : q.WellFormed) (same : p.text = q.text) : p = q := by
  have read := ofText_text h
  rw [same, ofText_text h'] at read
  cases read
  rfl

/-- The tokens of a rule are the items of its tree and the end of the input, once equality is written with two signs. -/
theorem exists_canonical_tokens {text : String} {p : Program} (read : ofText text = .ok p) :
    ∃ tokens, tokenize text = .ok tokens ∧
      (tokens.map fun t => t.item.canonical) = p.items ++ [(.endOfInput, "")] := by
  obtain ⟨met, same, written, spelled⟩ := ofText_eq_ok_iff.1 read
  refine ⟨_, tokenize_eq_ok_iff.2 ⟨met, same, rfl⟩, ?_⟩
  rw [List.map_append, ← items_of_spelled spelled written]
  rfl

end Program

/-! ## Views -/

/-- For two rules it is the same that their trees are equal, that formatting writes the same for both, that parsing
writes the same outline for both, and that they have the same kinds and texts of tokens, if equality is read with two
signs. -/
theorem views_agree (renderer : Renderer) {rule rule' : String} {p p' : Program} (read : Program.ofText rule = .ok p)
    (read' : Program.ofText rule' = .ok p') (formatted : Showing .canonical rule)
    (formatted' : Showing .canonical rule') (outlined : Showing .outline rule) (outlined' : Showing .outline rule') :
    ∃ tokens tokens', tokenize rule = .ok tokens ∧ tokenize rule' = .ok tokens' ∧
      [p = p', formatted.output renderer = formatted'.output renderer,
        outlined.output renderer = outlined'.output renderer,
        (tokens.map fun t => t.item.canonical) = tokens'.map fun t => t.item.canonical].TFAE := by
  obtain ⟨tokens, scanned, items⟩ := Program.exists_canonical_tokens read
  obtain ⟨tokens', scanned', items'⟩ := Program.exists_canonical_tokens read'
  refine ⟨tokens, tokens', scanned, scanned', ?_⟩
  have feed : ∀ s s' : String, s ++ "\n" = s' ++ "\n" ↔ s = s' := fun s s' => String.append_left_inj "\n"
  unfold Showing.output
  rw [formatted.response_canonical renderer read, formatted'.response_canonical renderer read',
    outlined.response_outline renderer read, outlined'.response_outline renderer read', items, items', feed, feed,
    List.append_left_inj]
  tfae_have 1 ↔ 2 := by
    constructor
    · exact congrArg Program.text
    · exact Program.eq_of_text_eq (Program.wellFormed_of_ofText read) (Program.wellFormed_of_ofText read')
  tfae_have 1 ↔ 3 := (Program.outline_injective (.block 0)).eq_iff.symm
  tfae_have 1 ↔ 4 := Program.items_injective.eq_iff.symm
  tfae_finish

/-- Spacing and a single equals sign are not seen in any view, but whether an operand is a name or an address is. -/
theorem views_agree_respaced :
    Program.ofText "WHERE x =0x5" = .ok ⟨[.test .gate ⟨"x", .equal, .address "0x5"⟩]⟩ ∧
    Program.ofText "WHERE\nx == 0x5" = .ok ⟨[.test .gate ⟨"x", .equal, .address "0x5"⟩]⟩ ∧
    Program.ofText "WHERE x == x5" = .ok ⟨[.test .gate ⟨"x", .equal, .identifier "x5"⟩]⟩ ∧
    ((Command.inspect .canonical "WHERE x =0x5").run .onPage []).output =
      ((Command.inspect .canonical "-").run .onPage (encoded "WHERE\nx == 0x5")).output ∧
    ((Command.inspect .outline "WHERE x =0x5").run .onPage []).output =
      ((Command.inspect .outline "-").run .onPage (encoded "WHERE\nx == 0x5")).output ∧
    ((Command.inspect .canonical "WHERE x =0x5").run .onPage []).output ≠
      ((Command.inspect .canonical "WHERE x == x5").run .onPage []).output ∧
    ((Command.inspect .outline "WHERE x =0x5").run .onPage []).output ≠
      ((Command.inspect .outline "WHERE x == x5").run .onPage []).output := by
  have read : Program.ofText "WHERE x =0x5" = .ok ⟨[.test .gate ⟨"x", .equal, .address "0x5"⟩]⟩ := by cbv
  have spaced : Program.ofText "WHERE\nx == 0x5" = .ok ⟨[.test .gate ⟨"x", .equal, .address "0x5"⟩]⟩ := by cbv
  have other : Program.ofText "WHERE x == x5" = .ok ⟨[.test .gate ⟨"x", .equal, .identifier "x5"⟩]⟩ := by cbv
  obtain ⟨_, _, -, -, alike⟩ := views_agree .onPage read spaced
    ⟨"WHERE x =0x5", [], rfl⟩ (.onInput .canonical _) ⟨"WHERE x =0x5", [], rfl⟩ (.onInput .outline _)
  obtain ⟨_, _, -, -, apart⟩ := views_agree .onPage read other
    ⟨"WHERE x =0x5", [], rfl⟩ ⟨"WHERE x == x5", [], rfl⟩ ⟨"WHERE x =0x5", [], rfl⟩ ⟨"WHERE x == x5", [], rfl⟩
  refine ⟨read, spaced, other, (alike.out 0 1).1 rfl, (alike.out 0 2).1 rfl, ?_, ?_⟩
  · exact mt (apart.out 0 1).2 (by decide)
  · exact mt (apart.out 0 2).2 (by decide)

end WatchLang
