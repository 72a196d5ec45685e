import WatchLang.Program.Grammar
import WatchLang.Program.Text
import WatchLang.Program.WellFormed
import WatchLang.Proofs.LongestLexeme

/-!
# What a tree is written with

The canonical text of a tree is a list of items with single spaces between them, and an item is what a token is
without its place: a kind and a text. Two facts about the items carry the round trip. A tree is well-formed exactly when
each of its items is a lexeme of its kind, and tokens with the items of a tree spell that tree, whatever its texts are.
-/

set_option autoImplicit false

namespace WatchLang

/-- A token without its place: its kind and its text. -/
abbrev Item : Type :=
  Kind × String

/-- The kind and the text of a token. -/
def Token.item (t : Token) : Item :=
  (t.kind, t.lexeme)

/-- Whether an item is a lexeme of its kind. -/
def Item.IsWritten (i : Item) : Prop :=
  IsLexeme i.1 i.2.toList

/-- Items with single spaces between them. -/
def spaced (items : List Item) : List Char :=
  [' '].intercalate (items.map fun i => i.2.toList)

/-- The kind of a comparison: containment has a reserved word, the others have symbols. -/
def Comparison.kind : Comparison → Kind
  | contains => .keyword .contains
  | _ => .symbol

/-- The kind of token that an operand is written as. -/
def Operand.kind : Operand → Kind
  | identifier _ => .word
  | number _ => .digits
  | address _ => .address

/-- The items of a condition: its left side, its comparison and its operand. -/
def Condition.items (c : Condition) : List Item :=
  [(.word, c.left), (c.comparison.kind, c.comparison.symbol), (c.right.kind, c.right.text)]

/-- The items of a statement: its keyword, and what follows it. -/
def Statement.items (s : Statement) : List Item :=
  (.keyword s.keyword, s.keyword.spelling) ::
    match s with
    | subject _ name => [(.word, name)]
    | test _ condition => condition.items
    | publish target channel => [(.keyword (.target target), target.text), (.word, channel)]

/-- The items of a program, statement by statement. -/
def Program.items (p : Program) : List Item :=
  p.statements.flatMap Statement.items

/-! ## Spacing -/

/-- No items are written as nothing. -/
theorem spaced_nil : spaced [] = [] := rfl

/-- A single item is written without spaces around it. -/
theorem spaced_singleton (i : Item) : spaced [i] = i.2.toList := by
  simp [spaced]

/-- A space stands between an item and the next. -/
theorem spaced_cons_cons (i j : Item) (items : List Item) :
    spaced (i :: j :: items) = i.2.toList ++ ' ' :: spaced (j :: items) := by
  simp [spaced]

/-- A space stands between two lists of items, neither of which is empty. -/
theorem spaced_append {first later : List Item} (nonempty : first ≠ []) (more : later ≠ []) :
    spaced (first ++ later) = spaced first ++ ' ' :: spaced later := by
  induction first with
  | nil => exact absurd rfl nonempty
  | cons i items ih =>
    cases items with
    | nil =>
      obtain ⟨j, later, rfl⟩ := List.exists_cons_of_ne_nil more
      rw [List.cons_append, List.nil_append, spaced_cons_cons, spaced_singleton]
    | cons j items =>
      have tail := ih (List.cons_ne_nil _ _)
      rw [List.cons_append, List.cons_append] at *
      rw [spaced_cons_cons, tail, spaced_cons_cons, List.append_assoc, List.cons_append]

/-- A statement has an item, its keyword. -/
theorem Statement.items_ne_nil (s : Statement) : s.items ≠ [] :=
  List.cons_ne_nil _ _

/-- The text of a condition is its items with spaces between them. -/
theorem Condition.toList_text (c : Condition) : c.text.toList = spaced c.items := by
  simp [Condition.text, Condition.items, spaced]

/-- The text of a statement is its items with spaces between them. -/
theorem Statement.toList_text (s : Statement) : s.text.toList = spaced s.items := by
  cases s with
  | subject role name => simp [Statement.text, Statement.items, spaced]
  | test connective condition =>
    have inner := condition.toList_text
    simp [Statement.text, Statement.items, Condition.items, spaced] at inner ⊢
    exact inner
  | publish target channel => simp [Statement.text, Statement.items, spaced]

/-- The text of a program is its items with spaces between them. -/
theorem Program.toList_text (p : Program) : p.text.toList = spaced p.items := by
  obtain ⟨statements⟩ := p
  rw [Program.text, String.toList_intercalate]
  induction statements with
  | nil => rfl
  | cons s ss ih =>
    -- a statement is never empty, so the space between two statements is one between two items
    cases ss with
    | nil => simp [Program.items, Statement.toList_text]
    | cons s' ss =>
      have tail : Program.items ⟨s' :: ss⟩ ≠ [] := by
        simp [Program.items, Statement.items_ne_nil]
      have split : Program.items ⟨s :: s' :: ss⟩ = s.items ++ Program.items ⟨s' :: ss⟩ := rfl
      rw [split, spaced_append s.items_ne_nil tail, ← ih, ← Statement.toList_text]
      simp

/-! ## Well-formed trees -/

/-- Names are the texts that can be written as words. -/
theorem isName_iff {text : String} : IsName text ↔ Item.IsWritten (.word, text) := by
  unfold IsName Item.IsWritten
  constructor
  · rintro ⟨form, free⟩
    refine .word form fun k same => ?_
    exact free k (Keyword.mem_all k) (String.toList_inj.1 same)
  · rintro (_ | _ | ⟨form, free⟩)
    refine ⟨form, fun k _ same => ?_⟩
    exact free k (congrArg String.toList same)

/-- An operand is well-formed if its text can be written as its kind. -/
theorem Operand.wellFormed_iff {o : Operand} : o.WellFormed ↔ Item.IsWritten (o.kind, o.text) := by
  cases o with
  | identifier text => exact isName_iff
  | number text =>
    constructor
    · exact .digits
    · rintro (_ | _ | _ | form)
      exact form
  | address text =>
    constructor
    · exact .address
    · rintro (_ | _ | _ | _ | form)
      exact form

/-- The spelling of a keyword can be written as this keyword. -/
theorem isWritten_keyword (k : Keyword) : Item.IsWritten (.keyword k, k.spelling) :=
  .keyword k

/-- The symbol of a comparison can be written as its kind. -/
theorem isWritten_comparison (c : Comparison) : Item.IsWritten (c.kind, c.symbol) := by
  cases c
  case contains => exact isWritten_keyword .contains
  all_goals exact .symbol (by decide)

/-- A condition is well-formed if all its items can be written. -/
theorem Condition.wellFormed_iff {c : Condition} : c.WellFormed ↔ ∀ i ∈ c.items, i.IsWritten := by
  simp only [Condition.WellFormed, Condition.items, isName_iff, Operand.wellFormed_iff, List.forall_mem_cons,
    isWritten_comparison, List.not_mem_nil, false_implies, implies_true, true_and, and_true]

/-- A statement is well-formed if all its items can be written. -/
theorem Statement.wellFormed_iff {s : Statement} : s.WellFormed ↔ ∀ i ∈ s.items, i.IsWritten := by
  unfold Statement.items
  rw [List.forall_mem_cons, and_iff_right (isWritten_keyword _)]
  cases s with
  | subject role name => simp [Statement.WellFormed, isName_iff]
  | test connective condition => exact Condition.wellFormed_iff
  | publish target channel =>
    have goal : Item.IsWritten (.keyword (.target target), target.text) := isWritten_keyword (.target target)
    simp [Statement.WellFormed, isName_iff, goal]

/-- A program is well-formed exactly when its items are lexemes. -/
theorem Program.wellFormed_iff {p : Program} : p.WellFormed ↔ ∀ i ∈ p.items, i.IsWritten := by
  unfold Program.WellFormed Program.items
  constructor
  · intro h i member
    obtain ⟨s, inside, member⟩ := List.mem_flatMap.1 member
    exact Statement.wellFormed_iff.1 (h s inside) i member
  · intro h s inside
    refine Statement.wellFormed_iff.2 fun i member => ?_
    exact h i (List.mem_flatMap.2 ⟨s, inside, member⟩)

/-! ## From items to trees -/

/-- A token with the kind and the symbol of a comparison spells it. -/
theorem Comparison.spelled_of_item {t : Token} {c : Comparison} (h : t.item = (c.kind, c.symbol)) :
    Comparison.Spelled t c := by
  obtain ⟨kind, lexeme⟩ := Prod.mk.inj h
  cases c
  case contains => exact .contains kind
  all_goals
    refine .symbol kind ?_
    rw [lexeme]
    decide

/-- A token with the kind and the text of an operand spells it. -/
theorem Operand.spelled_of_item {t : Token} {o : Operand} (h : t.item = (o.kind, o.text)) :
    Operand.Spelled t o := by
  cases o with
  | identifier text =>
    obtain ⟨kind, rfl⟩ := Prod.mk.inj h
    exact .identifier kind
  | number text =>
    obtain ⟨kind, rfl⟩ := Prod.mk.inj h
    exact .number kind
  | address text =>
    obtain ⟨kind, rfl⟩ := Prod.mk.inj h
    exact .address kind

/-- Tokens with the items of a condition spell it. -/
theorem Condition.spelled_of_items {tokens : List Token} {c : Condition} (h : tokens.map Token.item = c.items) :
    c.Spelled tokens := by
  obtain ⟨left, tokens, rfl, word, h⟩ := List.map_eq_cons_iff.1 h
  obtain ⟨sign, tokens, rfl, comparison, h⟩ := List.map_eq_cons_iff.1 h
  obtain ⟨right, tokens, rfl, operand, h⟩ := List.map_eq_cons_iff.1 h
  cases List.map_eq_nil_iff.1 h
  obtain ⟨kind, same⟩ := Prod.mk.inj word
  have spelled := Condition.Spelled.mk kind (Comparison.spelled_of_item comparison)
    (Operand.spelled_of_item operand)
  rwa [same] at spelled

/-- Tokens with the items of a statement spell it. -/
theorem Statement.spelled_of_items {tokens : List Token} {s : Statement} (h : tokens.map Token.item = s.items) :
    s.Spelled tokens := by
  obtain ⟨opening, rest, rfl, keyword, h⟩ := List.map_eq_cons_iff.1 h
  have opens := congrArg Prod.fst keyword
  cases s with
  | subject role name =>
    obtain ⟨named, rest, rfl, word, h⟩ := List.map_eq_cons_iff.1 h
    cases List.map_eq_nil_iff.1 h
    obtain ⟨kind, rfl⟩ := Prod.mk.inj word
    exact .subject opens kind
  | test connective condition => exact .test opens (Condition.spelled_of_items h)
  | publish target channel =>
    obtain ⟨place, rest, rfl, goal, h⟩ := List.map_eq_cons_iff.1 h
    obtain ⟨named, rest, rfl, word, h⟩ := List.map_eq_cons_iff.1 h
    cases List.map_eq_nil_iff.1 h
    obtain ⟨kind, rfl⟩ := Prod.mk.inj word
    exact .publish opens (congrArg Prod.fst goal) kind

/-- Tokens with the items of a program spell it. -/
theorem Program.spelled_of_items {tokens : List Token} {p : Program} (h : tokens.map Token.item = p.items) :
    p.Spelled tokens := by
  obtain ⟨statements⟩ := p
  unfold Program.Spelled
  unfold Program.items at h
  simp only at h ⊢
  induction statements generalizing tokens with
  | nil =>
    cases List.map_eq_nil_iff.1 h
    exact .nil
  | cons s ss ih =>
    rw [List.flatMap_cons] at h
    obtain ⟨first, later, rfl, head, tail⟩ := List.map_eq_append_iff.1 h
    exact .cons (Statement.spelled_of_items head) (ih tail)

end WatchLang
