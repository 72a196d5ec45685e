import WatchLang.Program.Outline
import WatchLang.Proofs.Unambiguous

/-!
# Different trees have different outlines

In either layout and at any depth, an outline shows every part of a tree: it can be taken off the front of any text
(`Unambiguous`), part by part. The texts in it are quoted, so they end where their closing marks are; a name that is not
quoted is told by its letters, and only a comparison, whose name may begin another's, by the comma behind it as
well. The statements of a program end where a bracket stands in the place of the next one.
-/

set_option autoImplicit false

namespace WatchLang

/-! ## Groups -/

namespace Layout

/-- What stands before the first part of a group. -/
def lead (gap : String) : Layout → String
  | inline => gap
  | block depth => "\n" ++ indent (depth + 1)

/-- What stands between two parts of a group. -/
def between : Layout → String
  | inline => ", "
  | block depth => ",\n" ++ indent (depth + 1)

/-- What stands behind the last part of a group. -/
def trail (gap : String) : Layout → String
  | inline => gap
  | block depth => ",\n" ++ indent depth

/-- A group without parts is written as its brackets. -/
theorem group_nil (layout : Layout) (opening gap closing : String) :
    layout.group opening gap closing [] = opening ++ closing := by
  cases layout <;> rfl

/-- A group with parts is the same in both layouts but for what stands around each part. -/
theorem group_cons (layout : Layout) (opening gap closing part : String) (parts : List String) :
    layout.group opening gap closing (part :: parts) =
      opening ++ (layout.lead gap ++ (part ++
        (String.join (parts.map (layout.between ++ ·)) ++ (layout.trail gap ++ closing)))) := by
  cases layout with
  | inline =>
    simp only [group, lead, between, trail, intercalate_cons, String.append_assoc]
  | block depth =>
    have lines : String.join ((part :: parts).map fun part => indent (depth + 1) ++ part ++ ",\n") =
        indent (depth + 1) ++ (part ++ (String.join (parts.map (",\n" ++ indent (depth + 1) ++ ·)) ++ ",\n")) := by
      induction parts generalizing part with
      | nil => simp [String.append_assoc]
      | cons next parts ih =>
        rw [List.map_cons, String.join_cons, ih, List.map_cons, String.join_cons]
        simp only [String.append_assoc]
    simp only [group, lines]
    simp only [lead, between, trail, String.append_assoc]

/-- The letters of a record with fields, one behind the other. -/
theorem toList_record (layout : Layout) (name : String) (field : String × String) (fields : List (String × String)) :
    (layout.record name (field :: fields)).toList =
      name.toList ++ (" \x7b".toList ++ ((layout.lead " ").toList ++ (field.1.toList ++ (": ".toList ++
        (field.2.toList ++
          (fields.flatMap (fun field =>
              layout.between.toList ++ (field.1.toList ++ (": ".toList ++ field.2.toList))) ++
            ((layout.trail " ").toList ++ "\x7d".toList))))))) := by
  rw [record, List.map_cons, group_cons]
  simp only [String.toList_append, String.toList_join, List.flatMap_map, List.append_assoc]

/-- The letters of a name with the value that it wraps. -/
theorem toList_wrapper (layout : Layout) (name value : String) :
    (layout.wrapper name value).toList =
      name.toList ++ ("(".toList ++ ((layout.lead "").toList ++
        (value.toList ++ ((layout.trail "").toList ++ ")".toList)))) := by
  rw [wrapper, group_cons]
  simp only [List.map_nil, String.join_nil, String.toList_append, String.toList_empty, List.nil_append,
    List.append_assoc]

/-- Two parts are set apart by a comma first of all. -/
theorem exists_between_eq (layout : Layout) : ∃ gap, layout.between.toList = ',' :: gap := by
  cases layout with
  | inline => exact ⟨[' '], rfl⟩
  | block depth => exact ⟨'\n' :: (indent (depth + 1)).toList, by simp [between]⟩

/-- Where a list ends, no further part begins. -/
theorem between_append_ne (layout : Layout) (rest rest' : List Char) :
    layout.between.toList ++ rest ≠ ((layout.trail "").toList ++ [']']) ++ rest' := by
  cases layout with
  | inline => simp [between, trail]
  | block depth =>
    have deeper : indent (depth + 1) = indent depth ++ "    " := by
      rw [indent, Nat.mul_add, ← List.replicate_append_replicate, String.ofList_append]
      rfl
    simp [between, trail, deeper]

/-- A list of values that can be taken off is taken off, if no value begins with the bracket that closes the list. -/
theorem unambiguous_list {α : Type} {write : α → String} (layout : Layout)
    (each : Unambiguous fun a => (write a).toList) (begins : ∀ a rest rest', (write a).toList ++ rest ≠ ']' :: rest') :
    Unambiguous fun values : List α => (layout.list (values.map write)).toList := by
  have none : (layout.list ([].map write)).toList = ['[', ']'] := by
    rw [list, List.map_nil, group_nil]
    rfl
  have some : ∀ a as, (layout.list ((a :: as).map write)).toList =
      '[' :: ((layout.lead "").toList ++ ((write a).toList ++
        (as.flatMap (fun a => layout.between.toList ++ (write a).toList) ++ ((layout.trail "").toList ++ [']'])))) := by
    intro a as
    rw [list, List.map_cons, group_cons]
    simp [List.flatMap_map]
  -- the first value is told from the closing bracket
  have apart : ∀ a rest rest', (layout.lead "").toList ++ ((write a).toList ++ rest) ≠ ']' :: rest' := by
    intro a rest rest'
    cases layout with
    | inline => exact begins a rest rest'
    | block depth => simp [lead]
  intro as bs rest rest' same
  cases as with
  | nil =>
    cases bs with
    | nil => exact ⟨rfl, List.append_cancel_left same⟩
    | cons b bs =>
      simp only [none, some, List.cons_append, List.append_assoc, List.nil_append, List.cons.injEq, true_and] at same
      exact absurd same.symm (apart b _ _)
  | cons a as =>
    cases bs with
    | nil =>
      simp only [none, some, List.cons_append, List.append_assoc, List.nil_append, List.cons.injEq, true_and] at same
      exact absurd same (apart a _ _)
    | cons b bs =>
      simp only [some, List.cons_append, List.append_assoc, List.cons.injEq, true_and] at same
      exact each.separated layout.between_append_ne
        (by simpa only [List.append_assoc, List.cons_append, List.nil_append] using List.append_cancel_left same)

end Layout

/-! ## Phrases -/

/-- The outline of a target tells which one it is. -/
theorem Target.unambiguous_outline : Unambiguous fun t : Target => t.outline.toList := by
  refine .of_isPrefix fun t u => ?_
  cases t <;> cases u <;> decide

/-- The outline of a role tells which one it is. -/
theorem Role.unambiguous_outline : Unambiguous fun r : Role => r.outline.toList := by
  refine .of_isPrefix fun r q => ?_
  cases r <;> cases q <;> decide

/-- The outline of a connective tells which one it is. -/
theorem Connective.unambiguous_outline : Unambiguous fun c : Connective => c.outline.toList := by
  refine .of_isPrefix fun c d => ?_
  cases c <;> cases d <;> decide

/-- The name of a comparison is taken off together with what sets the next part apart from it. -/
theorem Comparison.unambiguous_outline (layout : Layout) :
    Unambiguous fun c : Comparison => c.outline.toList ++ layout.between.toList := by
  have comma : Unambiguous fun c : Comparison => c.outline.toList ++ [','] := by
    refine .of_isPrefix fun c d => ?_
    cases c <;> cases d <;> decide
  obtain ⟨gap, apart⟩ := layout.exists_between_eq
  intro c d rest rest' same
  simp only [apart, List.append_assoc, List.cons_append] at same
  obtain ⟨rfl, behind⟩ := comma (by simpa only [List.append_assoc, List.cons_append, List.nil_append] using same)
  exact ⟨rfl, List.append_cancel_left behind⟩

/-- The class of an operand is told by the first letter. -/
theorem Operand.unambiguous_outline (layout : Layout) : Unambiguous fun o : Operand => (o.outline layout).toList := by
  intro o o' rest rest' same
  cases o <;> cases o' <;>
    simp only [outline, Layout.toList_wrapper, List.append_assoc] at same
  case identifier.identifier | number.number | address.address =>
    simp only [List.append_cancel_left_eq] at same
    obtain ⟨rfl, behind⟩ := Quoted.unambiguous_text same
    exact ⟨rfl, by simpa only [List.append_cancel_left_eq] using behind⟩
  all_goals simp at same

/-- The outline of a condition tells the condition, whatever is written behind it. -/
theorem Condition.unambiguous_outline (layout : Layout) :
    Unambiguous fun c : Condition => (c.outline layout).toList := by
  rintro ⟨left, sign, right⟩ ⟨left', sign', right'⟩ rest rest' same
  simp only [outline, Layout.toList_record, List.flatMap_cons, List.flatMap_nil, List.append_assoc,
    List.append_cancel_left_eq] at same
  obtain ⟨rfl, comparison⟩ := Quoted.unambiguous_text same
  simp only [List.append_cancel_left_eq] at comparison
  obtain ⟨rfl, operand⟩ := Comparison.unambiguous_outline layout (by simpa only [List.append_assoc] using comparison)
  simp only [List.append_cancel_left_eq] at operand
  obtain ⟨rfl, behind⟩ := right.unambiguous_outline layout.inner operand
  exact ⟨rfl, by simpa only [List.append_cancel_left_eq] using behind⟩

/-- No statement is shown like the end of a list. -/
theorem Statement.outline_append_ne (layout : Layout) (s : Statement) (rest rest' : List Char) :
    (s.outline layout).toList ++ rest ≠ ']' :: rest' := by
  cases s with
  | subject role name => cases role <;> simp [outline, Layout.toList_record, Role.outline]
  | test connective condition => cases connective <;> simp [outline, Layout.toList_record, Connective.outline]
  | publish target channel => simp [outline, Layout.toList_record]

/-- The form of a statement is told by its name, and so is what the form leaves open. -/
theorem Statement.unambiguous_outline (layout : Layout) :
    Unambiguous fun s : Statement => (s.outline layout).toList := by
  intro s s' rest rest' same
  cases s <;> cases s' <;>
    simp only [outline, Layout.toList_record, List.flatMap_cons, List.flatMap_nil, List.append_assoc,
      List.append_cancel_left_eq] at same
  case subject.subject role name role' name' =>
    obtain ⟨rfl, naming⟩ := Role.unambiguous_outline same
    simp only [List.append_cancel_left_eq] at naming
    obtain ⟨rfl, behind⟩ := Quoted.unambiguous_text naming
    exact ⟨rfl, by simpa only [List.append_cancel_left_eq] using behind⟩
  case test.test connective condition connective' condition' =>
    obtain ⟨rfl, testing⟩ := Connective.unambiguous_outline same
    simp only [List.append_cancel_left_eq] at testing
    obtain ⟨rfl, behind⟩ := condition.unambiguous_outline layout.inner testing
    exact ⟨rfl, by simpa only [List.append_cancel_left_eq] using behind⟩
  case publish.publish target channel target' channel' =>
    obtain ⟨rfl, naming⟩ := Target.unambiguous_outline same
    simp only [List.append_cancel_left_eq] at naming
    obtain ⟨rfl, behind⟩ := Quoted.unambiguous_text naming
    exact ⟨rfl, by simpa only [List.append_cancel_left_eq] using behind⟩
  case subject.test role _ connective _ | test.subject connective _ role _ =>
    cases role <;> cases connective <;> simp [Role.outline, Connective.outline] at same
  case subject.publish role _ _ _ | publish.subject _ _ role _ =>
    cases role <;> simp [Role.outline] at same
  case test.publish connective _ _ _ | publish.test _ _ connective _ =>
    cases connective <;> simp [Connective.outline] at same

/-- Different programs have different outlines, in either layout and at any depth. -/
theorem Program.outline_injective (layout : Layout) : Function.Injective (Program.outline layout) := by
  rintro ⟨statements⟩ ⟨statements'⟩ same
  have listed : Unambiguous fun ss : List Statement =>
      (layout.inner.list (ss.map fun s => s.outline layout.inner.inner)).toList :=
    layout.inner.unambiguous_list (Statement.unambiguous_outline _) (Statement.outline_append_ne _)
  have shown := congrArg String.toList same
  simp only [outline, Layout.toList_record, List.append_cancel_left_eq] at shown
  exact congrArg Program.mk (listed shown).1

end WatchLang
