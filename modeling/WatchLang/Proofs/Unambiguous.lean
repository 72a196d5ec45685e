import WatchLang.Proofs.MessageLine

/-!
# Writing that can be taken off again

Values are told apart by what is written of them when it can be taken off the front of any text: the text then
determines the value and what stands behind. Such writing can be put together, because parts that are written one
behind the other are taken off one by one. Digits are taken off up to a sign that is none, and a list of values up to
a closing that no value begins with. The writing that is shown here to be of this kind is that of quotations, in which
every character has an escape of its own and the closing mark is always escaped.
-/

set_option autoImplicit false

namespace WatchLang

/-- Writing that can be taken off the front of any text: the text determines which value begins it and what is
behind. -/
def Unambiguous {α : Type} (write : α → List Char) : Prop :=
  ∀ ⦃a b : α⦄ ⦃rest rest' : List Char⦄, write a ++ rest = write b ++ rest' → a = b ∧ rest = rest'

namespace Unambiguous

variable {α : Type} {write : α → List Char}

/-- Different values are written differently. -/
theorem injective (h : Unambiguous write) : Function.Injective write := by
  intro a b same
  exact (h (congrArg (· ++ []) same)).1

/-- It is enough that what is written of a value begins nothing that is written of another. -/
theorem of_isPrefix (apart : ∀ a b, write a <+: write b → a = b) : Unambiguous write := by
  intro a b rest rest' same
  have begins : write a <+: write b ++ rest' := ⟨rest, same⟩
  have equal : a = b := by
    rcases List.prefix_or_prefix_of_prefix begins (List.prefix_append _ _) with shorter | longer
    · exact apart a b shorter
    · exact (apart b a longer).symm
  subst equal
  exact ⟨rfl, List.append_cancel_left same⟩

/-- Where a mark is written behind values and in none of them, the values need only be written differently. -/
theorem before_mark {mark : Char} (injective : Function.Injective write) (free : ∀ a, mark ∉ write a) :
    Unambiguous fun a => write a ++ [mark] := by
  -- the value is what stands before the first mark
  have front : ∀ a rest, (write a ++ mark :: rest).takeWhile (· ≠ mark) = write a := by
    intro a rest
    have unmarked : ∀ c ∈ write a, decide (c ≠ mark) = true := by
      intro c member
      rw [decide_eq_true_eq]
      rintro rfl
      exact free a member
    rw [List.takeWhile_append_of_pos unmarked, List.takeWhile_cons_of_neg (by simp), List.append_nil]
  intro a b rest rest' same
  rw [List.append_assoc, List.append_assoc] at same
  have equal : write a = write b := by
    rw [← front a rest, ← front b rest']
    exact congrArg (List.takeWhile (· ≠ mark)) same
  cases injective equal
  exact ⟨rfl, (List.cons.inj (List.append_cancel_left same)).2⟩

/-- Values one after the other are taken off up to a closing that none of them begins with. -/
theorem flatMap_append {closing : List Char} (h : Unambiguous write)
    (apart : ∀ a rest rest', write a ++ rest ≠ closing ++ rest') :
    Unambiguous fun values : List α => values.flatMap write ++ closing := by
  intro values values' rest rest' same
  simp only [List.append_assoc] at same
  induction values generalizing values' with
  | nil =>
    cases values' with
    | nil => exact ⟨rfl, List.append_cancel_left same⟩
    | cons b values' =>
      rw [List.flatMap_cons, List.append_assoc] at same
      exact absurd same.symm (apart b _ _)
  | cons a values ih =>
    cases values' with
    | nil =>
      rw [List.flatMap_cons, List.append_assoc] at same
      exact absurd same (apart a _ _)
    | cons b values' =>
      rw [List.flatMap_cons, List.flatMap_cons, List.append_assoc, List.append_assoc] at same
      obtain ⟨rfl, behind⟩ := h same
      obtain ⟨rfl, last⟩ := ih behind
      exact ⟨rfl, last⟩

/-- A value and more values, each of them behind a gap, are taken off up to a closing that is told from the gap. -/
theorem separated {gap closing : List Char} (h : Unambiguous write)
    (apart : ∀ rest rest', gap ++ rest ≠ closing ++ rest') {a b : α} {values values' : List α} {rest rest' : List Char}
    (same : write a ++ (values.flatMap (fun a => gap ++ write a) ++ (closing ++ rest)) =
      write b ++ (values'.flatMap (fun a => gap ++ write a) ++ (closing ++ rest'))) :
    a :: values = b :: values' ∧ rest = rest' := by
  have later : Unambiguous fun values : List α => values.flatMap (fun a => gap ++ write a) ++ closing := by
    refine flatMap_append (fun a b rest rest' same => ?_) fun a rest rest' => ?_
    · rw [List.append_assoc, List.append_assoc] at same
      exact h (List.append_cancel_left same)
    · rw [List.append_assoc]
      exact apart _ _
  obtain ⟨rfl, behind⟩ := h same
  obtain ⟨rfl, last⟩ := later (by simpa only [List.append_assoc] using behind)
  exact ⟨rfl, last⟩

end Unambiguous

/-- Parts with a gap between two of them are the first part, and the others each behind a gap. -/
theorem intercalate_cons (gap part : String) (parts : List String) :
    String.intercalate gap (part :: parts) = part ++ String.join (parts.map (gap ++ ·)) := by
  induction parts generalizing part with
  | nil => simp
  | cons next parts ih =>
    rw [String.intercalate_cons_cons, ih, List.map_cons, String.join_cons, String.append_assoc, String.append_assoc]

/-! ## Numbers -/

/-- Different numbers have different digits. -/
theorem toDigits_injective {base : Nat} (positional : 1 < base) (small : base ≤ 16) :
    Function.Injective (Nat.toDigits base) := by
  have single : ∀ m < 16, ∀ n < 16, Nat.digitChar m = Nat.digitChar n → m = n := by decide
  -- a number below the base has one digit, and any other has more
  have longer : ∀ m n, base ≤ n → Nat.toDigits base n ≠ [Nat.digitChar m] := by
    intro m n large
    rw [Nat.toDigits_of_base_le positional large]
    intro same
    have count := congrArg List.length same
    have front : 0 < (Nat.toDigits base (n / base)).length := Nat.length_toDigits_pos
    rw [List.length_append, List.length_singleton, List.length_singleton] at count
    omega
  intro m n same
  induction m using Nat.strongRecOn generalizing n with
  | ind m ih =>
    rcases Nat.lt_or_ge m base with less | large <;> rcases Nat.lt_or_ge n base with less' | large'
    · rw [Nat.toDigits_of_lt_base less, Nat.toDigits_of_lt_base less'] at same
      exact single m (by omega) n (by omega) (List.singleton_inj.1 same)
    · rw [Nat.toDigits_of_lt_base less] at same
      exact absurd same.symm (longer m n large')
    · rw [Nat.toDigits_of_lt_base less'] at same
      exact absurd same (longer n m large)
    · rw [Nat.toDigits_of_base_le positional large, Nat.toDigits_of_base_le positional large'] at same
      obtain ⟨before, last⟩ := List.append_inj' same rfl
      have smaller : m / base < m := Nat.div_lt_self (by omega) positional
      have quotient : m / base = n / base := ih _ smaller before
      have below : ∀ k, k % base < 16 := fun k => Nat.lt_of_lt_of_le (Nat.mod_lt k (by omega)) small
      have remainder : m % base = n % base := single _ (below m) _ (below n) (List.singleton_inj.1 last)
      rw [← Nat.div_add_mod m base, ← Nat.div_add_mod n base, quotient, remainder]

/-- A number is taken off with a mark behind it that is no digit. -/
theorem unambiguous_number {mark : Char} (other : ∀ d, Nat.digitChar d ≠ mark) :
    Unambiguous fun n : Nat => (toString n).toList ++ [mark] := by
  refine .before_mark (fun m n same => ?_) fun n => ?_
  · rw [Nat.toString_eq_repr, Nat.toString_eq_repr, Nat.toList_repr, Nat.toList_repr] at same
    exact toDigits_injective (by decide) (by decide) same
  · rw [Nat.toString_eq_repr, Nat.toList_repr]
    exact not_mem_toDigits other (by decide) n

/-! ## Quotations -/

namespace Quoted

/-- What a letter or sign means behind a backslash. -/
def meaning (x : Char) : Char :=
  if x = '0' then '\x00'
  else if x = 't' then '\t'
  else if x = 'r' then '\r'
  else if x = 'n' then '\n'
  else x

/-- An escaped code point tells the character, whatever is written behind it. -/
theorem unambiguous_codePoint : Unambiguous codePoint := by
  have digits : Unambiguous fun c : Char => Nat.toDigits 16 c.toNat ++ ['\x7d'] := by
    refine .before_mark (fun c d same => ?_) fun c => ?_
    · exact Char.toNat_inj.1 (toDigits_injective (by decide) (by decide) same)
    · exact not_mem_toDigits (fun _ => Nat.digitChar_ne '\x7d' (by decide)) (by decide) c.toNat
  intro c d rest rest' same
  simp only [codePoint, List.append_assoc, List.append_cancel_left_eq] at same
  exact digits (by simpa only [List.append_assoc] using same)

variable {mark : Char}

/-- A character is written as it is, or behind a backslash by a letter or sign that means it, or by its code point. -/
theorem escape_cases (sign : mark.isAlphanum = false) (c : Char) :
    (escape mark c = [c] ∧ c ≠ '\\' ∧ c ≠ mark) ∨
      (∃ x, escape mark c = ['\\', x] ∧ x ≠ 'u' ∧ meaning x = c) ∨ escape mark c = codePoint c := by
  have known : ∀ x, x.isAlphanum = false → x ≠ 'u' ∧ meaning x = x := by
    intro x other
    have apart : ∀ y, y.isAlphanum = true → x ≠ y := by
      rintro _ letter rfl
      rw [letter] at other
      cases other
    refine ⟨apart _ (by decide), ?_⟩
    unfold meaning
    rw [if_neg (apart _ (by decide)), if_neg (apart _ (by decide)), if_neg (apart _ (by decide)),
      if_neg (apart _ (by decide))]
  unfold escape
  split
  · exact .inr (.inl ⟨'0', rfl, by decide, by subst c; decide⟩)
  split
  · exact .inr (.inl ⟨'t', rfl, by decide, by subst c; decide⟩)
  split
  · exact .inr (.inl ⟨'r', rfl, by decide, by subst c; decide⟩)
  split
  · exact .inr (.inl ⟨'n', rfl, by decide, by subst c; decide⟩)
  split
  · next special =>
    have other : c.isAlphanum = false := by
      rcases (by simpa using special : c = '\\' ∨ c = mark) with rfl | rfl
      · decide
      · exact sign
    exact .inr (.inl ⟨c, rfl, known c other⟩)
  next plain =>
  split
  · exact .inr (.inr rfl)
  · exact .inl ⟨rfl, by simpa using plain⟩

/-- Escapes are taken off one by one. -/
theorem unambiguous_escape (sign : mark.isAlphanum = false) : Unambiguous (escape mark) := by
  intro c d rest rest' same
  rcases escape_cases sign c with ⟨plain, bare, -⟩ | ⟨x, signed, free, means⟩ | pointed <;>
    rcases escape_cases sign d with ⟨plain', bare', -⟩ | ⟨x', signed', free', means'⟩ | pointed'
  · rw [plain, plain'] at same
    exact List.cons.inj same
  · rw [plain, signed'] at same
    exact absurd (List.cons.inj same).1 bare
  · rw [plain, pointed'] at same
    exact absurd (List.cons.inj same).1 bare
  · rw [signed, plain'] at same
    exact absurd (List.cons.inj same).1.symm bare'
  · rw [signed, signed'] at same
    obtain ⟨rfl, behind⟩ := List.cons.inj (List.cons.inj same).2
    exact ⟨means.symm.trans means', behind⟩
  · rw [signed, pointed'] at same
    exact absurd (List.cons.inj (List.cons.inj same).2).1 free
  · rw [pointed, plain'] at same
    exact absurd (List.cons.inj same).1.symm bare'
  · rw [pointed, signed'] at same
    exact absurd (List.cons.inj (List.cons.inj same).2).1.symm free'
  · rw [pointed, pointed'] at same
    exact unambiguous_codePoint same

/-- No escape begins with the mark that closes a quotation. -/
theorem escape_append_ne (sign : mark.isAlphanum = false) (apart : mark ≠ '\\') (c : Char) (rest rest' : List Char) :
    escape mark c ++ rest ≠ [mark] ++ rest' := by
  intro same
  rcases escape_cases sign c with ⟨plain, -, other⟩ | ⟨x, signed, -, -⟩ | pointed
  · rw [plain] at same
    exact other (List.cons.inj same).1
  · rw [signed] at same
    exact apart (List.cons.inj same).1.symm
  · rw [pointed] at same
    exact apart (List.cons.inj same).1.symm

/-- A quoted character is taken off. -/
theorem unambiguous_character : Unambiguous fun c => (character c).toList := by
  have each : Unambiguous (escape '\'') := unambiguous_escape (by decide)
  intro c d rest rest' same
  simp only [character, String.toList_ofList, List.cons_append, List.append_assoc, List.cons.injEq, true_and] at same
  obtain ⟨rfl, behind⟩ := each same
  exact ⟨rfl, (List.cons.inj behind).2⟩

/-- A quoted text is taken off. -/
theorem unambiguous_text : Unambiguous fun s => (text s).toList := by
  have each : Unambiguous (escape '"') := unambiguous_escape (by decide)
  have inner := each.flatMap_append (escape_append_ne (by decide) (by decide))
  intro s s' rest rest' same
  simp only [text, String.toList_ofList, List.cons_append, List.cons.injEq, true_and] at same
  obtain ⟨content, behind⟩ := inner same
  exact ⟨String.toList_inj.1 content, behind⟩

end Quoted

end WatchLang
