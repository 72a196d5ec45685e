/-!
# Sets of code points

Character properties are given as ascending tables of closed ranges. Looking a character up walks the
table and stops at the first range that begins past it, so the answer for an ASCII character costs a
comparison or two even in a long table. Because the table ascends, stopping there misses nothing:
`has_iff` says that a character belongs to the set exactly when some range holds it.
-/

set_option autoImplicit false

namespace WatchLang

namespace CodePoints

/-- Whether closed ranges ascend: each begins past the end of the one before. -/
def ascend : List (Nat × Nat) → Bool
  | [] => true
  | [range] => range.1 ≤ range.2
  | range :: next :: later => range.1 ≤ range.2 && range.2 < next.1 && ascend (next :: later)

/-- Whether one of ascending closed ranges holds a number. -/
def within (n : Nat) : List (Nat × Nat) → Bool
  | [] => false
  | range :: later => range.1 ≤ n && (n ≤ range.2 || within n later)

end CodePoints

/-- A set of code points as ascending closed ranges. -/
structure CodePoints where
  ranges : List (Nat × Nat)
  ascending : CodePoints.ascend ranges = true := by decide +kernel

namespace CodePoints

/-- Whether a character belongs to the set. -/
def has (set : CodePoints) (c : Char) : Bool :=
  within c.toNat set.ranges

/-- Ranges in ascending order are so without the first. -/
theorem ascend_tail {range : Nat × Nat} {later : List (Nat × Nat)} (h : ascend (range :: later) = true) :
    ascend later = true := by
  cases later with
  | nil => rfl
  | cons next later =>
    simp only [ascend, Bool.and_eq_true] at h
    exact h.2

/-- Later ranges begin past the first. -/
theorem lt_of_ascend {range : Nat × Nat} {later : List (Nat × Nat)} (h : ascend (range :: later) = true) :
    ∀ r ∈ later, range.1 < r.1 := by
  induction later generalizing range with
  | nil => intro r hr; cases hr
  | cons next later ih =>
    have rest := ascend_tail h
    simp only [ascend, Bool.and_eq_true, decide_eq_true_eq] at h
    intro r hr
    rcases List.mem_cons.1 hr with rfl | hr
    · omega
    · have := ih rest r hr
      omega

/-- Among ascending ranges, the search finds whether a number is in one of them. -/
theorem within_iff {n : Nat} {ranges : List (Nat × Nat)} (h : ascend ranges = true) :
    within n ranges = true ↔ ∃ r ∈ ranges, r.1 ≤ n ∧ n ≤ r.2 := by
  induction ranges with
  | nil => simp [within]
  | cons range later ih =>
    simp only [within, Bool.and_eq_true, Bool.or_eq_true, decide_eq_true_eq, ih (ascend_tail h)]
    constructor
    · rintro ⟨first, last | ⟨r, hr, bounds⟩⟩
      · exact ⟨range, List.mem_cons_self, first, last⟩
      · exact ⟨r, List.mem_cons_of_mem _ hr, bounds⟩
    · rintro ⟨r, hr, bounds⟩
      rcases List.mem_cons.1 hr with rfl | hr
      · exact ⟨bounds.1, Or.inl bounds.2⟩
      · have := lt_of_ascend h r hr
        exact ⟨by omega, Or.inr ⟨r, hr, bounds⟩⟩

/-- A character belongs to a set exactly when one of the ranges holds it. -/
theorem has_iff {set : CodePoints} {c : Char} :
    set.has c = true ↔ ∃ r ∈ set.ranges, r.1 ≤ c.toNat ∧ c.toNat ≤ r.2 :=
  within_iff set.ascending

end CodePoints

end WatchLang
