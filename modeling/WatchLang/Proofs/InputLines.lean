import WatchLang.Command.Run

/-!
# Bytes, texts and lines

An input is bytes, and a text is put into bytes character by character. Decoding is the inverse of that
(`decode?_eq_some_iff`), so bytes are a text exactly when they encode one. Lines are told without going through the
bytes: a line holds no line feed, it ends at one or at the end of the input, and one carriage return at its end is
dropped together with the line feed. Every input has lines, and only one list of them (`cutIntoLines_iff`).
-/

set_option autoImplicit false

namespace WatchLang

/-! ## Texts as bytes -/

/-- The bytes of a text in UTF-8. -/
def encoded (text : String) : List UInt8 :=
  text.toList.flatMap String.utf8EncodeChar

/-- The bytes of two texts are those of the one and then of the other. -/
@[simp] theorem encoded_append (first second : String) :
    encoded (first ++ second) = encoded first ++ encoded second := by
  simp [encoded]

/-- The bytes of a text are those that decode to it. -/
theorem decode?_eq_some_iff {bytes : List UInt8} {text : String} :
    decode? bytes = some text ↔ encoded text = bytes := by
  have array : (⟨bytes.toArray⟩ : ByteArray) = bytes.toByteArray := by
    apply ByteArray.ext
    exact List.data_toByteArray.symm
  have whole : text.toByteArray = (encoded text).toByteArray := String.utf8Encode_toList.symm
  unfold decode? String.fromUTF8?
  rw [array, ← List.toByteArray_inj, ← whole]
  constructor
  · intro h
    split at h
    · next valid =>
      cases h
      rfl
    · cases h
  · intro same
    rw [← same, dif_pos text.isValidUTF8]
    rfl

/-- The bytes of a text are decoded as this text. -/
@[simp] theorem decode?_encoded (text : String) : decode? (encoded text) = some text :=
  decode?_eq_some_iff.2 rfl

/-- Texts with the same bytes are the same. -/
theorem encoded_injective {first second : String} (same : encoded first = encoded second) : first = second := by
  have decoded := decode?_encoded first
  rw [same, decode?_encoded] at decoded
  exact (Option.some.inj decoded).symm

/-- Bytes are no text exactly when no text has them as its bytes. -/
theorem decode?_eq_none_iff {bytes : List UInt8} : decode? bytes = none ↔ ∀ text, encoded text ≠ bytes := by
  constructor
  · rintro nothing text rfl
    rw [decode?_encoded] at nothing
    cases nothing
  · intro none
    cases decoded : decode? bytes with
    | none => rfl
    | some text => exact absurd (decode?_eq_some_iff.1 decoded) (none text)

/-- The bytes below 128 stand for themselves: a character with one of them in its form is the character of that
number. -/
theorem toNat_of_mem_utf8EncodeChar {c : Char} {b : UInt8} (member : b ∈ String.utf8EncodeChar c)
    (ascii : b.toNat < 128) : c.toNat = b.toNat := by
  change c.val.toNat = b.toNat
  dsimp only [String.utf8EncodeChar] at member
  split at member
  · next short =>
    rw [List.mem_singleton.1 member, UInt8.toNat_ofNat']
    omega
  -- in the longer forms 128 or more is added to every byte
  · split at member
    · simp only [List.mem_cons, List.not_mem_nil, or_false] at member
      rcases member with rfl | rfl <;> simp only [UInt8.toNat_ofNat'] at ascii <;> omega
    · split at member
      · simp only [List.mem_cons, List.not_mem_nil, or_false] at member
        rcases member with rfl | rfl | rfl <;> simp only [UInt8.toNat_ofNat'] at ascii <;> omega
      · simp only [List.mem_cons, List.not_mem_nil, or_false] at member
        rcases member with rfl | rfl | rfl | rfl <;> simp only [UInt8.toNat_ofNat'] at ascii <;> omega

/-- A byte below 128 among those of a text is a character of it. -/
theorem mem_of_mem_encoded {text : String} {b : UInt8} {c : Char} (member : b ∈ encoded text) (ascii : b.toNat < 128)
    (number : c.toNat = b.toNat) : c ∈ text.toList := by
  obtain ⟨d, inside, form⟩ := List.mem_flatMap.1 member
  have same : d.toNat = c.toNat := (toNat_of_mem_utf8EncodeChar form ascii).trans number.symm
  rwa [← Char.toNat_inj.1 same]

/-! ## Lines -/

/-- A line without one carriage return at its end. -/
def withoutReturn (line : List UInt8) : List UInt8 :=
  if line.getLast? = some 13 then line.dropLast else line

/-- Bytes cut into lines. A line ends at the first line feed, which is dropped with a carriage return right before it;
what stands behind the last line feed is a line of its own if there is anything. -/
inductive CutIntoLines : List UInt8 → List (List UInt8) → Prop
  | nil : CutIntoLines [] []
  | last {line : List UInt8} (nonempty : line ≠ []) (unbroken : 10 ∉ line) : CutIntoLines line [line]
  | cons {line rest : List UInt8} {lines : List (List UInt8)} (unbroken : 10 ∉ line) (later : CutIntoLines rest lines) :
      CutIntoLines (line ++ 10 :: rest) (withoutReturn line :: lines)

/-- Only the last byte of a line can be dropped from it. -/
theorem withoutReturn_cons_cons (b c : UInt8) (line : List UInt8) :
    withoutReturn (b :: c :: line) = b :: withoutReturn (c :: line) := by
  unfold withoutReturn
  rw [List.getLast?_cons_cons]
  split
  · rfl
  · rfl

/-- Unless a line feed follows, the next byte begins the line that the rest begins with. -/
theorem inputLines_cons {b : UInt8} {bytes : List UInt8} (other : b ≠ 10) (apart : ¬ (b = 13 ∧ bytes.head? = some 10)) :
    inputLines (b :: bytes) =
      match inputLines bytes with
      | [] => [[b]]
      | line :: lines => (b :: line) :: lines := by
  have alone : ∀ more, b = 13 → bytes = 10 :: more → False := by
    rintro more rfl rfl
    exact apart ⟨rfl, rfl⟩
  exact inputLines.eq_4 b bytes alone other

/-- Bytes without a line feed are one line, unless there are none. -/
theorem inputLines_last {line : List UInt8} (nonempty : line ≠ []) (unbroken : 10 ∉ line) :
    inputLines line = [line] := by
  induction line with
  | nil => exact absurd rfl nonempty
  | cons b line ih =>
    rw [List.mem_cons, not_or] at unbroken
    obtain ⟨other, later⟩ := unbroken
    have apart : ¬ (b = 13 ∧ line.head? = some 10) := fun h => later (List.mem_of_head? h.2)
    rw [inputLines_cons (Ne.symm other) apart]
    cases line with
    | nil => rfl
    | cons c line => rw [ih (List.cons_ne_nil c line) later]

/-- Bytes up to the first line feed are a line, without a carriage return at their end. -/
theorem inputLines_feed {line : List UInt8} (unbroken : 10 ∉ line) (rest : List UInt8) :
    inputLines (line ++ 10 :: rest) = withoutReturn line :: inputLines rest := by
  induction line with
  | nil => rfl
  | cons b line ih =>
    rw [List.mem_cons, not_or] at unbroken
    obtain ⟨other, later⟩ := unbroken
    cases line with
    | nil =>
      by_cases carriage : b = 13
      · subst carriage
        rfl
      · have kept : withoutReturn [b] = [b] := by
          simp [withoutReturn, carriage]
        rw [List.singleton_append, inputLines_cons (Ne.symm other) (fun h => carriage h.1), kept]
        rfl
    | cons c line =>
      have apart : ¬ (b = 13 ∧ (c :: line ++ 10 :: rest).head? = some 10) := by
        rintro ⟨-, first⟩
        cases first
        exact later List.mem_cons_self
      rw [List.cons_append, inputLines_cons (Ne.symm other) apart, ih later, withoutReturn_cons_cons]

/-- Bytes are cut into the lines of the input. -/
theorem cutIntoLines_inputLines (bytes : List UInt8) : CutIntoLines bytes (inputLines bytes) := by
  by_cases broken : 10 ∈ bytes
  · -- the first line feed ends the first line, and what is behind it is shorter
    obtain ⟨line, rest, whole, unbroken⟩ := List.eq_append_cons_of_mem broken
    rw [whole, inputLines_feed unbroken]
    have shorter : rest.length < bytes.length := by
      rw [whole, List.length_append, List.length_cons]
      omega
    exact .cons unbroken (cutIntoLines_inputLines rest)
  · cases bytes with
    | nil => exact .nil
    | cons b bytes =>
      rw [inputLines_last (List.cons_ne_nil b bytes) broken]
      exact .last (List.cons_ne_nil b bytes) broken
termination_by bytes.length

/-- Every input is cut into lines in one way, which is the way of commands. -/
theorem cutIntoLines_iff {bytes : List UInt8} {lines : List (List UInt8)} :
    CutIntoLines bytes lines ↔ lines = inputLines bytes := by
  constructor
  · intro h
    induction h with
    | nil => rfl
    | last nonempty unbroken => exact (inputLines_last nonempty unbroken).symm
    | cons unbroken _ ih => rw [inputLines_feed unbroken, ih]
  · rintro rfl
    exact cutIntoLines_inputLines bytes

end WatchLang
