import Rehearsal.Text.Utf8
/-!
# UTF-8 round trip

What is written in UTF-8 reads back as the same text, and an end of line in the bytes is one in the
text: the bytes of every other character differ from it. Bytes and texts have the same order.
-/

set_option autoImplicit false

namespace Rehearsal.Text.Utf8

/-! ## Reading the bytes of one character -/

private theorem toNat_ofNat_of_lt {code : Nat} (small : code < 256) :
    (UInt8.ofNat code).toNat = code := by
  rw [UInt8.toNat_ofNat', Nat.mod_eq_of_lt small]

private theorem isTail_ofNat (value : Nat) : isTail (UInt8.ofNat (0x80 + value % 64)) = true := by
  have byte : (UInt8.ofNat (0x80 + value % 64)).toNat = 0x80 + value % 64 :=
    toNat_ofNat_of_lt (by omega)
  simp only [isTail, Bool.and_eq_true, decide_eq_true_eq, UInt8.le_iff_toNat_le, byte]
  constructor
  · exact Nat.le_add_right 128 (value % 64)
  · change 128 + value % 64 ≤ 191
    omega

private theorem low_ofNat (value : Nat) :
    low (UInt8.ofNat (0x80 + value % 64)) = value % 64 := by
  rw [low, UInt8.toNat_ofNat']
  omega

/-- A second byte is allowed after a first one where the value is neither overlong, nor a surrogate,
nor too large. The bounds are on the first ten bits after the mark. -/
private theorem isSecond_ofNat {first value : Nat} (small : first < 256)
    (notOverlongThree : first = 0xE0 → 0x20 ≤ value % 64)
    (notSurrogate : first = 0xED → value % 64 ≤ 0x1F)
    (notOverlongFour : first = 0xF0 → 0x10 ≤ value % 64)
    (notLarge : first = 0xF4 → value % 64 ≤ 0x0F) :
    isSecond (UInt8.ofNat first) (UInt8.ofNat (0x80 + value % 64)) = true := by
  have firstByte := toNat_ofNat_of_lt small
  have second : (UInt8.ofNat (0x80 + value % 64)).toNat = 0x80 + value % 64 :=
    toNat_ofNat_of_lt (by omega)
  have same (bound : UInt8) : UInt8.ofNat first = bound ↔ first = bound.toNat := by
    rw [← UInt8.toNat_inj, firstByte]
  simp only [isSecond, beq_iff_eq, same, UInt8.le_iff_toNat_le, second, isTail_ofNat]
  simp only [UInt8.reduceToNat]
  split
  · next overlong =>
    have bits := notOverlongThree overlong
    simp only [Bool.and_eq_true, decide_eq_true_eq]
    omega
  · split
    · next surrogate =>
      have bits := notSurrogate surrogate
      simp only [Bool.and_eq_true, decide_eq_true_eq]
      omega
    · split
      · next overlong =>
        have bits := notOverlongFour overlong
        simp only [Bool.and_eq_true, decide_eq_true_eq]
        omega
      · split
        · next large =>
          have bits := notLarge large
          simp only [Bool.and_eq_true, decide_eq_true_eq]
          omega
        · rfl

private theorem decodeFrom_one {code : Nat} (small : code < 0x80) (index : Nat) (rest : Bytes) :
    decodeFrom index (UInt8.ofNat code :: rest) =
      (decodeFrom (index + 1) rest).map (Char.ofNat code :: ·) := by
  have value : (UInt8.ofNat code).toNat = code :=
    toNat_ofNat_of_lt (by omega)
  have first : UInt8.ofNat code < 0x80 := by
    rw [UInt8.lt_iff_toNat_lt, value]
    exact small
  rw [decodeFrom.eq_def]
  simp only [if_pos first, value]

private theorem decodeFrom_two {code : Nat} (large : 0x80 ≤ code) (small : code < 0x800)
    (index : Nat) (rest : Bytes) :
    decodeFrom index
        (UInt8.ofNat (0xC0 + code / 64) :: UInt8.ofNat (0x80 + code % 64) :: rest) =
      (decodeFrom (index + 2) rest).map (Char.ofNat code :: ·) := by
  have first : (UInt8.ofNat (0xC0 + code / 64)).toNat = 0xC0 + code / 64 :=
    toNat_ofNat_of_lt (by omega)
  have notOne : ¬ UInt8.ofNat (0xC0 + code / 64) < 0x80 := by
    simp only [UInt8.lt_iff_toNat_lt, first, UInt8.reduceToNat]
    omega
  have two : (0xC2 ≤ UInt8.ofNat (0xC0 + code / 64) &&
      UInt8.ofNat (0xC0 + code / 64) ≤ 0xDF) = true := by
    simp only [Bool.and_eq_true, decide_eq_true_eq, UInt8.le_iff_toNat_le, first,
      UInt8.reduceToNat]
    omega
  have value : (0xC0 + code / 64) % 32 * 64 + code % 64 = code := by omega
  rw [decodeFrom.eq_def]
  simp only [if_neg notOne, two, isTail_ofNat, if_true, first, low_ofNat, value]

private theorem decodeFrom_three {code : Nat} (large : 0x800 ≤ code) (small : code < 0x10000)
    (notSurrogate : code < 0xD800 ∨ 0xDFFF < code) (index : Nat) (rest : Bytes) :
    decodeFrom index
        (UInt8.ofNat (0xE0 + code / 4096) :: UInt8.ofNat (0x80 + code / 64 % 64) ::
          UInt8.ofNat (0x80 + code % 64) :: rest) =
      (decodeFrom (index + 3) rest).map (Char.ofNat code :: ·) := by
  have first : (UInt8.ofNat (0xE0 + code / 4096)).toNat = 0xE0 + code / 4096 :=
    toNat_ofNat_of_lt (by omega)
  have notOne : ¬ UInt8.ofNat (0xE0 + code / 4096) < 0x80 := by
    simp only [UInt8.lt_iff_toNat_lt, first, UInt8.reduceToNat]
    omega
  have notTwo : (0xC2 ≤ UInt8.ofNat (0xE0 + code / 4096) &&
      UInt8.ofNat (0xE0 + code / 4096) ≤ 0xDF) = false := by
    simp only [Bool.and_eq_false_iff, decide_eq_false_iff_not, UInt8.le_iff_toNat_le, first,
      UInt8.reduceToNat]
    omega
  have three : (0xE0 ≤ UInt8.ofNat (0xE0 + code / 4096) &&
      UInt8.ofNat (0xE0 + code / 4096) ≤ 0xEF) = true := by
    simp only [Bool.and_eq_true, decide_eq_true_eq, UInt8.le_iff_toNat_le, first,
      UInt8.reduceToNat]
    omega
  have second : isSecond (UInt8.ofNat (0xE0 + code / 4096))
      (UInt8.ofNat (0x80 + code / 64 % 64)) = true := by
    apply isSecond_ofNat <;> omega
  have value : (0xE0 + code / 4096) % 16 * 4096 + code / 64 % 64 * 64 + code % 64 = code := by
    omega
  rw [decodeFrom.eq_def]
  simp only [if_neg notOne, notTwo, three, second, isTail_ofNat, if_true, Bool.false_eq_true,
    if_false, first, low_ofNat, value]

private theorem decodeFrom_four {code : Nat} (large : 0x10000 ≤ code) (small : code < 0x110000)
    (index : Nat) (rest : Bytes) :
    decodeFrom index
        (UInt8.ofNat (0xF0 + code / 262144) :: UInt8.ofNat (0x80 + code / 4096 % 64) ::
          UInt8.ofNat (0x80 + code / 64 % 64) :: UInt8.ofNat (0x80 + code % 64) :: rest) =
      (decodeFrom (index + 4) rest).map (Char.ofNat code :: ·) := by
  have first : (UInt8.ofNat (0xF0 + code / 262144)).toNat = 0xF0 + code / 262144 :=
    toNat_ofNat_of_lt (by omega)
  have notOne : ¬ UInt8.ofNat (0xF0 + code / 262144) < 0x80 := by
    simp only [UInt8.lt_iff_toNat_lt, first, UInt8.reduceToNat]
    omega
  have notTwo : (0xC2 ≤ UInt8.ofNat (0xF0 + code / 262144) &&
      UInt8.ofNat (0xF0 + code / 262144) ≤ 0xDF) = false := by
    simp only [Bool.and_eq_false_iff, decide_eq_false_iff_not, UInt8.le_iff_toNat_le, first,
      UInt8.reduceToNat]
    omega
  have notThree : (0xE0 ≤ UInt8.ofNat (0xF0 + code / 262144) &&
      UInt8.ofNat (0xF0 + code / 262144) ≤ 0xEF) = false := by
    simp only [Bool.and_eq_false_iff, decide_eq_false_iff_not, UInt8.le_iff_toNat_le, first,
      UInt8.reduceToNat]
    omega
  have four : (0xF0 ≤ UInt8.ofNat (0xF0 + code / 262144) &&
      UInt8.ofNat (0xF0 + code / 262144) ≤ 0xF4) = true := by
    simp only [Bool.and_eq_true, decide_eq_true_eq, UInt8.le_iff_toNat_le, first,
      UInt8.reduceToNat]
    omega
  have second : isSecond (UInt8.ofNat (0xF0 + code / 262144))
      (UInt8.ofNat (0x80 + code / 4096 % 64)) = true := by
    apply isSecond_ofNat <;> omega
  have value : (0xF0 + code / 262144) % 8 * 262144 + code / 4096 % 64 * 4096 +
      code / 64 % 64 * 64 + code % 64 = code := by
    omega
  rw [decodeFrom.eq_def]
  simp only [if_neg notOne, notTwo, notThree, four, second, isTail_ofNat, if_true,
    Bool.false_eq_true, if_false, first, low_ofNat, value]

/-- The number of a character is in range and no surrogate. -/
theorem toNat_isValidChar (c : Char) :
    c.toNat < 0xD800 ∨ (0xDFFF < c.toNat ∧ c.toNat < 0x110000) := by
  have valid := c.valid
  simpa [UInt32.isValidChar, Nat.isValidChar] using valid

/-- The bytes of a character read as that character. -/
theorem decodeFrom_encodeChar (index : Nat) (c : Char) (rest : Bytes) :
    decodeFrom index (encodeChar c ++ rest) =
      (decodeFrom (index + (encodeChar c).length) rest).map (c :: ·) := by
  have range := toNat_isValidChar c
  rw [encodeChar]
  split
  · next small => simpa using decodeFrom_one small index rest
  · split
    · next small => simpa using @decodeFrom_two c.toNat (by omega) small index rest
    · split
      · next small => simpa using @decodeFrom_three c.toNat (by omega) small (by omega) index rest
      · next large => simpa using @decodeFrom_four c.toNat (by omega) (by omega) index rest

/-! ## Reading a text -/

theorem decodeFrom_flatMap_encodeChar (index : Nat) (text : List Char) :
    decodeFrom index (text.flatMap encodeChar) = .ok text := by
  induction text generalizing index with
  | nil => rfl
  | cons c text ih =>
      rw [List.flatMap_cons, decodeFrom_encodeChar, ih]
      rfl

/-- Reading undoes writing. -/
@[simp] theorem decode_encode (text : String) : decode (encode text) = .ok text := by
  rw [decode, encode, decodeFrom_flatMap_encodeChar]
  simp [Except.map]

@[simp] theorem encode_append (first second : String) :
    encode (first ++ second) = encode first ++ encode second := by
  simp [encode]

/-! ## Ends of lines -/

/-- Only the end of a line has its byte. -/
theorem mem_encodeChar_ten_iff (c : Char) : (10 : UInt8) ∈ encodeChar c ↔ c = '\n' := by
  constructor
  · intro member
    have range := toNat_isValidChar c
    have far {code : Nat} (large : 0x80 ≤ code) (small : code < 256) :
        (10 : UInt8) ≠ UInt8.ofNat code := by
      intro same
      have value := congrArg UInt8.toNat same
      rw [toNat_ofNat_of_lt small] at value
      simp only [UInt8.reduceToNat] at value
      omega
    have near : c.toNat = 10 := by
      rw [encodeChar] at member
      split at member
      · have same := List.mem_singleton.mp member
        have value := congrArg UInt8.toNat same
        rw [toNat_ofNat_of_lt (by omega)] at value
        exact value.symm
      · -- The bytes of a longer form all have their highest bit set.
        exfalso
        split at member
        · simp only [List.mem_cons, List.not_mem_nil, or_false] at member
          rcases member with same | same
          · exact far (by omega) (by omega) same
          · exact far (by omega) (by omega) same
        · split at member
          · simp only [List.mem_cons, List.not_mem_nil, or_false] at member
            rcases member with same | same | same
            · exact far (by omega) (by omega) same
            · exact far (by omega) (by omega) same
            · exact far (by omega) (by omega) same
          · simp only [List.mem_cons, List.not_mem_nil, or_false] at member
            rcases member with same | same | same | same
            · exact far (by omega) (by omega) same
            · exact far (by omega) (by omega) same
            · exact far (by omega) (by omega) same
            · exact far (by omega) (by omega) same
    rw [← Char.ofNat_toNat c, near]
  · rintro rfl
    decide

theorem mem_encode_ten_iff (text : String) : (10 : UInt8) ∈ encode text ↔ '\n' ∈ text.toList := by
  simp [encode, mem_encodeChar_ten_iff]

/-! ## The order of texts -/

private theorem ofNat_cons_lt {first second : Nat} {rest others : Bytes} (small : second < 256)
    (most : first ≤ second) (later : first = second → rest < others) :
    UInt8.ofNat first :: rest < UInt8.ofNat second :: others := by
  rw [List.cons_lt_cons_iff]
  rcases Nat.lt_or_eq_of_le most with less | same
  · refine .inl (UInt8.lt_iff_toNat_lt.mpr ?_)
    rw [UInt8.toNat_ofNat', UInt8.toNat_ofNat', Nat.mod_eq_of_lt small]
    exact Nat.lt_of_le_of_lt (Nat.mod_le _ _) less
  · exact .inr ⟨congrArg UInt8.ofNat same, later same⟩

/-- Where the bytes of two characters part, the smaller character has the smaller byte. -/
theorem encodeChar_append_lt {c d : Char} (less : c < d) (rest others : Bytes) :
    encodeChar c ++ rest < encodeChar d ++ others := by
  have smaller : c.toNat < d.toNat := less
  have range := toNat_isValidChar d
  rw [encodeChar, encodeChar]
  generalize c.toNat = code at *
  generalize d.toNat = other at *
  -- A longer form begins with a greater byte, and the bytes of one form are digits of the number.
  split
  · split
    · exact ofNat_cons_lt (by omega) (by omega) (by omega)
    · split
      · exact ofNat_cons_lt (by omega) (by omega) (by omega)
      · split <;> exact ofNat_cons_lt (by omega) (by omega) (by omega)
  · rw [if_neg (by omega : ¬other < 0x80)]
    split
    · split
      · refine ofNat_cons_lt (by omega) (by omega) fun first => ?_
        exact ofNat_cons_lt (by omega) (by omega) (by omega)
      · split <;> exact ofNat_cons_lt (by omega) (by omega) (by omega)
    · rw [if_neg (by omega : ¬other < 0x800)]
      split
      · split
        · refine ofNat_cons_lt (by omega) (by omega) fun first => ?_
          refine ofNat_cons_lt (by omega) (by omega) fun second => ?_
          exact ofNat_cons_lt (by omega) (by omega) (by omega)
        · exact ofNat_cons_lt (by omega) (by omega) (by omega)
      · rw [if_neg (by omega : ¬other < 0x10000)]
        refine ofNat_cons_lt (by omega) (by omega) fun first => ?_
        refine ofNat_cons_lt (by omega) (by omega) fun second => ?_
        refine ofNat_cons_lt (by omega) (by omega) fun third => ?_
        exact ofNat_cons_lt (by omega) (by omega) (by omega)

theorem exists_encodeChar (c : Char) : ∃ byte rest, encodeChar c = byte :: rest := by
  rw [encodeChar]
  repeat' split
  all_goals exact ⟨_, _, rfl⟩

/-- Texts are in the order of their bytes. -/
theorem encode_lt_encode {first second : String} (less : first < second) :
    encode first < encode second := by
  rw [String.lt_iff] at less
  rw [encode, encode]
  generalize first.toList = text at less ⊢
  generalize second.toList = other at less ⊢
  -- Either the first text ends, or the texts part at a character, or they have one in common.
  induction less with
  | @nil c other =>
      obtain ⟨byte, rest, begins⟩ := exists_encodeChar c
      rw [List.flatMap_nil, List.flatMap_cons, begins]
      exact List.nil_lt_cons _ _
  | rel earlier => exact encodeChar_append_lt earlier _ _
  | cons _ ih => exact List.append_left_lt ih

end Rehearsal.Text.Utf8
