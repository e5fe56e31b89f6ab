import Rehearsal.Json.Doc
import Rehearsal.Json.Value
import Rehearsal.Proofs.Text.Utf8
/-!
# The letters of a string literal

A character of a string may be written as itself, by a letter after a backslash, by the four digits
of its number, or by the numbers of two surrogates. Reading takes any mix of these back to the text.
-/

set_option autoImplicit false

namespace Rehearsal.Json

/-- A hexadecimal digit in either case. -/
def IsHex (value : Nat) (digit : Char) : Prop :=
  value < 16 ∧ (digit = Nat.digitChar value ∨ digit = (Nat.digitChar value).toUpper)

instance (value : Nat) (digit : Char) : Decidable (IsHex value digit) :=
  inferInstanceAs
    (Decidable (value < 16 ∧ (digit = value.digitChar ∨ digit = value.digitChar.toUpper)))

/-- The four hexadecimal digits of a number. -/
inductive HexUnit : Nat → List Char → Prop where
  | digits {w x y z : Nat} {a b c d : Char} (first : IsHex w a) (second : IsHex x b)
      (third : IsHex y c) (fourth : IsHex z d) :
      HexUnit (w * 4096 + x * 256 + y * 16 + z) [a, b, c, d]

/-- The letters that stand for a character after a backslash. -/
def shortEscapes : List (Char × Char) :=
  [('"', '"'), ('\\', '\\'), ('/', '/'), ('b', '\x08'), ('f', '\x0c'), ('n', '\n'), ('r', '\r'),
    ('t', '\t')]

/-- The ways to write a character of a string. -/
inductive Letter : Char → List Char → Prop where
  | plain {c : Char} (printable : 0x20 ≤ c.toNat) (noQuote : c ≠ '"') (noBackslash : c ≠ '\\') :
      Letter c [c]
  | escape {c letter : Char} (known : (letter, c) ∈ shortEscapes) : Letter c ['\\', letter]
  | unit {c : Char} {digits : List Char} (value : HexUnit c.toNat digits) :
      Letter c ('\\' :: 'u' :: digits)
  | pair {c : Char} {first second : List Char} (large : 0x10000 ≤ c.toNat)
      (high : HexUnit (0xD800 + (c.toNat - 0x10000) / 0x400) first)
      (low : HexUnit (0xDC00 + (c.toNat - 0x10000) % 0x400) second) :
      Letter c ('\\' :: 'u' :: first ++ '\\' :: 'u' :: second)

/-- The ways to write the characters of a string, one after the other. -/
inductive Letters : List Char → List Char → Prop where
  | nil : Letters [] []
  | cons {c : Char} {text letter rest : List Char} (first : Letter c letter)
      (others : Letters text rest) : Letters (c :: text) (letter ++ rest)

/-- The ways to write the pieces of a string, whether they stand for a text or not. -/
inductive RendersPieces : List Piece → List Char → Prop where
  | nil : RendersPieces [] []
  | char {c : Char} {pieces : List Piece} {rest : List Char} (printable : 0x20 ≤ c.toNat)
      (noQuote : c ≠ '"') (noBackslash : c ≠ '\\') (others : RendersPieces pieces rest) :
      RendersPieces (.char c :: pieces) (c :: rest)
  | escape {c letter : Char} {pieces : List Piece} {rest : List Char}
      (known : (letter, c) ∈ shortEscapes) (others : RendersPieces pieces rest) :
      RendersPieces (.escape c :: pieces) ('\\' :: letter :: rest)
  | unit {value : Nat} {digits : List Char} {pieces : List Piece} {rest : List Char}
      (hex : HexUnit value digits) (others : RendersPieces pieces rest) :
      RendersPieces (.unit value :: pieces) ('\\' :: 'u' :: digits ++ rest)

/-- What a string of pieces is read as. -/
def tokenOf (pieces : List Piece) : Token := (joinPieces none pieces).map String.ofList

/-! ## Reading letters -/

theorem hexValue?_of_isHex {value : Nat} {digit : Char} (hex : IsHex value digit) :
    hexValue? digit = some value := by
  have table : ∀ value : Fin 16,
      hexValue? (Nat.digitChar value) = some value.val ∧
        hexValue? (Nat.digitChar value).toUpper = some value.val := by decide
  obtain ⟨small, rfl | rfl⟩ := hex
  · exact (table ⟨value, small⟩).1
  · exact (table ⟨value, small⟩).2

theorem shortEscape?_of_mem {letter c : Char} (known : (letter, c) ∈ shortEscapes) :
    letter ≠ 'u' ∧ shortEscape? letter = some c := by
  have table : ∀ entry ∈ shortEscapes, entry.1 ≠ 'u' ∧ shortEscape? entry.1 = some entry.2 := by
    decide
  exact table _ known

theorem readPieces_unit {value : Nat} {digits : List Char} (hex : HexUnit value digits)
    (rest : List Char) :
    readPieces ('\\' :: 'u' :: digits ++ rest) =
      (.unit value :: (readPieces rest).1, (readPieces rest).2) := by
  cases hex with
  | digits first second third fourth =>
      simp [readPieces, hexValue?_of_isHex first, hexValue?_of_isHex second,
        hexValue?_of_isHex third, hexValue?_of_isHex fourth]

theorem readPieces_escape {letter c : Char} (known : (letter, c) ∈ shortEscapes)
    (rest : List Char) :
    readPieces ('\\' :: letter :: rest) =
      (.escape c :: (readPieces rest).1, (readPieces rest).2) := by
  obtain ⟨noUnit, meant⟩ := shortEscape?_of_mem known
  rw [readPieces.eq_def]
  simp [noUnit, meant]

theorem readPieces_plain {c : Char} (printable : 0x20 ≤ c.toNat) (noQuote : c ≠ '"')
    (noBackslash : c ≠ '\\') (rest : List Char) :
    readPieces (c :: rest) = (.char c :: (readPieces rest).1, (readPieces rest).2) := by
  have noControl : ¬ c.toNat < 0x20 := Nat.not_lt.mpr printable
  rw [readPieces.eq_def]
  simp [noBackslash, noControl]

/-- A unit that is no surrogate stands for the character of its number. -/
theorem joinPieces_unit (c : Char) (stop : Option Fault) (more : List Piece) :
    joinPieces stop (.unit c.toNat :: more) = (joinPieces stop more).map (c :: ·) := by
  have range := Text.Utf8.toNat_isValidChar c
  have noSecond : isSecondSurrogate c.toNat = false := by
    simp only [isSecondSurrogate, Bool.and_eq_false_iff, decide_eq_false_iff_not]
    omega
  have noFirst : isFirstSurrogate c.toNat = false := by
    simp only [isFirstSurrogate, Bool.and_eq_false_iff, decide_eq_false_iff_not]
    omega
  rw [joinPieces.eq_def]
  simp [noSecond, noFirst, Char.ofNat_toNat]

/-- A pair of surrogates stands for the character whose number they share. -/
theorem joinPieces_pair {c : Char} (large : 0x10000 ≤ c.toNat) (stop : Option Fault)
    (more : List Piece) :
    joinPieces stop (.unit (0xD800 + (c.toNat - 0x10000) / 0x400) ::
        .unit (0xDC00 + (c.toNat - 0x10000) % 0x400) :: more) =
      (joinPieces stop more).map (c :: ·) := by
  have range := Text.Utf8.toNat_isValidChar c
  have noSecond : isSecondSurrogate (0xD800 + (c.toNat - 0x10000) / 0x400) = false := by
    simp only [isSecondSurrogate, Bool.and_eq_false_iff, decide_eq_false_iff_not]
    omega
  have first : isFirstSurrogate (0xD800 + (c.toNat - 0x10000) / 0x400) = true := by
    simp only [isFirstSurrogate, Bool.and_eq_true, decide_eq_true_eq]
    omega
  have second : isSecondSurrogate (0xDC00 + (c.toNat - 0x10000) % 0x400) = true := by
    simp only [isSecondSurrogate, Bool.and_eq_true, decide_eq_true_eq]
    omega
  have meant : pairChar (0xD800 + (c.toNat - 0x10000) / 0x400)
      (0xDC00 + (c.toNat - 0x10000) % 0x400) = c := by
    have number : 0x10000 + (0xD800 + (c.toNat - 0x10000) / 0x400 - 0xD800) * 0x400 +
        (0xDC00 + (c.toNat - 0x10000) % 0x400 - 0xDC00) = c.toNat := by omega
    rw [pairChar, number, Char.ofNat_toNat]
  rw [joinPieces.eq_def]
  simp [noSecond, first, second, meant]

theorem readPieces_of_renders {pieces : List Piece} {written : List Char}
    (rendered : RendersPieces pieces written) (rest : List Char) :
    readPieces (written ++ '"' :: rest) = (pieces, .ok rest) := by
  induction rendered with
  | nil => rfl
  | char printable noQuote noBackslash _ ih =>
      rw [List.cons_append, readPieces_plain printable noQuote noBackslash, ih]
  | escape known _ ih =>
      rw [List.cons_append, List.cons_append, readPieces_escape known, ih]
  | unit hex _ ih => rw [List.append_assoc, readPieces_unit hex, ih]

/-- A literal is read as the pieces that it is made of, up to the closing quote. -/
theorem readString_of_renders {pieces : List Piece} {written : List Char}
    (rendered : RendersPieces pieces written) (rest : List Char) :
    readString (written ++ '"' :: rest) = (tokenOf pieces, .ok rest) := by
  rw [readString, readPieces_of_renders rendered]
  rfl

/-- A letter is written as pieces that stand for its character, whatever follows. -/
theorem Letter.renders {c : Char} {letter : List Char} (written : Letter c letter) :
    ∃ pieces,
      (∀ more rest, RendersPieces more rest → RendersPieces (pieces ++ more) (letter ++ rest)) ∧
      ∀ stop more, joinPieces stop (pieces ++ more) = (joinPieces stop more).map (c :: ·) := by
  cases written with
  | plain printable noQuote noBackslash =>
      exact ⟨[.char c], fun _ _ => .char printable noQuote noBackslash, fun _ _ => rfl⟩
  | escape known => exact ⟨[.escape c], fun _ _ => .escape known, fun _ _ => rfl⟩
  | unit value => exact ⟨[.unit c.toNat], fun _ _ => .unit value, joinPieces_unit c⟩
  | pair large high low =>
      refine ⟨[.unit _, .unit _], ?_, joinPieces_pair large⟩
      intro more rest others
      rw [List.append_assoc]
      exact .unit high (.unit low others)

theorem Letters.renders {text written : List Char} (letters : Letters text written) :
    ∃ pieces, RendersPieces pieces written ∧ joinPieces none pieces = .ok text := by
  induction letters with
  | nil => exact ⟨[], .nil, rfl⟩
  | cons first _ ih =>
      obtain ⟨more, writtenMore, joinMore⟩ := ih
      obtain ⟨pieces, writtenFirst, joinFirst⟩ := first.renders
      refine ⟨pieces ++ more, writtenFirst _ _ writtenMore, ?_⟩
      rw [joinFirst, joinMore]
      rfl

theorem Letters.renders_token {text : String} {written : List Char}
    (letters : Letters text.toList written) :
    ∃ pieces, RendersPieces pieces written ∧ tokenOf pieces = .ok text := by
  obtain ⟨pieces, rendered, meant⟩ := letters.renders
  refine ⟨pieces, rendered, ?_⟩
  rw [tokenOf, meant, Except.map, String.ofList_toList]

/-! ## The letters that are written -/

theorem isHex_digitChar {value : Nat} (small : value < 16) : IsHex value (Nat.digitChar value) :=
  ⟨small, .inl rfl⟩

theorem letter_control {c : Char} (control : c.toNat < 0x20) :
    Letter c ['\\', 'u', '0', '0', Nat.digitChar (c.toNat / 16), Nat.digitChar (c.toNat % 16)] := by
  have number : 0 * 4096 + 0 * 256 + c.toNat / 16 * 16 + c.toNat % 16 = c.toNat := by omega
  have zero := @isHex_digitChar 0 (by decide)
  have unit := HexUnit.digits zero zero (@isHex_digitChar (c.toNat / 16) (by omega))
    (@isHex_digitChar (c.toNat % 16) (by omega))
  rw [number] at unit
  exact .unit unit

/-- The form in which a character is written is one of those in which it can be read. -/
theorem letter_escapeChar (c : Char) : Letter c (escapeChar c) := by
  unfold escapeChar
  split
  · next same => subst same; exact .escape (by decide)
  split
  · next same => subst same; exact .escape (by decide)
  split
  · next same => subst same; exact .escape (by decide)
  split
  · next same => subst same; exact .escape (by decide)
  split
  · next same => subst same; exact .escape (by decide)
  split
  · next same => subst same; exact .escape (by decide)
  split
  · next same => subst same; exact .escape (by decide)
  split
  · next control => exact letter_control control
  · next noQuote noBackslash _ _ _ _ _ printable =>
    exact .plain (Nat.not_lt.mp printable) noQuote noBackslash

theorem letters_flatMap_escapeChar (text : List Char) :
    Letters text (text.flatMap escapeChar) := by
  induction text with
  | nil => exact .nil
  | cons c text ih => exact .cons (letter_escapeChar c) ih

/-- No character is written with an end of line. -/
theorem newline_not_mem_escapeChar (c : Char) : '\n' ∉ escapeChar c := by
  have table : ∀ digit : Fin 16, '\n' ≠ Nat.digitChar digit := by decide
  unfold escapeChar
  split
  · decide
  split
  · decide
  split
  · decide
  split
  · decide
  split
  · decide
  split
  · decide
  split
  · decide
  split
  · next control =>
    have high := table ⟨c.toNat / 16, by omega⟩
    have low := table ⟨c.toNat % 16, by omega⟩
    simp [high, low]
  · next other _ _ _ =>
    intro member
    exact other (List.mem_singleton.mp member).symm

theorem letters_self (text : List Char) (plain : text.flatMap escapeChar = text) :
    Letters text text := by
  have written := letters_flatMap_escapeChar text
  rwa [plain] at written

end Rehearsal.Json
