import Rehearsal.Proofs.Text.Utf8
import Rehearsal.Text.Base64
/-!
# Base64 as it is laid down

Three bytes are a number of 24 bits that is written with four digits of six bits. One or two bytes
that are left at the end are filled up with zero bits to whole digits, and padding stands in for the
digits that are missing to four. Writing follows this layout, and reading accepts what has been laid
out so and nothing else.
-/

set_option autoImplicit false

namespace Rehearsal.Text.Base64

/-! ## Symbols -/

def alphabet : List Char :=
  "ABCDEFGHIJKLMNOPQRSTUVWXYZabcdefghijklmnopqrstuvwxyz0123456789+/".toList

/-- Whether a character is the digit of a value of six bits. -/
def IsSymbol (value : Nat) (c : Char) : Prop := alphabet[value]? = some c

/-- The byte of a digit. -/
def symbolByte (value : Nat) : UInt8 := UInt8.ofNat (symbol value).toNat

section

variable {value : Nat} {c : Char} {byte : UInt8}

theorem getElem?_alphabet : ∀ value < 64, alphabet[value]? = some (symbol value) := by decide

theorem isSymbol_symbol (small : value < 64) : IsSymbol value (symbol value) :=
  getElem?_alphabet value small

theorem isSymbol_iff : IsSymbol value c ↔ value < 64 ∧ c = symbol value := by
  constructor
  · intro stands
    obtain ⟨small, -⟩ := List.getElem?_eq_some_iff.mp stands
    exact ⟨small, Option.some.inj (stands.symm.trans (getElem?_alphabet value small))⟩
  · intro stands
    obtain ⟨small, rfl⟩ := stands
    exact isSymbol_symbol small

theorem exists_value (member : c ∈ alphabet) : ∃ value < 64, c = symbol value := by
  obtain ⟨value, stands⟩ := List.mem_iff_getElem?.mp member
  exact ⟨value, isSymbol_iff.mp stands⟩

theorem encodeChar_symbol : ∀ value < 64, Utf8.encodeChar (symbol value) = [symbolByte value] := by
  decide

theorem symbolValue?_symbolByte : ∀ value < 64, symbolValue? (symbolByte value) = some value := by
  decide

theorem symbolByte_ne_pad : ∀ value < 64, symbolByte value ≠ pad := by decide

theorem symbolByte_of_symbolValue? (read : symbolValue? byte = some value) :
    value < 64 ∧ byte = symbolByte value := by
  have all : ∀ code < 256, ∀ value ∈ symbolValue? (UInt8.ofNat code),
      value < 64 ∧ UInt8.ofNat code = symbolByte value := by decide +kernel
  have own := all byte.toNat byte.toNat_lt value
  rw [UInt8.ofNat_toNat] at own
  exact own read

theorem IsSymbol.unique {other : Nat} (stands : IsSymbol value c)
    (alike : IsSymbol other c) : value = other := by
  obtain ⟨small, rfl⟩ := isSymbol_iff.mp stands
  obtain ⟨within, same⟩ := isSymbol_iff.mp alike
  have bytes : symbolByte value = symbolByte other := by rw [symbolByte, same, symbolByte]
  have read := symbolValue?_symbolByte value small
  rw [bytes, symbolValue?_symbolByte other within] at read
  exact (Option.some.inj read).symm

end

/-! ## Writing -/

/-- How bytes are laid out as text. -/
inductive Encodes : Bytes → List Char → Prop where
  | nil : Encodes [] []
  -- Four zero bits follow the only byte.
  | one {a : UInt8} {w x : Nat} {first second : Char} (bits : a.toNat * 16 = w * 64 + x)
      (high : IsSymbol w first) (low : IsSymbol x second) :
      Encodes [a] [first, second, '=', '=']
  -- Two zero bits follow the second byte.
  | two {a b : UInt8} {w x y : Nat} {first second third : Char}
      (bits : (a.toNat * 256 + b.toNat) * 4 = (w * 64 + x) * 64 + y)
      (high : IsSymbol w first) (middle : IsSymbol x second) (low : IsSymbol y third) :
      Encodes [a, b] [first, second, third, '=']
  | three {a b c : UInt8} {w x y z : Nat} {first second third fourth : Char} {rest : Bytes}
      {text : List Char}
      (bits : (a.toNat * 256 + b.toNat) * 256 + c.toNat = ((w * 64 + x) * 64 + y) * 64 + z)
      (highest : IsSymbol w first) (high : IsSymbol x second) (low : IsSymbol y third)
      (lowest : IsSymbol z fourth) (later : Encodes rest text) :
      Encodes (a :: b :: c :: rest) (first :: second :: third :: fourth :: text)

theorem encodes_encodeList (bytes : Bytes) : Encodes bytes (encodeList bytes) := by
  have small (a : UInt8) : a.toNat < 256 := a.toNat_lt
  fun_induction encodeList bytes with
  | case1 => exact .nil
  | case2 a =>
      have := small a
      exact .one (by omega) (isSymbol_symbol (by omega)) (isSymbol_symbol (by omega))
  | case3 a b =>
      have := small a
      have := small b
      exact .two (by omega) (isSymbol_symbol (by omega)) (isSymbol_symbol (by omega))
        (isSymbol_symbol (by omega))
  | case4 a b c rest ih =>
      have := small a
      have := small b
      have := small c
      exact .three (by omega) (isSymbol_symbol (by omega)) (isSymbol_symbol (by omega))
        (isSymbol_symbol (by omega)) (isSymbol_symbol (by omega)) ih

/-- There is one layout of some bytes, and writing yields it. -/
theorem encodes_iff {bytes : Bytes} {text : List Char} :
    Encodes bytes text ↔ text = encodeList bytes := by
  have small (a : UInt8) : a.toNat < 256 := a.toNat_lt
  constructor
  · intro encodes
    induction encodes with
    | nil => rfl
    | @one a w x _ _ bits high low =>
        obtain ⟨_, rfl⟩ := isSymbol_iff.mp high
        obtain ⟨_, rfl⟩ := isSymbol_iff.mp low
        obtain ⟨rfl, rfl⟩ : w = a.toNat / 4 ∧ x = a.toNat % 4 * 16 := by omega
        rfl
    | @two a b w x y _ _ _ bits high middle low =>
        obtain ⟨_, rfl⟩ := isSymbol_iff.mp high
        obtain ⟨_, rfl⟩ := isSymbol_iff.mp middle
        obtain ⟨_, rfl⟩ := isSymbol_iff.mp low
        have := small b
        obtain ⟨rfl, rfl, rfl⟩ : w = a.toNat / 4 ∧ x = a.toNat % 4 * 16 + b.toNat / 16 ∧
            y = b.toNat % 16 * 4 := by omega
        rfl
    | @three a b c w x y z _ _ _ _ rest text bits highest high low lowest later ih =>
        obtain ⟨_, rfl⟩ := isSymbol_iff.mp highest
        obtain ⟨_, rfl⟩ := isSymbol_iff.mp high
        obtain ⟨_, rfl⟩ := isSymbol_iff.mp low
        obtain ⟨_, rfl⟩ := isSymbol_iff.mp lowest
        have := small b
        have := small c
        obtain ⟨rfl, rfl, rfl, rfl⟩ : w = a.toNat / 4 ∧ x = a.toNat % 4 * 16 + b.toNat / 16 ∧
            y = b.toNat % 16 * 4 + c.toNat / 64 ∧ z = c.toNat % 64 := by omega
        rw [encodeList, ih]
  · intro same
    rw [same]
    exact encodes_encodeList bytes

/-- Four digits are laid out from the three bytes that hold their bits. -/
theorem Encodes.group {w x y z : Nat} {rest : Bytes} {text : List Char} (first : w < 64)
    (second : x < 64) (third : y < 64) (fourth : z < 64) (later : Encodes rest text) :
    Encodes
      (UInt8.ofNat (w * 4 + x / 16) :: UInt8.ofNat (x % 16 * 16 + y / 4) ::
        UInt8.ofNat (y % 4 * 64 + z) :: rest)
      (symbol w :: symbol x :: symbol y :: symbol z :: text) := by
  refine .three ?_ (isSymbol_symbol first) (isSymbol_symbol second) (isSymbol_symbol third)
    (isSymbol_symbol fourth) later
  rw [UInt8.toNat_ofNat', UInt8.toNat_ofNat', UInt8.toNat_ofNat']
  omega

/-! ## Reading -/

section

variable {offset index : Nat} {ending found : Ending} {source bytes : Bytes} {values : List Nat}

/-- The end of a text is symbols and then padding. Once there was padding, no symbol comes. -/
theorem of_readEnding (read : readEnding offset index ending source = .ok found) :
    ∃ values pads, (∀ value ∈ values, value < 64) ∧
      source = values.map symbolByte ++ List.replicate pads pad ∧
      found.values = ending.values ++ values ∧
      found.padding.length = ending.padding.length + pads ∧
      (values = [] ∨ ending.padding = []) := by
  fun_induction readEnding offset index ending source with
  | case1 index ending =>
      cases read
      exact ⟨[], 0, nofun, rfl, (List.append_nil _).symm, rfl, .inl rfl⟩
  | case2 => cases read
  | case3 index ending rest _ ih =>
      obtain ⟨values, pads, small, rfl, same, length, only⟩ := ih read
      have none : values = [] := only.resolve_right (by simp)
      subst none
      refine ⟨[], pads + 1, nofun, rfl, same, ?_, .inl rfl⟩
      rw [length, List.length_append, List.length_singleton]
      omega
  | case4 => cases read
  | case5 => cases read
  | case6 index ending byte rest _ clear value stands ih =>
      obtain ⟨values, pads, small, rfl, same, length, -⟩ := ih read
      obtain ⟨within, rfl⟩ := symbolByte_of_symbolValue? stands
      refine ⟨value :: values, pads, ?_, rfl, ?_, ?_, .inr clear⟩
      · exact List.forall_mem_cons.mpr ⟨within, small⟩
      · rw [same, List.append_assoc, List.singleton_append]
      · rw [length, clear]

/-- What an ending that decodes has passed. -/
theorem of_decodeEnding (decoded : decodeEnding offset source = .ok bytes) :
    ∃ found, readEnding offset 0 ⟨[], 0, []⟩ source = .ok found ∧
      (source = [] ∨ 2 ≤ found.values.length) ∧
      (found.values.length + found.padding.length) % 4 = 0 ∧
      Ending.bytes? found.values = some bytes := by
  rw [decodeEnding] at decoded
  cases read : readEnding offset 0 ⟨[], 0, []⟩ source with
  | error fault =>
      rw [read] at decoded
      cases decoded
  | ok found =>
      rw [read] at decoded
      dsimp only [bind, Except.bind] at decoded
      split at decoded
      · cases decoded
      · next long =>
          split at decoded
          · cases decoded
          · next whole =>
              cases held : Ending.bytes? found.values with
              | none =>
                  rw [held] at decoded
                  cases decoded
              | some own =>
                  rw [held] at decoded
                  cases decoded
                  refine ⟨found, rfl, ?_, Decidable.not_not.mp whole, held⟩
                  by_cases none : source = []
                  · exact .inl none
                  · refine .inr (Nat.not_lt.mp fun few => long ?_)
                    simp [none, few]

/-- The symbols of an ending without a bit left over are laid out from its bytes. -/
theorem encodes_of_bytes? {pads : Nat} (small : ∀ value ∈ values, value < 64)
    (enough : 2 ≤ values.length)
    (whole : values.length + pads = 4) (held : Ending.bytes? values = some bytes) :
    Encodes bytes (values.map symbol ++ List.replicate pads '=') := by
  match values with
  | [] => cases enough
  | [_] => cases held
  | [w, x] =>
      obtain rfl : pads = 2 := Nat.add_left_cancel whole
      simp only [List.forall_mem_cons] at small
      obtain ⟨first, second, -⟩ := small
      rw [Ending.bytes?] at held
      split at held
      · cases held
        refine .one ?_ (isSymbol_symbol first) (isSymbol_symbol second)
        rw [UInt8.toNat_ofNat']
        omega
      · cases held
  | [w, x, y] =>
      obtain rfl : pads = 1 := Nat.add_left_cancel whole
      simp only [List.forall_mem_cons] at small
      obtain ⟨first, second, third, -⟩ := small
      rw [Ending.bytes?] at held
      split at held
      · cases held
        refine .two ?_ (isSymbol_symbol first) (isSymbol_symbol second) (isSymbol_symbol third)
        rw [UInt8.toNat_ofNat', UInt8.toNat_ofNat']
        omega
      · cases held
  | [w, x, y, z] =>
      obtain rfl : pads = 0 := Nat.add_left_cancel whole
      simp only [List.forall_mem_cons] at small
      obtain ⟨first, second, third, fourth, -⟩ := small
      cases held
      exact .group first second third fourth .nil
  | _ :: _ :: _ :: _ :: _ :: _ => cases held

theorem flatMap_encodeChar {pads : Nat} (small : ∀ value ∈ values, value < 64) :
    (values.map symbol ++ List.replicate pads '=').flatMap Utf8.encodeChar =
      values.map symbolByte ++ List.replicate pads pad := by
  have padding : (List.replicate pads '=').flatMap Utf8.encodeChar = List.replicate pads pad := by
    induction pads with
    | zero => rfl
    | succ pads ih =>
        rw [List.replicate_succ, List.flatMap_cons, ih]
        rfl
  rw [List.flatMap_append, padding]
  congr 1
  induction values with
  | nil => rfl
  | cons value values ih =>
      obtain ⟨first, others⟩ := List.forall_mem_cons.mp small
      rw [List.map_cons, List.map_cons, List.flatMap_cons, encodeChar_symbol value first, ih others]
      rfl

theorem encodes_of_decodeEnding (short : source.length ≤ 4)
    (decoded : decodeEnding offset source = .ok bytes) :
    ∃ text, Encodes bytes text ∧ source = text.flatMap Utf8.encodeChar := by
  obtain ⟨found, read, enough, whole, held⟩ := of_decodeEnding decoded
  obtain ⟨values, pads, small, same, own, count, -⟩ := of_readEnding read
  rw [List.nil_append] at own
  rw [List.length_nil, Nat.zero_add] at count
  rw [own] at enough whole held
  rw [count] at whole
  rcases enough with rfl | enough
  · obtain ⟨none, -⟩ := List.append_eq_nil_iff.mp same.symm
    rw [List.map_eq_nil_iff.mp none] at held
    cases held
    exact ⟨[], .nil, rfl⟩
  · have length : source.length = values.length + pads := by simp [same]
    have four : values.length + pads = 4 := by omega
    refine ⟨_, encodes_of_bytes? small enough four held, ?_⟩
    rw [same, flatMap_encodeChar small]

/-- Four symbols are read as three bytes, whether they end the text or not. -/
theorem decodeFrom_group {w x y z : Nat} (first : w < 64) (second : x < 64) (third : y < 64)
    (fourth : z < 64) (decoded : decodeFrom (offset + 4) source = .ok bytes) :
    decodeFrom offset
        (symbolByte w :: symbolByte x :: symbolByte y :: symbolByte z :: source) =
      .ok (UInt8.ofNat (w * 4 + x / 16) :: UInt8.ofNat (x % 16 * 16 + y / 4) ::
        UInt8.ofNat (y % 4 * 64 + z) :: bytes) := by
  cases source with
  | nil =>
      cases decoded
      simp [decodeFrom, decodeEnding, readEnding, symbolByte_ne_pad, symbolValue?_symbolByte, first,
        second, third, fourth, Ending.bytes?, bind, Except.bind, pure, Except.pure]
  | cons byte rest =>
      rw [decodeFrom, decoded]
      simp [inner, symbolValue?_symbolByte, first, second, third, fourth, bind, Except.bind, pure,
        Except.pure]

/-- Reading goes on after a byte inside a text only if that is the byte of a symbol. -/
theorem of_inner_bind {α : Type} {byte : UInt8} {next : Nat → Except Fault α} {result : α}
    (read : (inner offset byte >>= next) = .ok result) :
    ∃ value < 64, byte = symbolByte value ∧ next value = .ok result := by
  rw [inner] at read
  split at read
  · next value stands =>
      obtain ⟨small, same⟩ := symbolByte_of_symbolValue? stands
      exact ⟨value, small, same, read⟩
  · cases read

/-- A text that is read is laid out from what is read. -/
theorem encodes_of_decodeFrom (decoded : decodeFrom offset source = .ok bytes) :
    ∃ text, Encodes bytes text ∧ source = text.flatMap Utf8.encodeChar := by
  fun_induction decodeFrom offset source generalizing bytes with
  | case1 offset a b c d e rest ih =>
      obtain ⟨w, first, rfl, afterA⟩ := of_inner_bind decoded
      obtain ⟨x, second, rfl, afterB⟩ := of_inner_bind afterA
      obtain ⟨y, third, rfl, afterC⟩ := of_inner_bind afterB
      obtain ⟨z, fourth, rfl, afterD⟩ := of_inner_bind afterC
      cases later : decodeFrom (offset + 4) (e :: rest) with
      | error fault =>
          rw [later] at afterD
          cases afterD
      | ok others =>
          rw [later] at afterD
          cases afterD
          obtain ⟨text, encodes, same⟩ := ih later
          refine ⟨_, .group first second third fourth encodes, ?_⟩
          rw [same]
          simp [encodeChar_symbol, first, second, third, fourth]
  | case2 offset ending long =>
      -- What is not a group with more after it has four bytes at most.
      refine encodes_of_decodeEnding ?_ decoded
      match ending with
      | [] | [_] | [_, _] | [_, _, _] | [_, _, _, _] => simp
      | a :: b :: c :: d :: e :: rest => exact absurd rfl (long a b c d e rest)

/-- What is laid out as a text is read from it. -/
theorem Encodes.decodeFrom {text : List Char} (encodes : Encodes bytes text) (offset : Nat) :
    Base64.decodeFrom offset (text.flatMap Utf8.encodeChar) = .ok bytes := by
  have padding : Utf8.encodeChar '=' = [pad] := rfl
  have small (a : UInt8) : a.toNat < 256 := a.toNat_lt
  induction encodes generalizing offset with
  | nil => rfl
  | @one a w x _ _ bits high low =>
      obtain ⟨first, rfl⟩ := isSymbol_iff.mp high
      obtain ⟨second, rfl⟩ := isSymbol_iff.mp low
      have whole : w * 4 + x / 16 = a.toNat := by omega
      have clear : x % 16 = 0 := by omega
      simp [encodeChar_symbol, first, second, padding, Base64.decodeFrom, decodeEnding, readEnding,
        symbolByte_ne_pad, symbolValue?_symbolByte, Ending.bytes?, clear, whole, bind, Except.bind,
        pure, Except.pure]
  | @two a b w x y _ _ _ bits high middle low =>
      obtain ⟨first, rfl⟩ := isSymbol_iff.mp high
      obtain ⟨second, rfl⟩ := isSymbol_iff.mp middle
      obtain ⟨third, rfl⟩ := isSymbol_iff.mp low
      have := small b
      have whole : w * 4 + x / 16 = a.toNat := by omega
      have others : x % 16 * 16 + y / 4 = b.toNat := by omega
      have clear : y % 4 = 0 := by omega
      simp [encodeChar_symbol, first, second, third, padding, Base64.decodeFrom, decodeEnding,
        readEnding, symbolByte_ne_pad, symbolValue?_symbolByte, Ending.bytes?, clear, whole, others,
        bind, Except.bind, pure, Except.pure]
  | @three a b c w x y z _ _ _ _ rest text bits highest high low lowest later ih =>
      obtain ⟨first, rfl⟩ := isSymbol_iff.mp highest
      obtain ⟨second, rfl⟩ := isSymbol_iff.mp high
      obtain ⟨third, rfl⟩ := isSymbol_iff.mp low
      obtain ⟨fourth, rfl⟩ := isSymbol_iff.mp lowest
      have := small b
      have := small c
      have one : w * 4 + x / 16 = a.toNat := by omega
      have two : x % 16 * 16 + y / 4 = b.toNat := by omega
      have three : y % 4 * 64 + z = c.toNat := by omega
      have read := decodeFrom_group first second third fourth (ih (offset + 4))
      rw [one, two, three, UInt8.ofNat_toNat, UInt8.ofNat_toNat, UInt8.ofNat_toNat] at read
      rw [List.flatMap_cons, List.flatMap_cons, List.flatMap_cons, List.flatMap_cons,
        encodeChar_symbol w first, encodeChar_symbol x second, encodeChar_symbol y third,
        encodeChar_symbol z fourth]
      exact read

theorem Encodes.length_flatMap {text : List Char} (encodes : Encodes bytes text) :
    (text.flatMap Utf8.encodeChar).length % 4 = 0 := by
  have one {value : Nat} {c : Char} (stands : IsSymbol value c) :
      (Utf8.encodeChar c).length = 1 := by
    obtain ⟨small, rfl⟩ := isSymbol_iff.mp stands
    rw [encodeChar_symbol value small, List.length_singleton]
  have padding : (Utf8.encodeChar '=').length = 1 := rfl
  induction encodes with
  | nil => rfl
  | one bits high low => simp [one high, one low, padding]
  | two bits high middle low => simp [one high, one middle, one low, padding]
  | three bits highest high low lowest later ih =>
      simp only [List.flatMap_cons, List.length_append, one highest, one high, one low, one lowest]
      omega

end

/-- Reading yields some bytes from the text that writing makes of them and from no other. -/
theorem decode_eq_ok_iff {text : String} {bytes : Bytes} :
    decode text = .ok bytes ↔ text = encode bytes := by
  have laid : Utf8.encode (encode bytes) = (encodeList bytes).flatMap Utf8.encodeChar := by
    rw [Utf8.encode, encode, String.toList_ofList]
  have encodes := encodes_encodeList bytes
  rw [decode]
  constructor
  · intro decoded
    split at decoded
    · cases decoded
    · obtain ⟨chars, other, same⟩ := encodes_of_decodeFrom decoded
      rw [encodes_iff.mp other, ← laid] at same
      have read := Utf8.decode_encode text
      rw [same, Utf8.decode_encode] at read
      exact (Except.ok.inj read).symm
  · intro same
    subst same
    rw [laid]
    have whole : strayEnd? ((encodeList bytes).flatMap Utf8.encodeChar) = none := by
      rw [strayEnd?, encodes.length_flatMap]
      rfl
    rw [whole]
    exact encodes.decodeFrom 0

/-- The last symbol holds four bits that belong to no byte, and they are not zero. -/
example : encode [0x89, 0x50, 0x4E, 0x47] = "iVBORw==" ∧
    decode "iVBORx==" = .error (.badLastSymbol 5 120) := ⟨rfl, rfl⟩

/-! ## Which texts are read -/

/-- Whether a text is symbols and then at most two signs of padding, in whole groups of four, and
the bits of the last symbol that belong to no byte are zero. -/
structure Canonical (text symbols : List Char) (pads : Nat) : Prop where
  parts : text = symbols ++ List.replicate pads '='
  foreign : ∀ c ∈ symbols, c ∈ alphabet
  few : pads ≤ 2
  whole : text.length % 4 = 0
  clear : ∀ c value, symbols.getLast? = some c → IsSymbol value c →
    (pads = 1 → value % 4 = 0) ∧ (pads = 2 → value % 16 = 0)

section

variable {text symbols : List Char} {pads : Nat} {bytes : Bytes} {a b c d : Char}

theorem Canonical.length (canonical : Canonical text symbols pads) :
    (symbols.length + pads) % 4 = 0 := by
  have whole := canonical.whole
  rwa [canonical.parts, List.length_append, List.length_replicate] at whole

/-- What comes after whole groups decides whether a text is as it should be. -/
theorem canonical_group_iff :
    Canonical (a :: b :: c :: d :: text) (a :: b :: c :: d :: symbols) pads ↔
      (a ∈ alphabet ∧ b ∈ alphabet ∧ c ∈ alphabet ∧ d ∈ alphabet) ∧
        Canonical text symbols pads := by
  have last {e : Char} (later : symbols.getLast? = some e) :
      (a :: b :: c :: d :: symbols).getLast? = some e := by
    rw [List.getLast?_cons_cons, List.getLast?_cons_cons, List.getLast?_cons_cons,
      List.getLast?_cons, later, Option.getD_some]
  constructor
  · intro canonical
    obtain ⟨parts, foreign, few, whole, clear⟩ := canonical
    simp only [List.forall_mem_cons] at foreign
    obtain ⟨first, second, third, fourth, others⟩ := foreign
    refine ⟨⟨first, second, third, fourth⟩, by simpa using parts, others, few, ?_, ?_⟩
    · exact (Nat.add_mod_right text.length 4).symm.trans whole
    · intro e value later stands
      exact clear e value (last later) stands
  · intro canonical
    obtain ⟨⟨first, second, third, fourth⟩, canonical⟩ := canonical
    have whole := canonical.length
    obtain ⟨parts, foreign, few, length, clear⟩ := canonical
    refine ⟨by rw [parts]; rfl, ?_, few, ?_, ?_⟩
    · simp only [List.forall_mem_cons]
      exact ⟨first, second, third, fourth, foreign⟩
    · exact (Nat.add_mod_right text.length 4).trans length
    · intro e value ends stands
      cases later : symbols.getLast? with
      | none =>
          rw [List.getLast?_eq_none_iff.mp later, List.length_nil] at whole
          obtain rfl : pads = 0 := by omega
          exact ⟨nofun, nofun⟩
      | some e' =>
          rw [last later] at ends
          exact clear e value (later.trans ends) stands

theorem Encodes.canonical (encodes : Encodes bytes text) :
    ∃ symbols pads, Canonical text symbols pads := by
  have member {value : Nat} {c : Char} (stands : IsSymbol value c) : c ∈ alphabet :=
    List.mem_of_getElem? stands
  induction encodes with
  | nil => exact ⟨[], 0, rfl, nofun, Nat.zero_le 2, rfl, nofun⟩
  | @one a w x first second bits high low =>
      refine ⟨[first, second], 2, rfl, by simp [member high, member low], Nat.le_refl 2, by simp,
        ?_⟩
      intro c value last stands
      cases last
      have same := stands.unique low
      constructor <;> omega
  | @two a b w x y first second third bits high middle low =>
      refine ⟨[first, second, third], 1, rfl, by simp [member high, member middle, member low],
        by decide, by simp, ?_⟩
      intro c value last stands
      cases last
      have same := stands.unique low
      constructor <;> omega
  | three bits highest high low lowest later ih =>
      obtain ⟨symbols, pads, canonical⟩ := ih
      exact ⟨_, pads, canonical_group_iff.mpr
        ⟨⟨member highest, member high, member low, member lowest⟩, canonical⟩⟩

end

/-- A text that is as it should be is laid out from some bytes. -/
theorem Canonical.exists_encodes {text symbols : List Char} {pads : Nat}
    (canonical : Canonical text symbols pads) : ∃ bytes, Encodes bytes text := by
  have few := canonical.few
  have length := canonical.length
  match symbols with
  | [] =>
      rw [List.length_nil] at length
      obtain rfl : pads = 0 := by omega
      obtain rfl : text = [] := canonical.parts
      exact ⟨[], .nil⟩
  | [a] =>
      rw [List.length_singleton] at length
      omega
  | [a, b] =>
      rw [List.length_cons, List.length_singleton] at length
      obtain rfl : pads = 2 := by omega
      obtain ⟨w, first, rfl⟩ := exists_value (canonical.foreign a (by simp))
      obtain ⟨x, second, rfl⟩ := exists_value (canonical.foreign b (by simp))
      have clear := (canonical.clear _ x rfl (isSymbol_symbol second)).2 rfl
      have held : Ending.bytes? [w, x] = some _ := if_pos clear
      have small : ∀ value ∈ [w, x], value < 64 := by simp [first, second]
      rw [canonical.parts]
      exact ⟨_, encodes_of_bytes? small (Nat.le_refl 2) rfl held⟩
  | [a, b, c] =>
      rw [List.length_cons, List.length_cons, List.length_singleton] at length
      obtain rfl : pads = 1 := by omega
      obtain ⟨w, first, rfl⟩ := exists_value (canonical.foreign a (by simp))
      obtain ⟨x, second, rfl⟩ := exists_value (canonical.foreign b (by simp))
      obtain ⟨y, third, rfl⟩ := exists_value (canonical.foreign c (by simp))
      have clear := (canonical.clear _ y rfl (isSymbol_symbol third)).1 rfl
      have held : Ending.bytes? [w, x, y] = some _ := if_pos clear
      have small : ∀ value ∈ [w, x, y], value < 64 := by simp [first, second, third]
      rw [canonical.parts]
      exact ⟨_, encodes_of_bytes? small (Nat.le_succ 2) rfl held⟩
  | a :: b :: c :: d :: rest =>
      obtain rfl : text = a :: b :: c :: d :: (rest ++ List.replicate pads '=') := canonical.parts
      obtain ⟨⟨symbolA, symbolB, symbolC, symbolD⟩, others⟩ := canonical_group_iff.mp canonical
      obtain ⟨bytes, later⟩ := Canonical.exists_encodes others
      obtain ⟨w, first, rfl⟩ := exists_value symbolA
      obtain ⟨x, second, rfl⟩ := exists_value symbolB
      obtain ⟨y, third, rfl⟩ := exists_value symbolC
      obtain ⟨z, fourth, rfl⟩ := exists_value symbolD
      exact ⟨_, .group first second third fourth later⟩

theorem exists_encodes_iff {text : List Char} :
    (∃ bytes, Encodes bytes text) ↔ ∃ symbols pads, Canonical text symbols pads := by
  constructor
  · intro encodes
    obtain ⟨bytes, encodes⟩ := encodes
    exact encodes.canonical
  · intro canonical
    obtain ⟨symbols, pads, canonical⟩ := canonical
    exact canonical.exists_encodes

end Rehearsal.Text.Base64
