import Rehearsal.Json.Value
import Rehearsal.Proofs.Json.Reading
/-!
# Spellings of a value

A value may be written in many ways: with spaces between its parts and with any letters in its
strings. Every spelling of a value is read as the same document.
-/

set_option autoImplicit false

namespace Rehearsal.Json

mutual

/-- The texts that are read as a value. -/
inductive Spells : Value → List Char → Prop where
  | null : Spells .null ['n', 'u', 'l', 'l']
  | yes : Spells (.bool true) ['t', 'r', 'u', 'e']
  | no : Spells (.bool false) ['f', 'a', 'l', 's', 'e']
  | number (value : Nat) : Spells (.number value) (numeral value)
  | string {text : String} {letters : List Char} (inside : Letters text.toList letters) :
      Spells (.string text) ('"' :: (letters ++ ['"']))
  | emptyArray {gap : List Char} (space : IsGap gap) :
      Spells (.array []) ('[' :: (gap ++ [']']))
  | array {items : List Value} {inside : List Char} (spelled : SpellsItems items inside) :
      Spells (.array items) ('[' :: (inside ++ [']']))
  | emptyObject {gap : List Char} (space : IsGap gap) :
      Spells (.object []) ('\x7b' :: (gap ++ ['\x7d']))
  | object {members : List (String × Value)} {inside : List Char}
      (spelled : SpellsMembers members inside) :
      Spells (.object members) ('\x7b' :: (inside ++ ['\x7d']))

/-- The texts of one or more items. -/
inductive SpellsItems : List Value → List Char → Prop where
  | last {item : Value} {before written after : List Char} (space : IsGap before)
      (spelled : Spells item written) (spaceAfter : IsGap after) :
      SpellsItems [item] (before ++ (written ++ after))
  | more {item : Value} {items : List Value} {before written after others : List Char}
      (space : IsGap before) (spelled : Spells item written) (spaceAfter : IsGap after)
      (rest : SpellsItems items others) :
      SpellsItems (item :: items) (before ++ (written ++ (after ++ ',' :: others)))

/-- The texts of one or more members. -/
inductive SpellsMembers : List (String × Value) → List Char → Prop where
  | last {key : String} {value : Value} {before letters middle inner written after : List Char}
      (space : IsGap before) (name : Letters key.toList letters) (spaceMiddle : IsGap middle)
      (spaceInner : IsGap inner) (spelled : Spells value written) (spaceAfter : IsGap after) :
      SpellsMembers [(key, value)]
        (before ++ '"' :: (letters ++ '"' :: (middle ++ ':' :: (inner ++ (written ++ after)))))
  | more {key : String} {value : Value} {members : List (String × Value)}
      {before letters middle inner written after others : List Char}
      (space : IsGap before) (name : Letters key.toList letters) (spaceMiddle : IsGap middle)
      (spaceInner : IsGap inner) (spelled : Spells value written) (spaceAfter : IsGap after)
      (rest : SpellsMembers members others) :
      SpellsMembers ((key, value) :: members)
        (before ++ '"' :: (letters ++ '"' :: (middle ++ ':' ::
          (inner ++ (written ++ (after ++ ',' :: others))))))

end

/-! ## The document of a value -/

/-- The digits of a number, the first one first. -/
def digitsOf (value : Nat) : List Nat :=
  (numeral value).map fun c => c.toNat - 48

mutual

/-- The document that the spellings of a value are read as. -/
def Value.doc : Value → Doc
  | .null => .null
  | .bool value => .bool value
  | .number value => .number ⟨false, digitsOf value, none, none⟩
  | .string text => .string (.ok text) none
  | .array items => .array (itemDocs items) none
  | .object members => .object (memberDocs members) none

/-- The documents of items. -/
def itemDocs : List Value → List Doc
  | [] => []
  | item :: rest => item.doc :: itemDocs rest

/-- The documents of members. -/
def memberDocs : List (String × Value) → List (Token × Doc)
  | [] => []
  | (key, value) :: rest => (.ok key, value.doc) :: memberDocs rest

end

/-! ## Numbers -/

theorem numeral_isDigit {value : Nat} {c : Char} (member : c ∈ numeral value) :
    c.isDigit = true :=
  Nat.isDigit_of_mem_toDigits (by decide) (by decide) member

/-- Only zero is written with a zero in front. -/
theorem head?_numeral {value : Nat} (positive : 0 < value) : (numeral value).head? ≠ some '0' := by
  induction value using Nat.strongRecOn with
  | ind value ih =>
      rw [numeral, Nat.toDigits_eq_if (by decide)]
      split
      · next small =>
        have table : ∀ digit : Fin 10, 0 < digit.val → Nat.digitChar digit ≠ '0' := by decide
        simpa using table ⟨value, small⟩ positive
      · next large =>
        have front := ih (value / 10) (by omega) (by omega)
        have filled : Nat.toDigits 10 (value / 10) ≠ [] := Nat.toDigits_ne_nil
        rw [List.head?_append, Option.or_of_isSome (List.isSome_head?.mpr filled)]
        exact front

theorem rendersNumeral_numeral (value : Nat) :
    RendersNumeral ⟨false, digitsOf value, none, none⟩ (numeral value) := by
  have digits : IsDigits (numeral value) := ⟨Nat.toDigits_ne_nil, fun _ => numeral_isDigit⟩
  have leading : numeral value = ['0'] ∨ (numeral value).head? ≠ some '0' := by
    rcases Nat.eq_zero_or_pos value with rfl | positive
    · exact .inl rfl
    · exact .inr (head?_numeral positive)
  have written : RendersNumeral ⟨false, digitsOf value, none, none⟩ (numeral value ++ ([] ++ [])) :=
    .parts digits leading .absent .absent
  rwa [List.append_nil, List.append_nil] at written

/-! ## Spellings are texts -/

mutual

theorem Spells.renders : ∀ {value : Value} {written : List Char}, Spells value written →
    Renders value.doc written
  | _, _, .null => .null
  | _, _, .yes => .yes
  | _, _, .no => .no
  | _, _, .number value => .number rfl (rendersNumeral_numeral value)
  | _, _, .string inside => by
      obtain ⟨pieces, rendered, meant⟩ := inside.renders_token
      have written := Renders.string rendered
      rwa [meant] at written
  | _, _, .emptyArray space => .emptyArray space
  | _, _, .array spelled => .array spelled.renders
  | _, _, .emptyObject space => .emptyObject space
  | _, _, .object spelled => .object spelled.renders

theorem SpellsItems.renders : ∀ {items : List Value} {inside : List Char},
    SpellsItems items inside → RendersItems (itemDocs items) inside
  | _, _, .last space spelled spaceAfter => .last space spelled.renders spaceAfter
  | _, _, .more space spelled spaceAfter rest =>
      .more space spelled.renders spaceAfter rest.renders

theorem SpellsMembers.renders : ∀ {members : List (String × Value)} {inside : List Char},
    SpellsMembers members inside → RendersMembers (memberDocs members) inside
  | _, _, .last space name spaceMiddle spaceInner spelled spaceAfter => by
      obtain ⟨pieces, rendered, meant⟩ := name.renders_token
      have written := RendersMembers.last space rendered spaceMiddle spaceInner spelled.renders
        spaceAfter
      rwa [meant] at written
  | _, _, .more space name spaceMiddle spaceInner spelled spaceAfter rest => by
      obtain ⟨pieces, rendered, meant⟩ := name.renders_token
      have written := RendersMembers.more space rendered spaceMiddle spaceInner spelled.renders
        spaceAfter rest.renders
      rwa [meant] at written

end

/-! ## The compact form -/

mutual

/-- The compact form of a value is one of its spellings. -/
theorem spells_compactList : ∀ value : Value, Spells value value.compactList
  | .null => .null
  | .bool true => .yes
  | .bool false => .no
  | .number value => .number value
  | .string text => by
      have written := Spells.string (letters_flatMap_escapeChar text.toList)
      simpa [Value.compactList, literal] using written
  | .array [] => .emptyArray isGap_nil
  | .array (item :: rest) => .array (spellsItems_compactItems (item :: rest) (by simp))
  | .object [] => .emptyObject isGap_nil
  | .object (member :: rest) => .object (spellsMembers_compactMembers (member :: rest) (by simp))

theorem spellsItems_compactItems :
    ∀ items : List Value, items ≠ [] → SpellsItems items (compactItems items)
  | [], filled => absurd rfl filled
  | [item], _ => by
      have written := SpellsItems.last isGap_nil (spells_compactList item) isGap_nil
      simpa [compactItems] using written
  | item :: next :: rest, _ => by
      have written := SpellsItems.more isGap_nil (spells_compactList item) isGap_nil
        (spellsItems_compactItems (next :: rest) (by simp))
      simpa [compactItems] using written

theorem spellsMembers_compactMembers :
    ∀ members : List (String × Value), members ≠ [] →
      SpellsMembers members (compactMembers members)
  | [], filled => absurd rfl filled
  | [(key, value)], _ => by
      have written := SpellsMembers.last isGap_nil (letters_flatMap_escapeChar key.toList)
        isGap_nil isGap_nil (spells_compactList value) isGap_nil
      simpa [compactMembers, literal] using written
  | (key, value) :: next :: rest, _ => by
      have written := SpellsMembers.more isGap_nil (letters_flatMap_escapeChar key.toList)
        isGap_nil isGap_nil (spells_compactList value) isGap_nil
        (spellsMembers_compactMembers (next :: rest) (by simp))
      simpa [compactMembers, literal] using written

end

/-! ## The compact form is one line -/

theorem newline_not_mem_literal (text : String) : '\n' ∉ literal text := by
  intro member
  simp only [literal, List.cons_append, List.mem_cons, List.mem_append, List.mem_flatMap,
    List.not_mem_nil, or_false] at member
  rcases member with quote | ⟨c, -, inside⟩ | quote
  · exact absurd quote (by decide)
  · exact newline_not_mem_escapeChar c inside
  · exact absurd quote (by decide)

theorem newline_not_mem_numeral (value : Nat) : '\n' ∉ numeral value := by
  intro member
  have digit := numeral_isDigit member
  cases digit

mutual

theorem newline_not_mem_compactList : ∀ value : Value, '\n' ∉ value.compactList
  | .null => by decide
  | .bool true => by decide
  | .bool false => by decide
  | .number value => newline_not_mem_numeral value
  | .string text => newline_not_mem_literal text
  | .array items => by simp [Value.compactList, newline_not_mem_compactItems items]
  | .object members => by simp [Value.compactList, newline_not_mem_compactMembers members]

theorem newline_not_mem_compactItems : ∀ items : List Value, '\n' ∉ compactItems items
  | [] => by simp [compactItems]
  | [item] => newline_not_mem_compactList item
  | item :: next :: rest => by
      simp [compactItems, newline_not_mem_compactList item,
        newline_not_mem_compactItems (next :: rest)]

theorem newline_not_mem_compactMembers :
    ∀ members : List (String × Value), '\n' ∉ compactMembers members
  | [] => by simp [compactMembers]
  | [(key, value)] => by
      simp [compactMembers, newline_not_mem_literal key, newline_not_mem_compactList value]
  | (key, value) :: next :: rest => by
      simp [compactMembers, newline_not_mem_literal key, newline_not_mem_compactList value,
        newline_not_mem_compactMembers (next :: rest)]

end

theorem newline_not_mem_compact (value : Value) : '\n' ∉ value.compact.toList := by
  rw [Value.compact, String.toList_ofList]
  exact newline_not_mem_compactList value

end Rehearsal.Json
