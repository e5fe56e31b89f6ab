import Rehearsal.Proofs.Json.Spelling
/-!
# The indented form of a value

The form that is indented for people is one more spelling of a value: what it has over the compact
form is space between the parts.
-/

set_option autoImplicit false

namespace Rehearsal.Json

theorem isGap_newline (level : Nat) : IsGap (newline level) := by
  intro c member
  rcases List.mem_cons.mp member with rfl | inside
  · rfl
  · rw [(List.mem_replicate.mp inside).2]
    rfl

mutual

/-- The indented form of a value is one of its spellings. -/
theorem spells_prettyList : ∀ (value : Value) (level : Nat), Spells value (value.prettyList level)
  | .null, _ => .null
  | .bool true, _ => .yes
  | .bool false, _ => .no
  | .number value, _ => .number value
  | .string text, _ => by
      have written := Spells.string (letters_flatMap_escapeChar text.toList)
      simpa [Value.prettyList, literal] using written
  | .array [], _ => .emptyArray isGap_nil
  | .array (item :: rest), level => by
      have written := Spells.array (spellsItems_prettyItems (item :: rest) (level + 1) (by simp)
        (isGap_newline level))
      simpa [Value.prettyList] using written
  | .object [], _ => .emptyObject isGap_nil
  | .object (member :: rest), level => by
      have written := Spells.object (spellsMembers_prettyMembers (member :: rest) (level + 1)
        (by simp) (isGap_newline level))
      simpa [Value.prettyList] using written

/-- The space in front of the closing bracket belongs to the last item. -/
theorem spellsItems_prettyItems : ∀ (items : List Value) (level : Nat), items ≠ [] →
    ∀ {gap : List Char}, IsGap gap → SpellsItems items (prettyItems level items ++ gap)
  | [], _, filled, _, _ => absurd rfl filled
  | [item], level, _, _, space => by
      have written := SpellsItems.last (isGap_newline level) (spells_prettyList item level) space
      simpa [prettyItems] using written
  | item :: next :: rest, level, _, _, space => by
      have written := SpellsItems.more (isGap_newline level) (spells_prettyList item level)
        isGap_nil (spellsItems_prettyItems (next :: rest) level (by simp) space)
      simpa [prettyItems] using written

theorem spellsMembers_prettyMembers : ∀ (members : List (String × Value)) (level : Nat),
    members ≠ [] →
    ∀ {gap : List Char}, IsGap gap → SpellsMembers members (prettyMembers level members ++ gap)
  | [], _, filled, _, _ => absurd rfl filled
  | [(key, value)], level, _, _, space => by
      have inner : IsGap [' '] := by decide
      have written := SpellsMembers.last (isGap_newline level)
        (letters_flatMap_escapeChar key.toList) isGap_nil inner (spells_prettyList value level)
        space
      simpa [prettyMembers, literal] using written
  | (key, value) :: next :: rest, level, _, _, space => by
      have inner : IsGap [' '] := by decide
      have written := SpellsMembers.more (isGap_newline level)
        (letters_flatMap_escapeChar key.toList) isGap_nil inner (spells_prettyList value level)
        isGap_nil (spellsMembers_prettyMembers (next :: rest) level (by simp) space)
      simpa [prettyMembers, literal] using written

end

end Rehearsal.Json
