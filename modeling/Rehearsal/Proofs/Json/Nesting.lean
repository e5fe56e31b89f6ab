import Rehearsal.Json.Decode
import Rehearsal.Proofs.Json.Spelling
/-!
# Nesting of values

A value of natural numbers within range can be held where its nesting is allowed. A deeper one is
refused for its depth and for nothing else.
-/

set_option autoImplicit false

namespace Rehearsal.Json

mutual

/-- How many lists and objects are open at a time while a value is read. -/
def Value.nesting : Value → Nat
  | .array items => 1 + itemNesting items
  | .object members => 1 + memberNesting members
  | _ => 0

/-- The nesting of the deepest item. -/
def itemNesting : List Value → Nat
  | [] => 0
  | item :: rest => max item.nesting (itemNesting rest)

/-- The nesting of the deepest member. -/
def memberNesting : List (String × Value) → Nat
  | [] => 0
  | (_, value) :: rest => max value.nesting (memberNesting rest)

end

mutual

/-- Whether all numbers of a value are words of 64 bits. -/
def Value.InRange : Value → Prop
  | .number value => value < Text.bound64
  | .array items => ItemsInRange items
  | .object members => MembersInRange members
  | _ => True

def ItemsInRange : List Value → Prop
  | [] => True
  | item :: rest => item.InRange ∧ ItemsInRange rest

def MembersInRange : List (String × Value) → Prop
  | [] => True
  | (_, value) :: rest => value.InRange ∧ MembersInRange rest

end

theorem nesting_le_memberNesting {members : List (String × Value)} {key : String} {value : Value}
    (member : (key, value) ∈ members) : value.nesting ≤ memberNesting members := by
  induction members with
  | nil => cases member
  | cons first rest ih =>
      obtain ⟨firstKey, firstValue⟩ := first
      rw [memberNesting]
      rcases List.mem_cons.mp member with same | later
      · cases same
        exact Nat.le_max_left _ _
      · exact Nat.le_trans (ih later) (Nat.le_max_right _ _)

theorem memberNesting_append (first second : List (String × Value)) :
    memberNesting (first ++ second) = max (memberNesting first) (memberNesting second) := by
  induction first with
  | nil => simp [memberNesting]
  | cons member first ih =>
      obtain ⟨key, value⟩ := member
      rw [List.cons_append, memberNesting, memberNesting, ih, Nat.max_assoc]

theorem memberNesting_le {members : List (String × Value)} {bound : Nat}
    (all : ∀ member ∈ members, member.2.nesting ≤ bound) : memberNesting members ≤ bound := by
  induction members with
  | nil => exact Nat.zero_le _
  | cons first rest ih =>
      obtain ⟨key, value⟩ := first
      have front := all (key, value) List.mem_cons_self
      have others := ih fun member later => all member (List.mem_cons_of_mem _ later)
      exact Nat.max_le.mpr ⟨front, others⟩

theorem membersInRange_iff (members : List (String × Value)) :
    MembersInRange members ↔ ∀ member ∈ members, member.2.InRange := by
  induction members with
  | nil => simp [MembersInRange]
  | cons first rest ih => simp [MembersInRange, ih]

/-! ## Numbers within range -/

theorem digitsValue_digitsOf (value : Nat) : digitsValue (digitsOf value) = value := by
  have whole : Nat.ofDigitChars 10 (Nat.toDigits 10 value) 0 = value :=
    Nat.ofDigitChars_ten_toDigits
  rw [Nat.ofDigitChars] at whole
  simpa [digitsValue, digitsOf, numeral, List.foldl_map, Nat.mul_comm] using whole

theorem number_of_digitsOf {value : Nat} (small : value < Text.bound64) :
    Numeral.number ⟨false, digitsOf value, none, none⟩ = .ok (.natural value) := by
  simp [Numeral.number, digitsValue_digitsOf, small]

/-! ## Holding a value -/

/-- Whether a depth is allowed. -/
def depthCheck (depth room : Nat) : Decoded Unit :=
  if depth ≤ room then .ok () else .error (.syntaxFault .tooDeep)

theorem depthCheck_succ (depth room : Nat) :
    depthCheck (1 + depth) (room + 1) = depthCheck depth room := by
  simp only [depthCheck, Nat.add_comm 1 depth, Nat.add_le_add_iff_right]

theorem depthCheck_max (first second room : Nat) :
    depthCheck (max first second) room =
      (depthCheck first room).bind fun _ => depthCheck second room := by
  by_cases fits : first ≤ room
  · simp only [depthCheck, Nat.max_le, fits, true_and, if_true, Except.bind]
  · simp only [depthCheck, Nat.max_le, fits, false_and, if_false, Except.bind]

mutual

/-- A value is held where its nesting is allowed. -/
theorem hold_doc : ∀ (value : Value) (room : Nat), value.InRange →
    value.doc.hold room = depthCheck value.nesting room
  | .null, room, _ => by simp [Value.doc, Doc.hold, Value.nesting, depthCheck]
  | .bool _, room, _ => by simp [Value.doc, Doc.hold, Value.nesting, depthCheck]
  | .number value, room, small => by
      have number := @number_of_digitsOf value small
      simp [Value.doc, Doc.hold, Value.nesting, depthCheck, number, liftFault, bind, Except.bind,
        pure, Except.pure]
  | .string text, room, _ => by
      simp [Value.doc, Doc.hold, Value.nesting, depthCheck, liftFault, bind, Except.bind, pure,
        Except.pure]
  | .array items, 0, _ => by simp [Value.doc, Doc.hold, Value.nesting, depthCheck]
  | .array items, room + 1, inRange => by
      rw [Value.doc, Doc.hold, Value.nesting, depthCheck_succ, hold_itemDocs items room inRange]
      cases depthCheck (itemNesting items) room <;> rfl
  | .object members, 0, _ => by simp [Value.doc, Doc.hold, Value.nesting, depthCheck]
  | .object members, room + 1, inRange => by
      rw [Value.doc, Doc.hold, Value.nesting, depthCheck_succ,
        hold_memberDocs members room inRange]
      cases depthCheck (memberNesting members) room <;> rfl

theorem hold_itemDocs : ∀ (items : List Value) (room : Nat), ItemsInRange items →
    holdItems room (itemDocs items) = depthCheck (itemNesting items) room
  | [], room, _ => by simp [itemDocs, holdItems, itemNesting, depthCheck]
  | item :: rest, room, inRange => by
      rw [itemDocs, holdItems, itemNesting, depthCheck_max, hold_doc item room inRange.1,
        hold_itemDocs rest room inRange.2]
      rfl

theorem hold_memberDocs : ∀ (members : List (String × Value)) (room : Nat),
    MembersInRange members →
    holdMembers room (memberDocs members) = depthCheck (memberNesting members) room
  | [], room, _ => by simp [memberDocs, holdMembers, memberNesting, depthCheck]
  | (key, value) :: rest, room, inRange => by
      rw [memberDocs, holdMembers, memberNesting, depthCheck_max, hold_doc value room inRange.1,
        hold_memberDocs rest room inRange.2]
      rfl

end

/-! ## The decoding of a value whose text is known -/

/-- A member that has not occurred is taken in as it is read. -/
theorem once_of_fresh {α : Type} {decoder : Decoder α} {source : Source} {doc : Doc} {content : α}
    {name : String} {keys : List String} (fresh : name ∉ keys)
    (read : decoder source doc = .ok content) :
    once name (if name ∈ keys then some content else none) decoder source doc =
      .ok (some content) := by
  rw [if_neg fresh, once, read]
  rfl

/-- The room that is left inside a list or an object that is the whole text. -/
theorem nestingLimit_eq : nestingLimit = 126 + 1 := rfl

/-- Whether a source lets values of some nesting be decoded. -/
def Source.Admits : Source → Nat → Prop
  | .text room, nesting => nesting ≤ room
  | .held, _ => True

theorem Source.Admits.mono {source : Source} {shallow deep : Nat} (admits : source.Admits deep)
    (below : shallow ≤ deep) : source.Admits shallow := by
  cases source with
  | text room => exact Nat.le_trans below admits
  | held => exact trivial

theorem Source.Admits.inner {source : Source} {nesting : Nat}
    (admits : source.Admits (1 + nesting)) :
    ∃ inner, source.inner = .ok inner ∧ inner.Admits nesting := by
  rcases source with (_ | room) | _
  · change 1 + nesting ≤ 0 at admits
    omega
  · change 1 + nesting ≤ room + 1 at admits
    exact ⟨.text room, rfl, by change nesting ≤ room; omega⟩
  · exact ⟨.held, rfl, trivial⟩

theorem list_doc {α : Type} {decoder : Decoder α} {items : List Value} {contents : List α}
    {source inner : Source} (opened : source.inner = .ok inner)
    (read : decodeItems decoder inner (itemDocs items) = .ok contents) :
    list decoder source (Value.array items).doc = .ok contents := by
  simp only [Value.doc, list, opened, read, noFault, bind, pure, Except.bind, Except.pure]

theorem optional_text_doc (source : Source) (text : Option String) :
    optional Json.text source (Value.ofText? text).doc = .ok text := by
  cases text <;> rfl

theorem decodeItems_text_doc (source : Source) (texts : List String) :
    decodeItems Json.text source (itemDocs (texts.map .string)) = .ok texts := by
  induction texts with
  | nil => rfl
  | cons text texts ih =>
      rw [List.map_cons, itemDocs, decodeItems, ih]
      rfl

theorem itemsInRange_texts (texts : List String) : ItemsInRange (texts.map .string) := by
  induction texts with
  | nil => exact trivial
  | cons text texts ih => exact ⟨trivial, ih⟩

theorem itemNesting_texts (texts : List String) : itemNesting (texts.map .string) = 0 := by
  induction texts with
  | nil => rfl
  | cons text texts ih =>
      rw [List.map_cons, itemNesting, ih]
      rfl

end Rehearsal.Json
