import Rehearsal.Proofs.Json.Decoding
import Rehearsal.Proofs.Json.Pretty
import Rehearsal.Tree.Codec
/-!
# Nodes in writing

A node may be written in many ways: its members stand in any order, and those that are absent or
empty may be left out. Every one of them is read as the node where its nesting is allowed, and a
document that is held allows any.
-/

set_option autoImplicit false

namespace Rehearsal

open Json (Value Doc Decoder Source itemDocs memberDocs itemNesting memberNesting)

/-- Whether a node is empty but for some of its members. -/
structure Node.Covered (node : Node) (keys : List String) : Prop where
  name : "name" ∈ keys ∨ node.name = none
  role : "role" ∈ keys ∨ node.role = none
  text : "text" ∈ keys ∨ node.text = none
  description : "description" ∈ keys ∨ node.description = none
  states : "states" ∈ keys ∨ node.states = []
  children : "children" ∈ keys ∨ node.children = []

mutual

/-- The values that a node may be written as. -/
inductive Node.WrittenAs : Node → Value → Prop where
  | object {node : Node} {members : List (String × Value)}
      (distinct : (members.map Prod.fst).Nodup)
      (fits : ∀ member ∈ members, Node.HasMember node member.1 member.2)
      (covered : node.Covered (members.map Prod.fst)) :
      Node.WrittenAs node (.object members)

/-- The members that a node may be written with. -/
inductive Node.HasMember : Node → String → Value → Prop where
  | name (node : Node) : Node.HasMember node "name" (.ofText? node.name)
  | role (node : Node) : Node.HasMember node "role" (.ofText? node.role)
  | text (node : Node) : Node.HasMember node "text" (.ofText? node.text)
  | description (node : Node) : Node.HasMember node "description" (.ofText? node.description)
  | states (node : Node) : Node.HasMember node "states" (.ofTexts node.states)
  | children {node : Node} {items : List Value} (written : Forest.WrittenAs node.children items) :
      Node.HasMember node "children" (.array items)

/-- The values that the trees of a forest may be written as. -/
inductive Forest.WrittenAs : Forest → List Value → Prop where
  | nil : Forest.WrittenAs [] []
  | cons {node : Node} {value : Value} {rest : Forest} {items : List Value}
      (first : Node.WrittenAs node value) (others : Forest.WrittenAs rest items) :
      Forest.WrittenAs (node :: rest) (value :: items)

end

/-! ## Taking in the members of a node -/

/-- The members of a node of which those of some names have been read. -/
def Node.partsOf (node : Node) (keys : List String) : NodeParts where
  name := if "name" ∈ keys then some node.name else none
  role := if "role" ∈ keys then some node.role else none
  text := if "text" ∈ keys then some node.text else none
  description := if "description" ∈ keys then some node.description else none
  states := if "states" ∈ keys then some node.states else none
  children := if "children" ∈ keys then some node.children else none

/-- The order in which members are read does not matter. -/
theorem Node.partsOf_congr {node : Node} {first second : List String}
    (same : ∀ key, key ∈ first ↔ key ∈ second) : node.partsOf first = node.partsOf second := by
  simp only [partsOf, same]

private theorem join_of_covered {α : Type} {present : Prop} [Decidable present]
    {content : Option α} (covered : present ∨ content = none) :
    (if present then some content else none).join = content := by
  rcases covered with given | rfl
  · simp [given]
  · split <;> rfl

private theorem getD_of_covered {α : Type} {present : Prop} [Decidable present]
    {content : List α} (covered : present ∨ content = []) :
    (if present then some content else none).getD [] = content := by
  rcases covered with given | rfl
  · simp [given]
  · split <;> rfl

theorem Node.node_partsOf {node : Node} {keys : List String} (covered : node.Covered keys) :
    (node.partsOf keys).node = node := by
  obtain ⟨name, role, text, description, states, children⟩ := node
  simp only [partsOf, NodeParts.node, Node.mk.injEq]
  exact ⟨join_of_covered covered.name, join_of_covered covered.role, join_of_covered covered.text,
    join_of_covered covered.description, getD_of_covered covered.states,
    getD_of_covered covered.children⟩

section

variable {child : Decoder Node} {node : Node} {source : Source}

/-- A member that has not been read before is added to those that have been read. -/
theorem NodeParts.member_of_hasMember
    (below : ∀ items, Forest.WrittenAs node.children items →
      source.Admits (Value.array items).nesting →
      Json.list child source (Value.array items).doc = .ok node.children)
    {name : String} {value : Value} (fits : node.HasMember name value)
    (admits : source.Admits value.nesting) {keys : List String} (fresh : name ∉ keys) :
    NodeParts.member child source (node.partsOf keys) name value.doc =
      .ok (node.partsOf (name :: keys)) := by
  cases fits with
  | name =>
      have taken := Json.once_of_fresh fresh (Json.optional_text_doc source node.name)
      simp [NodeParts.member, Node.partsOf, taken, bind, pure, Except.bind, Except.pure]
  | role =>
      have taken := Json.once_of_fresh fresh (Json.optional_text_doc source node.role)
      simp [NodeParts.member, Node.partsOf, taken, bind, pure, Except.bind, Except.pure]
  | text =>
      have taken := Json.once_of_fresh fresh (Json.optional_text_doc source node.text)
      simp [NodeParts.member, Node.partsOf, taken, bind, pure, Except.bind, Except.pure]
  | description =>
      have taken := Json.once_of_fresh fresh (Json.optional_text_doc source node.description)
      simp [NodeParts.member, Node.partsOf, taken, bind, pure, Except.bind, Except.pure]
  | states =>
      obtain ⟨inner, opened, -⟩ := Source.Admits.inner admits
      have read : Json.list Json.text source (Value.ofTexts node.states).doc = .ok node.states :=
        Json.list_doc opened (Json.decodeItems_text_doc inner node.states)
      have taken := Json.once_of_fresh fresh read
      simp [NodeParts.member, Node.partsOf, taken, bind, pure, Except.bind, Except.pure]
  | @children _ items written =>
      have taken := Json.once_of_fresh fresh (below items written admits)
      simp [NodeParts.member, Node.partsOf, taken, bind, pure, Except.bind, Except.pure]

theorem foldMembers_of_fits
    (below : ∀ items, Forest.WrittenAs node.children items →
      source.Admits (Value.array items).nesting →
      Json.list child source (Value.array items).doc = .ok node.children)
    {members : List (String × Value)} (distinct : (members.map Prod.fst).Nodup)
    (fits : ∀ member ∈ members, node.HasMember member.1 member.2)
    (admits : source.Admits (memberNesting members)) {keys : List String}
    (fresh : ∀ member ∈ members, member.1 ∉ keys) :
    Json.foldMembers (NodeParts.member child source) (node.partsOf keys) (memberDocs members) =
      .ok (node.partsOf ((members.map Prod.fst).reverse ++ keys)) := by
  induction members generalizing keys with
  | nil => rfl
  | cons member members ih =>
      obtain ⟨name, value⟩ := member
      obtain ⟨front, others⟩ := List.nodup_cons.mp distinct
      have first := NodeParts.member_of_hasMember below (fits (name, value) List.mem_cons_self)
        (admits.mono (Nat.le_max_left _ _)) (fresh (name, value) List.mem_cons_self)
      have freshLater : ∀ member ∈ members, member.1 ∉ name :: keys := by
        intro member later present
        rcases List.mem_cons.mp present with same | old
        · exact front (List.mem_map.mpr ⟨member, later, same⟩)
        · exact fresh member (List.mem_cons_of_mem _ later) old
      have rest := ih others (fun member later => fits member (List.mem_cons_of_mem _ later))
        (admits.mono (Nat.le_max_right _ _)) freshLater
      rw [memberDocs, Json.foldMembers]
      simpa [Json.liftFault, first, bind, Except.bind] using rest

end

/-! ## Reading a node -/

theorem Node.depth_eq (node : Node) : node.depth = 1 + Forest.depth node.children := by
  cases node
  rfl

/-- What holds of a node of some levels and a value that it is written as: the value is read as the
node where its nesting is allowed, the nesting is at most twice the levels, and the node is no
deeper than the nesting. -/
structure Node.ReadsBack (levels : Nat) (node : Node) (value : Value) : Prop where
  decoded : ∀ source : Source, source.Admits value.nesting →
    Node.decoderOf levels source value.doc = .ok node
  inRange : value.InRange
  shallow : value.nesting ≤ 2 * levels
  deep : node.depth ≤ value.nesting

structure Forest.ReadsBack (levels : Nat) (forest : Forest) (items : List Value) : Prop where
  decoded : ∀ source : Source, source.Admits (itemNesting items) →
    Json.decodeItems (Node.decoderOf levels) source (itemDocs items) = .ok forest
  inRange : Json.ItemsInRange items
  shallow : itemNesting items ≤ 2 * levels
  deep : Forest.depth forest ≤ itemNesting items

theorem Forest.readsBack_of_nodes {levels : Nat}
    (nodes : ∀ {node : Node} {value : Value}, node.WrittenAs value → node.depth ≤ levels →
      node.ReadsBack levels value)
    {forest : Forest} {items : List Value} (written : Forest.WrittenAs forest items)
    (low : Forest.depth forest ≤ levels) : Forest.ReadsBack levels forest items := by
  induction forest generalizing items with
  | nil =>
      cases written with
      | nil => exact ⟨fun _ _ => rfl, trivial, Nat.zero_le _, Nat.le_refl _⟩
  | cons node rest ih =>
      cases written with
      | @cons _ value _ items first others =>
          obtain ⟨lowFirst, lowRest⟩ := Nat.max_le.mp low
          have front := nodes first lowFirst
          have back := ih others lowRest
          refine ⟨?_, ⟨front.inRange, back.inRange⟩, ?_, ?_⟩
          · intro source admits
            have one := front.decoded source (admits.mono (Nat.le_max_left _ _))
            have others := back.decoded source (admits.mono (Nat.le_max_right _ _))
            simp [itemDocs, Json.decodeItems, one, others, bind, pure, Except.bind, Except.pure]
          · exact Nat.max_le.mpr ⟨front.shallow, back.shallow⟩
          · exact Nat.max_le.mpr
              ⟨Nat.le_trans front.deep (Nat.le_max_left _ _),
                Nat.le_trans back.deep (Nat.le_max_right _ _)⟩

theorem nesting_le_of_hasMember {levels : Nat} {node : Node} {name : String} {value : Value}
    (below : ∀ items, Forest.WrittenAs node.children items → itemNesting items ≤ 2 * levels)
    (fits : node.HasMember name value) : value.nesting ≤ 1 + 2 * levels := by
  have plain (text : Option String) : (Value.ofText? text).nesting = 0 := by cases text <;> rfl
  cases fits with
  | name => simp [plain]
  | role => simp [plain]
  | text => simp [plain]
  | description => simp [plain]
  | states => simp [Value.ofTexts, Value.nesting, Json.itemNesting_texts]
  | @children _ items written =>
      have inside := below items written
      rw [Value.nesting]
      omega

theorem inRange_of_hasMember {node : Node} {name : String} {value : Value}
    (below : ∀ items, Forest.WrittenAs node.children items → Json.ItemsInRange items)
    (fits : node.HasMember name value) : value.InRange := by
  have plain (text : Option String) : (Value.ofText? text).InRange := by
    cases text <;> exact trivial
  cases fits with
  | name => exact plain _
  | role => exact plain _
  | text => exact plain _
  | description => exact plain _
  | states => exact Json.itemsInRange_texts node.states
  | @children _ items written => exact below items written

theorem children_of_mem {node : Node} {members : List (String × Value)}
    (fits : ∀ member ∈ members, node.HasMember member.1 member.2)
    (present : "children" ∈ members.map Prod.fst) :
    ∃ items, ("children", .array items) ∈ members ∧ Forest.WrittenAs node.children items := by
  obtain ⟨⟨name, value⟩, member, named⟩ := List.mem_map.mp present
  have inside := fits _ member
  cases inside with
  | name => simp at named
  | role => simp at named
  | text => simp at named
  | description => simp at named
  | states => simp at named
  | @children _ items written => exact ⟨items, member, written⟩

/-- A node that is written in any way is read back from any levels that it fits in. -/
theorem Node.readsBack {levels : Nat} : ∀ {node : Node} {value : Value}, node.WrittenAs value →
    node.depth ≤ levels → node.ReadsBack levels value := by
  induction levels with
  | zero =>
      intro node value _ low
      rw [depth_eq] at low
      omega
  | succ levels ih =>
      intro node value written low
      rw [depth_eq] at low
      cases written with
      | @object _ members distinct fits covered =>
          have below (items : List Value) (inside : Forest.WrittenAs node.children items) :
              Forest.ReadsBack levels node.children items :=
            Forest.readsBack_of_nodes ih inside (by omega)
          refine ⟨?_, ?_, ?_, ?_⟩
          · intro source admits
            obtain ⟨inner, opened, fit⟩ := Source.Admits.inner admits
            have listed (items : List Value) (inside : Forest.WrittenAs node.children items)
                (allowed : inner.Admits (Value.array items).nesting) :
                Json.list (Node.decoderOf levels) inner (Value.array items).doc =
                  .ok node.children := by
              obtain ⟨within, open_, deep⟩ := Source.Admits.inner allowed
              exact Json.list_doc open_ ((below items inside).decoded within deep)
            have folded : Json.foldMembers (NodeParts.member (Node.decoderOf levels) inner)
                NodeParts.none (memberDocs members) =
                  .ok (node.partsOf (members.map Prod.fst)) := by
              rw [← partsOf_congr fun key => List.mem_reverse]
              have all := foldMembers_of_fits listed distinct fits fit fun _ _ => List.not_mem_nil
              rwa [List.append_nil] at all
            exact (Json.Shape.decode_object (nodeShape _) opened folded).trans
              (congrArg Except.ok (node_partsOf covered))
          · exact (Json.membersInRange_iff members).mpr fun member present =>
              inRange_of_hasMember (fun items inside => (below items inside).inRange)
                (fits member present)
          · have inside : memberNesting members ≤ 1 + 2 * levels :=
              Json.memberNesting_le fun member present =>
                nesting_le_of_hasMember (fun items inside => (below items inside).shallow)
                  (fits member present)
            rw [Value.nesting]
            omega
          · rw [depth_eq, Value.nesting]
            rcases covered.children with present | none
            · obtain ⟨items, member, inside⟩ := children_of_mem fits present
              have under := Json.nesting_le_memberNesting member
              have deep := (below items inside).deep
              rw [Value.nesting] at under
              omega
            · rw [none]
              exact Nat.add_le_add_left (Nat.zero_le _) 1

/-! ## Reading a forest -/

mutual

theorem Json.levels_doc : ∀ value : Value, value.doc.levels = value.nesting
  | .null => rfl
  | .bool _ => rfl
  | .number _ => rfl
  | .string _ => rfl
  | .array items => congrArg (1 + ·) (Json.itemLevels_itemDocs items)
  | .object members => congrArg (1 + ·) (Json.memberLevels_memberDocs members)

theorem Json.itemLevels_itemDocs :
    ∀ items : List Value, Json.itemLevels (itemDocs items) = itemNesting items
  | [] => rfl
  | item :: rest => by
      rw [itemDocs, Json.itemLevels, Json.levels_doc item, Json.itemLevels_itemDocs rest,
        itemNesting]

theorem Json.memberLevels_memberDocs :
    ∀ members : List (String × Value),
      Json.memberLevels (memberDocs members) = memberNesting members
  | [] => rfl
  | (_, value) :: rest => by
      rw [memberDocs, Json.memberLevels, Json.levels_doc value, Json.memberLevels_memberDocs rest,
        memberNesting]

end

/-- A node that is written in any way is read back where its nesting is allowed. -/
theorem Node.decoder_of_writtenAs {node : Node} {value : Value} (written : node.WrittenAs value)
    {source : Source} (admits : source.Admits value.nesting) :
    Node.decoder source value.doc = .ok node := by
  have deep := (readsBack written (Nat.le_refl _)).deep
  rw [Node.decoder, Json.levels_doc]
  exact (readsBack written (Nat.le_succ_of_le deep)).decoded source admits

theorem Forest.decodeItems_of_writtenAs {forest : Forest} {items : List Value}
    (written : Forest.WrittenAs forest items) {source : Source}
    (admits : source.Admits (itemNesting items)) :
    Json.decodeItems Node.decoder source (itemDocs items) = .ok forest := by
  induction forest generalizing items with
  | nil =>
      cases written with
      | nil => rfl
  | cons node rest ih =>
      cases written with
      | cons first others =>
          have one := Node.decoder_of_writtenAs first (admits.mono (Nat.le_max_left _ _))
          have more := ih others (admits.mono (Nat.le_max_right _ _))
          simp [itemDocs, Json.decodeItems, one, more, bind, pure, Except.bind, Except.pure]

theorem Forest.decoder_of_writtenAs {forest : Forest} {items : List Value}
    (written : Forest.WrittenAs forest items) {source : Source}
    (admits : source.Admits (Value.array items).nesting) :
    Json.list Node.decoder source (Value.array items).doc = .ok forest := by
  obtain ⟨inner, opened, deep⟩ := Source.Admits.inner admits
  exact Json.list_doc opened (Forest.decodeItems_of_writtenAs written deep)

/-- The nesting of a forest in writing is at most twice its levels and one more. -/
theorem Forest.nesting_of_writtenAs {forest : Forest} {items : List Value}
    (written : Forest.WrittenAs forest items) :
    (Value.array items).InRange ∧ (Value.array items).nesting ≤ 1 + 2 * Forest.depth forest := by
  have back := Forest.readsBack_of_nodes (fun first low => Node.readsBack first low) written
    (Nat.le_refl _)
  exact ⟨back.inRange, Nat.add_le_add_left back.shallow 1⟩

/-! ## The form that is written -/

mutual

theorem Node.writtenAs_toJson : ∀ node : Node, node.WrittenAs node.toJson
  | ⟨name, role, text, description, states, children⟩ => by
      have below := Forest.writtenAs_toJsonItems children
      rw [Node.toJson]
      refine .object ?_ ?_ ?_
      · cases text <;> cases description <;> cases states <;> simp
      · intro member present
        simp only [List.mem_append, List.mem_cons, List.not_mem_nil, or_false,
          Option.mem_toList, Option.map_eq_some_iff] at present
        rcases present with ((((rfl | rfl) | ⟨contents, rfl, rfl⟩) | ⟨contents, rfl, rfl⟩) |
          listed) | rfl
        · exact .name _
        · exact .role _
        · exact .text ⟨name, role, some contents, description, states, children⟩
        · exact .description ⟨name, role, text, some contents, states, children⟩
        · split at listed
          · cases listed
          · rw [List.mem_singleton] at listed
            subst listed
            exact .states ⟨name, role, text, description, states, children⟩
        · exact .children below
      · constructor <;> cases text <;> cases description <;> cases states <;> simp

theorem Forest.writtenAs_toJsonItems : ∀ forest : Forest,
    Forest.WrittenAs forest forest.toJsonItems
  | [] => .nil
  | node :: rest => .cons node.writtenAs_toJson (Forest.writtenAs_toJsonItems rest)

end

mutual

/-- In the form that is written, every level of a node takes an object and a list. -/
theorem Node.nesting_toJson : ∀ node : Node, node.toJson.nesting = 2 * node.depth
  | ⟨name, role, text, description, states, children⟩ => by
      have below := Forest.nesting_toJsonItems children
      have plain (text : Option String) : (Value.ofText? text).nesting = 0 := by
        cases text <;> rfl
      have named : memberNesting [("name", .ofText? name), ("role", .ofText? role)] = 0 := by
        simp [memberNesting, plain]
      have optional (key : String) (content : Option String) :
          memberNesting (content.map fun contents => (key, Value.string contents)).toList = 0 := by
        cases content <;> rfl
      have listed : memberNesting
          (if states.isEmpty then [] else [("states", .ofTexts states)]) ≤ 1 := by
        split
        · exact Nat.zero_le _
        · simp [memberNesting, Value.ofTexts, Value.nesting, Json.itemNesting_texts]
      rw [Node.toJson, Value.nesting, Json.memberNesting_append, Json.memberNesting_append,
        Json.memberNesting_append, Json.memberNesting_append, named, optional, optional,
        Node.depth, memberNesting, memberNesting, Value.nesting, below]
      omega

theorem Forest.nesting_toJsonItems : ∀ forest : Forest,
    itemNesting forest.toJsonItems = 2 * Forest.depth forest
  | [] => rfl
  | node :: rest => by
      rw [Forest.toJsonItems, itemNesting, node.nesting_toJson, Forest.nesting_toJsonItems rest,
        Forest.depth]
      omega

end

/-- A forest that is not too deep is read back from its indented form. -/
theorem Forest.decode_pretty {forest : Forest} (shallow : Forest.depth forest ≤ 63) :
    Json.decode (Json.list Node.decoder) forest.toJson.pretty = .ok forest := by
  have nesting : forest.toJson.nesting = 1 + 2 * Forest.depth forest :=
    congrArg (1 + ·) (Forest.nesting_toJsonItems forest)
  have admits : (Source.text Json.nestingLimit).Admits forest.toJson.nesting := by
    change forest.toJson.nesting ≤ 127
    omega
  have read := Json.decode_of_spells (Json.list Node.decoder)
    (Json.spells_prettyList forest.toJson 0) Json.isGap_nil
  rw [List.append_nil] at read
  exact read.trans (Forest.decoder_of_writtenAs (Forest.writtenAs_toJsonItems forest) admits)

end Rehearsal
