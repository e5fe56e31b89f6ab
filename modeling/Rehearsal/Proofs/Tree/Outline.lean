import Rehearsal.Proofs.Text.Quoted
import Rehearsal.Proofs.Tree.Positions
import Rehearsal.Tree.Codec
/-!
# What an outline tells

An outline has one line for each node, in pre-order. Where no role and no name breaks out of its
place on a line, the outline tells how the nodes stand to each other and what is shown of each.
-/

set_option autoImplicit false

namespace Rehearsal

/-- What an outline shows of a node. -/
def Node.look (node : Node) : String × String × Option String :=
  (node.shownRole, node.shownName, node.text)

/-- Whether the role and the name of a node keep to their places on a line. -/
structure Node.IsPlain (node : Node) : Prop where
  role : ∀ role, node.role = some role → '|' ∉ role.toList ∧ '\n' ∉ role.toList
  name : ∀ name, node.name = some name → '\n' ∉ name.toList

def Forest.IsPlain (forest : Forest) : Prop :=
  ∀ node ∈ Forest.preorder forest, node.IsPlain

/-! ## One line -/

/-- What follows a name on its line. -/
def Node.ending : Option String → List Char
  | none => [']']
  | some text => [']', ' ', 't', 'e', 'x', 't', '='] ++ (Text.quote text).toList

/-- The line of a node without its indentation. -/
def Node.label (node : Node) : List Char :=
  '[' :: (node.shownRole.toList ++ [' ', '|', ' '] ++ node.shownName.toList ++
    Node.ending node.text)

namespace Node

variable {node other : Node} {level low : Nat}

theorem toList_line (level : Nat) (node : Node) :
    (node.line level).toList = List.replicate (2 * level) ' ' ++ node.label := by
  unfold line label ending
  cases node.text <;> simp

theorem shownRole_plain (plain : node.IsPlain) :
    '|' ∉ node.shownRole.toList ∧ '\n' ∉ node.shownRole.toList := by
  unfold shownRole
  cases shown : node.role with
  | none => decide
  | some role => exact plain.role role shown

theorem shownName_plain (plain : node.IsPlain) : '\n' ∉ node.shownName.toList := by
  unfold shownName
  cases shown : node.name with
  | none => decide
  | some name => exact plain.name name shown

theorem newline_not_mem_ending (text : Option String) : '\n' ∉ ending text := by
  cases text with
  | none => decide
  | some text => simp [ending, Text.newline_not_mem_quote]

theorem newline_not_mem_line (plain : node.IsPlain) (level : Nat) :
    '\n' ∉ (node.line level).toList := by
  have role := (shownRole_plain plain).2
  have name := shownName_plain plain
  have ending := newline_not_mem_ending node.text
  simp [toList_line, label, role, name, ending]

theorem line_inj (same : node.line level = other.line low) :
    level = low ∧ node.label = other.label := by
  have chars := congrArg String.toList same
  rw [toList_line, toList_line] at chars
  have spaces (count : Nat) : '[' ∉ List.replicate count ' ' := by simp
  obtain ⟨indents, rest⟩ := Text.eq_of_append_cons_eq (spaces _) (spaces _) chars
  have widths := congrArg List.length indents
  simp only [List.length_replicate] at widths
  exact ⟨by omega, congrArg ('[' :: ·) rest⟩

theorem ending_none_ne (name shown : List Char) (text : String) :
    name ++ ending none ≠ shown ++ ending (some text) := by
  intro same
  rw [ending, ending, Text.toList_quote, ← List.append_assoc, ← List.append_assoc] at same
  exact absurd (List.append_inj' same rfl).2 (by decide)

/-- The longer of two quotations at the end of the same line would hold the end of the name. -/
theorem ending_some_inj {name shown : List Char} {text written : String}
    (same : name ++ ending (some text) = shown ++ ending (some written)) :
    name = shown ∧ text = written := by
  have never (text written : String) (line : List Char)
      (ends : '=' :: (Text.quote text).toList <:+ line)
      (quoted : (Text.quote written).toList <:+ line) :
      (Text.quote written).toList.length ≤ (Text.quote text).toList.length := by
    apply Nat.le_of_not_lt
    intro longer
    have inside := List.suffix_of_suffix_length_le ends quoted longer
    exact Text.not_suffix_quote (by decide) text written inside
  have split (name : List Char) (text : String) :
      name ++ ending (some text) =
        (name ++ [']', ' ', 't', 'e', 'x', 't']) ++ '=' :: (Text.quote text).toList := by
    simp [ending]
  rw [split, split] at same
  have ends := List.suffix_append (name ++ [']', ' ', 't', 'e', 'x', 't'])
    ('=' :: (Text.quote text).toList)
  have endsSame := List.suffix_append (shown ++ [']', ' ', 't', 'e', 'x', 't'])
    ('=' :: (Text.quote written).toList)
  rw [← same] at endsSame
  have shorter := never text written _ ends ((List.suffix_cons _ _).trans endsSame)
  have longer := never written text _ endsSame ((List.suffix_cons _ _).trans ends)
  obtain ⟨front, quoted⟩ := List.append_inj' same (by simp only [List.length_cons]; omega)
  refine ⟨List.append_cancel_right front, ?_⟩
  exact Text.quote_injective (String.toList_inj.mp (List.cons.inj quoted).2)

theorem ending_inj {name shown : List Char} {text written : Option String}
    (same : name ++ ending text = shown ++ ending written) : name = shown ∧ text = written := by
  cases text with
  | none =>
      cases written with
      | none => exact ⟨List.append_cancel_right same, rfl⟩
      | some written => exact absurd same (ending_none_ne _ _ written)
  | some text =>
      cases written with
      | none => exact absurd same.symm (ending_none_ne _ _ text)
      | some written =>
          obtain ⟨names, texts⟩ := ending_some_inj same
          exact ⟨names, congrArg some texts⟩

/-- The role ends before the first bar. -/
theorem look_eq_of_label_eq (plain : node.IsPlain) (plainOther : other.IsPlain)
    (same : node.label = other.label) : node.look = other.look := by
  have split (node : Node) : node.label = '[' :: ((node.shownRole.toList ++ [' ']) ++
      '|' :: (' ' :: node.shownName.toList ++ ending node.text)) := by
    simp [label]
  have bar {node : Node} (plain : node.IsPlain) : '|' ∉ node.shownRole.toList ++ [' '] := by
    simp [(shownRole_plain plain).1]
  rw [split, split] at same
  obtain ⟨roles, rest⟩ :=
    Text.eq_of_append_cons_eq (bar plain) (bar plainOther) (List.cons.inj same).2
  obtain ⟨names, texts⟩ := ending_inj rest
  have role := String.toList_inj.mp (List.append_cancel_right roles)
  have name := String.toList_inj.mp (List.cons.inj names).2
  rw [look, look, role, name, texts]

end Node

/-! ## The lines of a forest -/

/-- Whether two nodes have the same shape below them and look alike at each position. -/
def Node.Alike (first second : Node) : Prop :=
  ∀ position, (first.at? position).map Node.look = (second.at? position).map Node.look

/-- Whether two forests have the same shape and look alike at each position. -/
def Forest.Alike (first second : Forest) : Prop :=
  ∀ position, (Forest.at? first position).map Node.look =
    (Forest.at? second position).map Node.look

theorem Node.alike_of_children {first second : Node} (look : first.look = second.look)
    (children : Forest.Alike first.children second.children) : first.Alike second := by
  intro position
  cases position with
  | nil => exact congrArg some look
  | cons index rest => exact children (index :: rest)

theorem Forest.alike_cons {node other : Node} {forest rest : Forest} (head : node.Alike other)
    (tail : Forest.Alike forest rest) : Forest.Alike (node :: forest) (other :: rest) := by
  intro position
  match position with
  | [] => rfl
  | 0 :: below => exact head below
  | (index + 1) :: below => exact tail (index :: below)

/-- Whether lines are none or begin with one that is indented by less than a level. -/
def Shallow (level : Nat) (lines : List String) : Prop :=
  ∀ line ∈ lines.head?, ∃ node low, low < level ∧ line = Node.line low node

theorem Shallow.mono {level : Nat} {lines : List String} (shallow : Shallow level lines) :
    Shallow (level + 1) lines := by
  intro line first
  obtain ⟨node, low, less, same⟩ := shallow line first
  exact ⟨node, low, Nat.lt_succ_of_lt less, same⟩

theorem Node.outlineLines_eq (level : Nat) (node : Node) :
    node.outlineLines level = node.line level :: Forest.outlineLines (level + 1) node.children := by
  obtain ⟨name, role, text, description, states, children⟩ := node
  rw [outlineLines]

theorem Forest.shallow_outlineLines {level : Nat} {after : List String}
    (shallow : Shallow level after) (forest : Forest) :
    Shallow (level + 1) (Forest.outlineLines level forest ++ after) := by
  cases forest with
  | nil => exact shallow.mono
  | cons node rest =>
      rw [outlineLines, Node.outlineLines_eq]
      intro line first
      cases first
      exact ⟨node, level, Nat.lt_succ_self level, rfl⟩

/-- The lines of a node are not a shallow beginning. -/
theorem Node.line_ne_of_shallow {level : Nat} {node : Node} {lines after : List String}
    (shallow : Shallow level after) : after ≠ node.line level :: lines := by
  intro same
  subst same
  obtain ⟨other, low, less, line⟩ := shallow _ rfl
  have levels := (Node.line_inj line).1
  omega

mutual

/-- The lines of a node end where a line stands that is not indented more than the first. -/
theorem Node.alike_of_outlineLines_eq {level : Nat} {first second : Node}
    {after later : List String}
    (plain : ∀ node ∈ first.preorder, node.IsPlain)
    (plainSecond : ∀ node ∈ second.preorder, node.IsPlain)
    (shallow : Shallow (level + 1) after) (shallowLater : Shallow (level + 1) later)
    (same : first.outlineLines level ++ after = second.outlineLines level ++ later) :
    first.Alike second ∧ after = later := by
  obtain ⟨name, role, text, description, states, children⟩ := first
  obtain ⟨name', role', text', description', states', children'⟩ := second
  rw [Node.preorder, List.forall_mem_cons] at plain plainSecond
  rw [Node.outlineLines, Node.outlineLines] at same
  obtain ⟨line, rest⟩ := List.cons.inj same
  obtain ⟨below, afterwards⟩ := Forest.alike_of_outlineLines_eq plain.2 plainSecond.2
    shallow shallowLater rest
  have looks := Node.look_eq_of_label_eq plain.1 plainSecond.1 (Node.line_inj line).2
  exact ⟨Node.alike_of_children looks below, afterwards⟩

theorem Forest.alike_of_outlineLines_eq {level : Nat} {first second : Forest}
    {after later : List String} (plain : Forest.IsPlain first) (plainSecond : Forest.IsPlain second)
    (shallow : Shallow level after) (shallowLater : Shallow level later)
    (same : Forest.outlineLines level first ++ after =
      Forest.outlineLines level second ++ later) :
    Forest.Alike first second ∧ after = later := by
  cases first with
  | nil =>
      cases second with
      | nil => exact ⟨fun _ => rfl, same⟩
      | cons other others =>
          rw [Forest.outlineLines, Forest.outlineLines, Node.outlineLines_eq] at same
          exact absurd same (Node.line_ne_of_shallow shallow)
  | cons node nodes =>
      cases second with
      | nil =>
          rw [Forest.outlineLines, Forest.outlineLines, Node.outlineLines_eq] at same
          exact absurd same.symm (Node.line_ne_of_shallow shallowLater)
      | cons other others =>
          rw [Forest.outlineLines, Forest.outlineLines, List.append_assoc, List.append_assoc]
            at same
          rw [Forest.IsPlain, Forest.preorder, List.forall_mem_append] at plain plainSecond
          -- For the first tree, the lines of the trees after it are part of what follows.
          obtain ⟨head, rest⟩ := Node.alike_of_outlineLines_eq plain.1 plainSecond.1
            (Forest.shallow_outlineLines shallow nodes)
            (Forest.shallow_outlineLines shallowLater others) same
          obtain ⟨tail, afterwards⟩ := Forest.alike_of_outlineLines_eq plain.2 plainSecond.2
            shallow shallowLater rest
          exact ⟨Forest.alike_cons head tail, afterwards⟩

end

/-! ## The lines and their positions -/

mutual

/-- The positions below a node and what stands there, in the order of the outline. -/
def Node.placed (node : Node) : List (Position × Node) :=
  match node with
  | ⟨_, _, _, _, _, children⟩ => ([], node) :: Forest.placed 0 children

/-- The positions of a forest whose first tree has a number, and what stands there. -/
def Forest.placed (index : Nat) : Forest → List (Position × Node)
  | [] => []
  | node :: rest => node.placed.map (Prod.map (index :: ·) id) ++ Forest.placed (index + 1) rest

end

/-- What stands in a forest stands below one of its trees. -/
theorem Forest.at?_iff_exists {forest : Forest} {position : Position} {found : Node} :
    forest.at? position = some found ↔
      ∃ number rest, position = number :: rest ∧ forest.at? (number :: rest) = some found := by
  cases position with
  | nil => simp [at?]
  | cons number rest =>
      constructor
      · intro stands
        exact ⟨number, rest, rfl, stands⟩
      · intro stands
        obtain ⟨_, _, same, stands⟩ := stands
        exact same ▸ stands

theorem Node.at?_eq_some_iff {node found : Node} {position : Position} :
    node.at? position = some found ↔
      position = [] ∧ found = node ∨ Forest.at? node.children position = some found := by
  cases position with
  | nil => simp [at?, Forest.at?, eq_comm]
  | cons number rest =>
      simp only [reduceCtorEq, false_and, false_or]
      exact Iff.rfl

mutual

theorem Node.mem_placed_iff {node found : Node} {position : Position} :
    (position, found) ∈ node.placed ↔ node.at? position = some found := by
  obtain ⟨name, role, text, description, states, children⟩ := node
  rw [Node.placed, List.mem_cons, Forest.mem_placed_iff, Node.at?_eq_some_iff,
    Forest.at?_iff_exists]
  simp only [Nat.zero_add, Prod.mk.injEq]

theorem Forest.mem_placed_iff {forest : Forest} {found : Node} {index : Nat} {position : Position} :
    (position, found) ∈ Forest.placed index forest ↔
      ∃ number rest, position = (index + number) :: rest ∧
        Forest.at? forest (number :: rest) = some found := by
  cases forest with
  | nil => simp [Forest.placed, Forest.at?]
  | cons node nodes =>
      rw [Forest.placed, List.mem_append, Forest.mem_placed_iff]
      constructor
      · intro member
        rcases member with inside | after
        · obtain ⟨⟨rest, below⟩, member, same⟩ := List.mem_map.mp inside
          cases same
          exact ⟨0, rest, rfl, Node.mem_placed_iff.mp member⟩
        · obtain ⟨number, rest, rfl, there⟩ := after
          exact ⟨number + 1, rest, by congr 1; omega, there⟩
      · intro stands
        obtain ⟨number, rest, rfl, there⟩ := stands
        cases number with
        | zero =>
            refine .inl (List.mem_map.mpr ⟨(rest, found), ?_, rfl⟩)
            exact Node.mem_placed_iff.mpr there
        | succ number => exact .inr ⟨number, rest, by congr 1; omega, there⟩

end

mutual

theorem Node.pairwise_placed (node : Node) :
    node.placed.Pairwise fun earlier after => earlier.1 < after.1 := by
  obtain ⟨name, role, text, description, states, children⟩ := node
  rw [Node.placed, List.pairwise_cons]
  refine ⟨?_, Forest.pairwise_placed 0 children⟩
  intro entry member
  obtain ⟨number, rest, same, -⟩ := Forest.mem_placed_iff.mp member
  rw [same]
  exact List.nil_lt_cons _ _

theorem Forest.pairwise_placed (index : Nat) (forest : Forest) :
    (Forest.placed index forest).Pairwise fun earlier after => earlier.1 < after.1 := by
  cases forest with
  | nil => exact List.Pairwise.nil
  | cons node nodes =>
      rw [Forest.placed, List.pairwise_append]
      refine ⟨?_, Forest.pairwise_placed (index + 1) nodes, ?_⟩
      · rw [List.pairwise_map]
        apply (Node.pairwise_placed node).imp
        intro earlier after less
        exact List.cons_lt_cons_iff.mpr (.inr ⟨rfl, less⟩)
      · intro earlier inside after member
        obtain ⟨inner, -, rfl⟩ := List.mem_map.mp inside
        obtain ⟨number, rest, same, -⟩ := Forest.mem_placed_iff.mp member
        rw [same]
        exact List.cons_lt_cons_iff.mpr (.inl (by omega))

end

mutual

theorem Node.map_snd_placed (node : Node) : node.placed.map Prod.snd = node.preorder := by
  obtain ⟨name, role, text, description, states, children⟩ := node
  rw [Node.placed, Node.preorder, List.map_cons, Forest.map_snd_placed 0 children]

theorem Forest.map_snd_placed (index : Nat) (forest : Forest) :
    (Forest.placed index forest).map Prod.snd = Forest.preorder forest := by
  cases forest with
  | nil => rw [Forest.placed, Forest.preorder, List.map_nil]
  | cons node nodes =>
      rw [Forest.placed, Forest.preorder, List.map_append, List.map_map,
        Forest.map_snd_placed (index + 1) nodes, ← Node.map_snd_placed node]
      rfl

end

mutual

theorem Node.outlineLines_eq_map (level : Nat) (node : Node) :
    node.outlineLines level =
      node.placed.map fun entry => entry.2.line (level + entry.1.length) := by
  obtain ⟨name, role, text, description, states, children⟩ := node
  rw [Node.outlineLines, Node.placed, List.map_cons,
    Forest.outlineLines_eq_map (level + 1) 0 children]
  have deeper (count : Nat) : level + 1 + count - 1 = level + count := by omega
  simp only [deeper, List.length_nil, Nat.add_zero]

theorem Forest.outlineLines_eq_map (level index : Nat) (forest : Forest) :
    Forest.outlineLines level forest =
      (Forest.placed index forest).map fun entry => entry.2.line (level + entry.1.length - 1) := by
  cases forest with
  | nil => rw [Forest.outlineLines, Forest.placed, List.map_nil]
  | cons node nodes =>
      rw [Forest.outlineLines, Forest.placed, List.map_append, List.map_map,
        Node.outlineLines_eq_map level node, Forest.outlineLines_eq_map level (index + 1) nodes]
      rfl

end

/-! ## The whole outline -/

theorem Forest.newline_not_mem_outlineLines {forest : Forest} (plain : forest.IsPlain) :
    ∀ line ∈ (Forest.outlineLines 0 forest).map String.toList, '\n' ∉ line := by
  intro line member
  rw [outlineLines_eq_map 0 0, List.map_map] at member
  obtain ⟨entry, placed, rfl⟩ := List.mem_map.mp member
  have inside : entry.2 ∈ (Forest.placed 0 forest).map Prod.snd := List.mem_map_of_mem placed
  rw [map_snd_placed] at inside
  exact Node.newline_not_mem_line (plain entry.2 inside) _

/-- The rows of an outline, without their ends: the label of each node behind its indentation. -/
def Forest.rows (forest : Forest) : List (List Char) :=
  (Forest.placed 0 forest).map fun entry =>
    List.replicate (2 * (entry.1.length - 1)) ' ' ++ entry.2.label

theorem Forest.splitOn_outline {forest : Forest} (plain : forest.IsPlain) :
    forest.outline.toList.splitOn '\n' = forest.rows ++ [[]] := by
  rw [outline, Text.toList_join_ended, Text.splitOn_ended (newline_not_mem_outlineLines plain),
    outlineLines_eq_map 0 0, List.map_map]
  congr 1
  apply List.map_congr_left
  intro entry _
  rw [Function.comp_apply, Node.toList_line, Nat.zero_add]

/-- Where no role and no name breaks out of its place, two forests with the same outline have the
same shape, and at each position a node of the same role, name and text. The outline has one line
for each node, in pre-order: its label, behind two spaces for each level above it. -/
theorem Forest.outline_tells_tree (forest other : Forest) (plain : forest.IsPlain)
    (plainOther : other.IsPlain) :
    (forest.outline = other.outline →
      ∀ position, (forest.at? position).map Node.look = (other.at? position).map Node.look) ∧
    ∃ placed : List (Position × Node),
      placed.Pairwise (fun earlier after => earlier.1 < after.1) ∧
      (∀ position node, (position, node) ∈ placed ↔ forest.at? position = some node) ∧
      placed.map Prod.snd = Forest.preorder forest ∧
      forest.outline.toList.splitOn '\n' =
        placed.map (fun entry =>
          List.replicate (2 * (entry.1.length - 1)) ' ' ++ entry.2.label) ++ [[]] := by
  constructor
  · intro same
    have chars := congrArg String.toList same
    rw [outline, outline, Text.toList_join_ended, Text.toList_join_ended] at chars
    have lines := Text.ended_injective (newline_not_mem_outlineLines plain)
      (newline_not_mem_outlineLines plainOther) chars
    have outlines := List.map_injective_iff.mpr (fun _ _ => String.toList_inj.mp) lines
    have shallow : Shallow 0 [] := by
      intro line first
      cases first
    have alike := alike_of_outlineLines_eq plain plainOther shallow shallow
      (congrArg (· ++ []) outlines)
    exact alike.1
  · refine ⟨Forest.placed 0 forest, pairwise_placed 0 forest, ?_, map_snd_placed 0 forest,
      splitOn_outline plain⟩
    intro position node
    rw [mem_placed_iff, at?_iff_exists]
    simp only [Nat.zero_add]

/-- A role that is absent and one that is called `unknown` look alike, and a name may look like a
text. -/
theorem Forest.outline_of_unknown_role :
    let below := Node.bearing "a] text=\"b" "text" "c\"\\\nd"
    let forest : Forest := [⟨none, none, none, none, [], [below]⟩]
    let other : Forest := [⟨some "", some "unknown", none, some "e", ["focused"], [below]⟩]
    forest.IsPlain ∧ other.IsPlain ∧ forest.outline = other.outline ∧
      ∀ position, (forest.at? position).map Node.look = (other.at? position).map Node.look := by
  intro below forest other
  have inner : Node.IsPlain below := by
    constructor <;> intro shown same <;> cases same <;> decide
  have plain : forest.IsPlain := by
    intro node member
    have cases : node = ⟨none, none, none, none, [], [below]⟩ ∨ node = below := by
      simpa [forest, below, Node.bearing, Forest.preorder, Node.preorder] using member
    rcases cases with rfl | rfl
    · constructor <;> intro shown same <;> cases same
    · exact inner
  have plainOther : other.IsPlain := by
    intro node member
    have cases : node = ⟨some "", some "unknown", none, some "e", ["focused"], [below]⟩ ∨
        node = below := by
      simpa [other, below, Node.bearing, Forest.preorder, Node.preorder] using member
    rcases cases with rfl | rfl
    · constructor <;> intro shown same <;> cases same <;> decide
    · exact inner
  have same : forest.outline = other.outline := rfl
  exact ⟨plain, plainOther, same, (outline_tells_tree forest other plain plainOther).1 same⟩

end Rehearsal
