import Rehearsal.Proofs.Json.Nesting
/-!
# Decoding what is written

A spelling of a value is decoded as the document of that value. An object is decoded member by
member, and one that names its kind first by that kind from the members that follow.
-/

set_option autoImplicit false

namespace Rehearsal.Json

/-- A spelling is decoded as the document of its value, whatever spaces follow it. -/
theorem decode_of_spells {α : Type} (decoder : Decoder α) {value : Value}
    {written gap : List Char} (spelled : Spells value written) (space : IsGap gap) :
    decode decoder (String.ofList (written ++ gap)) = decoder (.text nestingLimit) value.doc := by
  have decoded := decode_of_renders decoder isGap_nil spelled.renders space
  rwa [List.nil_append] at decoded

/-! ## Members -/

theorem text_doc (source : Source) (text : String) :
    Json.text source (Value.string text).doc = .ok text :=
  rfl

theorem naturalBelow_doc {bound value : Nat} (expected : String) (source : Source)
    (below : value < bound) (small : value < Text.bound64) :
    naturalBelow bound expected source (Value.number value).doc = .ok value := by
  simp [Value.doc, naturalBelow, number_of_digitsOf small, liftFault, below, bind, Except.bind,
    pure, Except.pure]

theorem once_none {α : Type} {decoder : Decoder α} {source : Source} {doc : Doc} {content : α}
    (name : String) (read : decoder source doc = .ok content) :
    once name none decoder source doc = .ok (some content) := by
  rw [once, read]
  rfl

theorem foldMembers_cons {parts : Type} {member : parts → String → Doc → Decoded parts}
    {found more : parts} {name : String} {value : Value}
    (taken : member found name value.doc = .ok more) (rest : List (String × Value)) :
    foldMembers member found (memberDocs ((name, value) :: rest)) =
      foldMembers member more (memberDocs rest) := by
  simp only [memberDocs, foldMembers, liftFault, taken, bind, Except.bind]

theorem memberDocs_eq_map (members : List (String × Value)) :
    memberDocs members = members.map fun member => (.ok member.1, member.2.doc) := by
  induction members with
  | nil => rfl
  | cons member members ih => rw [memberDocs, ih, List.map_cons]

theorem Shape.decode_members {parts α : Type} (shape : Shape parts α) {source inner : Source}
    {members : List (Token × Doc)} {found : parts} (opened : source.inner = .ok inner)
    (folded : foldMembers (shape.member inner) shape.start members = .ok found) :
    shape.decode source (.object members none) = shape.finish found := by
  simp only [Shape.decode, opened, folded, noFault, bind, Except.bind]

theorem Shape.decode_object {parts α : Type} (shape : Shape parts α) {source inner : Source}
    {members : List (String × Value)} {found : parts} (opened : source.inner = .ok inner)
    (folded : foldMembers (shape.member inner) shape.start (memberDocs members) = .ok found) :
    shape.decode source (Value.object members).doc = shape.finish found :=
  shape.decode_members opened folded

/-! ## What nobody asked for -/

mutual

/-- A document whose text can be read is passed over, whatever its strings and numerals stand for
and however deep it is. -/
theorem Renders.skip : ∀ {doc : Doc} {written : List Char}, Renders doc written →
    doc.skip = .ok ()
  | _, _, .null => rfl
  | _, _, .yes => rfl
  | _, _, .no => rfl
  | _, _, .number _ _ => rfl
  | _, _, .negative _ _ => rfl
  | _, _, .string _ => rfl
  | _, _, .emptyArray _ => rfl
  | _, _, .array items => by
    simp only [Doc.skip, items.skip, Option.map, noFault, bind, Except.bind]
  | _, _, .emptyObject _ => rfl
  | _, _, .object members => by
      simp only [Doc.skip, members.skip, Option.map, noFault, bind, Except.bind]

theorem RendersItems.skip : ∀ {items : List Doc} {inside : List Char}, RendersItems items inside →
    skipItems items = .ok ()
  | _, _, .last _ rendered _ => by simp only [skipItems, rendered.skip, bind, Except.bind]
  | _, _, .more _ rendered _ rest => by
      simp only [skipItems, rendered.skip, rest.skip, bind, Except.bind]

theorem RendersMembers.skip : ∀ {members : List (Token × Doc)} {inside : List Char},
    RendersMembers members inside → skipMembers members = .ok ()
  | _, _, .last _ _ _ _ rendered _ => by simp only [skipMembers, rendered.skip, bind, Except.bind]
  | _, _, .more _ _ _ _ rendered _ rest => by
      simp only [skipMembers, rendered.skip, rest.skip, bind, Except.bind]

end

theorem RendersMembers.skip_of_mem : ∀ {members : List (Token × Doc)} {inside : List Char},
    RendersMembers members inside → ∀ member ∈ members, member.2.skip = .ok ()
  | _, _, .last _ _ _ _ rendered _ => List.forall_mem_singleton.mpr rendered.skip
  | _, _, .more _ _ _ _ rendered _ rest =>
      List.forall_mem_cons.mpr ⟨rendered.skip, rest.skip_of_mem⟩

theorem Renders.skip_of_mem {members : List (Token × Doc)} {written : List Char}
    (rendered : Renders (.object members none) written) :
    ∀ member ∈ members, member.2.skip = .ok () := by
  cases rendered with
  | emptyObject => exact fun _ member => nomatch member
  | object inside => exact inside.skip_of_mem

/-! ## Kinds -/

/-- Members that do not name the kind are held where their nesting is allowed. -/
theorem foldMembers_tagged (known : List String) {room : Nat} (tag : Option String)
    {members : List (String × Value)} (taken : List (Token × Doc))
    (others : ∀ member ∈ members, member.1 ≠ tagName) (inRange : MembersInRange members)
    (shallow : memberNesting members ≤ room) :
    foldMembers (Tagged.member known (.text room)) ⟨tag, taken⟩ (memberDocs members) =
      .ok ⟨tag, (memberDocs members).reverse ++ taken⟩ := by
  induction members generalizing taken with
  | nil => rfl
  | cons member rest ih =>
      obtain ⟨key, value⟩ := member
      obtain ⟨low, lowRest⟩ := Nat.max_le.mp shallow
      have held : value.doc.hold room = .ok () := by
        rw [hold_doc value room inRange.1, depthCheck, if_pos low]
      have other := others (key, value) List.mem_cons_self
      have later := ih ((.ok key, value.doc) :: taken)
        (fun member present => others member (List.mem_cons_of_mem _ present)) inRange.2 lowRest
      simp [memberDocs, foldMembers, liftFault, Tagged.member, other, Source.hold, held, later,
        bind, Except.bind, pure, Except.pure]

/-- An object that names its kind first is decoded by that kind from the members that follow. -/
theorem tagged_of_front {α : Type} {title : String} {known : List String}
    {variant : String → Decoder α} {tag : String} {members : List (String × Value)} {room : Nat}
    (there : tag ∈ known) (others : ∀ member ∈ members, member.1 ≠ tagName)
    (inRange : MembersInRange members) (shallow : memberNesting members ≤ room) :
    tagged title known variant (.text (room + 1))
        (Value.object ((tagName, .string tag) :: members)).doc =
      variant tag .held (Value.object members).doc := by
  have rest := foldMembers_tagged known (some tag) [] others inRange shallow
  simp [Value.doc, memberDocs, tagged, Source.inner, foldMembers, liftFault, Tagged.member,
    variantName, textOf, there, rest, noFault, required, bind, Except.bind, pure, Except.pure]

end Rehearsal.Json
