import Rehearsal.Proofs.Json.Reading
import Rehearsal.Proofs.Text.Blank
import Rehearsal.Proofs.Tree.Written
import Rehearsal.Wire.Message
/-!
# Responses in writing

A response is read back from every way to write it, whether its kind comes first or last, as long as
its trees are not too deep. What is too deep is refused and never cut.
-/

set_option autoImplicit false

namespace Rehearsal.Wire

open Json (Value Doc Decoder Spells memberDocs)

/-- Whether members are two given ones in either order. -/
def InEitherOrder (first second : String × Value) (members : List (String × Value)) : Prop :=
  members = [first, second] ∨ members = [second, first]

/-- The values that a response may be written as. -/
inductive Response.WrittenAs : Response → Value → Prop where
  | ok : Response.WrittenAs .ok (.object [("type", .string "Ok")])
  | tree {nodes : Forest} {items : List Value} {members : List (String × Value)}
      (written : Forest.WrittenAs nodes items)
      (order : InEitherOrder ("type", .string "Tree") ("nodes", .array items) members) :
      Response.WrittenAs (.tree nodes) (.object members)
  | screenshot {data : String} {members : List (String × Value)}
      (order : InEitherOrder ("type", .string "Screenshot") ("data", .string data) members) :
      Response.WrittenAs (.screenshot data) (.object members)
  | error {message : String} {members : List (String × Value)}
      (order : InEitherOrder ("type", .string "Error") ("message", .string message) members) :
      Response.WrittenAs (.error message) (.object members)

/-- The number of levels of the trees of a response. -/
def Response.depth : Response → Nat
  | .tree nodes => Forest.depth nodes
  | _ => 0

/-! ## A kind and one more member -/

theorem tagged_of_pair {α : Type} {title : String} {known : List String}
    {variant : String → Decoder α} {tag key : String} {value : Value}
    {members : List (String × Value)} (room : Nat) (there : tag ∈ known)
    (other : key ≠ Json.tagName)
    (order : InEitherOrder (Json.tagName, .string tag) (key, value) members) :
    Json.tagged title known variant (.text (room + 1)) (Value.object members).doc =
      (value.doc.hold room).bind fun _ =>
        variant tag .held (.object [(.ok key, value.doc)] none) := by
  rcases order with rfl | rfl
  · cases held : value.doc.hold room <;>
      simp [Value.doc, memberDocs, Json.tagged, Json.Source.inner, Json.foldMembers,
        Json.Tagged.member, Json.variantName, Json.textOf, Json.liftFault, Json.Source.hold,
        Json.noFault, Json.required, there, other, held, bind, pure, Except.bind, Except.pure]
  · cases held : value.doc.hold room <;>
      simp [Value.doc, memberDocs, Json.tagged, Json.Source.inner, Json.foldMembers,
        Json.Tagged.member, Json.variantName, Json.textOf, Json.liftFault, Json.Source.hold,
        Json.noFault, Json.required, there, other, held, bind, pure, Except.bind, Except.pure]

theorem responseShape_decode {α : Type} {kind label : String} {decoder : Decoder α}
    {response : α → Response} {doc : Doc} {content : α} (read : decoder .held doc = .ok content) :
    (responseShape kind label decoder response).decode .held (.object [(.ok label, doc)] none) =
      .ok (response content) := by
  have taken : (responseShape kind label decoder response).member .held
      (responseShape kind label decoder response).start label doc = .ok (some content) := by
    change (if label = label then (decoder .held doc).map some else _) = _
    rw [if_pos rfl, read]
    rfl
  have folded : Json.foldMembers ((responseShape kind label decoder response).member .held)
      (responseShape kind label decoder response).start [(.ok label, doc)] =
        .ok (some content) := by
    simp only [Json.foldMembers, Json.liftFault, bind, Except.bind, taken]
  simp only [Json.Shape.decode, Json.Source.inner, bind, Except.bind, folded, Json.noFault]
  rfl

theorem hold_text (text : String) (room : Nat) : (Value.string text).doc.hold room = .ok () := by
  rw [Json.hold_doc (.string text) room trivial]
  exact if_pos (Nat.zero_le _)

/-- A response that is written in any way is decoded, if its nesting is allowed. -/
theorem Response.decoder_of_writtenAs {response : Response} {value : Value}
    (written : response.WrittenAs value) (shallow : response.depth ≤ 62) :
    Response.decoder (.text Json.nestingLimit) value.doc = .ok response := by
  rw [Response.decoder, Json.nestingLimit_eq]
  cases written with
  | ok => rfl
  | @tree nodes items members written order =>
      obtain ⟨inRange, nesting⟩ := Forest.nesting_of_writtenAs written
      have room : (Value.array items).nesting ≤ 126 := by
        change Forest.depth nodes ≤ 62 at shallow
        omega
      have held : (Value.array items).doc.hold 126 = .ok () := by
        rw [Json.hold_doc _ _ inRange, Json.depthCheck, if_pos room]
      rw [tagged_of_pair 126 (by decide) (by decide) order, held]
      exact responseShape_decode (Forest.decoder_of_writtenAs written trivial)
  | screenshot order =>
      rw [tagged_of_pair 126 (by decide) (by decide) order, hold_text]
      exact responseShape_decode rfl
  | error order =>
      rw [tagged_of_pair 126 (by decide) (by decide) order, hold_text]
      exact responseShape_decode rfl

/-- What is written for a tree that is too deep is refused. -/
theorem Response.decoder_of_deep {nodes : Forest} (deep : 62 < Forest.depth nodes) :
    Response.decoder (.text Json.nestingLimit) (Response.tree nodes).toJson.doc =
      .error (.syntaxFault .tooDeep) := by
  have written := Forest.writtenAs_toJsonItems nodes
  have tight : (Value.array nodes.toJsonItems).nesting = 1 + 2 * Forest.depth nodes :=
    congrArg (1 + ·) (Forest.nesting_toJsonItems nodes)
  have beyond : ¬ (Value.array nodes.toJsonItems).nesting ≤ 126 := by omega
  have held : (Value.array nodes.toJsonItems).doc.hold 126 = .error (.syntaxFault .tooDeep) := by
    rw [Json.hold_doc _ _ (Forest.nesting_of_writtenAs written).1, Json.depthCheck, if_neg beyond]
  have order : InEitherOrder (Json.tagName, .string "Tree") ("nodes", .array nodes.toJsonItems)
      [("type", .string "Tree"), ("nodes", .array nodes.toJsonItems)] := .inl rfl
  rw [Response.decoder, Json.nestingLimit_eq, Response.toJson, kinded, Forest.toJson,
    tagged_of_pair 126 (by decide) (by decide) order, held]
  rfl

theorem Response.writtenAs_toJson (response : Response) :
    response.WrittenAs response.toJson := by
  cases response with
  | ok => exact .ok
  | tree nodes => exact .tree (Forest.writtenAs_toJsonItems nodes) (.inl rfl)
  | screenshot data => exact .screenshot (.inl rfl)
  | error message => exact .error (.inl rfl)

/-! ## Lines -/

/-- A line of an object is decoded as the document of that object, whatever blanks are around
it. -/
theorem ofLine_of_spells {members : List (String × Value)} {written before after : List Char}
    (spelled : Spells (.object members) written) (front : Text.AllBlank before)
    (back : Text.AllBlank after) :
    Response.ofLine (String.ofList (before ++ (written ++ after))) =
      match Response.decoder (.text Json.nestingLimit) (Value.object members).doc with
      | .ok response => .ok response
      | .error cause => .error (.invalidMessage cause.message) := by
  obtain ⟨middle, shape⟩ : ∃ middle, written = '\x7b' :: (middle ++ ['\x7d']) := by
    cases spelled with
    | emptyObject space => exact ⟨_, rfl⟩
    | object spelled => exact ⟨_, rfl⟩
  have trimmed : Text.trim (String.ofList (before ++ (written ++ after))) =
      String.ofList written := by
    rw [Text.trim, String.toList_ofList, Text.trimList_prepend front, Text.trimList_append back,
      shape, Text.trimList_of_solid (by decide) (by decide)]
  have filled : (String.ofList written).isEmpty = false := by
    simp [shape]
  have decoded := Json.decode_of_spells Response.decoder spelled Json.isGap_nil
  rw [List.append_nil] at decoded
  rw [Response.ofLine, trimmed]
  cases result : Response.decoder (.text Json.nestingLimit) (Value.object members).doc with
  | ok response => simp only [filled, Bool.false_eq_true, if_false, decoded, result]
  | error cause => simp only [filled, Bool.false_eq_true, if_false, decoded, result]

theorem ofLine_of_writtenAs {response : Response} {value : Value}
    (written : response.WrittenAs value) (shallow : response.depth ≤ 62)
    {text before after : List Char} (spelled : Spells value text) (front : Text.AllBlank before)
    (back : Text.AllBlank after) :
    Response.ofLine (String.ofList (before ++ (text ++ after))) = .ok response := by
  obtain ⟨members, rfl⟩ : ∃ members, value = .object members := by
    cases written with
    | ok => exact ⟨_, rfl⟩
    | tree _ _ => exact ⟨_, rfl⟩
    | screenshot _ => exact ⟨_, rfl⟩
    | error _ => exact ⟨_, rfl⟩
  rw [ofLine_of_spells spelled front back, Response.decoder_of_writtenAs written shallow]

theorem allBlank_nil : Text.AllBlank [] := fun _ member => nomatch member

/-- What is written for a response is read back, if its trees are not too deep. -/
theorem ofLine_compact_of_shallow {response : Response} (shallow : response.depth ≤ 62) :
    Response.ofLine response.toJson.compact = .ok response := by
  have whole := ofLine_of_writtenAs response.writtenAs_toJson shallow
    (Json.spells_compactList response.toJson) allBlank_nil allBlank_nil
  rw [List.append_nil, List.nil_append] at whole
  exact whole

theorem ofLine_compact_of_deep {nodes : Forest} (deep : 62 < Forest.depth nodes) :
    Response.ofLine (Response.tree nodes).toJson.compact =
      .error (.invalidMessage Json.Fault.tooDeep.message) := by
  have whole := ofLine_of_spells (Json.spells_compactList (Response.tree nodes).toJson)
    allBlank_nil allBlank_nil
  have refused := Response.decoder_of_deep deep
  rw [Response.toJson, kinded] at whole refused
  rw [List.append_nil, List.nil_append, refused] at whole
  exact whole

/-- Every way to write a response whose trees have at most 62 levels is read as that response, and
so is its compact form. The compact form of deeper trees is refused. -/
theorem Response.ofLine_faithful (response : Response) :
    (response.depth ≤ 62 →
      (∀ value text before after, response.WrittenAs value → Spells value text →
        Text.AllBlank before → Text.AllBlank after →
        Response.ofLine (String.ofList (before ++ (text ++ after))) = .ok response) ∧
      Response.ofLine response.toJson.compact = .ok response) ∧
    (62 < response.depth →
      Response.ofLine response.toJson.compact =
        .error (.invalidMessage Json.Fault.tooDeep.message)) := by
  refine ⟨?_, ?_⟩
  · intro shallow
    refine ⟨?_, ofLine_compact_of_shallow shallow⟩
    intro value text before after written spelled front back
    exact ofLine_of_writtenAs written shallow spelled front back
  · intro deep
    cases response with
    | tree nodes => exact ofLine_compact_of_deep deep
    | ok => exact absurd deep (by decide)
    | screenshot data => exact absurd deep (Nat.not_lt_zero _)
    | error message => exact absurd deep (Nat.not_lt_zero _)

/-- The kind comes last, one member is null and others are missing, a name is written by two
surrogates, and blanks are around the whole. A tree of 63 levels is refused. -/
theorem Response.ofLine_faithful_instance :
    Response.ofLine
        "\u3000\x7b\"nodes\":[\x7b\"role\":null,\"name\":\"\\ud83d\\uDE00\"\x7d] ,\"type\":\"Tree\"\x7d\n" =
      .ok (.tree [⟨some "😀", none, none, none, [], []⟩]) ∧
    Response.ofLine (Response.tree
        [Nat.repeat (fun node => Node.of "box" "panel" [node]) 62 (Node.leaf "box" "panel")]
      ).toJson.compact = .error (.invalidMessage Json.Fault.tooDeep.message) := by
  refine ⟨?_, (Response.ofLine_faithful _).2 (by decide +kernel)⟩
  have gap := Json.isGap_nil
  have face : Json.Letters "😀".toList "\\ud83d\\uDE00".toList := by
    have high : Json.HexUnit 0xD83D ['d', '8', '3', 'd'] :=
      .digits (w := 13) (x := 8) (y := 3) (z := 13) (by decide) (by decide) (by decide) (by decide)
    have low : Json.HexUnit 0xDE00 ['D', 'E', '0', '0'] :=
      .digits (w := 13) (x := 14) (y := 0) (z := 0) (by decide) (by decide) (by decide) (by decide)
    exact .cons (@Json.Letter.pair '😀' _ _ (by decide) high low) .nil
  have node := Json.SpellsMembers.more gap (Json.letters_self "role".toList (by decide)) gap gap
    .null gap (.last gap (Json.letters_self "name".toList (by decide)) gap gap (.string face) gap)
  have text := Spells.object (.more gap (Json.letters_self "nodes".toList (by decide)) gap gap
    (.array (.last gap (.object node) gap)) (by decide : Json.IsGap [' '])
    (.last gap (Json.letters_self "type".toList (by decide)) gap gap
      (.string (Json.letters_self "Tree".toList (by decide))) gap))
  have written : Response.WrittenAs (.tree [⟨some "😀", none, none, none, [], []⟩])
      (.object [("nodes", .array [.object [("role", .null), ("name", .string "😀")]]),
        ("type", .string "Tree")]) := by
    refine .tree (.cons (.object (by decide) ?_ ?_) .nil) (.inr rfl)
    · intro member present
      simp only [List.mem_cons, List.not_mem_nil, or_false] at present
      rcases present with rfl | rfl
      · exact .role ⟨some "😀", none, none, none, [], []⟩
      · exact .name ⟨some "😀", none, none, none, [], []⟩
    · constructor <;> decide
  have whole := ((Response.ofLine_faithful _).1 (by decide)).1 _ _ ['\u3000'] ['\n'] written text
    (by decide) (by decide)
  simpa using whole

end Rehearsal.Wire
