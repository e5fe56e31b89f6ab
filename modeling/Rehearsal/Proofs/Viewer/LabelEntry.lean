import Rehearsal.Proofs.Viewer.Consistency
import Rehearsal.Proofs.Viewer.Moves
/-!
# Writing and reading the label of the page

On every viewer that is open, the main window is found by its own title, whatever wildcards that
has, and the entry for the label of the page is found below it. So what is written there is what is
read, until the default action of the entry puts it in its proper case.
-/

set_option autoImplicit false

namespace Rehearsal

/-- A check of a text goes through exactly when the text is read as expected. -/
theorem Procedure.assertWidgetText_eq_ok_iff {σ : Type} (procedure : Procedure σ)
    (expected : String) :
    (procedure.assertWidgetText expected).1 = .ok () ↔ procedure.widgetText.1 = .ok expected := by
  rw [assertWidgetText, recorded]
  rcases procedure.widgetText with ⟨_ | actual, after⟩
  · simp
  · by_cases same : actual = expected
    · simp [same]
    · cases widget : after.focus.widget <;> simp [same, widget]

theorem Procedure.runAll_of_follow? {habits : Habits} {viewer last : Viewer}
    {procedure : Procedure Viewer} {steps : List Step} {texts : List String}
    (drives : procedure.Drives habits viewer)
    (followed : Viewer.follow? habits steps procedure.focus viewer = some (texts, last)) :
    ∃ after, Step.runAll steps procedure = (.ok texts, after) ∧ after.scene.state = last := by
  have ran := settles_runAll drives steps
  rw [followed] at ran
  generalize Step.runAll steps procedure = outgo at ran ⊢
  cases ran with
  | succeeded drives => exact ⟨_, rfl, drives.2⟩

namespace Viewer

variable {habits : Habits} {viewer : Viewer} {focus : Focus} {rest : List Step}

theorem paged_operate (habits : Habits) (app : String) (file : Option String) (clock : Nat)
    (operations : List Operation) :
    (operate habits ⟨launched app file, clock⟩ operations).2.state.Paged :=
  operate_induction (motive := fun _ viewer => viewer.Paged)
    (fun _ _ input paged _ => paged.take habits input) (paged_launched app file) operations

/-- Bookmarks are of pages, so none is named like the entry. -/
theorem Paged.labelEntry_not_mem (paged : viewer.Paged) : labelEntry ∉ viewer.bookmarks := by
  intro member
  obtain ⟨page, -, same⟩ := paged.marks labelEntry member
  have first : (s!"Page {page}").toList.head? = some 'P' := by
    simp [toString, String.toList_append]
  rw [← same] at first
  exact absurd first (by decide)

/-! ## The entry below the main window -/

/-- The focus on the entry in a frame of some title. -/
def entryFocusIn (title : String) : Focus := ⟨some (.frame title), some (.named labelEntry)⟩

section

variable {title : String} (opened : viewer.closed = false) (titled : viewer.title = title)
  (unmarked : labelEntry ∉ viewer.bookmarks)

include opened titled unmarked

theorem seek?_labelEntry_in (widget : Option Selector) :
    viewer.seek? ⟨some (.frame title), widget⟩ (.named labelEntry) =
      some (.within (.frame title) (.named labelEntry),
        Node.bearing labelEntry Role.text viewer.pageLabel) := by
  -- A title is matched by itself as a pattern, and the main window is the first of all.
  have main : Forest.search? (Window.frame title).selector viewer.tree = some viewer.mainWindow :=
    search?_mainWindow opened (titled ▸ NamePattern.accepts_self _)
  refine Forest.firstOf_cons_of_located ?_ _
  rw [Forest.locate?_within, main, Option.bind_some, search?_labelEntry_main unmarked]

theorem seek?_entryFocusIn :
    viewer.seek? (entryFocusIn title) (.named labelEntry) =
      some (.within (.frame title) (.named labelEntry),
        Node.bearing labelEntry Role.text viewer.pageLabel) :=
  seek?_labelEntry_in opened titled unmarked _

theorem follow?_focusEntryIn :
    follow? habits ([Step.focusFrame title, .focusWidget "page-label-entry"] ++ rest) focus viewer =
      follow? habits rest (entryFocusIn title) viewer := by
  rw [List.cons_append, follow?_focusFrame title opened titled, List.singleton_append]
  exact follow?_focusWidget (seek?_labelEntry_in opened titled unmarked none)

theorem follow?_setEntryIn (text : String) :
    follow? habits (.setWidgetText text :: rest) (entryFocusIn title) viewer =
      follow? habits rest (entryFocusIn title) { viewer with pageLabel := text } := by
  rw [follow?_setWidgetText rfl (seek?_entryFocusIn opened titled unmarked) text,
    setText_labelEntry rfl]

theorem follow?_activateEntryIn :
    follow? habits (.activate :: rest) (entryFocusIn title) viewer =
      follow? habits rest (entryFocusIn title)
        { viewer with pageLabel := settledLabel habits viewer.pageLabel } := by
  rw [follow?_activate rfl (seek?_entryFocusIn opened titled unmarked), activate_labelEntry rfl]

theorem follow?_readEntryIn (looks : Nat) :
    follow? habits (List.replicate looks .widgetText ++ rest) (entryFocusIn title) viewer =
      (follow? habits rest (entryFocusIn title) viewer).map fun ended =>
        (List.replicate looks viewer.pageLabel ++ ended.1, ended.2) := by
  induction looks with
  | zero => simp
  | succ looks ih =>
      rw [List.replicate_succ, List.cons_append,
        follow?_widgetText rfl (seek?_entryFocusIn opened titled unmarked), ih, Option.map_map]
      rfl

/-- The entry is found, written to and read. -/
theorem follow?_writeEntryIn (text : String) (looks : Nat) :
    follow? habits
        ([Step.focusFrame title, .focusWidget "page-label-entry", .setWidgetText text] ++
          (List.replicate looks .widgetText ++ rest)) focus viewer =
      (follow? habits rest (entryFocusIn title) { viewer with pageLabel := text }).map
        fun ended => (List.replicate looks text ++ ended.1, ended.2) :=
  calc
    _ = follow? habits (.setWidgetText text :: (List.replicate looks .widgetText ++ rest))
          (entryFocusIn title) viewer :=
        follow?_focusEntryIn opened titled unmarked
    _ = follow? habits (List.replicate looks .widgetText ++ rest) (entryFocusIn title)
          { viewer with pageLabel := text } :=
        follow?_setEntryIn opened titled unmarked text
    _ = _ := follow?_readEntryIn (by exact opened) (by exact titled) (by exact unmarked) looks

theorem follow?_settleEntryIn :
    follow? habits [.activate, .widgetText] (entryFocusIn title) viewer =
      some ([settledLabel habits viewer.pageLabel],
        { viewer with pageLabel := settledLabel habits viewer.pageLabel }) :=
  calc
    _ = follow? habits (List.replicate 1 .widgetText ++ []) (entryFocusIn title)
          { viewer with pageLabel := settledLabel habits viewer.pageLabel } :=
        follow?_activateEntryIn opened titled unmarked
    _ = _ := follow?_readEntryIn (by exact opened) (by exact titled) (by exact unmarked) 1

end

/-- On an open viewer that has been operated in any way, and with any procedure that drives it, a
text that is written to the entry for the label of the page is what is read there, however often.
After the default action the text is read in upper case if the viewer normalizes labels, and as it
was written if not. Nothing else of the viewer changes. A check of the text goes through exactly
when it would be read as expected. -/
theorem label_reads_as_written (habits : Habits) (app : String) (file : Option String)
    (clock : Nat) (operations : List Operation) :
    let viewer := (operate habits ⟨launched app file, clock⟩ operations).2.state
    viewer.closed = false → ∀ procedure : Procedure Viewer, procedure.Drives habits viewer →
    ∀ (text : String) (looks : Nat),
      let entering := [Step.focusFrame viewer.title, .focusWidget "page-label-entry",
        .setWidgetText text]
      let reading := List.replicate looks Step.widgetText
      let settled := if habits.normalizesLabels then Text.upper text else text
      (∃ after, Step.runAll (entering ++ reading) procedure =
          (.ok (List.replicate looks text), after) ∧
        after.scene.state = { viewer with pageLabel := text }) ∧
      (∃ after, Step.runAll (entering ++ (reading ++ [.activate, .widgetText])) procedure =
          (.ok (List.replicate looks text ++ [settled]), after) ∧
        after.scene.state = { viewer with pageLabel := settled }) ∧
      ∀ (other : Procedure Viewer) (expected : String),
        (other.assertWidgetText expected).1 = .ok () ↔ other.widgetText.1 = .ok expected := by
  intro viewer opened procedure drives text looks entering reading settled
  have unmarked : labelEntry ∉ viewer.bookmarks :=
    (paged_operate habits app file clock operations).labelEntry_not_mem
  have written (rest : List Step) :
      follow? habits (entering ++ (reading ++ rest)) procedure.focus viewer =
        (follow? habits rest (entryFocusIn viewer.title) { viewer with pageLabel := text }).map
          fun ended => (List.replicate looks text ++ ended.1, ended.2) :=
    follow?_writeEntryIn opened rfl unmarked text looks
  refine ⟨?_, ?_, fun other expected => other.assertWidgetText_eq_ok_iff expected⟩
  · have read := written []
    rw [List.append_nil, follow?, Option.map_some, List.append_nil] at read
    exact Procedure.runAll_of_follow? drives read
  · have ended : follow? habits [.activate, .widgetText] (entryFocusIn viewer.title)
        { viewer with pageLabel := text } = some ([settled], { viewer with pageLabel := settled }) :=
      follow?_settleEntryIn (by exact opened) rfl (by exact unmarked)
    have read := written [.activate, .widgetText]
    rw [ended] at read
    exact Procedure.runAll_of_follow? drives read

/-- A viewer whose title has wildcards, with the help in front and a bookmark. -/
theorem label_reads_as_written_wild :
    let item (name : String) : Operation :=
      .perform "atril" (.click (.anywhere (.of name Role.menuItem)))
    let viewer := (operate .good ⟨launched "atril" (some "report*.pdf"), 0⟩
      (["Contents", "Last Page", "Add Bookmark", "Print…"].map item)).2.state
    let procedure := Procedure.start (backend .good) "atril" ⟨2, 1⟩
      ⟨fun _ => ⟨[]⟩, fun _ => default⟩ ⟨viewer, 0⟩
    let entering := [Step.focusFrame "report*.pdf", .focusWidget "page-label-entry",
      .setWidgetText "straße?"]
    viewer.closed = false ∧ procedure.Drives .good viewer ∧
    (∃ after, Step.runAll (entering ++ [.widgetText]) procedure = (.ok ["straße?"], after)) ∧
    ∃ after, Step.runAll (entering ++ [.widgetText, .activate, .widgetText]) procedure =
      (.ok ["straße?", "STRASSE?"], after) := by
  intro item viewer procedure entering
  have opened : viewer.closed = false := rfl
  have drives : procedure.Drives .good viewer := ⟨rfl, rfl⟩
  have upper : (if Habits.good.normalizesLabels then Text.upper "straße?" else "straße?") =
      "STRASSE?" := by decide +kernel
  obtain ⟨⟨after, read, -⟩, ⟨last, reread, -⟩, -⟩ := label_reads_as_written .good "atril"
    (some "report*.pdf") 0 (["Contents", "Last Page", "Add Bookmark", "Print…"].map item) opened
    procedure drives "straße?" 1
  rw [upper] at reread
  exact ⟨opened, drives, ⟨after, read⟩, last, reread⟩

end Viewer

end Rehearsal
