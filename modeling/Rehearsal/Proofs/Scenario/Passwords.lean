import Rehearsal.Proofs.Scenario.Rehearsals
/-!
# The rehearsal with the encrypted document

A wrong password has to leave the dialog open, and the right one has to close it. On a viewer that
takes any password, or that keeps the dialog, the scenario fails, though for different reasons.
-/

set_option autoImplicit false

namespace Rehearsal

open Viewer Catalogue

variable {habits : Habits} {viewer : Viewer} {focus : Focus}

namespace Catalogue

/-- Whether a viewer asks for the password of the encrypted document, with what has been typed. -/
structure Asks (typed : String) (viewer : Viewer) : Prop where
  opened : viewer.closed = false
  document : viewer.document = some Document.encrypted
  locked : viewer.locked = true
  asks : viewer.dialog = some passwordDialog
  typed : viewer.typed = typed
  alone : viewer.preferences = false ∧ viewer.helpOpen = false

/-- The dialog that is left once a password has been taken. -/
def leftDialog (habits : Habits) : Option String :=
  if habits.keepsPasswordDialog then some passwordDialog else none

abbrev ShowsUnlocked (habits : Habits) : Viewer → Prop :=
  Displays Document.unlockedTitle (leftDialog habits)

theorem dialog_of_keeps (keeps : habits.keepsPasswordDialog = true)
    (takes : ShowsUnlocked habits viewer) : viewer.dialog = some passwordDialog := by
  rw [takes.dialog, leftDialog, keeps]
  rfl

theorem dialog_of_closes (closes : habits.keepsPasswordDialog = false)
    (takes : ShowsUnlocked habits viewer) : viewer.dialog = none := by
  rw [takes.dialog, leftDialog, closes]
  rfl

theorem cancel_mem_passwordDialog (viewer : Viewer) :
    button "Cancel" ∈ viewer.dialogItems passwordDialog := by
  simp [dialogItems]

def inDialog : Focus := ⟨some (.dialog "Enter password"), none⟩

def inFrame : Focus := ⟨some (.frame (Document.lockedTitle Document.encrypted)), none⟩

theorem asks_launched (app : String) : Asks "" (launched app (some Document.encrypted)) :=
  ⟨rfl, rfl, rfl, rfl, rfl, rfl, rfl⟩

section

variable {typed : String} (asks : Asks typed viewer)

include asks

theorem Asks.title : viewer.title = Document.lockedTitle Document.encrypted := by
  simp [Viewer.title, asks.document, asks.locked]

theorem brings_focusPassword (focus : Focus) :
    Brings habits [Step.focusDialog "Enter password"] focus viewer inDialog (Asks typed) :=
  ⟨viewer, asks, fun _ => follow?_focusDialog "Enter password" asks.opened asks.asks⟩

theorem brings_typePassword (text : String) (focus : Focus) :
    Brings habits [.typeText text] focus viewer focus (Asks (typed ++ text)) :=
  ⟨{ viewer with typed := viewer.typed ++ text },
    ⟨asks.opened, asks.document, asks.locked, asks.asks, by rw [asks.typed], asks.alone⟩,
    fun _ => follow?_typeText text⟩

theorem brings_refused (strict : habits.acceptsAnyPassword = false)
    (wrong : typed ≠ Document.password) :
    Brings habits [press "Unlock Document"] inDialog viewer inDialog (Asks "") := by
  refine ⟨{ viewer with
      typed := ""
      failedUnlocks := viewer.failedUnlocks + 1
      clicks := viewer.clicks ++ ["Unlock Document"] },
    ⟨asks.opened, asks.document, asks.locked, asks.asks, rfl, asks.alone⟩, fun rest => ?_⟩
  rw [List.singleton_append, inDialog, follow?_unlock_in_dialog asks.opened asks.asks,
    unlock_refused strict (by exact asks.typed ▸ wrong)]

theorem brings_accepted
    (accepted : habits.acceptsAnyPassword = true ∨ typed = Document.password) :
    Brings habits [press "Unlock Document"] inDialog viewer inDialog
      (ShowsUnlocked habits) := by
  refine ⟨{ viewer with
      locked := false
      dialog := if habits.keepsPasswordDialog then viewer.dialog else none
      typed := ""
      clicks := viewer.clicks ++ ["Unlock Document"] },
    ⟨asks.opened, by simp [Viewer.title, asks.document], by rw [asks.asks]; rfl, asks.alone⟩,
    fun rest => ?_⟩
  rw [List.singleton_append, inDialog, follow?_unlock_in_dialog asks.opened asks.asks,
    unlock_accepted (by exact asks.typed ▸ accepted)]

theorem brings_askAgain :
    Brings habits [press "Cancel", Step.focusFrame (Document.lockedTitle Document.encrypted),
      press "Unlock Document"] inDialog viewer inFrame (Asks "") := by
  have cancel := cancel_mem_passwordDialog viewer
  refine ⟨{ viewer with
      dialog := some passwordDialog
      typed := ""
      clicks := viewer.clicks ++ ["Cancel"] ++ ["Unlock Document"] },
    ⟨asks.opened, asks.document, asks.locked, rfl, rfl, asks.alone⟩, fun rest => ?_⟩
  simp only [List.cons_append, List.nil_append]
  rw [follow?_press (mem_names_of_dialog asks.opened asks.asks cancel) (by decide),
    follow?_focusFrame _ (by exact asks.opened) (by exact asks.title),
    follow?_unlock_in_frame (by exact asks.opened) (by exact asks.locked) (by exact asks.title)]
  rfl

end

def wrongTry : List Step :=
  [Step.focusDialog "Enter password"] ++ ([.typeText "wrong password"] ++ [press "Unlock Document"])

/-- What follows on the wrong password: the dialog is asked for again, and the right one tried. -/
def rightTry : List Step :=
  [Step.focusDialog "Enter password"] ++
    ([press "Cancel", Step.focusFrame (Document.lockedTitle Document.encrypted),
        press "Unlock Document"] ++
      ([.typeText Document.password] ++
        ([Step.focusDialog "Enter password"] ++ [press "Unlock Document"])))

theorem script_encryptedFile (app : String) :
    encryptedFile.script app =
      wrongTry ++ (rightTry ++ ([.waitForClosed (.dialog "Enter password")] ++
        ([Step.focusFrame Document.unlockedTitle] ++ closeWindow))) :=
  rfl

theorem brings_wrongTry (strict : habits.acceptsAnyPassword = false) (asks : Asks "" viewer) :
    Brings habits wrongTry .none viewer inDialog (Asks "") := by
  refine (brings_focusPassword asks .none).trans fun _ asks => ?_
  refine (brings_typePassword asks "wrong password" inDialog).trans fun _ asks => ?_
  exact brings_refused asks strict (by decide)

theorem brings_wrongTry_lax (lax : habits.acceptsAnyPassword = true) (asks : Asks "" viewer) :
    Brings habits wrongTry .none viewer inDialog (ShowsUnlocked habits) := by
  refine (brings_focusPassword asks .none).trans fun _ asks => ?_
  refine (brings_typePassword asks "wrong password" inDialog).trans fun _ asks => ?_
  exact brings_accepted asks (.inl lax)

theorem brings_rightTry (asks : Asks "" viewer) :
    Brings habits rightTry inDialog viewer inDialog (ShowsUnlocked habits) := by
  refine (brings_focusPassword asks inDialog).trans fun _ asks => ?_
  refine (brings_askAgain asks).trans fun _ asks => ?_
  refine (brings_typePassword asks Document.password inFrame).trans fun _ asks => ?_
  refine (brings_focusPassword asks inFrame).trans fun _ asks => ?_
  exact brings_accepted asks (.inr rfl)

/-- Once any password has been taken there is no dialog left, or no locked document after it. -/
theorem stops_rightTry (takes : ShowsUnlocked habits viewer) :
    Stops habits rightTry inDialog viewer := by
  intro rest
  simp only [rightTry, List.cons_append, List.nil_append]
  cases keeps : habits.keepsPasswordDialog with
  | false =>
      exact follow?_focusDialog_none _ takes.opened (dialog_of_closes keeps takes)
  | true =>
      have shown := dialog_of_keeps keeps takes
      have cancel := cancel_mem_passwordDialog viewer
      have changed : viewer.title ≠ Document.lockedTitle Document.encrypted := by
        rw [takes.titled]
        decide
      rw [follow?_focusDialog "Enter password" takes.opened shown,
        follow?_press (mem_names_of_dialog takes.opened shown cancel) (by decide)]
      exact follow?_focusFrame_none rfl (by exact takes.opened) (by exact changed)
        (by exact takes.alone)

theorem encryptedFile_passes (strict : habits.acceptsAnyPassword = false)
    (closes : habits.keepsPasswordDialog = false) (app : String) :
    EndsClosed [] (encryptedFile.rehearse habits app) := by
  rw [Scenario.rehearse, script_encryptedFile]
  refine .of_brings (brings_wrongTry strict (asks_launched app)) fun _ asks => ?_
  refine .of_brings (brings_rightTry asks) fun after takes => ?_
  have closed := dialog_of_closes closes takes
  simp only [List.singleton_append]
  rw [follow?_waitForClosed _ takes.opened closed, follow?_focusFrame _ takes.opened takes.titled]
  exact endsClosed_closeWindow takes.opened

theorem stops_waitForClosed (keeps : habits.keepsPasswordDialog = true)
    (takes : ShowsUnlocked habits viewer) (focus : Focus) :
    Stops habits [.waitForClosed (.dialog "Enter password")] focus viewer := by
  have shown := dialog_of_keeps keeps takes
  exact fun rest => follow?_waitForClosed_none "Enter password" takes.opened shown

theorem encryptedFile_stops
    (defect : habits.acceptsAnyPassword = true ∨ habits.keepsPasswordDialog = true) (app : String) :
    encryptedFile.rehearse habits app = none := by
  rw [Scenario.rehearse, script_encryptedFile]
  cases lax : habits.acceptsAnyPassword with
  | true =>
      have stuck := (brings_wrongTry_lax lax (asks_launched app)).stops fun _ => stops_rightTry
      rw [← List.append_assoc]
      exact stuck _
  | false =>
      have keeps : habits.keepsPasswordDialog = true := by simpa [lax] using defect
      have tried := (brings_wrongTry lax (asks_launched app)).trans fun _ => brings_rightTry
      have stuck := tried.stops fun _ takes => stops_waitForClosed keeps takes inDialog
      rw [← List.append_assoc, ← List.append_assoc]
      exact stuck _

end Catalogue

end Rehearsal
