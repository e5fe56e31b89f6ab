import Rehearsal.Proofs.Launch.Watching
import Rehearsal.Proofs.Scenario.FailStop
import Rehearsal.Run.Harness
/-!
# The course of a run

A run looks whether there is a connection, launches the application and gives the procedure to its
body. The first of these that fails ends it with its error; an error of the closing does not.
Whatever the body is, it is begun on one procedure alone, whose trail holds the launch, and only
when the main window has been seen. No process is started without a connection, and never more than
one.
-/

set_option autoImplicit false

namespace Rehearsal

variable {σ : Type}

/-! ## Bodies made of steps -/

/-- A body that decides after every step what to do next, by what the step came to and by what the
procedure is then. -/
inductive Plan (σ : Type) where
  | ends (result : Except RunError Unit)
  | goesOn (step : Step) (next : Except RunError Yield → Procedure σ → Plan σ)

namespace Plan

def run : Plan σ → Procedure σ → Outgo σ Unit
  | .ends result, procedure => (result, procedure)
  | .goesOn step next, procedure =>
    let (result, after) := step.run procedure
    (next result after).run after

def deeds : Plan σ → Procedure σ → List (Deed σ)
  | .ends _, _ => []
  | .goesOn step next, procedure =>
    let (result, after) := step.run procedure
    ⟨step, procedure⟩ :: (next result after).deeds after

/-- A body leaves on the trail what its steps leave, in their order. -/
theorem trail_run (plan : Plan σ) (procedure : Procedure σ) :
    (plan.run procedure).2.trail =
      procedure.trail ++ (plan.deeds procedure).filterMap Deed.entered? := by
  induction plan generalizing procedure with
  | ends result => exact (List.append_nil _).symm
  | goesOn step next ih =>
      let deed : Deed σ := ⟨step, procedure⟩
      calc (run (next deed.result deed.after) deed.after).2.trail
          = deed.after.trail ++
              ((next deed.result deed.after).deeds deed.after).filterMap Deed.entered? := ih ..
        _ = procedure.trail ++ ((goesOn step next).deeds procedure).filterMap Deed.entered? := by
            rw [deed.noted.trail, List.append_assoc]
            change _ = _ ++ (deed :: (next deed.result deed.after).deeds deed.after).filterMap _
            rw [List.filterMap_cons]
            cases deed.entered? <;> rfl

/-- Whether a body looks at the procedure that it is given and then carries out a plan. -/
def Describes (plan : Procedure σ → Plan σ) (body : Procedure σ → Outgo σ Unit) : Prop :=
  ∀ procedure, body procedure = (plan procedure).run procedure

/-- The steps of a script up to the first that fails, with a judgement of the texts that are read.
-/
def ofScript (judge : List String → Except RunError Unit) : List String → List Step → Plan σ
  | texts, [] => .ends (judge texts)
  | texts, step :: rest =>
    .goesOn step fun result _ =>
      match result with
      | .error error => .ends (.error error)
      | .ok (.text text) => ofScript judge (texts ++ [text]) rest
      | .ok _ => ofScript judge texts rest

theorem run_ofScript (judge : List String → Except RunError Unit) (texts : List String)
    (steps : List Step) (procedure : Procedure σ) :
    (ofScript judge texts steps).run procedure =
      match Step.runAll steps procedure with
      | (.error error, after) => (.error error, after)
      | (.ok more, after) => (judge (texts ++ more), after) := by
  induction steps generalizing texts procedure with
  | nil =>
      rw [ofScript, run, Step.runAll]
      dsimp only
      rw [List.append_nil]
  | cons step rest ih =>
      rw [Step.runAll_cons, ofScript, run]
      rcases step.run procedure with ⟨error | yield, after⟩
      · rfl
      · cases yield with
        | text text =>
            dsimp only
            rw [ih]
            rcases Step.runAll rest after with ⟨error | more, final⟩
            · rfl
            · simp [Step.collect, Except.map]
        | _ => exact ih texts after

end Plan

/-- The plan of a scenario: its script, and what it makes of the texts in the end. -/
def Scenario.plan (scenario : Scenario) (procedure : Procedure σ) : Plan σ :=
  .ofScript (fun texts => scenario.judge (.ok texts)) [] (scenario.script procedure.app)

/-- The body of a scenario is a plan. -/
theorem Scenario.describes_run (scenario : Scenario) :
    Plan.Describes (scenario.plan : Procedure σ → Plan σ) scenario.run := by
  intro procedure
  rw [plan, Plan.run_ofScript, run_eq_judge]
  rcases Step.runAll (scenario.script procedure.app) procedure with ⟨error | texts, after⟩ <;> rfl

/-! ## The main window -/

/-- A wait that succeeds has been shown a window at the top level, which it is named for. -/
theorem MainWindow.exists_window_of_wait {backend : Backend σ} {app : String}
    {status : Nat → Except String (Option ExitStatus)} {timeout interval : Nat} {scene : Scene σ}
    {seen : Sighting}
    (found : (wait backend app status timeout interval scene).1 = .ok seen) :
    ∃ rounds forest frame,
      .tree (some (.ok forest)) ∈
        events backend app status interval (scene.clock + timeout) rounds false scene ∧
      forest.find? (·.isRole Role.frame) = some frame ∧ frame.name.getD "" = seen.title := by
  obtain ⟨rounds, earlier, event, later, split, -, decides, -⟩ :=
    @await_ends σ backend app status timeout interval (scene.clock + timeout) false scene
  unfold wait at found
  rw [found] at decides
  dsimp only [Except.map] at decides
  generalize seen.title = title at decides ⊢
  cases decides with
  | @window forest frame first =>
      refine ⟨rounds, forest, frame, ?_, first, rfl⟩
      rw [split]
      simp

namespace Machine

section

variable {machine : Machine} {settings : Settings} {file : Option String}

theorem launch_of_refused {error : RunError} {after : Machine}
    (started : machine.start settings file = (.error error, after)) (backend : Backend σ)
    (scene : Scene σ) :
    machine.launch settings backend file scene = ⟨.error error, scene, after⟩ := by
  rw [launch, started]

theorem launch_of_started {process : Process} {after : Machine}
    (started : machine.start settings file = (.ok process, after)) (backend : Backend σ)
    (scene : Scene σ) :
    let child : Child := ⟨scene.clock, process, machine.supervision⟩
    let waited := MainWindow.wait backend settings.shownName child.look settings.launchTimeout
      settings.pollInterval scene
    machine.launch settings backend file scene =
      ⟨waited.1.map fun seen => ⟨settings.shownName, seen.title, child, seen.ended⟩, waited.2,
        after⟩ := by
  rw [launch, started]

theorem waited_of_launch {backend : Backend σ} {scene : Scene σ} {app : App}
    (launched : (machine.launch settings backend file scene).result = .ok app) :
    ∃ seen, app.mainWindow = seen.title ∧
      (MainWindow.wait backend settings.shownName app.child.look settings.launchTimeout
        settings.pollInterval scene).1 = .ok seen := by
  rcases started : machine.start settings file with ⟨error | process, after⟩
  · rw [launch_of_refused started] at launched
    cases launched
  · rw [launch_of_started started] at launched
    dsimp only at launched
    cases waited : (MainWindow.wait backend settings.shownName
        (Child.look ⟨scene.clock, process, machine.supervision⟩) settings.launchTimeout
        settings.pollInterval scene).1 with
    | error error =>
        rw [waited] at launched
        cases launched
    | ok seen =>
        rw [waited] at launched
        cases launched
        exact ⟨seen, rfl, waited⟩

/-- Whether a launch has a process started in some way. -/
def Begins (machine : Machine) (settings : Settings) (file : Option String)
    (invocation : Invocation) : Prop :=
  ∃ document process,
    file.mapM (machine.document settings machine.currentDirectory) = .ok document ∧
    invocation = machine.invocation settings document ∧ machine.spawn invocation = .ok process

/-- A start is noted if it succeeds, and is the only one. -/
theorem start_cases (machine : Machine) (settings : Settings) (file : Option String) :
    (∃ error, machine.start settings file = (.error error, machine) ∧
      ∀ invocation, ¬ machine.Begins settings file invocation) ∨
    ∃ invocation process,
      machine.start settings file =
        (.ok process, { machine with started := machine.started ++ [invocation] }) ∧
      ∀ other, machine.Begins settings file other ↔ other = invocation := by
  unfold start Begins
  cases found : file.mapM (machine.document settings machine.currentDirectory) with
  | error error =>
      refine .inl ⟨error, rfl, ?_⟩
      rintro invocation ⟨document, process, same, -⟩
      cases same
  | ok document =>
      cases spawned : machine.spawn (machine.invocation settings document) with
      | error fault =>
          refine .inl ⟨.processLaunch settings.app fault.message, by simp only [spawned], ?_⟩
          rintro _ ⟨other, process, same, rfl, begun⟩
          cases same
          cases spawned.symm.trans begun
      | ok process =>
          refine .inr ⟨machine.invocation settings document, process, by simp only [spawned], ?_⟩
          intro other
          constructor
          · rintro ⟨_, _, same, begun, -⟩
            cases same
            exact begun
          · rintro rfl
            exact ⟨document, process, rfl, rfl, spawned⟩

/-- What has been started once a launch is over: the process of the launch, if there is one. There
is one if the launch succeeds. -/
theorem started_launch (machine : Machine) (settings : Settings) (backend : Backend σ)
    (file : Option String) (scene : Scene σ) :
    let launched := machine.launch settings backend file scene
    (∀ invocation, machine.Begins settings file invocation →
      launched.machine.started = machine.started ++ [invocation]) ∧
    ((∀ invocation, ¬ machine.Begins settings file invocation) → launched.machine = machine) ∧
    ((∃ app, launched.result = .ok app) →
      ∃ invocation, machine.Begins settings file invocation) := by
  intro launched
  obtain ⟨error, started, none⟩ | ⟨invocation, process, started, only⟩ :=
    machine.start_cases settings file
  · have left : launched = ⟨.error error, scene, machine⟩ := launch_of_refused started backend scene
    rw [left]
    refine ⟨fun invocation begins => absurd begins (none invocation), fun _ => rfl, ?_⟩
    rintro ⟨app, succeeded⟩
    cases succeeded
  · have noted :
        launched.machine = { machine with started := machine.started ++ [invocation] } :=
      congrArg Launched.machine (launch_of_started started backend scene)
    have begins : machine.Begins settings file invocation := (only invocation).mpr rfl
    rw [noted]
    refine ⟨fun other same => ?_, fun none => absurd begins (none invocation), fun _ => ⟨_, begins⟩⟩
    rw [(only other).mp same]

/-- The machine on which the system says other things of processes. -/
def supervisedBy (machine : Machine) (supervision : Supervision) : Machine :=
  { machine with supervision := supervision }

theorem start_supervisedBy (machine : Machine) (supervision : Supervision) (settings : Settings)
    (file : Option String) :
    (machine.supervisedBy supervision).start settings file =
      ((machine.start settings file).1,
        (machine.start settings file).2.supervisedBy supervision) := by
  have document : (machine.supervisedBy supervision).document = machine.document := rfl
  have directory : (machine.supervisedBy supervision).currentDirectory =
    machine.currentDirectory := rfl
  have invocation : (machine.supervisedBy supervision).invocation = machine.invocation := rfl
  have spawn : (machine.supervisedBy supervision).spawn = machine.spawn := rfl
  rw [start, start, document, directory, invocation, spawn]
  cases file.mapM (machine.document settings machine.currentDirectory) with
  | error error => rfl
  | ok found =>
      dsimp only
      cases machine.spawn (machine.invocation settings found) <;> rfl

/-- What the system would say of a process after a launch makes no difference to the launch. -/
theorem launch_supervisedBy {backend : Backend σ} {scene : Scene σ} {supervision : Supervision}
    (same : ∀ age ≤ (machine.launch settings backend file scene).scene.clock - scene.clock,
      supervision.lookFault age = machine.supervision.lookFault age) :
    let launched := machine.launch settings backend file scene
    let other := (machine.supervisedBy supervision).launch settings backend file scene
    other.scene = launched.scene ∧
      other.result = launched.result.map fun app =>
        { app with child := { app.child with supervision := supervision } } := by
  intro launched other
  have alike := machine.start_supervisedBy supervision settings file
  rcases started : machine.start settings file with ⟨error | process, after⟩
  · rw [started] at alike
    simp only [launched, other, launch_of_refused started, launch_of_refused alike, true_and]
    rfl
  · rw [started] at alike
    rw [launch_of_started started] at same
    have waits : MainWindow.wait backend settings.shownName
        (Child.look ⟨scene.clock, process, supervision⟩) settings.launchTimeout
        settings.pollInterval scene =
      MainWindow.wait backend settings.shownName
        (Child.look ⟨scene.clock, process, machine.supervision⟩) settings.launchTimeout
        settings.pollInterval scene := by
      refine MainWindow.await_congr false scene fun clock _ ends => ?_
      rw [Child.look, Child.look, same _ (Nat.sub_le_sub_right ends _)]
    simp only [launched, other, launch_of_started started, launch_of_started alike, supervisedBy,
      waits, true_and]
    cases (MainWindow.wait backend settings.shownName
      (Child.look ⟨scene.clock, process, machine.supervision⟩) settings.launchTimeout
      settings.pollInterval scene).1 <;> rfl

end

end Machine

/-! ## Runs -/

namespace Harness

section

variable (harness : Harness σ) (fixture : Option String)

def IsConnected : Prop := harness.backend.connected harness.scene.state = true

/-- What comes of the launch, if there is one. -/
def launch : Launched σ :=
  harness.machine.launch harness.settings harness.backend fixture harness.scene

def IsLaunched : Prop := ∃ app, (harness.launch fixture).result = .ok app

/-- The procedure once the launch is on its trail. -/
def begun : Procedure σ :=
  let launched := harness.launch fixture
  (harness.procedure.on launched.scene).recordLaunch fixture
    (launched.scene.clock - harness.scene.clock) (Procedure.outcomeOf launched.result)

/-- What a run comes to by what its body comes to. -/
def settled (app : App) : Outgo σ Unit → Except (Failure σ) (Procedure σ)
  | (.error error, after) => .error ⟨error, after, some app⟩
  | (.ok (), after) => .ok (closedAt (app.close closeGrace after.scene.clock).2 after)

/-- The error that is met first, of the connection, the launch and the body. -/
inductive Meets (body : Procedure σ → Outgo σ Unit) : RunError → Prop where
  | unconnected (apart : ¬ harness.IsConnected) : Meets body (.backend .notConnected)
  | unlaunched {error : RunError} (connected : harness.IsConnected)
      (failed : (harness.launch fixture).result = .error error) : Meets body error
  | failed {error : RunError} (connected : harness.IsConnected)
      (launched : harness.IsLaunched fixture)
      (ran : (body (harness.begun fixture)).1 = .error error) : Meets body error

def Passes (body : Procedure σ → Outgo σ Unit) : Prop :=
  harness.IsConnected ∧ harness.IsLaunched fixture ∧ (body (harness.begun fixture)).1 = .ok ()

end

def trailOf : Except (Failure σ) (Procedure σ) → Trail
  | .ok procedure => procedure.trail
  | .error failure => failure.procedure.trail

section

variable {harness : Harness σ} {fixture : Option String} {error : RunError} {app : App}

theorem execute_eq (harness : Harness σ) (fixture : Option String)
    (body : Procedure σ → Outgo σ Unit) :
    harness.execute fixture body =
      ((harness.run fixture body).1,
        { harness with
          machine := (harness.run fixture body).2
          state := stateOf (harness.run fixture body).1
          scene := sceneOf (harness.run fixture body).1 }) :=
  rfl

theorem run_of_unconnected (apart : ¬ harness.IsConnected) (body : Procedure σ → Outgo σ Unit) :
    harness.run fixture body =
      (.error ⟨.backend .notConnected, harness.procedure, none⟩, harness.machine) :=
  if_neg apart

theorem run_of_unlaunched (connected : harness.IsConnected)
    (failed : (harness.launch fixture).result = .error error) (body : Procedure σ → Outgo σ Unit) :
    harness.run fixture body =
      (.error ⟨error, harness.begun fixture, none⟩, (harness.launch fixture).machine) := by
  unfold IsConnected at connected
  rw [run, if_pos connected, begun, failed]
  unfold Harness.launch at failed ⊢
  simp only [failed, Procedure.outcomeOf]

/-- What comes of the closing is not told apart. -/
theorem run_of_launched (connected : harness.IsConnected)
    (launched : (harness.launch fixture).result = .ok app) (body : Procedure σ → Outgo σ Unit) :
    harness.run fixture body =
      (settled app (body (harness.begun fixture)), (harness.launch fixture).machine) := by
  unfold IsConnected at connected
  rw [run, if_pos connected, begun, launched]
  unfold Harness.launch at launched ⊢
  simp only [launched, Procedure.outcomeOf]
  generalize body _ = outgo
  rcases outgo with ⟨error | _, final⟩
  · rfl
  · dsimp only [settled]
    rcases app.close closeGrace final.scene.clock with ⟨fault | status, finished⟩ <;> rfl

theorem not_isLaunched (failed : (harness.launch fixture).result = .error error) :
    ¬ harness.IsLaunched fixture := by
  rintro ⟨app, launched⟩
  cases failed.symm.trans launched

/-- A run makes use of its body in one place only, and only once the launch has succeeded. -/
theorem run_congr {body other : Procedure σ → Outgo σ Unit}
    (same : harness.IsConnected → harness.IsLaunched fixture →
      other (harness.begun fixture) = body (harness.begun fixture)) :
    harness.run fixture other = harness.run fixture body := by
  by_cases connected : harness.IsConnected
  · cases result : (harness.launch fixture).result with
    | error error =>
        rw [run_of_unlaunched connected result, run_of_unlaunched connected result]
    | ok app =>
        rw [run_of_launched connected result, run_of_launched connected result,
          same connected ⟨app, result⟩]
  · rw [run_of_unconnected connected, run_of_unconnected connected]

theorem meets_or_passes (harness : Harness σ) (fixture : Option String)
    (body : Procedure σ → Outgo σ Unit) :
    (∃ failure, (harness.run fixture body).1 = .error failure ∧
        harness.Meets fixture body failure.error ∧ ¬ harness.Passes fixture body ∧
        ∀ app, failure.app = some app ↔
          harness.IsConnected ∧ (harness.launch fixture).result = .ok app) ∨
      ∃ app, (harness.launch fixture).result = .ok app ∧ harness.Passes fixture body ∧
        (harness.run fixture body).1 = settled app (.ok (), (body (harness.begun fixture)).2) := by
  by_cases connected : harness.IsConnected
  · cases result : (harness.launch fixture).result with
    | error error =>
        rw [run_of_unlaunched connected result]
        refine .inl ⟨_, rfl, .unlaunched connected result, ?_, ?_⟩
        · rintro ⟨-, launched, -⟩
          exact not_isLaunched result launched
        · intro app
          simp
    | ok app =>
        rw [run_of_launched connected result]
        rcases outgo : body (harness.begun fixture) with ⟨error | _, after⟩
        · have failed : (body (harness.begun fixture)).1 = .error error := by rw [outgo]
          refine .inl ⟨_, rfl, .failed connected ⟨app, result⟩ failed, ?_, ?_⟩
          · rintro ⟨-, -, passed⟩
            cases failed.symm.trans passed
          · intro other
            simp [connected]
        · exact .inr ⟨app, rfl, ⟨connected, ⟨app, result⟩, by rw [outgo]⟩, rfl⟩
  · rw [run_of_unconnected connected]
    refine .inl ⟨_, rfl, .unconnected connected, ?_, ?_⟩
    · rintro ⟨linked, -⟩
      exact connected linked
    · intro app
      simp [connected]

theorem trailOf_settled (app : App) (outgo : Outgo σ Unit) :
    trailOf (settled app outgo) = outgo.2.trail := by
  rcases outgo with ⟨error | _, after⟩ <;> rfl

theorem machine_run_of_connected (connected : harness.IsConnected)
    (body : Procedure σ → Outgo σ Unit) :
    (harness.run fixture body).2 = (harness.launch fixture).machine := by
  cases result : (harness.launch fixture).result with
  | error error => rw [run_of_unlaunched connected result]
  | ok app => rw [run_of_launched connected result]

theorem trailOf_run_of_launched (connected : harness.IsConnected)
    (launched : harness.IsLaunched fixture) (body : Procedure σ → Outgo σ Unit) :
    trailOf (harness.run fixture body).1 = (body (harness.begun fixture)).2.trail := by
  obtain ⟨app, launched⟩ := launched
  rw [run_of_launched connected launched, trailOf_settled]

/-- Behind the launch stands what the steps of the body leave. -/
theorem trailOf_run_of_describes (connected : harness.IsConnected)
    (launched : harness.IsLaunched fixture) {body : Procedure σ → Outgo σ Unit}
    {plan : Procedure σ → Plan σ} (describes : Plan.Describes plan body) :
    trailOf (harness.run fixture body).1 = (harness.begun fixture).trail ++
      ((plan (harness.begun fixture)).deeds (harness.begun fixture)).filterMap Deed.entered? := by
  rw [trailOf_run_of_launched connected launched, describes, Plan.trail_run]

theorem stateOf_settled (app : App) (outgo : Outgo σ Unit) :
    stateOf (settled app outgo) = match outgo.1 with
      | .ok () => .passed
      | .error _ => .failed := by
  rcases outgo with ⟨error | _, after⟩ <;> rfl

theorem outcomeOf_map {α β : Type} (convert : α → β) (result : Except RunError α) :
    Procedure.outcomeOf (result.map convert) = Procedure.outcomeOf result := by
  cases result <;> rfl

/-- The harness on whose machine the system says other things of processes. -/
def supervisedBy (harness : Harness σ) (supervision : Supervision) : Harness σ :=
  { harness with machine := harness.machine.supervisedBy supervision }

/-- What the system says of the process once the launch is over does not tell in the end. -/
theorem run_supervisedBy {supervision : Supervision}
    (same : ∀ age ≤ (harness.launch fixture).scene.clock - harness.scene.clock,
      supervision.lookFault age = harness.machine.supervision.lookFault age)
    (body : Procedure σ → Outgo σ Unit) :
    stateOf ((harness.supervisedBy supervision).run fixture body).1 =
        stateOf (harness.run fixture body).1 ∧
      trailOf ((harness.supervisedBy supervision).run fixture body).1 =
        trailOf (harness.run fixture body).1 := by
  obtain ⟨scene, result⟩ := Machine.launch_supervisedBy same
  change ((harness.supervisedBy supervision).launch fixture).scene = (harness.launch fixture).scene
    at scene
  change ((harness.supervisedBy supervision).launch fixture).result =
    (harness.launch fixture).result.map _ at result
  have begun : (harness.supervisedBy supervision).begun fixture = harness.begun fixture := by
    rw [Harness.begun, Harness.begun, scene, result, outcomeOf_map]
    rfl
  by_cases connected : harness.IsConnected
  · have joined : (harness.supervisedBy supervision).IsConnected := connected
    cases launched : (harness.launch fixture).result with
    | error error =>
        rw [launched] at result
        rw [run_of_unlaunched connected launched, run_of_unlaunched joined result, begun]
        exact ⟨rfl, rfl⟩
    | ok app =>
        rw [launched] at result
        rw [run_of_launched connected launched, run_of_launched joined result, begun,
          stateOf_settled, stateOf_settled, trailOf_settled, trailOf_settled]
        exact ⟨rfl, rfl⟩
  · have apart : ¬ (harness.supervisedBy supervision).IsConnected := connected
    rw [run_of_unconnected connected, run_of_unconnected apart]
    exact ⟨rfl, rfl⟩

theorem outcomeOf_eq_success_iff {α : Type} {result : Except RunError α} :
    Procedure.outcomeOf result = .success ↔ ∃ value, result = .ok value := by
  cases result with
  | error error => simp [Procedure.outcomeOf]
  | ok value => simp [Procedure.outcomeOf]

theorem trail_begun (harness : Harness σ) (fixture : Option String) :
    ∃ entry, (harness.begun fixture).trail = [entry] ∧
      entry.action = .launch harness.settings.shownName fixture ∧
      (entry.outcome = .success ↔ harness.IsLaunched fixture) :=
  ⟨_, rfl, rfl, outcomeOf_eq_success_iff⟩

end

/-- What a run comes to, and what it has made use of. -/
structure Course (harness : Harness σ) (fixture : Option String)
    (body : Procedure σ → Outgo σ Unit)
    (outcome : Except (Failure σ) (Procedure σ) × Harness σ) : Prop where
  passes : outcome.2.state = .passed ↔ harness.Passes fixture body
  /-- Whatever comes of closing the application, an error like an exit status, the procedure is
  returned as the body has left it, but for the time. -/
  returns : harness.Passes fixture body → ∃ app, (harness.launch fixture).result = .ok app ∧
    ∀ closed finished,
      app.close closeGrace (body (harness.begun fixture)).2.scene.clock = (closed, finished) →
      outcome.1 = .ok (closedAt finished (body (harness.begun fixture)).2)
  /-- Whatever the system says of the process once the launch is over, to whoever waits for its end
  and kills it, the run ends in the same state and with the same trail. -/
  reaped : ∀ supervision : Supervision,
    (∀ age ≤ (harness.launch fixture).scene.clock - harness.scene.clock,
      supervision.lookFault age = harness.machine.supervision.lookFault age) →
    let other := (harness.supervisedBy supervision).execute fixture body
    other.2.state = outcome.2.state ∧ trailOf other.1 = trailOf outcome.1
  fails : ¬ harness.Passes fixture body → outcome.2.state = .failed ∧
    ∃ failure, outcome.1 = .error failure ∧ harness.Meets fixture body failure.error ∧
      ∀ app, failure.app = some app ↔
        harness.IsConnected ∧ (harness.launch fixture).result = .ok app
  /-- Without a connection nothing is done and nothing started, whatever programs the machine has.
  -/
  unconnected : ¬ harness.IsConnected → trailOf outcome.1 = [] ∧
    sceneOf outcome.1 = harness.scene ∧ outcome.2.machine = harness.machine ∧
    ∀ machine, ({ harness with machine := machine }.execute fixture body).1 = outcome.1
  /-- With a connection at most one process is started, and one if the launch succeeds. -/
  starts : harness.IsConnected →
    (∀ invocation, harness.machine.Begins harness.settings fixture invocation →
      outcome.2.machine.started = harness.machine.started ++ [invocation]) ∧
    ((∀ invocation, ¬ harness.machine.Begins harness.settings fixture invocation) →
      outcome.2.machine = harness.machine) ∧
    (harness.IsLaunched fixture →
      ∃ invocation, harness.machine.Begins harness.settings fixture invocation)
  connected : harness.IsConnected → ∃ launch, (harness.begun fixture).trail = [launch] ∧
    launch.action = .launch harness.settings.shownName fixture ∧
    (launch.outcome = .success ↔ harness.IsLaunched fixture) ∧
    (¬ harness.IsLaunched fixture → trailOf outcome.1 = [launch]) ∧
    (harness.IsLaunched fixture → trailOf outcome.1 = (body (harness.begun fixture)).2.trail ∧
      ∀ plan, Plan.Describes plan body → trailOf outcome.1 =
        launch :: ((plan (harness.begun fixture)).deeds (harness.begun fixture)).filterMap
          Deed.entered?)
  /-- The plan of a scenario is one that describes its body. -/
  rehearses : ∀ scenario : Scenario, body = scenario.run → Plan.Describes scenario.plan body ∧
    (harness.Passes fixture body → trailOf outcome.1 = (harness.begun fixture).trail ++
      ((scenario.plan (harness.begun fixture)).deeds (harness.begun fixture)).filterMap
        Deed.entered?)
  /-- The body is made use of in one place at most, and only once the launch has succeeded. -/
  once : ∀ other : Procedure σ → Outgo σ Unit,
    (harness.IsConnected → harness.IsLaunched fixture →
      other (harness.begun fixture) = body (harness.begun fixture)) →
    harness.execute fixture other = outcome
  sees : ∀ app, (harness.launch fixture).result = .ok app → ∃ rounds forest frame,
    .tree (some (.ok forest)) ∈
      MainWindow.events harness.backend harness.settings.shownName app.child.look
        harness.settings.pollInterval (harness.scene.clock + harness.settings.launchTimeout)
        rounds false harness.scene ∧
    forest.find? (·.isRole Role.frame) = some frame ∧ frame.name.getD "" = app.mainWindow

/-- Every run passes exactly if there is a connection, the launch succeeds and the body does, and
fails with the first error else, whatever comes of closing the application; its trail holds the
launch and then what the body has left. -/
theorem course_execute (harness : Harness σ) (fixture : Option String)
    (body : Procedure σ → Outgo σ Unit) :
    harness.Course fixture body (harness.execute fixture body) where
  passes := by
    dsimp only [execute_eq]
    obtain ⟨failure, ran, -, unpassed, -⟩ | ⟨app, -, passed, ran⟩ :=
      harness.meets_or_passes fixture body
    · rw [ran]
      exact iff_of_false nofun unpassed
    · rw [ran]
      exact iff_of_true rfl passed
  returns := by
    intro passed
    obtain ⟨failure, -, -, unpassed, -⟩ | ⟨app, launched, -, ran⟩ :=
      harness.meets_or_passes fixture body
    · exact absurd passed unpassed
    · refine ⟨app, launched, fun closed finished closes => ?_⟩
      rw [execute_eq, ran, settled, closes]
  reaped := fun _ same => run_supervisedBy same body
  fails := by
    intro unpassed
    dsimp only [execute_eq]
    obtain ⟨failure, ran, meets, -, kept⟩ | ⟨app, -, passed, -⟩ :=
      harness.meets_or_passes fixture body
    · rw [ran]
      exact ⟨rfl, failure, rfl, meets, kept⟩
    · exact absurd passed unpassed
  unconnected := by
    intro apart
    dsimp only [execute_eq]
    rw [run_of_unconnected apart]
    refine ⟨rfl, rfl, rfl, fun machine => ?_⟩
    have elsewhere : ¬ { harness with machine := machine }.IsConnected := apart
    rw [run_of_unconnected elsewhere]
    rfl
  starts := by
    intro connected
    dsimp only [execute_eq]
    rw [machine_run_of_connected connected]
    exact harness.machine.started_launch harness.settings harness.backend fixture harness.scene
  connected := by
    intro connected
    obtain ⟨launch, begun, action, outcome⟩ := harness.trail_begun fixture
    refine ⟨launch, begun, action, outcome, ?_, fun launched => ⟨?_, fun plan describes => ?_⟩⟩
    · intro unlaunched
      cases result : (harness.launch fixture).result with
      | error error =>
          rw [execute_eq, run_of_unlaunched connected result]
          exact begun
      | ok app => exact absurd ⟨app, result⟩ unlaunched
    · rw [execute_eq, trailOf_run_of_launched connected launched]
    · rw [execute_eq, trailOf_run_of_describes connected launched describes, begun]
      rfl
  rehearses := by
    rintro scenario rfl
    refine ⟨scenario.describes_run, fun passed => ?_⟩
    rw [execute_eq, trailOf_run_of_describes passed.1 passed.2.1 scenario.describes_run]
  once := by
    intro other same
    rw [execute_eq, execute_eq, run_congr same]
  sees := by
    intro app launched
    obtain ⟨seen, named, waited⟩ := Machine.waited_of_launch launched
    rw [named]
    exact MainWindow.exists_window_of_wait waited

/-- An application that cannot be killed: closing it is an error, and the run has passed. -/
example :
    let backend : Backend Unit :=
      ⟨fun _ => true, fun _ _ _ => .now (.ok [.leaf "Main" "frame"]) (),
        fun _ _ _ _ => .now (.ok ()) (), fun _ _ => .now (.ok []) ()⟩
    let machine : Machine := { Machine.fresh ⟨.directory [], []⟩ "/" with
      supervision := ⟨fun _ => none, fun _ => some "Operation not permitted"⟩ }
    let harness : Harness Unit := .start
      { Settings.default with app := "sleep", appArgs := ["60"] } machine backend
      ⟨fun _ => ⟨[]⟩, fun _ => default⟩ ⟨(), 0⟩
    let after := (harness.execute none fun procedure => (.ok (), procedure)).2
    ((harness.launch none).result.toOption.map (fun app => (app.close closeGrace 0).1.toOption) =
        some none) ∧
      after.state = .passed ∧ after.machine.started.map Invocation.program = ["sleep"] := by
  decide +kernel

end Harness

end Rehearsal
