import Rehearsal.Proofs.Procedure.Story
/-!
# What is seen between inputs

A run that succeeds tells by its log what was shown after each of its inputs, up to the next one.
The inputs of such a log lie at known places of the script, and what the steps after a place look
for is seen there.
-/

set_option autoImplicit false

namespace Rehearsal

/-- The trees that are shown before the next input. -/
def seenNext : List Exchange → List Forest
  | .dump (.ok forest) :: later => forest :: seenNext later
  | .dump (.error _) :: later => seenNext later
  | _ => []

theorem seenNext_append {first : List Exchange} (blind : Exchange.inputs first = [])
    (later : List Exchange) : seenNext (first ++ later) = seenNext first ++ seenNext later := by
  induction first with
  | nil => rfl
  | cons entry first ih =>
      match entry with
      | .dump (.ok forest) => simp [seenNext, ih blind]
      | .dump (.error error) => simp [seenNext, ih blind]
      | .input given answer => cases blind

theorem LastShows.mem_seenNext {looks : List Exchange} {sight : Forest → Prop}
    (shows : LastShows looks sight) (blind : Exchange.inputs looks = []) :
    ∃ forest ∈ seenNext looks, sight forest := by
  obtain ⟨earlier, forest, rfl, seen⟩ := shows
  have quiet : Exchange.inputs earlier = [] := by simpa using blind
  refine ⟨forest, ?_, seen⟩
  rw [seenNext_append quiet]
  exact List.mem_append_right _ (by simp [seenNext])

theorem split_of_blind {first later before after : List Exchange} {input : Input}
    {answer : Except BackendError Unit} (blind : Exchange.inputs first = [])
    (same : first ++ later = before ++ .input input answer :: after) :
    ∃ more, before = first ++ more ∧ later = more ++ .input input answer :: after := by
  induction first generalizing before with
  | nil => exact ⟨before, rfl, same⟩
  | cons entry first ih =>
      cases before with
      | nil =>
          obtain ⟨rfl, -⟩ := List.cons.inj same
          cases blind
      | cons other before =>
          obtain ⟨rfl, rest⟩ := List.cons.inj same
          have quiet : Exchange.inputs first = [] := by
            cases entry with
            | dump answer => exact blind
            | input given answer => cases blind
          obtain ⟨more, rfl, later⟩ := ih quiet rest
          exact ⟨more, rfl, later⟩

def Yield.texts : Yield → List String
  | .text shown => [shown]
  | _ => []

namespace Step

/-- Whether some inputs of a log carry out given orders, one after the other, and whenever inputs
do, the trees that are shown before the next input are as they should be. -/
def ShownAfter (last : List Order) (log : List Exchange) (sight : List Forest → Prop) : Prop :=
  last <:+: given log ∧
    ∀ before input answer after, log = before ++ .input input answer :: after →
      last <:+ given (before ++ [.input input answer]) → sight (seenNext after)

/-- A place of a script at which an order has been carried out. -/
structure Place where
  told : List Order
  focus : Focus
  rest : List Step

/-- The places of a script, once some orders have been carried out already. -/
def places (told : List Order) : Focus → List Step → List Place
  | _, [] => []
  | focus, step :: rest =>
    match step.order? focus with
    | some order =>
      ⟨told ++ [order], step.refocus focus, rest⟩ ::
        places (told ++ [order]) (step.refocus focus) rest
    | none => places told (step.refocus focus) rest

section

variable {focus : Focus} {step : Step} {steps rest : List Step} {yield : Yield}
  {texts : List String} {result : Except RunError (List String)} {log : List Exchange}

theorem of_collect (succeeded : collect yield result = .ok texts) :
    ∃ read, result = .ok read ∧ texts = yield.texts ++ read := by
  cases result with
  | error error => cases yield <;> cases succeeded
  | ok read => cases yield <;> cases succeeded <;> exact ⟨_, rfl, rfl⟩

theorem Story.of_cons_ok (story : Story focus (step :: rest) (.ok texts) log) :
    ∃ yield first later read, step.Accounts focus (.ok yield) first ∧
      Story (step.refocus focus) rest (.ok read) later ∧ log = first ++ later ∧
      texts = yield.texts ++ read := by
  generalize told : Except.ok texts = result at story
  cases story with
  | stopped => cases told
  | @goesOn _ _ _ yield result first later account story =>
      obtain ⟨read, rfl, same⟩ := of_collect told.symm
      exact ⟨yield, first, later, read, account, story, rfl, same⟩

theorem Story.sees (story : Story focus (step :: rest) (.ok texts) log)
    (idle : step.order? focus = none) :
    ∃ yield looks later read, Exchange.inputs looks = [] ∧ step.Sees focus yield looks ∧
      Story (step.refocus focus) rest (.ok read) later ∧ log = looks ++ later ∧
      texts = yield.texts ++ read := by
  obtain ⟨yield, first, later, read, account, story, same, told⟩ := story.of_cons_ok
  cases account with
  | looked _ blind sees => exact ⟨yield, first, later, read, blind, sees, story, same, told⟩
  | obeyed ordered => cases idle.symm.trans ordered

theorem Story.length_texts (story : Story focus steps (.ok texts) log) :
    texts.length = steps.count .widgetText := by
  induction steps generalizing focus texts log with
  | nil =>
      cases story
      rfl
  | cons step rest ih =>
      obtain ⟨yield, first, later, read, account, left, -, rfl⟩ := story.of_cons_ok
      rw [List.length_append, ih left, List.count_cons, Nat.add_comm]
      congr 1
      by_cases reads : step = .widgetText
      · subst reads
        cases account with
        | looked _ _ sees =>
            obtain ⟨-, -, -, -, -, -, -, -, -, -, rfl⟩ := sees
            rfl
        | obeyed ordered => cases ordered
      · have silent : yield.texts = [] := by
          cases account with
          | looked _ _ _ only =>
              cases yield with
              | text text => exact absurd (only text rfl) reads
              | nothing => rfl
              | found locator node => rfl
          | obeyed => rfl
        simp [silent, reads]

/-- Every input of a run that succeeds lies at a place of the script, and what comes after it is
the story of the rest. -/
theorem Story.exists_place (story : Story focus steps (.ok texts) log) (told : List Order)
    {before after : List Exchange} {input : Input} {answer : Except BackendError Unit}
    (split : log = before ++ .input input answer :: after) :
    ∃ place ∈ places told focus steps,
      place.told = told ++ given (before ++ [.input input answer]) ∧
      ∃ read, read <:+ texts ∧ Story place.focus place.rest (.ok read) after := by
  induction steps generalizing focus texts log before told with
  | nil =>
      cases story
      simp at split
  | cons step rest ih =>
      obtain ⟨yield, first, later, read, account, left, rfl, rfl⟩ := story.of_cons_ok
      rw [places]
      cases account with
      | looked idle blind =>
          obtain ⟨more, rfl, goOn⟩ := split_of_blind blind split
          obtain ⟨place, member, same, after⟩ := ih left told goOn
          rw [idle]
          refine ⟨place, member, ?_, ?_⟩
          · rw [same, List.append_assoc, given_append first, given_of_blind blind]
            rfl
          · obtain ⟨others, last, story⟩ := after
            exact ⟨others, last.trans (List.suffix_append _ _), story⟩
      | @obeyed looks own ordered blind =>
          rw [List.append_assoc] at split
          obtain ⟨more, rfl, goOn⟩ := split_of_blind blind split
          rw [ordered]
          -- The input is that of the step itself, or lies in the story of the rest.
          cases more with
          | nil =>
              cases goOn
              refine ⟨_, List.mem_cons_self, ?_, read, List.suffix_append _ _, left⟩
              simp [given, blind]
          | cons entry more =>
              obtain ⟨rfl, onward⟩ := List.cons.inj goOn
              obtain ⟨place, member, same, others, last, story⟩ :=
                ih left (told ++ [own.order]) onward
              refine ⟨place, List.mem_cons_of_mem _ member, ?_, others,
                last.trans (List.suffix_append _ _), story⟩
              simp [same, given, blind]

/-- What is shown after some orders is settled at the places of the script at which they have been
carried out. -/
theorem Story.shownAfter {last : List Order} {sight : List Forest → Prop}
    (story : Story focus steps (.ok texts) log) (ordered : last <:+: orders focus steps)
    (each : ∀ place ∈ places [] focus steps, last <:+ place.told → ∀ read after,
      read <:+ texts → Story place.focus place.rest (.ok read) after → sight (seenNext after)) :
    ShownAfter last log sight := by
  refine ⟨(story.complete rfl).1 ▸ ordered, ?_⟩
  intro before input answer after split ends
  obtain ⟨place, member, told, read, suffix, story⟩ := story.exists_place [] split
  rw [List.nil_append] at told
  exact each place member (told ▸ ends) read after suffix story

theorem Story.shownAfter_of_next {last : List Order} {sight : List Forest → Prop}
    (story : Story focus steps (.ok texts) log) (next : List Step)
    (ordered : last <:+: orders focus steps)
    (follows : ∀ place ∈ places [] focus steps, last <:+ place.told → next <+: place.rest)
    (sees : ∀ focus rest texts log, Story focus (next ++ rest) (.ok texts) log →
      sight (seenNext log)) :
    ShownAfter last log sight := by
  refine story.shownAfter ordered ?_
  intro place member ends read after _ goOn
  obtain ⟨rest, same⟩ := follows place member ends
  exact sees place.focus rest read after (same ▸ goOn)

end

end Step

end Rehearsal
