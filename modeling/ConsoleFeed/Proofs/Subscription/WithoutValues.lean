import ConsoleFeed.Proofs.Provider.WithoutValues
import ConsoleFeed.Proofs.Subscription.LoopSteps

/-!
# A tick loop without option values

A loop whose providers look at no option values makes the same steps without them: each step, and
everything that may happen to the subscription in between, leaves the same marks, writes the same
log, and leads to the same state without values (`perform_withoutValues`). So runs that differ only
in option values cannot be told apart by what they log (`replies_withoutValues`).
-/

namespace ConsoleFeed

/-- The reply with its state made into another one. -/
def Reply.mapState {State Other Answer : Type} (change : State → Other)
    (reply : Reply State Answer) : Reply Other Answer :=
  ⟨reply.answer, change reply.state, reply.events⟩

namespace Reply

variable {State Other Answer : Type} (change : State → Other) (reply : Reply State Answer)

@[simp]
theorem answer_mapState : (reply.mapState change).answer = reply.answer :=
  rfl

@[simp]
theorem state_mapState : (reply.mapState change).state = change reply.state :=
  rfl

@[simp]
theorem events_mapState : (reply.mapState change).events = reply.events :=
  rfl

end Reply

/-- The feed without the values of its options. -/
def Feed.withoutValues (feed : Feed) : Feed :=
  { feed with options := feed.options.withoutValues }

theorem Feed.deliver_withoutValues (feed : Feed) (payload : String) :
    feed.withoutValues.deliver payload = (feed.deliver payload).mapState withoutValues := by
  cases marked : feed.cancelled <;> simp [deliver, withoutValues, Reply.mapState, marked]

theorem Feed.replaceOptions_withoutValues (feed : Feed) (options : OptionSet) :
    feed.withoutValues.replaceOptions options.withoutValues =
      (feed.replaceOptions options).mapState withoutValues := by
  simp only [replaceOptions, OptionSet.loggedKeys_withoutValues, withoutValues, Reply.mapState]

/-- The feed and its loop without the values of the options. -/
def TickingFeed.withoutValues (ticking : TickingFeed) : TickingFeed :=
  { ticking with feed := ticking.feed.withoutValues }

/-- The stage of the loop without the values of the options that it asks with. -/
def LoopStage.withoutValues : LoopStage → LoopStage
  | .asking options => .asking options.withoutValues
  | stage => stage

namespace SteppedFeed

/-- The feed and its loop, in the middle of an iteration, without the values of the options. -/
def withoutValues (stepped : SteppedFeed) : SteppedFeed :=
  ⟨stepped.ticking.withoutValues, stepped.stage.withoutValues⟩

/-- The act without the values of the options that it passes. -/
def Act.withoutValues : Act → Act
  | .replaceOptions options => .replaceOptions options.withoutValues
  | act => act

/-- What acts leave in the loop's history, and what they log, one after the other. -/
def replies (stepped : SteppedFeed) : List Act → List (Option LoopMark × List Event)
  | [] => []
  | act :: rest =>
      let performed := stepped.perform act
      (performed.answer, performed.events) :: replies performed.state rest

variable {stepped : SteppedFeed}

theorem loopStep_withoutValues (ignores : stepped.ticking.directory.IgnoresValues) :
    stepped.withoutValues.loopStep = stepped.loopStep.mapState withoutValues := by
  rcases stepped with ⟨ticking, stage⟩
  cases stage with
  | polling =>
      have poll : ticking.withoutValues.loop.poll ticking.withoutValues.now =
          ticking.loop.poll ticking.now := rfl
      simp only [loopStep, withoutValues, LoopStage.withoutValues, poll]
      split <;> rfl
  | taken => rfl
  | asking options =>
      have asked : ticking.withoutValues.directory.takeSnapshot ticking.withoutValues.feed.key
          options.withoutValues = ticking.directory.takeSnapshot ticking.feed.key options :=
        Directory.takeSnapshot_withoutValues ignores ticking.feed.key options
      simp only [loopStep, withoutValues, LoopStage.withoutValues, asked]
      split <;> rfl
  | delivering payload =>
      have delivered : ticking.withoutValues.feed.deliver payload =
          (ticking.feed.deliver payload).mapState Feed.withoutValues :=
        ticking.feed.deliver_withoutValues payload
      simp only [loopStep, withoutValues, LoopStage.withoutValues, delivered,
        Reply.answer_mapState]
      split <;> rfl
  | lost => rfl

theorem cancel_withoutValues (stepped : SteppedFeed) (reason : CancelReason) :
    stepped.withoutValues.cancel reason = (stepped.cancel reason).mapState withoutValues := by
  rcases stepped with ⟨⟨directory, ⟨key, options, cancelled, channel⟩, loop, now, sender⟩, stage⟩
  cases cancelled <;> cases sender <;> rfl

/-- Whatever happens to the subscription happens to it without option values too. -/
theorem perform_withoutValues (ignores : stepped.ticking.directory.IgnoresValues) (act : Act) :
    stepped.withoutValues.perform act.withoutValues =
      (stepped.perform act).mapState withoutValues := by
  cases act with
  | loop => exact loopStep_withoutValues ignores
  | cancel reason =>
      simp only [perform, Act.withoutValues, cancel_withoutValues]
      rfl
  | replaceOptions options =>
      have replaced : stepped.withoutValues.ticking.feed.replaceOptions options.withoutValues =
          (stepped.ticking.feed.replaceOptions options).mapState Feed.withoutValues :=
        stepped.ticking.feed.replaceOptions_withoutValues options
      simp only [perform, Act.withoutValues, replaced]
      rfl
  | receive act => rfl
  | elapse milliseconds => rfl
  | changeProviders directory => rfl

theorem ignoresValues_perform (ignores : stepped.ticking.directory.IgnoresValues) {act : Act}
    (changes : ∀ directory, act = .changeProviders directory → directory.IgnoresValues) :
    (stepped.perform act).state.ticking.directory.IgnoresValues := by
  cases act with
  | loop =>
      rcases stepped with ⟨ticking, stage⟩
      cases stage with
      | asking options =>
          have later := ignores.takeSnapshot ticking.feed.key options
          simp only [perform, loopStep]
          split <;> exact later
      | polling | delivering payload =>
          simp only [perform, loopStep]
          split <;> exact ignores
      | taken | lost => exact ignores
  | cancel reason =>
      rcases stepped with
        ⟨⟨directory, ⟨key, options, cancelled, channel⟩, loop, now, sender⟩, stage⟩
      cases cancelled <;> cases sender <;> exact ignores
  | changeProviders directory => exact changes directory rfl
  | _ => exact ignores

/-- A run without option values answers and logs what the run with them does. -/
theorem replies_withoutValues (ignores : stepped.ticking.directory.IgnoresValues)
    {acts : List Act}
    (changes : ∀ directory, .changeProviders directory ∈ acts → directory.IgnoresValues) :
    stepped.withoutValues.replies (acts.map Act.withoutValues) = stepped.replies acts := by
  induction acts generalizing stepped with
  | nil => rfl
  | cons act rest ih =>
      have later : (stepped.perform act).state.ticking.directory.IgnoresValues := by
        apply ignoresValues_perform ignores
        rintro directory rfl
        exact changes directory List.mem_cons_self
      have others := ih later fun directory member =>
        changes directory (List.mem_cons_of_mem _ member)
      simp only [List.map_cons, replies, perform_withoutValues ignores, Reply.answer_mapState,
        Reply.state_mapState, Reply.events_mapState, others]

theorem Act.eq_changeProviders {act : Act} {directory : Directory}
    (bare : act.withoutValues = .changeProviders directory) : act = .changeProviders directory := by
  cases act <;> cases bare
  rfl

/-- Runs that differ only in option values leave and log the same. -/
theorem replies_eq_of_withoutValues {first second : SteppedFeed}
    (same : first.withoutValues = second.withoutValues) {acts others : List Act}
    (alike : acts.map Act.withoutValues = others.map Act.withoutValues)
    (ignores : first.ticking.directory.IgnoresValues)
    (changes : ∀ directory, .changeProviders directory ∈ acts → directory.IgnoresValues) :
    first.replies acts = second.replies others := by
  have directories : first.ticking.directory = second.ticking.directory :=
    congrArg (·.ticking.directory) same
  have changesOthers : ∀ directory, .changeProviders directory ∈ others →
      directory.IgnoresValues := by
    intro directory member
    have bare : .changeProviders directory ∈ acts.map Act.withoutValues :=
      alike ▸ List.mem_map_of_mem member
    rcases List.mem_map.mp bare with ⟨act, inside, isBare⟩
    exact changes directory (Act.eq_changeProviders isBare ▸ inside)
  rw [← replies_withoutValues ignores changes, same, alike,
    replies_withoutValues (directories ▸ ignores) changesOthers]

end SteppedFeed

end ConsoleFeed
