import ConsoleFeed.Proofs.Channel.FanOut
import ConsoleFeed.Proofs.Provider.Asking
import ConsoleFeed.Proofs.Registry.Entries
import ConsoleFeed.Subscription.TickLoop

/-!
# A tick loop, step by step

An iteration of a tick loop is not one step. The loop looks at the stop signal and at the time; if a
tick is due it reads the options, asks the provider, and delivers the payload, and between any two
of these others may cancel the subscription, replace its options, or read its channel. This file
gives the loop of one subscription as these steps, and lets anyone come between.

Two steps are taken under the subscription's monitor and are therefore whole: the delivery, which
looks at the mark and publishes, and the cancellation, which sets the mark and sends the stop
signal. The mark is read under the monitor only, so it makes no difference that the signal is sent a
moment after it is set. Dropping the last handle and deactivating the entry cancel in the same way.

An iteration that nobody comes between does what `TickingFeed.tick` does, and seen as a
`Subscription` the steps do what the registry's operations do.
-/

namespace ConsoleFeed

namespace TickLoop

variable {loop : TickLoop} {now : Nat}

theorem poll_eq_stops (stops : loop.poll now = .stops) :
    loop.ended.isSome = false ∧ loop.stopping = true := by
  cases ended : loop.ended.isSome <;> cases stopping : loop.stopping <;>
    simp [poll, ended, stopping] at stops ⊢
  split at stops <;> cases stops

theorem poll_eq_ticks {nextDue : Nat} (ticks : loop.poll now = .ticks nextDue) :
    loop.ended.isSome = false ∧ loop.stopping = false := by
  cases ended : loop.ended.isSome <;> cases stopping : loop.stopping <;>
    simp [poll, ended, stopping] at ticks ⊢

end TickLoop

/-- How far the loop has come in its iteration. `lost` is a loop whose thread a lookup has ended. -/
inductive LoopStage where
  | polling
  | taken
  | asking (options : OptionSet)
  | delivering (payload : String)
  | lost

/-- What a step of the loop leaves in its history. -/
inductive LoopMark where
  | sawStop
  | tookTick
  | asked
  | published (payload : String) (subscribers : Nat)
  | discarded
deriving DecidableEq

/-- A feed and its loop in the middle of an iteration. -/
structure SteppedFeed where
  ticking : TickingFeed
  stage : LoopStage

namespace SteppedFeed

/-- Something that happens to a subscription. -/
inductive Act where
  | loop
  | cancel (reason : CancelReason)
  | replaceOptions (options : OptionSet)
  | receive (act : Channel.ReceiverAct)
  | elapse (milliseconds : Nat)
  | changeProviders (directory : Directory)

/-- A subscription that was just made, with its loop started. -/
def start (directory : Directory) (key : String) (options : OptionSet)
    (settings : StreamerSettings) : SteppedFeed :=
  ⟨(TickingFeed.start directory (Feed.create key options settings.queueCapacity)
    (max 1 settings.updateIntervalMs.toNat) (Nat.lt_of_lt_of_le Nat.zero_lt_one
      (Nat.le_max_left ..))).state, .polling⟩

/-- The next step of the loop, and what it leaves in its history. -/
def loopStep (stepped : SteppedFeed) : Reply SteppedFeed (Option LoopMark) :=
  match stepped.stage with
  | .polling =>
      match stepped.ticking.loop.poll stepped.ticking.now with
      | .waits => ⟨none, stepped, []⟩
      | .stops =>
          let finished := stepped.ticking.finish .stopSignal
          ⟨some .sawStop, ⟨finished.state, .polling⟩, finished.events⟩
      | .ticks nextDue =>
          let loop := { stepped.ticking.loop with due := nextDue }
          ⟨some .tookTick, ⟨{ stepped.ticking with loop := loop }, .taken⟩, []⟩
  | .taken => ⟨none, ⟨stepped.ticking, .asking stepped.ticking.feed.options⟩, []⟩
  | .asking options =>
      let asked := stepped.ticking.directory.takeSnapshot stepped.ticking.feed.key options
      let after := { stepped.ticking with directory := asked.state }
      match asked.answer with
      | .error _ => ⟨some .asked, ⟨after, .lost⟩, asked.events⟩
      | .ok payload => ⟨some .asked, ⟨after, .delivering payload⟩, asked.events⟩
  | .delivering payload =>
      let delivery := stepped.ticking.feed.deliver payload
      let after := { stepped.ticking with feed := delivery.state }
      match delivery.answer with
      | .published subscribers =>
          ⟨some (.published payload subscribers), ⟨after, .polling⟩, delivery.events⟩
      | .discarded =>
          let finished := after.finish .cancelled
          ⟨some .discarded, ⟨finished.state, .polling⟩, delivery.events ++ finished.events⟩
  | .lost => ⟨none, stepped, []⟩

/-- The feed after a change to what handles and loop share. -/
def withFeed (stepped : SteppedFeed) (feed : Feed) : SteppedFeed :=
  ⟨{ stepped.ticking with feed := feed }, stepped.stage⟩

/-- Cancels the subscription: the first time the feed is marked and the stop signal is sent. -/
def cancel (stepped : SteppedFeed) (reason : CancelReason) : Reply SteppedFeed Unit :=
  let marked := stepped.ticking.feed.markCancelled
  if marked.1 then
    ⟨(), ⟨(stepped.withFeed marked.2).ticking.stop.2, stepped.stage⟩,
      [.subscriptionCancelled stepped.ticking.feed.key reason]⟩
  else ⟨(), stepped, []⟩

/-- The subscription after something that happened, and what it left in the loop's history. -/
def perform (stepped : SteppedFeed) : Act → Reply SteppedFeed (Option LoopMark)
  | .loop => stepped.loopStep
  | .cancel reason => ⟨none, (stepped.cancel reason).state, (stepped.cancel reason).events⟩
  | .replaceOptions options =>
      let replaced := stepped.ticking.feed.replaceOptions options
      ⟨none, stepped.withFeed replaced.state, replaced.events⟩
  | .receive act =>
      let feed := stepped.ticking.feed
      ⟨none, stepped.withFeed { feed with channel := feed.channel.received act }, []⟩
  | .elapse milliseconds =>
      ⟨none, ⟨stepped.ticking.jump milliseconds, stepped.stage⟩, []⟩
  | .changeProviders directory =>
      ⟨none, ⟨{ stepped.ticking with directory := directory }, stepped.stage⟩, []⟩

/-- The subscription after acts, one after the other. -/
def run (stepped : SteppedFeed) (acts : List Act) : SteppedFeed :=
  acts.foldl (fun state act => (state.perform act).state) stepped

/-- What the loop's history gets in the course of acts. -/
def history (stepped : SteppedFeed) : List Act → List LoopMark
  | [] => []
  | act :: rest =>
      (stepped.perform act).answer.toList ++ (stepped.perform act).state.history rest

@[simp]
theorem run_append (stepped : SteppedFeed) (first second : List Act) :
    stepped.run (first ++ second) = (stepped.run first).run second :=
  List.foldl_append ..

/-- An iteration that nobody comes between is a whole tick. -/
theorem run_tick {ticking : TickingFeed} {nextDue : Nat}
    (ticks : ticking.loop.poll ticking.now = .ticks nextDue)
    (succeed : ticking.directory.LookupsSucceed) :
    (run ⟨ticking, .polling⟩ [.loop, .loop, .loop, .loop]) =
      ⟨(ticking.tick nextDue).state, .polling⟩ := by
  rcases (Directory.takeSnapshot_ok ticking.feed.key ticking.feed.options succeed).1 with
    ⟨payload, answer⟩
  have whole : ticking.feed.tick ticking.directory =
      ⟨.ok (ticking.feed.deliver payload).answer,
        ((ticking.directory.takeSnapshot ticking.feed.key ticking.feed.options).state,
          (ticking.feed.deliver payload).state),
        (ticking.directory.takeSnapshot ticking.feed.key ticking.feed.options).events ++
          (ticking.feed.deliver payload).events⟩ := by
    simp [Feed.tick, answer]
  cases delivered : (ticking.feed.deliver payload).answer <;>
    simp [run, perform, loopStep, TickingFeed.tick, whole, ticks, answer, delivered]

theorem run_stop {ticking : TickingFeed} (stops : ticking.loop.poll ticking.now = .stops) :
    run ⟨ticking, .polling⟩ [.loop] = ⟨(ticking.finish .stopSignal).state, .polling⟩ := by
  simp [run, perform, loopStep, stops]

/-- The stop signal is sent exactly when the feed is marked, and only a marked feed's loop ends. -/
structure Sound (stepped : SteppedFeed) : Prop where
  sender : stepped.ticking.senderLeft = !stepped.ticking.feed.cancelled
  signalled : stepped.ticking.loop.stopping = stepped.ticking.feed.cancelled
  ended : stepped.ticking.loop.ended.isSome →
    stepped.ticking.feed.cancelled = true ∧ stepped.stage = .polling

theorem sound_start (directory : Directory) (key : String) (options : OptionSet)
    (settings : StreamerSettings) : (start directory key options settings).Sound := by
  refine ⟨rfl, rfl, ?_⟩
  intro ended
  cases ended

theorem Sound.running {stepped : SteppedFeed} (sound : stepped.Sound)
    (busy : stepped.stage ≠ .polling) : stepped.ticking.loop.ended = none := by
  cases halted : stepped.ticking.loop.ended with
  | none => rfl
  | some reason => exact absurd (sound.ended (by simp [halted])).2 busy

/-- A delivery to a marked feed is dropped, and one to another feed is published. -/
theorem deliver_cases (feed : Feed) (payload : String) :
    (feed.cancelled = true ∧
        feed.deliver payload = ⟨.discarded, feed, [.tickDiscarded feed.key]⟩) ∨
      feed.cancelled = false ∧ (feed.deliver payload).answer =
          .published (feed.channel.publish payload).1 ∧
        (feed.deliver payload).state =
          { feed with channel := (feed.channel.publish payload).2 } := by
  cases marked : feed.cancelled with
  | true => simp [Feed.deliver, marked]
  | false => simp [Feed.deliver, marked]

/-- What one step of the loop does, by where it finds the loop. -/
inductive LoopMove (before after : SteppedFeed) (mark : Option LoopMark) : Prop where
  | waits (stage : before.stage = .polling)
      (poll : before.ticking.loop.poll before.ticking.now = .waits)
      (silent : mark = none) (same : after = before)
  | sees (stage : before.stage = .polling)
      (poll : before.ticking.loop.poll before.ticking.now = .stops)
      (leaves : mark = some .sawStop)
      (ends : after = ⟨(before.ticking.finish .stopSignal).state, .polling⟩)
  | takes (nextDue : Nat) (stage : before.stage = .polling)
      (poll : before.ticking.loop.poll before.ticking.now = .ticks nextDue)
      (leaves : mark = some .tookTick)
      (goesOn : after =
        ⟨{ before.ticking with loop := { before.ticking.loop with due := nextDue } }, .taken⟩)
  | reads (stage : before.stage = .taken) (silent : mark = none)
      (goesOn : after = ⟨before.ticking, .asking before.ticking.feed.options⟩)
  | asks (options : OptionSet) (payload : String) (stage : before.stage = .asking options)
      (answer : (before.ticking.directory.takeSnapshot before.ticking.feed.key options).answer =
        .ok payload)
      (leaves : mark = some .asked)
      (goesOn : after =
        ⟨{ before.ticking with
            directory :=
              (before.ticking.directory.takeSnapshot before.ticking.feed.key options).state },
          .delivering payload⟩)
  | loses (options : OptionSet) (panic : LookupPanic) (stage : before.stage = .asking options)
      (answer : (before.ticking.directory.takeSnapshot before.ticking.feed.key options).answer =
        .error panic)
      (leaves : mark = some .asked)
      (dies : after =
        ⟨{ before.ticking with
            directory :=
              (before.ticking.directory.takeSnapshot before.ticking.feed.key options).state },
          .lost⟩)
  | publishes (payload : String) (stage : before.stage = .delivering payload)
      (unmarked : before.ticking.feed.cancelled = false)
      (leaves : mark = some (.published payload (before.ticking.feed.channel.publish payload).1))
      (goesOn : after =
        ⟨{ before.ticking with
            feed :=
              { before.ticking.feed with
                channel := (before.ticking.feed.channel.publish payload).2 } }, .polling⟩)
  | drops (payload : String) (stage : before.stage = .delivering payload)
      (marked : before.ticking.feed.cancelled = true) (leaves : mark = some .discarded)
      (ends : after = ⟨(before.ticking.finish .cancelled).state, .polling⟩)
  | rests (stage : before.stage = .lost) (silent : mark = none) (same : after = before)

variable {stepped : SteppedFeed}

theorem loopMove_loopStep (stepped : SteppedFeed) :
    LoopMove stepped stepped.loopStep.state stepped.loopStep.answer := by
  cases stage : stepped.stage with
  | polling =>
      cases poll : stepped.ticking.loop.poll stepped.ticking.now with
      | waits =>
          have step : stepped.loopStep = ⟨none, stepped, []⟩ := by
            simp only [loopStep, stage, poll]
          rw [step]
          exact .waits stage poll rfl rfl
      | stops =>
          have step : stepped.loopStep = ⟨some .sawStop,
              ⟨(stepped.ticking.finish .stopSignal).state, .polling⟩,
              (stepped.ticking.finish .stopSignal).events⟩ := by
            simp only [loopStep, stage, poll]
          rw [step]
          exact .sees stage poll rfl rfl
      | ticks nextDue =>
          have step : stepped.loopStep = ⟨some .tookTick,
              ⟨{ stepped.ticking with loop := { stepped.ticking.loop with due := nextDue } },
                .taken⟩, []⟩ := by
            simp only [loopStep, stage, poll]
          rw [step]
          exact .takes nextDue stage poll rfl rfl
  | taken =>
      have step : stepped.loopStep =
          ⟨none, ⟨stepped.ticking, .asking stepped.ticking.feed.options⟩, []⟩ := by
        simp only [loopStep, stage]
      rw [step]
      exact .reads stage rfl rfl
  | asking options =>
      cases answer : (stepped.ticking.directory.takeSnapshot stepped.ticking.feed.key
        options).answer with
      | ok payload =>
          refine .asks options payload stage answer ?_ ?_ <;> simp only [loopStep, stage, answer]
      | error panic =>
          refine .loses options panic stage answer ?_ ?_ <;> simp only [loopStep, stage, answer]
  | delivering payload =>
      rcases deliver_cases stepped.ticking.feed payload with
        ⟨marked, delivery⟩ | ⟨unmarked, answer, state⟩
      · refine .drops payload stage marked ?_ ?_ <;>
          simp only [loopStep, stage, delivery]
      · refine .publishes payload stage unmarked ?_ ?_ <;>
          simp only [loopStep, stage, answer, state]
  | lost =>
      have step : stepped.loopStep = ⟨none, stepped, []⟩ := by
        simp only [loopStep, stage]
      rw [step]
      exact .rests stage rfl rfl

/-- The first cancellation marks the feed and sends the signal, and later ones do nothing. -/
theorem cancel_cases (sound : stepped.Sound) (reason : CancelReason) :
    (stepped.ticking.feed.cancelled = true ∧ (stepped.cancel reason).state = stepped) ∨
      stepped.ticking.feed.cancelled = false ∧ (stepped.cancel reason).state =
        ⟨{ stepped.ticking with
            feed := { stepped.ticking.feed with cancelled := true }
            senderLeft := false
            loop := { stepped.ticking.loop with stopping := true } }, stepped.stage⟩ := by
  have sender := sound.sender
  cases marked : stepped.ticking.feed.cancelled with
  | true => simp [cancel, Feed.markCancelled, marked]
  | false =>
      rw [marked] at sender
      simp [cancel, Feed.markCancelled, marked, withFeed, TickingFeed.stop, sender]

theorem Sound.loopStep (sound : stepped.Sound) : stepped.loopStep.state.Sound := by
  have between : stepped.stage ≠ .polling → ¬ stepped.ticking.loop.ended.isSome = true := by
    intro busy
    simp [sound.running busy]
  rcases sound with ⟨sender, signalled, ended⟩
  cases stepped.loopMove_loopStep with
  | waits stage poll silent same =>
      rw [same]
      exact ⟨sender, signalled, ended⟩
  | sees stage poll leaves ends =>
      have stopping := (TickLoop.poll_eq_stops poll).2
      rw [ends]
      exact ⟨sender, signalled, fun _ => ⟨signalled.symm.trans stopping, rfl⟩⟩
  | takes nextDue stage poll leaves goesOn =>
      have running := (TickLoop.poll_eq_ticks poll).1
      rw [goesOn]
      exact ⟨sender, signalled, fun halted => by simp [running] at halted⟩
  | reads stage silent goesOn =>
      rw [goesOn]
      exact ⟨sender, signalled, fun halted => (between (by simp [stage]) halted).elim⟩
  | asks options payload stage answer leaves goesOn =>
      rw [goesOn]
      exact ⟨sender, signalled, fun halted => (between (by simp [stage]) halted).elim⟩
  | loses options panic stage answer leaves dies =>
      rw [dies]
      exact ⟨sender, signalled, fun halted => (between (by simp [stage]) halted).elim⟩
  | publishes payload stage unmarked leaves goesOn =>
      rw [goesOn]
      exact ⟨sender, signalled, fun halted => (between (by simp [stage]) halted).elim⟩
  | drops payload stage marked leaves ends =>
      rw [ends]
      exact ⟨sender, signalled, fun _ => ⟨marked, rfl⟩⟩
  | rests stage silent same =>
      rw [same]
      exact ⟨sender, signalled, ended⟩

theorem Sound.perform (sound : stepped.Sound) (act : Act) : (stepped.perform act).state.Sound := by
  cases act with
  | loop => exact sound.loopStep
  | cancel reason =>
      rcases cancel_cases sound reason with ⟨_, same⟩ | ⟨unmarked, changed⟩
      · simp only [SteppedFeed.perform, same]
        exact sound
      · simp only [SteppedFeed.perform, changed]
        refine ⟨rfl, rfl, ?_⟩
        intro halted
        have marked := (sound.ended halted).1
        rw [unmarked] at marked
        cases marked
  | replaceOptions options => exact ⟨sound.sender, sound.signalled, sound.ended⟩
  | receive act => exact ⟨sound.sender, sound.signalled, sound.ended⟩
  | elapse milliseconds => exact ⟨sound.sender, sound.signalled, sound.ended⟩
  | changeProviders directory => exact ⟨sound.sender, sound.signalled, sound.ended⟩

theorem Sound.run (sound : stepped.Sound) (acts : List Act) : (stepped.run acts).Sound := by
  induction acts generalizing stepped with
  | nil => exact sound
  | cons act rest ih => exact ih (sound.perform act)

/-- The subscription as the registry sees it. A loop to which the stop signal was sent between two
ticks has ended, whether or not it has seen it. -/
def view (stepped : SteppedFeed) (interval : Duration) (lent : Nat) : Subscription :=
  { feed := stepped.ticking.feed
    interval := interval
    lent := lent
    phase :=
      match stepped.stage with
      | .polling =>
          if stepped.ticking.loop.stopping ∨ stepped.ticking.loop.ended.isSome then .ended
          else .waiting
      | .lost => .ended
      | _ => .ticking }

/-- Cancelling a subscription is what the registry does when a subscription is cancelled,
deactivated or let go of by the last who holds it. -/
theorem view_cancel (sound : stepped.Sound) (reason : CancelReason) (interval : Duration)
    (lent : Nat) :
    ((stepped.view interval lent).cancel reason).state =
      (stepped.cancel reason).state.view interval lent := by
  rcases cancel_cases sound reason with ⟨marked, same⟩ | ⟨unmarked, changed⟩
  · rw [same, Subscription.cancel_of_cancelled (stepped.view interval lent) reason marked]
  · rw [Subscription.cancel_of_uncancelled (stepped.view interval lent) reason unmarked, changed]
    cases stage : stepped.stage with
    | polling =>
        by_cases halted : stepped.ticking.loop.stopping = true ∨
            stepped.ticking.loop.ended.isSome = true <;>
          simp [view, stage, halted, Subscription.LoopPhase.stopped]
    | _ => simp [view, stage, Subscription.LoopPhase.stopped]

section Registry

variable {registry : Registry} {number : Nat} {interval : Duration} {lent : Nat}

/-- A tick that the registry begins is one that the loop takes and reads the options for. -/
theorem view_beginTick {nextDue : Nat}
    (present : registry.subscription? number = some (stepped.view interval lent))
    (polling : stepped.stage = .polling)
    (ticks : stepped.ticking.loop.poll stepped.ticking.now = .ticks nextDue) :
    (stepped.run [.loop, .loop]).stage = .asking stepped.ticking.feed.options ∧
    ∃ begun, registry.beginTick? number = some (stepped.ticking.feed.options, begun) ∧
      begun.subscription? number = some ((stepped.run [.loop, .loop]).view interval lent) := by
  have quiet : ¬ (stepped.ticking.loop.stopping = true ∨
      stepped.ticking.loop.ended.isSome = true) := by
    simp [TickLoop.poll_eq_ticks ticks]
  have waits : (stepped.view interval lent).phase = .waiting := by
    simp [view, polling, quiet]
  have taken : stepped.run [.loop, .loop] =
      ⟨{ stepped.ticking with loop := { stepped.ticking.loop with due := nextDue } },
        .asking stepped.ticking.feed.options⟩ := by
    simp [run, perform, loopStep, polling, ticks]
  rw [taken]
  refine ⟨rfl, registry.store number { stepped.view interval lent with phase := .ticking }, ?_, ?_⟩
  · simp only [Registry.beginTick?, present, Option.bind_some, waits, if_true]
    rfl
  · rw [registry.store_eq_changing number present fun found => { found with phase := .ticking },
      Registry.subscription?_changing, present]
    simp [view]

/-- A tick that the registry ends is one that the loop asks for and delivers. -/
theorem view_endTick (sound : stepped.Sound) {options : OptionSet}
    (present : registry.subscription? number = some (stepped.view interval lent))
    (shared : registry.directory = stepped.ticking.directory)
    (asking : stepped.stage = .asking options)
    (succeed : stepped.ticking.directory.LookupsSucceed) :
    (registry.endTick number options).state.subscription? number =
        some ((stepped.run [.loop, .loop]).view interval lent) ∧
      (registry.endTick number options).state.directory =
        (stepped.run [.loop, .loop]).ticking.directory := by
  have running := sound.running (by simp [asking])
  have key : registry.keyOf number = stepped.ticking.feed.key := by
    simp [Registry.keyOf, present, Subscription.key, view]
  rcases (Directory.takeSnapshot_ok stepped.ticking.feed.key options succeed).1 with
    ⟨payload, answer⟩
  have asked : (registry.onDirectory (·.takeSnapshot (registry.keyOf number) options)).answer =
      .ok payload := by
    simpa [Registry.onDirectory, shared, key] using answer
  have still : (registry.onDirectory
      (·.takeSnapshot (registry.keyOf number) options)).state.subscription? number =
        some (stepped.view interval lent) := present
  simp only [Registry.endTick, asked]
  rw [Registry.state_onSubscription, Registry.subscription?_changing, still]
  rcases deliver_cases stepped.ticking.feed payload with
    ⟨marked, delivery⟩ | ⟨unmarked, published, state⟩
  · simp [run, perform, loopStep, asking, answer, delivery, view, TickingFeed.finish, shared, key,
      Registry.onDirectory, Registry.changing]
  · have unsignalled : stepped.ticking.loop.stopping = false := sound.signalled.trans unmarked
    simp [run, perform, loopStep, asking, answer, published, state, view, shared, key, running,
      unsignalled, Registry.onDirectory, Registry.changing]

end Registry

end SteppedFeed

end ConsoleFeed
