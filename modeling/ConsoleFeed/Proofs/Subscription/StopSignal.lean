import ConsoleFeed.Proofs.Subscription.Cancelling
import ConsoleFeed.Proofs.Subscription.LoopSteps

/-!
# The stop signal

The means to send the stop signal are used up when it is sent. A subscription's loop and everyone
who has to do with it may take their steps in any order: the signal is sent in the step that cancels
the subscription first, which is also the one that logs the cancellation, and in no other one.
-/

namespace ConsoleFeed.SteppedFeed

/-- The reason for which an act cancels the subscription, if it does. -/
def Act.reason? : Act → Option CancelReason
  | .cancel reason => some reason
  | _ => none

/-- Whether the stop signal is sent in an act: the means to send it are there before and not
afterwards. -/
def signals (stepped : SteppedFeed) (act : Act) : Bool :=
  stepped.ticking.senderLeft && !(stepped.perform act).state.ticking.senderLeft

/-- Act by act, whether the stop signal is sent and which cancellations are logged. -/
def course (stepped : SteppedFeed) : List Act → List (Bool × List Event)
  | [] => []
  | act :: rest =>
      (stepped.signals act, cancellations (stepped.perform act).events) ::
        (stepped.perform act).state.course rest

/-- The reasons for which acts cancel the subscription, in their order. -/
def reasons (acts : List Act) : List CancelReason :=
  acts.filterMap Act.reason?

variable {stepped : SteppedFeed}

/-- A step of the loop cancels nothing. -/
theorem loopStep_keeps (stepped : SteppedFeed) :
    cancellations stepped.loopStep.events = [] ∧
      stepped.loopStep.state.ticking.senderLeft = stepped.ticking.senderLeft ∧
      stepped.loopStep.state.ticking.feed.cancelled = stepped.ticking.feed.cancelled ∧
      stepped.loopStep.state.ticking.feed.key = stepped.ticking.feed.key := by
  cases stage : stepped.stage with
  | polling =>
      simp only [loopStep, stage]
      split <;> exact ⟨rfl, rfl, rfl, rfl⟩
  | taken => simp [loopStep, stage, cancellations]
  | asking options =>
      have silent := (silent_takeSnapshot stepped.ticking.directory stepped.ticking.feed.key
        options).cancellations
      simp only [loopStep, stage]
      split <;> exact ⟨silent, rfl, rfl, rfl⟩
  | delivering payload =>
      have silent := (silent_deliver stepped.ticking.feed payload).cancellations
      have keeps := Registry.deliver_keeps stepped.ticking.feed payload
      simp only [loopStep, stage]
      split
      · exact ⟨silent, rfl, keeps.2, keeps.1⟩
      · refine ⟨?_, rfl, keeps.2, keeps.1⟩
        rw [cancellations_append, silent]
        rfl
  | lost => simp [loopStep, stage, cancellations]

/-- An act that cancels a subscription for the first time sends the signal and logs it. Any other
act sends none, logs no cancellation, and leaves the mark as it is. -/
theorem perform_cases (sound : stepped.Sound) (act : Act) :
    (∃ reason, act.reason? = some reason ∧ stepped.ticking.feed.cancelled = false ∧
        stepped.signals act = true ∧
        cancellations (stepped.perform act).events =
          [.subscriptionCancelled stepped.ticking.feed.key reason] ∧
        (stepped.perform act).state.ticking.feed.cancelled = true) ∨
      (act.reason? = none ∨ stepped.ticking.feed.cancelled = true) ∧
        stepped.signals act = false ∧ cancellations (stepped.perform act).events = [] ∧
        (stepped.perform act).state.ticking.feed.cancelled = stepped.ticking.feed.cancelled ∧
        (stepped.perform act).state.ticking.feed.key = stepped.ticking.feed.key := by
  have kept : ∀ {after : SteppedFeed},
      after.ticking.senderLeft = stepped.ticking.senderLeft →
        (stepped.ticking.senderLeft && !after.ticking.senderLeft) = false := by
    intro after same
    simp [same]
  cases act with
  | cancel reason =>
      cases marked : stepped.ticking.feed.cancelled with
      | true =>
          right
          have idle : stepped.cancel reason = ⟨(), stepped, []⟩ := by
            simp [cancel, Feed.markCancelled, marked]
          refine ⟨Or.inr rfl, ?_, ?_, ?_, ?_⟩ <;>
            simp [signals, perform, idle, marked, cancellations]
      | false =>
          left
          have sender := sound.sender
          rw [marked] at sender
          refine ⟨reason, rfl, rfl, ?_, ?_, ?_⟩ <;>
            simp [signals, perform, cancel, Feed.markCancelled, marked, withFeed,
              TickingFeed.stop, sender, cancellations, Event.isCancellation]
  | loop =>
      rcases stepped.loopStep_keeps with ⟨silent, sender, mark, key⟩
      exact Or.inr ⟨Or.inl rfl, kept sender, silent, mark, key⟩
  | replaceOptions options => exact Or.inr ⟨Or.inl rfl, kept rfl, rfl, rfl, rfl⟩
  | receive act => exact Or.inr ⟨Or.inl rfl, kept rfl, rfl, rfl, rfl⟩
  | elapse milliseconds => exact Or.inr ⟨Or.inl rfl, kept rfl, rfl, rfl, rfl⟩
  | changeProviders directory => exact Or.inr ⟨Or.inl rfl, kept rfl, rfl, rfl, rfl⟩

/-- Of the acts that cancel a subscription the first one is logged, and the signal is sent exactly
in the act that logs it. -/
theorem course_eq (sound : stepped.Sound) (acts : List Act) :
    ((stepped.course acts).flatMap Prod.snd =
        if stepped.ticking.feed.cancelled then []
        else (reasons acts).head?.toList.map
          (.subscriptionCancelled stepped.ticking.feed.key)) ∧
      ∀ step ∈ stepped.course acts, step.2.length = if step.1 then 1 else 0 := by
  induction acts generalizing stepped with
  | nil => simp [course, reasons]
  | cons act rest ih =>
      rcases ih (sound.perform act) with ⟨told, together⟩
      rcases perform_cases sound act with
        ⟨reason, cancels, unmarked, sent, logs, marked⟩ | ⟨spares, silent, quiet, mark, key⟩
      · rw [marked, if_pos rfl] at told
        refine ⟨by simp [course, reasons, cancels, unmarked, logs, told], ?_⟩
        exact List.forall_mem_cons.mpr ⟨by simp [sent, logs], together⟩
      · rw [mark, key] at told
        refine ⟨?_, List.forall_mem_cons.mpr ⟨by simp [silent, quiet], together⟩⟩
        simp only [course, List.flatMap_cons, quiet, List.nil_append, told]
        rcases spares with idle | marked
        · simp [reasons, idle]
        · simp [marked]

/-- The signal is sent as often as a cancellation is logged. -/
theorem countP_course (sound : stepped.Sound) (acts : List Act) :
    (stepped.course acts).countP Prod.fst = ((stepped.course acts).flatMap Prod.snd).length := by
  have together := (course_eq sound acts).2
  generalize stepped.course acts = steps at together ⊢
  induction steps with
  | nil => rfl
  | cons step rest ih =>
      rcases List.forall_mem_cons.mp together with ⟨here, others⟩
      have later := ih others
      rw [List.countP_cons, List.flatMap_cons, List.length_append, later, here, Nat.add_comm]

end ConsoleFeed.SteppedFeed
