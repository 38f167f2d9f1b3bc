import ConsoleFeed.Subscription.Basic

/-!
# Cancelling a subscription

The first cancellation marks the feed and stops the loop, and later ones do nothing
(`cancel_cases`). Nothing else about the subscription changes, whichever it is. What is logged of
cancellations is singled out by `cancellations`; most of what happens logs nothing of the kind
(`Silent`).
-/

namespace ConsoleFeed

/-- Whether an event says that a subscription was cancelled. -/
def Event.isCancellation : Event → Bool
  | .subscriptionCancelled _ _ => true
  | _ => false

/-- The events that say that a subscription was cancelled. -/
def cancellations (events : List Event) : List Event :=
  events.filter Event.isCancellation

@[simp]
theorem cancellations_append (first second : List Event) :
    cancellations (first ++ second) = cancellations first ++ cancellations second :=
  List.filter_append ..

/-- None of the events says that a subscription was cancelled, or that an entry was deactivated. -/
def Silent (events : List Event) : Prop :=
  ∀ event ∈ events, event.isCancellation = false ∧
    ∀ streamer key subscribers, event ≠ .deactivated streamer key subscribers

theorem silent_nil : Silent [] :=
  nofun

theorem Silent.append {first second : List Event} (silent : Silent first) (others : Silent second) :
    Silent (first ++ second) :=
  List.forall_mem_append.mpr ⟨silent, others⟩

theorem Silent.cancellations {events : List Event} (silent : Silent events) :
    cancellations events = [] := by
  apply List.filter_eq_nil_iff.mpr
  intro event member
  simp [(silent event member).1]

theorem Silent.unreported {events : List Event} (silent : Silent events) {streamer key : String}
    {subscribers : Nat} : Event.deactivated streamer key subscribers ∉ events :=
  fun member => (silent _ member).2 streamer key subscribers rfl

theorem silent_trySnapshot (directory : Directory) (key : String) (options : OptionSet) :
    Silent (directory.trySnapshot key options).events := by
  simp only [Directory.trySnapshot]
  split <;> simp [Silent, Event.isCancellation]

theorem silent_takeSnapshot (directory : Directory) (key : String) (options : OptionSet) :
    Silent (directory.takeSnapshot key options).events := by
  have attempt := silent_trySnapshot directory key options
  simp only [Directory.takeSnapshot]
  split
  · exact attempt
  · rename_i snapshot _
    apply attempt.append
    cases snapshot with
    | error fault => simp [Silent, Directory.snapshotEvent, Event.isCancellation]
    | ok text? =>
        cases text? <;> simp [Silent, Directory.snapshotEvent, Event.isCancellation]

theorem silent_deliver (feed : Feed) (payload : String) : Silent (feed.deliver payload).events := by
  simp only [Feed.deliver]
  split
  · simp [Silent, Event.isCancellation]
  · dsimp only
    split <;> simp [Silent, Event.isCancellation]

namespace Subscription

variable (subscription : Subscription) (reason : CancelReason)

theorem cancel_of_cancelled (cancelled : subscription.isCancelled = true) :
    subscription.cancel reason = ⟨(), subscription, []⟩ := by
  have marked : subscription.feed.cancelled = true := cancelled
  simp [cancel, Feed.markCancelled, marked]

theorem cancel_of_uncancelled (uncancelled : subscription.isCancelled = false) :
    subscription.cancel reason =
      ⟨(), { subscription with
          feed := { subscription.feed with cancelled := true }
          phase := LoopPhase.stopped subscription.phase },
        [.subscriptionCancelled subscription.key reason]⟩ := by
  have unmarked : subscription.feed.cancelled = false := uncancelled
  simp [cancel, Feed.markCancelled, unmarked]

theorem cancel_cases :
    subscription.isCancelled = true ∧ subscription.cancel reason = ⟨(), subscription, []⟩ ∨
      subscription.isCancelled = false ∧ subscription.cancel reason =
        ⟨(), { subscription with
            feed := { subscription.feed with cancelled := true }
            phase := LoopPhase.stopped subscription.phase },
          [.subscriptionCancelled subscription.key reason]⟩ := by
  cases marked : subscription.isCancelled with
  | true => exact Or.inl ⟨rfl, subscription.cancel_of_cancelled reason marked⟩
  | false => exact Or.inr ⟨rfl, subscription.cancel_of_uncancelled reason marked⟩

@[simp]
theorem isCancelled_cancel : (subscription.cancel reason).state.isCancelled = true := by
  rcases subscription.cancel_cases reason with ⟨marked, same⟩ | ⟨_, changed⟩
  · rw [same, marked]
  · rw [changed]
    rfl

@[simp]
theorem key_cancel : (subscription.cancel reason).state.key = subscription.key := by
  rcases subscription.cancel_cases reason with ⟨_, same⟩ | ⟨_, same⟩
  · rw [same]
  · rw [same]
    rfl

@[simp]
theorem options_cancel :
    (subscription.cancel reason).state.feed.options = subscription.feed.options := by
  rcases subscription.cancel_cases reason with ⟨_, same⟩ | ⟨_, same⟩ <;> rw [same]

@[simp]
theorem channel_cancel :
    (subscription.cancel reason).state.feed.channel = subscription.feed.channel := by
  rcases subscription.cancel_cases reason with ⟨_, same⟩ | ⟨_, same⟩ <;> rw [same]

@[simp]
theorem lent_cancel : (subscription.cancel reason).state.lent = subscription.lent := by
  rcases subscription.cancel_cases reason with ⟨_, same⟩ | ⟨_, same⟩ <;> rw [same]

/-- Cancelling does not look at the handles that are lent. -/
theorem cancel_lent (lent : Nat) :
    { subscription with lent := lent }.cancel reason =
      ⟨(), { (subscription.cancel reason).state with lent := lent },
        (subscription.cancel reason).events⟩ := by
  have marks : { subscription with lent := lent }.isCancelled = subscription.isCancelled := rfl
  rcases subscription.cancel_cases reason with ⟨marked, same⟩ | ⟨unmarked, changed⟩
  · rw [same, cancel_of_cancelled _ _ (marks.trans marked)]
  · rw [changed, cancel_of_uncancelled _ _ (marks.trans unmarked)]
    rfl

end Subscription

end ConsoleFeed
