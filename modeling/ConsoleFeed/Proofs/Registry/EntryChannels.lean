import ConsoleFeed.Proofs.Registry.EntryMoves

/-!
# What a use does to the channels

Each entry has a channel of its own. A use does something to at most one of them, apart from the
count of stream handles: what is done with the ends of an entry's channel is done to that channel,
and a tick of the entry may publish on it (`ChannelStep`). What a use publishes on an entry is the
text that a tick of that very entry got (`published?`). So the use and the registry decide which
acts there are on the channel without its handles (`channelActs`).
-/

namespace ConsoleFeed.Registry

/-- The channel of the subscription with a number. -/
def channel? (registry : Registry) (number : Nat) : Option Channel :=
  (registry.subscription? number).map (·.feed.channel)

/-- What a use publishes on an entry: the text that a tick of this entry got, unless the entry is
cancelled. -/
def published? (registry : Registry) (number : Nat) : Use Nat → Option String
  | .onEntry entry (.endTick options) =>
      if entry = number ∧ registry.isCancelled number = false then
        (registry.directory.takeSnapshot (registry.keyOf number) options).answer.toOption
      else none
  | _ => none

/-- The acts that a use is on the channel of an entry, without its stream handles: what is done with
an end of this channel, or the publishing of the text that its tick got. -/
def channelActs (registry : Registry) (number : Nat) : Use Nat → List Channel.Act
  | .onEntry entry (.channel act) =>
      if entry = number then
        (registry.channel? number).elim [] fun channel =>
          act.onBare channel (registry.publisherHeld number)
      else []
  | use => ((registry.published? number use).map Channel.Act.publish).toList

/-- What a use does to the channel of an entry. -/
inductive ChannelStep (registry : Registry) (number : Nat) (before : Channel) :
    Use Nat → Yield Nat → Channel → Prop where
  | kept {use : Use Nat} {answer : Yield Nat} {after : Channel}
      (foreign : ∀ act, use ≠ .onEntry number (.channel act))
      (silent : registry.published? number use = none) (same : after.bare = before.bare) :
      ChannelStep registry number before use answer after
  | acted (act : Channel.EndAct) :
      ChannelStep registry number before (.onEntry number (.channel act))
        (.said (.channel (before.act (registry.publisherHeld number) act).answer))
        (before.act (registry.publisherHeld number) act).state
  | published {options : OptionSet} {text : String} {answer : Yield Nat}
      (told : registry.published? number (.onEntry number (.endTick options)) = some text) :
      ChannelStep registry number before (.onEntry number (.endTick options)) answer
        (before.publish text).2

section Steps

variable (registry : Registry)

variable {registry} in
theorem channel?_of_present {number : Nat} {subscription : Subscription}
    (present : registry.subscription? number = some subscription) :
    registry.channel? number = some subscription.feed.channel := by
  rw [channel?, present]
  rfl

theorem channel?_onEntry_of_ne {number other : Nat} (different : other ≠ number)
    (act : EntryAct) :
    (registry.onEntry number act).state.channel? other = registry.channel? other := by
  cases present : registry.subscription? number with
  | none => simp only [Registry.onEntry, present]
  | some subscription =>
      rw [onEntry_eq present act]
      have same : ∀ later : Subscription, (registry.changing number fun _ => later).channel? other =
          registry.channel? other := by
        intro later
        simp only [channel?]
        rw [subscription?_changing, if_neg different]
      exact same _

/-- An act on an end of an entry's channel is one on the channel, and leaves the publisher as it is.
-/
theorem channel?_onEntry {number : Nat} {channel : Channel}
    (present : registry.channel? number = some channel) (act : Channel.EndAct) :
    (registry.onEntry number (.channel act)).state.channel? number =
        some (channel.act (registry.publisherHeld number) act).state ∧
      (registry.onEntry number (.channel act)).state.publisherHeld number =
        registry.publisherHeld number := by
  rcases Option.map_eq_some_iff.mp present with ⟨subscription, found, rfl⟩
  have held := publisherHeld_of_present found
  let later := subscription.withChannel
    (subscription.feed.channel.act (registry.publisherHeld number) act).state
  have there : (registry.onEntry number (.channel act)).state.subscription? number =
      some later := by
    rw [onEntry_eq found (.channel act)]
    have changed := registry.subscription?_changing number (fun _ => later) number
    rw [if_pos rfl, found] at changed
    simp only [EntryAct.outcome, ← held]
    exact changed
  refine ⟨channel?_of_present there, ?_⟩
  rw [held, publisherHeld_of_present there]
  rw [onEntry_eq found (.channel act)]
  rfl

variable {registry}

/-- A tick of a live entry publishes the text that it takes. -/
theorem endTick_publishes {number : Nat} {subscription : Subscription} {options : OptionSet}
    {text : String} (present : registry.subscription? number = some subscription)
    (live : subscription.isCancelled = false)
    (taken : (registry.directory.takeSnapshot subscription.key options).answer = .ok text) :
    (registry.endTick number options).answer = true ∧
      (registry.endTick number options).state.channel? number =
        some (subscription.feed.channel.publish text).2 := by
  have unmarked : subscription.feed.cancelled = false := live
  have changed := registry.subscription?_changing number (fun _ => delivered text subscription)
    number
  rw [if_pos rfl, present] at changed
  simp only [endTick_of_present present, taken]
  refine ⟨by simp [live], ?_⟩
  have there : ({ registry.changing number (fun _ => delivered text subscription) with
      directory := (registry.directory.takeSnapshot subscription.key options).state }).channel?
        number = some (delivered text subscription).feed.channel :=
    channel?_of_present changed
  simpa [delivered, Feed.deliver, unmarked] using there

/-- Only a tick of an entry publishes on it. -/
theorem published?_of_foreign {number : Nat} {use : Use Nat}
    (foreign : ∀ options, use ≠ .onEntry number (.endTick options)) :
    registry.published? number use = none := by
  unfold published?
  split
  · rename_i entry options
    apply if_neg
    rintro ⟨rfl, _⟩
    exact foreign options rfl
  · rfl

/-- A tick of an entry publishes the text that it takes, unless the entry is cancelled. -/
theorem published?_endTick {number : Nat} {before : Subscription}
    (present : registry.subscription? number = some before) (options : OptionSet) :
    registry.published? number (.onEntry number (.endTick options)) =
      if before.isCancelled then none
      else (registry.directory.takeSnapshot before.key options).answer.toOption := by
  have marked : registry.isCancelled number = before.isCancelled := by
    simp [isCancelled, present]
  simp only [published?, marked, keyOf_of_present present, true_and]
  cases before.isCancelled <;> rfl

/-- An act on an entry is a step of its channel. -/
theorem channelStep_outcome {number : Nat} {before : Subscription}
    (present : registry.subscription? number = some before) (act : EntryAct) :
    ChannelStep registry number before.feed.channel (.onEntry number act)
      (.said (act.outcome before (registry.inTable number) registry.directory).answer)
      (act.outcome before (registry.inTable number) registry.directory).state.1.feed.channel := by
  cases act with
  | giveBack =>
      apply ChannelStep.kept (by simp) rfl
      simp only [EntryAct.outcome]
      split
      · rfl
      · exact congrArg Channel.bare (Subscription.channel_cancel _ .handleDropped)
  | cancel => exact .kept (by simp) rfl (congrArg Channel.bare (before.channel_cancel .cancelled))
  | channel act =>
      simp only [EntryAct.outcome, ← publisherHeld_of_present present]
      exact .acted act
  | beginTick =>
      apply ChannelStep.kept (by simp) rfl
      simp only [EntryAct.outcome]
      split <;> rfl
  | endTick options =>
      have told := published?_endTick present options
      simp only [EntryAct.outcome]
      cases taken : (registry.directory.takeSnapshot before.key options).answer with
      | error panic =>
          refine .kept (by simp) ?_ rfl
          rw [told, taken]
          cases before.isCancelled <;> rfl
      | ok text =>
          rw [taken] at told
          cases marked : before.feed.cancelled with
          | true =>
              refine .kept (by simp) ?_ ?_
              · rw [told, Subscription.isCancelled, marked]
                rfl
              · simp [delivered, Feed.deliver, marked]
          | false =>
              simp only [delivered, Feed.deliver, marked, Bool.false_eq_true, if_false]
              apply ChannelStep.published
              rw [told, Subscription.isCancelled, marked]
              rfl
  | _ => exact .kept (by simp) rfl rfl

theorem EntryMove.channelStep {number : Nat} {before after : Subscription} {use : Use Nat}
    {answer : Yield Nat} (move : EntryMove registry number before use answer after)
    (present : registry.subscription? number = some before) :
    ChannelStep registry number before.feed.channel use answer after.feed.channel := by
  cases move with
  | kept foreign _ =>
      exact .kept (fun act => foreign (.channel act))
        (published?_of_foreign fun options => foreign (.endTick options)) rfl
  | opened => exact .kept (by simp) rfl rfl
  | replaced => exact .kept (by simp) rfl rfl
  | cancelled sweeps =>
      have foreign : ∀ act, use ≠ .onEntry number act := by
        rintro act rfl
        rcases sweeps with absurd | ⟨_, absurd⟩ <;> cases absurd
      refine .kept (fun act => foreign (.channel act))
        (published?_of_foreign fun options => foreign (.endTick options)) ?_
      exact congrArg Channel.bare (before.channel_cancel .cancelled)
  | acted act => exact channelStep_outcome present act

variable (registry)

/-- The channel of every entry takes the step that a use is for it. -/
theorem channelStep_use (use : Use Nat) {number : Nat} {channel : Channel}
    (present : registry.channel? number = some channel) :
    ∃ later, (registry.use use).state.channel? number = some later ∧
      ChannelStep registry number channel use (registry.use use).answer later := by
  rcases Option.map_eq_some_iff.mp present with ⟨before, there, rfl⟩
  rcases entryMove_use there use with ⟨after, found, move⟩
  exact ⟨after.feed.channel, channel?_of_present found, move.channelStep there⟩

variable {registry} in
/-- A step is the acts that the use is on the channel, and publishes what is published in them. -/
theorem ChannelStep.bare {number : Nat} {before after : Channel} {use : Use Nat}
    {answer : Yield Nat} (step : ChannelStep registry number before use answer after)
    (present : registry.channel? number = some before) :
    after.bare = before.bare.run (registry.channelActs number use) ∧
      Channel.publishedIn (registry.channelActs number use) =
        (registry.published? number use).toList := by
  cases step with
  | kept foreign silent same =>
      have idle : registry.channelActs number use = [] := by
        unfold channelActs
        split
        · rename_i entry act
          apply if_neg
          rintro rfl
          exact foreign act rfl
        · rw [silent]
          rfl
      rw [idle, silent]
      exact ⟨same, rfl⟩
  | acted act =>
      simp only [channelActs, present, if_true, Option.elim_some]
      exact ⟨(before.bare_act _ act).1, (Channel.onBare_quiet before _ act).1⟩
  | published told =>
      simp only [channelActs, told]
      exact ⟨before.bare_publish _, rfl⟩

/-- The channel of an entry that a use makes is a new one. -/
theorem created_use (use : Use Nat) {number : Nat} {channel : Channel}
    (absent : registry.channel? number = none)
    (present : (registry.use use).state.channel? number = some channel) :
    ∃ queueCapacity, channel.bare = .create queueCapacity := by
  have nothing := Option.map_eq_none_iff.mp absent
  rcases Option.map_eq_some_iff.mp present with ⟨made, found, rfl⟩
  have new := entryMade_use nothing found
  generalize (registry.use use).answer = answer at new
  cases new with
  | closed key options settings _ => exact ⟨settings.queueCapacity, rfl⟩
  | opened settings => exact ⟨settings.queueCapacity, rfl⟩

end Steps

end ConsoleFeed.Registry
