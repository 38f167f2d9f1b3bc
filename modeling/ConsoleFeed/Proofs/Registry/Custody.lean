import ConsoleFeed.Channel.Holdings
import ConsoleFeed.Proofs.Registry.EntryReadings

/-!
# Who holds an entry

An entry counts the handles lent on it, and its channel the stream handles. If these counts begin at
none and everyone who takes a handle gives back one that was taken, they are the numbers of handles
in someone's hands. What is in hands is a list of entries for each kind of handle, and a list of
receiving ends (`Custody`); every use keeps the registry in agreement with it (`Held.step`) if it
changes hands as the use says.

The publisher of an entry is gone, then, and its channel closed, when the table does not hold the
entry, no handle of either kind is in anyone's hands, and the loop has ended (`Abandoned`).
-/

namespace ConsoleFeed.Registry

/-- What is held of the entries of a registry: handles and stream handles, by the numbers of their
entries, and receiving ends. -/
structure Custody where
  handles : List Nat
  streams : List Nat
  ends : List ReceivingEnd

/-- A handle of either kind on the entry is held. -/
def Custody.Has (custody : Custody) (number : Nat) : Prop :=
  number ∈ custody.handles ∨ number ∈ custody.streams

/-- How many handles are lent on an entry after a use. -/
def Use.lentAfter (number : Nat) (use : Use Nat) (lent : Nat) : Nat :=
  match use with
  | .onEntry entry .lend => if entry = number then lent + 1 else lent
  | .onEntry entry .giveBack => if entry = number then lent - 1 else lent
  | _ => lent

/-- How many stream handles are open on a channel after an act on its ends. -/
def streamsAfterAct (act : Channel.EndAct) (streams : Nat) : Nat :=
  match act with
  | .openStream => streams + 1
  | .closeStream | .intoReceiver => streams - 1
  | _ => streams

/-- How many stream handles are open on an entry after a use that has this answer. -/
def Use.streamsAfter (number : Nat) (use : Use Nat) (answer : Yield Nat) (streams : Nat) : Nat :=
  match use, answer with
  | .onEntry entry (.channel act), _ =>
      if entry = number then streamsAfterAct act streams else streams
  | .onKey _ (.getStream _ _), .entry entry => if entry = number then streams + 1 else streams
  | _, _ => streams

/-- Whether something changes hands in an act. -/
def EntryAct.passes : EntryAct → Bool
  | .lend | .giveBack | .channel .openStream | .channel .closeStream | .channel .intoReceiver
  | .channel (.leave _) => true
  | _ => false

/-- The registry agrees with what is held of its entries. -/
structure Held (registry : Registry) (custody : Custody) : Prop where
  owned : registry.Owned
  recorded : registry.Recorded
  stopped : ∀ number subscription, registry.subscription? number = some subscription →
    subscription.isCancelled = true → subscription.phase ≠ .waiting
  counted : ∀ number subscription, registry.subscription? number = some subscription →
    subscription.lent = custody.handles.count number ∧
      subscription.feed.channel.streams = custody.streams.count number
  inUse : ∀ number, custody.Has number → number < registry.subscriptions.length
  apart : custody.ends.Nodup
  listening : ∀ receiving ∈ custody.ends, ∃ channel inbox,
    registry.channel? receiving.channel = some channel ∧
      Channel.Serves channel.bare receiving.receiver inbox

section Moves

variable {registry : Registry} {number : Nat} {before after : Subscription} {used : Use Nat}
  {answer : Yield Nat}

theorem streams_publish (channel : Channel) (text : String) :
    (channel.publish text).2.streams = channel.streams := by
  simp only [Channel.publish]
  split <;> rfl

theorem streams_read {channel later : Channel} {publisherHeld : Bool} {id : Nat}
    {reading : Reading} (reads : channel.read? publisherHeld id = some (reading, later)) :
    later.streams = channel.streams := by
  rw [Channel.read?_eq] at reads
  rcases Option.map_eq_some_iff.mp reads with ⟨receiver, _, same⟩
  cases same
  rfl

theorem streams_act (channel : Channel) (publisherHeld : Bool) (act : Channel.EndAct) :
    (channel.act publisherHeld act).state.streams = streamsAfterAct act channel.streams := by
  cases act with
  | read id =>
      simp only [Channel.act, streamsAfterAct]
      split
      · rfl
      · rename_i reads
        exact streams_read reads
  | next id =>
      simp only [Channel.act, streamsAfterAct]
      split
      · rfl
      · rename_i reply gives
        simp only [Channel.nextItem?] at gives
        split at gives
        · cases gives
        · rename_i reads
          rcases Option.map_eq_some_iff.mp gives with ⟨_, readsAgain, rfl⟩
          exact (streams_read readsAgain).trans (streams_read reads)
        · rename_i reads
          cases gives
          exact streams_read reads
  | _ => rfl

theorem EntryMove.lent (move : EntryMove registry number before used answer after) :
    after.lent = used.lentAfter number before.lent := by
  cases move with
  | kept foreign _ =>
      unfold Use.lentAfter
      split
      · rename_i entry
        rw [if_neg]
        rintro rfl
        exact foreign .lend rfl
      · rename_i entry
        rw [if_neg]
        rintro rfl
        exact foreign .giveBack rfl
      · rfl
  | opened => rfl
  | replaced => rfl
  | cancelled sweeps =>
      rw [before.lent_cancel]
      rcases sweeps with rfl | ⟨key, rfl⟩ <;> rfl
  | acted act =>
      cases act with
      | lend => simp [EntryAct.outcome, Use.lentAfter]
      | giveBack =>
          simp only [EntryAct.outcome, Use.lentAfter, if_true]
          split
          · rfl
          · exact Subscription.lent_cancel _ .handleDropped
      | cancel => exact before.lent_cancel .cancelled
      | beginTick =>
          simp only [EntryAct.outcome, Use.lentAfter]
          split <;> rfl
      | endTick options =>
          simp only [EntryAct.outcome, Use.lentAfter]
          split <;> rfl
      | _ => rfl

theorem EntryMove.streams (move : EntryMove registry number before used answer after) :
    after.feed.channel.streams =
      used.streamsAfter number answer before.feed.channel.streams := by
  cases move with
  | kept foreign unopened =>
      unfold Use.streamsAfter
      split
      · rename_i entry act
        rw [if_neg]
        rintro rfl
        exact foreign (.channel act) rfl
      · rename_i key options refusal entry
        rw [if_neg]
        rintro rfl
        exact unopened ⟨key, options, refusal, rfl, rfl⟩
      · rfl
  | opened =>
      simp only [Use.streamsAfter, if_true]
      rfl
  | replaced => rfl
  | cancelled sweeps =>
      rw [before.channel_cancel]
      rcases sweeps with rfl | ⟨key, rfl⟩ <;> rfl
  | acted act =>
      cases act with
      | giveBack =>
          simp only [EntryAct.outcome, Use.streamsAfter]
          split
          · rfl
          · exact congrArg Channel.streams (Subscription.channel_cancel _ .handleDropped)
      | cancel => exact congrArg Channel.streams (before.channel_cancel .cancelled)
      | channel act =>
          simp only [Use.streamsAfter, if_true]
          exact streams_act _ _ act
      | beginTick =>
          simp only [EntryAct.outcome, Use.streamsAfter]
          split <;> rfl
      | endTick options =>
          simp only [EntryAct.outcome, Use.streamsAfter]
          split
          · rfl
          · simp only [delivered, Feed.deliver]
            split
            · rfl
            · exact streams_publish _ _
      | _ => rfl

/-- A loop whose entry is cancelled does not go on to wait. -/
theorem EntryMove.stopped (move : EntryMove registry number before used answer after)
    (stopped : before.isCancelled = true → before.phase ≠ .waiting) :
    after.isCancelled = true → after.phase ≠ .waiting := by
  have cancelling : ∀ subscription : Subscription, ∀ reason,
      (subscription.isCancelled = true → subscription.phase ≠ .waiting) →
        (subscription.cancel reason).state.phase ≠ .waiting := by
    intro subscription reason stoppedBefore
    rcases subscription.cancel_cases reason with ⟨marked, same⟩ | ⟨_, changed⟩
    · rw [same]
      exact stoppedBefore marked
    · rw [changed]
      cases subscription.phase <;> simp [Subscription.LoopPhase.stopped]
  cases move with
  | kept => exact stopped
  | opened => exact stopped
  | replaced => exact stopped
  | cancelled sweeps => exact fun _ => cancelling before .cancelled stopped
  | acted act =>
      cases act with
      | giveBack =>
          simp only [EntryAct.outcome]
          split
          · exact stopped
          · exact fun _ => cancelling _ .handleDropped stopped
      | cancel => exact fun _ => cancelling before .cancelled stopped
      | beginTick =>
          simp only [EntryAct.outcome]
          split
          · intro _
            simp
          · exact stopped
      | endTick options =>
          simp only [EntryAct.outcome]
          split
          · intro _
            simp
          · intro marked
            have same : before.isCancelled = true := by
              simp only [delivered, Feed.deliver, Subscription.isCancelled] at marked ⊢
              split at marked
              · assumption
              · exact marked
            simp [delivered, same]
      | _ => exact stopped

/-- A new entry has no handles but the stream handle that it was asked for as. -/
theorem EntryMade.fresh {made : Subscription} (new : EntryMade number used answer made) :
    made.lent = used.lentAfter number 0 ∧
      made.feed.channel.streams = used.streamsAfter number answer 0 ∧
      made.isCancelled = false := by
  cases new with
  | closed key options settings unopened =>
      refine ⟨rfl, ?_, rfl⟩
      unfold Use.streamsAfter
      split
      · rename_i absurd
        cases absurd
      · rename_i given refusal entry same
        cases same
        rw [if_neg]
        · rfl
        · rintro rfl
          exact unopened ⟨_, given, refusal, rfl, rfl⟩
      · rfl
  | opened settings =>
      refine ⟨rfl, ?_, rfl⟩
      simp only [Use.streamsAfter, if_true]
      rfl

/-- A use changes what is held from one custody to another one. -/
structure Passes (registry : Registry) (used : Use Nat) (before after : Custody) : Prop where
  lent : ∀ number, after.handles.count number = used.lentAfter number (before.handles.count number)
  streams : ∀ number, after.streams.count number =
    used.streamsAfter number (registry.use used).answer (before.streams.count number)
  inUse : ∀ number, after.Has number →
    before.Has number ∨ ((registry.use used).state.subscription? number).isSome
  apart : after.ends.Nodup
  listening : ∀ receiving ∈ after.ends,
    (receiving ∈ before.ends ∧
        used ≠ .onEntry receiving.channel (.channel (.leave receiving.receiver))) ∨
      ∃ join, used = .onEntry receiving.channel (.channel join) ∧
        (registry.use used).answer = .said (.channel (.joined receiving.receiver))

end Moves

section Holding

variable {registry : Registry} {custody later : Custody}

theorem stays_inside {number : Nat} (older : number < registry.subscriptions.length)
    (used : Use Nat) : number < (registry.use used).state.subscriptions.length := by
  have present : registry.subscription? number = some registry.subscriptions[number] :=
    List.getElem?_eq_getElem older
  rcases entryMove_use present used with ⟨after, found, _⟩
  exact (List.getElem?_eq_some_iff.mp found).1

/-- The registry goes on to agree with what is held. -/
theorem Held.step (held : registry.Held custody) (used : Use Nat)
    (passes : Passes registry used custody later) : (registry.use used).state.Held later where
  owned := held.owned.use used
  recorded := held.recorded.use used
  stopped number subscription present := by
    cases earlier : registry.subscription? number with
    | none =>
        intro marked
        rw [(entryMade_use earlier present).fresh.2.2] at marked
        cases marked
    | some before =>
        rcases entryMove_use earlier used with ⟨after, found, move⟩
        rw [present] at found
        cases found
        exact move.stopped (held.stopped number before earlier)
  counted number subscription present := by
    rw [passes.lent, passes.streams]
    cases earlier : registry.subscription? number with
    | none =>
        have outside := List.getElem?_eq_none_iff.mp earlier
        have noHandles : custody.handles.count number = 0 := by
          apply List.count_eq_zero.mpr
          intro member
          exact Nat.not_lt.mpr outside (held.inUse number (Or.inl member))
        have noStreams : custody.streams.count number = 0 := by
          apply List.count_eq_zero.mpr
          intro member
          exact Nat.not_lt.mpr outside (held.inUse number (Or.inr member))
        rcases (entryMade_use earlier present).fresh with ⟨lent, streams, _⟩
        rw [noHandles, noStreams]
        exact ⟨lent, streams⟩
    | some before =>
        rcases entryMove_use earlier used with ⟨after, found, move⟩
        rw [present] at found
        cases found
        rcases held.counted number before earlier with ⟨lent, streams⟩
        rw [← lent, ← streams]
        exact ⟨move.lent, move.streams⟩
  inUse number member := by
    rcases passes.inUse number member with older | new
    · exact stays_inside (held.inUse number older) used
    · rcases Option.isSome_iff_exists.mp new with ⟨subscription, found⟩
      exact (List.getElem?_eq_some_iff.mp found).1
  apart := passes.apart
  listening receiving member := by
    rcases passes.listening receiving member with ⟨older, stays⟩ | ⟨join, rfl, joined⟩
    · rcases held.listening receiving older with ⟨channel, inbox, present, serves⟩
      rcases registry.channelStep_use used present with ⟨after, found, step⟩
      rcases step.serves serves stays with ⟨left, servesLater, _⟩
      exact ⟨after, left, found, servesLater⟩
    · rcases serves_of_joined held.recorded joined with ⟨channel, found, serves⟩
      exact ⟨channel, [], found, serves⟩

/-- Only how often something is held matters, not in which order it is listed. -/
theorem Held.perm (held : registry.Held custody) (handles : custody.handles.Perm later.handles)
    (streams : custody.streams.Perm later.streams) (ends : custody.ends.Perm later.ends) :
    registry.Held later where
  owned := held.owned
  recorded := held.recorded
  stopped := held.stopped
  counted number subscription present := by
    rw [← handles.count_eq, ← streams.count_eq]
    exact held.counted number subscription present
  inUse number member := by
    rw [Custody.Has, ← handles.mem_iff, ← streams.mem_iff] at member
    exact held.inUse number member
  apart := ends.nodup_iff.mp held.apart
  listening receiving member := held.listening receiving (ends.mem_iff.mpr member)

/-- A use in which nothing changes hands. -/
theorem Held.quiet (held : registry.Held custody) (used : Use Nat)
    (lent : ∀ number count, used.lentAfter number count = count)
    (streams : ∀ number count,
      used.streamsAfter number (registry.use used).answer count = count)
    (stays : ∀ number id, used ≠ .onEntry number (.channel (.leave id))) :
    (registry.use used).state.Held custody := by
  apply held.step used
  refine ⟨fun number => (lent number _).symm, fun number => (streams number _).symm,
    fun _ member => Or.inl member, held.apart, ?_⟩
  intro receiving member
  exact Or.inl ⟨member, stays _ _⟩

/-- What is done under a key changes no hands if no stream handle is opened. -/
theorem Held.unopened (held : registry.Held custody) (key : String) (act : KeyAct)
    (unopened : ∀ number, ¬ (Use.onKey key act).Opens number (registry.onKey key act).answer) :
    (registry.onKey key act).state.Held custody := by
  apply held.quiet (.onKey key act)
  · intro number count
    rfl
  · intro number count
    simp only [Use.streamsAfter]
    split
    · rename_i entry told
      cases told
    · rename_i options refusal entry told answer
      cases told
      exact absurd ⟨key, options, refusal, rfl, answer⟩ (unopened entry)
    · rfl
  · intro number id
    simp

theorem Held.onKey (held : registry.Held custody) (key : String) (act : KeyAct)
    (closed : ∀ options refusal, act ≠ .getStream options refusal) :
    (registry.onKey key act).state.Held custody :=
  held.unopened key act fun _ => not_opens_of_ne closed

theorem Held.said (held : registry.Held custody) {key : String} {act : KeyAct} {said : Said}
    (told : (registry.onKey key act).answer = .said said) :
    (registry.onKey key act).state.Held custody := by
  apply held.unopened key act
  rintro number ⟨_, options, refusal, _, opened⟩
  rw [told] at opened
  cases opened

theorem Held.onEntry (held : registry.Held custody) (entry : Nat) {act : EntryAct}
    (quiet : act.passes = false) : (registry.onEntry entry act).state.Held custody := by
  apply held.quiet (.onEntry entry act)
  · intro number count
    cases act with
    | lend => cases quiet
    | giveBack => cases quiet
    | _ => rfl
  · intro number count
    cases act with
    | channel act =>
        cases act with
        | openStream => cases quiet
        | closeStream => cases quiet
        | intoReceiver => cases quiet
        | _ => exact ite_self _
    | _ => rfl
  · rintro number id same
    cases same
    cases quiet

variable {handles streams : List Nat} {ends : List ReceivingEnd} {number : Nat}
  {subscription : Subscription}

theorem channel?_of_lt (inUse : number < registry.subscriptions.length) :
    ∃ channel, registry.channel? number = some channel := by
  refine ⟨registry.subscriptions[number].feed.channel, ?_⟩
  simp only [channel?, subscription?, List.getElem?_eq_getElem inUse, Option.map_some]

theorem count_cons (entry number : Nat) (rest : List Nat) :
    (entry :: rest).count number = if entry = number then rest.count number + 1
      else rest.count number := by
  rw [List.count_cons]
  by_cases same : entry = number <;> simp [same]

theorem present_use (present : registry.subscription? number = some subscription)
    (used : Use Nat) : ((registry.use used).state.subscription? number).isSome = true := by
  rcases entryMove_use present used with ⟨after, found, _⟩
  rw [found]
  rfl

theorem onEntry_lend (inUse : number < registry.subscriptions.length) :
    (registry.onEntry number .lend).state = registry.lend number := by
  have present : registry.subscription? number = some registry.subscriptions[number] :=
    List.getElem?_eq_getElem inUse
  simp only [Registry.onEntry, present, actOn]

theorem onEntry_giveBack (inUse : number < registry.subscriptions.length) :
    (registry.onEntry number .giveBack).state = (registry.giveBack number).state := by
  have present : registry.subscription? number = some registry.subscriptions[number] :=
    List.getElem?_eq_getElem inUse
  simp only [Registry.onEntry, present, actOn]

theorem Held.lend (held : registry.Held ⟨handles, streams, ends⟩)
    (present : registry.subscription? number = some subscription) :
    (registry.onEntry number .lend).state.Held ⟨number :: handles, streams, ends⟩ := by
  apply held.step (.onEntry number .lend)
  refine ⟨fun other => count_cons number other handles, fun _ => rfl, ?_, held.apart, ?_⟩
  · rintro other (member | member)
    · rcases List.mem_cons.mp member with rfl | older
      · exact Or.inr (present_use present _)
      · exact Or.inl (Or.inl older)
    · exact Or.inl (Or.inr member)
  · intro receiving member
    exact Or.inl ⟨member, by simp⟩

theorem Held.giveBack (held : registry.Held ⟨number :: handles, streams, ends⟩) :
    (registry.onEntry number .giveBack).state.Held ⟨handles, streams, ends⟩ := by
  apply held.step (.onEntry number .giveBack)
  refine ⟨?_, fun _ => rfl, ?_, held.apart, ?_⟩
  · intro other
    simp only [Use.lentAfter, count_cons]
    split <;> simp
  · rintro other (member | member)
    · exact Or.inl (Or.inl (List.mem_cons_of_mem _ member))
    · exact Or.inl (Or.inr member)
  · intro receiving member
    exact Or.inl ⟨member, by simp⟩

theorem Held.openStream (held : registry.Held ⟨handles, streams, ends⟩)
    (present : registry.subscription? number = some subscription) :
    (registry.onEntry number (.channel .openStream)).state.Held
      ⟨handles, number :: streams, ends⟩ := by
  apply held.step (.onEntry number (.channel .openStream))
  refine ⟨fun _ => rfl, fun other => count_cons number other streams, ?_, held.apart, ?_⟩
  · rintro other (member | member)
    · exact Or.inl (Or.inl member)
    · rcases List.mem_cons.mp member with rfl | older
      · exact Or.inr (present_use present _)
      · exact Or.inl (Or.inr older)
  · intro receiving member
    exact Or.inl ⟨member, by simp⟩

theorem Held.closeStream (held : registry.Held ⟨handles, number :: streams, ends⟩) :
    (registry.onEntry number (.channel .closeStream)).state.Held ⟨handles, streams, ends⟩ := by
  apply held.step (.onEntry number (.channel .closeStream))
  refine ⟨fun _ => rfl, ?_, ?_, held.apart, ?_⟩
  · intro other
    simp only [Use.streamsAfter, streamsAfterAct, count_cons]
    split <;> simp
  · rintro other (member | member)
    · exact Or.inl (Or.inl member)
    · exact Or.inl (Or.inr (List.mem_cons_of_mem _ member))
  · intro receiving member
    exact Or.inl ⟨member, by simp⟩

/-- A stream handle that asking for a stream has opened. -/
theorem Held.getStream (held : registry.Held ⟨handles, streams, ends⟩) {key : String}
    {options : OptionSet} {refusal : Option StartRefusal}
    (answer : (registry.onKey key (.getStream options refusal)).answer = .entry number) :
    (registry.onKey key (.getStream options refusal)).state.Held
      ⟨handles, number :: streams, ends⟩ := by
  apply held.step (.onKey key (.getStream options refusal))
  have told : (registry.use (.onKey key (.getStream options refusal))).answer = .entry number :=
    answer
  refine ⟨fun _ => rfl, ?_, ?_, held.apart, ?_⟩
  · intro other
    rw [told]
    exact count_cons number other streams
  · rintro other (member | member)
    · exact Or.inl (Or.inl member)
    · rcases List.mem_cons.mp member with rfl | older
      · have stands := stands_of_answer held.owned rfl answer
        rcases Option.map_eq_some_iff.mp stands.2 with ⟨subscription, present, _⟩
        exact Or.inr (Option.isSome_iff_exists.mpr ⟨subscription, present⟩)
      · exact Or.inl (Or.inr older)
  · intro receiving member
    exact Or.inl ⟨member, by simp⟩

/-- The name of a receiver that joins is new. -/
theorem Held.unheard (held : registry.Held ⟨handles, streams, ends⟩) {channel : Channel}
    (present : registry.channel? number = some channel) : ⟨number, channel.issued⟩ ∉ ends := by
  intro member
  rcases held.listening _ member with ⟨other, inbox, found, all, receiver, records, there, _⟩
  rw [present] at found
  cases found
  rcases Channel.mem_of_receiver? there with ⟨listed, named⟩
  have older := records.named receiver listed
  rw [named] at older
  exact Nat.lt_irrefl _ older

theorem Held.subscribe (held : registry.Held ⟨handles, streams, ends⟩) {channel : Channel}
    (present : registry.channel? number = some channel) :
    (registry.onEntry number (.channel .subscribe)).answer =
        .channel (.joined channel.issued) ∧
      (registry.onEntry number (.channel .subscribe)).state.Held
        ⟨handles, streams, ⟨number, channel.issued⟩ :: ends⟩ := by
  rcases Option.map_eq_some_iff.mp present with ⟨subscription, found, rfl⟩
  have answer : (registry.onEntry number (.channel .subscribe)).answer =
      .channel (.joined subscription.feed.channel.issued) := by
    rw [onEntry_eq found]
    rfl
  refine ⟨answer, ?_⟩
  apply held.step (.onEntry number (.channel .subscribe))
  refine ⟨fun _ => rfl, ?_, fun _ member => Or.inl member,
    List.nodup_cons.mpr ⟨held.unheard present, held.apart⟩, ?_⟩
  · intro other
    simp [Use.streamsAfter, streamsAfterAct]
  · intro receiving member
    rcases List.mem_cons.mp member with rfl | older
    · exact Or.inr ⟨.subscribe, rfl, congrArg Yield.said answer⟩
    · exact Or.inl ⟨older, by simp⟩

/-- A stream handle is turned into a receiver. -/
theorem Held.intoReceiver (held : registry.Held ⟨handles, number :: streams, ends⟩)
    {channel : Channel} (present : registry.channel? number = some channel) :
    (registry.onEntry number (.channel .intoReceiver)).answer =
        .channel (.joined channel.issued) ∧
      (registry.onEntry number (.channel .intoReceiver)).state.Held
        ⟨handles, streams, ⟨number, channel.issued⟩ :: ends⟩ := by
  rcases Option.map_eq_some_iff.mp present with ⟨subscription, found, rfl⟩
  have answer : (registry.onEntry number (.channel .intoReceiver)).answer =
      .channel (.joined subscription.feed.channel.issued) := by
    rw [onEntry_eq found]
    rfl
  refine ⟨answer, ?_⟩
  apply held.step (.onEntry number (.channel .intoReceiver))
  refine ⟨fun _ => rfl, ?_, ?_, List.nodup_cons.mpr ⟨held.unheard present, held.apart⟩, ?_⟩
  · intro other
    simp only [Use.streamsAfter, streamsAfterAct, count_cons]
    split <;> simp
  · rintro other (member | member)
    · exact Or.inl (Or.inl member)
    · exact Or.inl (Or.inr (List.mem_cons_of_mem _ member))
  · intro receiving member
    rcases List.mem_cons.mp member with rfl | older
    · exact Or.inr ⟨.intoReceiver, rfl, congrArg Yield.said answer⟩
    · exact Or.inl ⟨older, by simp⟩

theorem Held.leave {receiving : ReceivingEnd}
    (held : registry.Held ⟨handles, streams, receiving :: ends⟩) :
    (registry.onEntry receiving.channel (.channel (.leave receiving.receiver))).state.Held
      ⟨handles, streams, ends⟩ := by
  rcases List.nodup_cons.mp held.apart with ⟨once, apart⟩
  apply held.step (.onEntry receiving.channel (.channel (.leave receiving.receiver)))
  refine ⟨fun _ => rfl, ?_, fun _ member => Or.inl member, apart, ?_⟩
  · intro other
    simp [Use.streamsAfter, streamsAfterAct]
  · intro other member
    refine Or.inl ⟨List.mem_cons_of_mem _ member, ?_⟩
    intro same
    simp only [Use.onEntry.injEq, EntryAct.channel.injEq, Channel.EndAct.leave.injEq] at same
    have equal : receiving = other := by
      cases receiving
      cases other
      cases same.1
      cases same.2
      rfl
    exact once (equal ▸ member)

end Holding

section Closing

variable {registry : Registry} {custody : Custody} {number : Nat}

/-- The loop of the entry has ended. -/
def LoopEnded (registry : Registry) (number : Nat) : Prop :=
  ∃ subscription, registry.subscription? number = some subscription ∧ subscription.phase = .ended

/-- The table does not hold the entry, no handle and no stream handle on it is left, and its loop
has ended. -/
structure Abandoned (registry : Registry) (custody : Custody) (number : Nat) : Prop where
  table : registry.inTable number = false
  handles : number ∉ custody.handles
  streams : number ∉ custody.streams
  loop : registry.LoopEnded number

/-- The channel of an entry is closed if the entry is abandoned, and only then. -/
theorem Held.isOpen_eq_false_iff (held : registry.Held custody) {channel : Channel}
    (present : registry.channel? number = some channel) :
    channel.isOpen (registry.publisherHeld number) = false ↔
      registry.Abandoned custody number := by
  rcases Option.map_eq_some_iff.mp present with ⟨subscription, found, rfl⟩
  rcases held.counted number subscription found with ⟨lent, streams⟩
  simp only [Channel.isOpen, publisherHeld_of_present found, lent, streams, Bool.or_eq_false_iff,
    decide_eq_false_iff_not, Nat.not_lt, Nat.le_zero, List.count_eq_zero, bne_eq_false_iff_eq]
  constructor
  · rintro ⟨⟨⟨table, handles⟩, loop⟩, streams⟩
    exact ⟨table, handles, streams, subscription, found, loop⟩
  · rintro ⟨table, handles, streams, other, foundOther, loop⟩
    rw [found] at foundOther
    cases foundOther
    exact ⟨⟨⟨table, handles⟩, loop⟩, streams⟩

end Closing

end ConsoleFeed.Registry
