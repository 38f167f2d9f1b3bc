import ConsoleFeed.Proofs.Channel.Ends
import ConsoleFeed.Proofs.Registry.Operations

/-!
# Uses of a registry

What a registry is used for falls into what names a key, what is done with one entry, and the rest:
registering a provider, and shutting down. An entry is used by the handles lent on it, by the ends
of its channel, and by its loop, whose ticks are taken in two steps, so that other uses may come in
between; a tick that ends is given the options that it began with. Every use is one that the
registry itself offers, and reads are told of the channel's publisher what is the case.

The vocabulary leaves open how entries are named (`Use`). The registry names them by number. What is
done with an entry depends on that entry, on whether the table holds it, and on what the directory
answers, and it changes nothing but the entry and the directory (`onEntry_eq`): so an argument about
one entry looks at `EntryAct.outcome`, and one about all others at the form of `onEntry_eq` alone.
-/

namespace ConsoleFeed.Registry

/-- Something that is done with one entry. -/
inductive EntryAct where
  | inspect
  | lend
  | giveBack
  | cancel
  | replaceOptions (options : OptionSet)
  | snapshot
  | trySnapshot
  | channel (act : Channel.EndAct)
  | beginTick
  | endTick (options : OptionSet)

/-- Something that is done under one key. Where an entry may have to be made, the system's
reason to refuse it is given, if it has one. -/
inductive KeyAct where
  | getOrCreate (options : OptionSet) (refusal : Option StartRefusal)
  | getStream (options : OptionSet) (refusal : Option StartRefusal)
  | getSnapshot (options : OptionSet) (refusal : Option StartRefusal)
  | peekSnapshot (options : OptionSet)
  | build (options : OptionSet) (settings : StreamerSettings) (refusal : Option StartRefusal)
  | get
  | contains
  | updateOptions (options : OptionSet)
  | deactivate
  | lookup
  | unregister

/-- Something that a registry is used for, with entries that are named in some way. -/
inductive Use (Entry : Type) where
  | onKey (key : String) (act : KeyAct)
  | onEntry (entry : Entry) (act : EntryAct)
  | register (provider : Provider)
  | shutdown

/-- What is said in answer to a use, other than an entry. -/
inductive Said where
  | nothing
  | absent
  | unscheduled (failure : SchedulingFailure)
  | text (snapshot : Except LookupPanic String)
  | attempt (snapshot : Except LookupPanic Snapshot)
  | flag (answer : Bool)
  | count (deactivated : Nat)
  | provided (found : Except LookupPanic Bool)
  | seen (key : String) (options : OptionSet) (interval : Duration) (cancelled running : Bool)
      (subscribers : Nat)
  | channel (answer : Channel.EndAnswer)
  | begun (options : Option OptionSet)

/-- What comes of a use. -/
inductive Yield (Entry : Type) where
  | entry (entry : Entry)
  | said (said : Said)

/-- The same with the entries named in another way. -/
def Yield.map {Entry Other : Type} (rename : Entry → Other) : Yield Entry → Yield Other
  | .entry named => .entry (rename named)
  | .said answer => .said answer

/-- What is said about the text of a snapshot for a key. -/
def Said.ofSnapshot : Except Refusal String → Said
  | .ok payload => .text (.ok payload)
  | .error (.panicked panic) => .text (.error panic)
  | .error (.unscheduled failure) => .unscheduled failure

/-- What comes of asking for an entry. -/
def Yield.ofEntry : Except SchedulingFailure Nat → Yield Nat
  | .ok number => .entry number
  | .error failure => .said (.unscheduled failure)

/-- What a subscription shows of itself. -/
def Said.ofSubscription (subscription : Subscription) : Said :=
  .seen subscription.key subscription.feed.options subscription.interval subscription.isCancelled
    (subscription.phase != .ended) subscription.subscribers

/-- What comes of an act on an entry that is there. -/
def actOn (registry : Registry) (number : Nat) (subscription : Subscription) :
    EntryAct → Reply Registry Said
  | .inspect => ⟨.ofSubscription subscription, registry, []⟩
  | .lend => ⟨.nothing, registry.lend number, []⟩
  | .giveBack =>
      let returned := registry.giveBack number
      ⟨.nothing, returned.state, returned.events⟩
  | .cancel =>
      let cancelled := registry.cancel number
      ⟨.nothing, cancelled.state, cancelled.events⟩
  | .replaceOptions options =>
      let replaced := registry.onSubscription number () (·.replaceOptions options)
      ⟨.nothing, replaced.state, replaced.events⟩
  | .snapshot =>
      let taken := registry.takeSnapshotOf number
      ⟨.text taken.answer, taken.state, taken.events⟩
  | .trySnapshot =>
      let taken := registry.trySnapshotOf number
      ⟨.attempt taken.answer, taken.state, taken.events⟩
  | .channel act =>
      let reply := subscription.feed.channel.act (registry.publisherHeld number) act
      ⟨.channel reply.answer, ChannelHost.withChannel registry number reply.state, reply.events⟩
  | .beginTick =>
      match registry.beginTick? number with
      | none => ⟨.begun none, registry, []⟩
      | some (options, begun) => ⟨.begun (some options), begun, []⟩
  | .endTick options =>
      let ended := registry.endTick number options
      ⟨.flag ended.answer, ended.state, ended.events⟩

/-- What comes of an act on an entry. An entry that is not there does nothing. -/
def onEntry (registry : Registry) (number : Nat) (act : EntryAct) : Reply Registry Said :=
  match registry.subscription? number with
  | none => ⟨.nothing, registry, []⟩
  | some subscription => registry.actOn number subscription act

/-- What comes of an act under a key. -/
def onKey (registry : Registry) (key : String) : KeyAct → Reply Registry (Yield Nat)
  | .getOrCreate options refusal =>
      let entry := registry.getOrCreate key options refusal
      ⟨.ofEntry entry.answer, entry.state, entry.events⟩
  | .getStream options refusal =>
      let entry := registry.getStream key options refusal
      ⟨.ofEntry entry.answer, entry.state, entry.events⟩
  | .getSnapshot options refusal =>
      let snapshot := registry.getSnapshot key options refusal
      ⟨.said (.ofSnapshot snapshot.answer), snapshot.state, snapshot.events⟩
  | .peekSnapshot options =>
      let snapshot := registry.peekSnapshot key options
      ⟨.said (.text snapshot.answer), snapshot.state, snapshot.events⟩
  | .build options settings refusal =>
      let entry := registry.schedule key options settings refusal
      ⟨.ofEntry entry.answer, entry.state, entry.events⟩
  | .get =>
      match registry.get? key with
      | none => ⟨.said .absent, registry, []⟩
      | some number => ⟨.entry number, registry, []⟩
  | .contains => ⟨.said (.flag (registry.contains key)), registry, []⟩
  | .updateOptions options =>
      let updated := registry.updateOptions key options
      ⟨.said (.flag updated.answer), updated.state, updated.events⟩
  | .deactivate =>
      let deactivated := registry.deactivate key
      ⟨.said (.flag deactivated.answer), deactivated.state, deactivated.events⟩
  | .lookup => ⟨.said (.provided ((registry.directory.find key).map Option.isSome)), registry, []⟩
  | .unregister =>
      let unregistered := registry.onDirectory (·.unregister key)
      ⟨.said (.flag unregistered.answer), unregistered.state, unregistered.events⟩

/-- What comes of a use. -/
def use (registry : Registry) : Use Nat → Reply Registry (Yield Nat)
  | .onKey key act => registry.onKey key act
  | .onEntry number act =>
      let reply := registry.onEntry number act
      ⟨.said reply.answer, reply.state, reply.events⟩
  | .register provider =>
      let registered := registry.onDirectory (·.register provider)
      ⟨.said (.flag registered.answer), registered.state, registered.events⟩
  | .shutdown =>
      let swept := registry.shutdown
      ⟨.said (.count swept.answer), swept.state, swept.events⟩

/-- The registry after uses, one after the other. -/
def afterUses (registry : Registry) (uses : List (Use Nat)) : Registry :=
  uses.foldl (fun state next => (state.use next).state) registry

@[simp]
theorem afterUses_append (registry : Registry) (first second : List (Use Nat)) :
    registry.afterUses (first ++ second) = (registry.afterUses first).afterUses second :=
  List.foldl_append ..

/-- Some uses lead from one state of a registry to another one. -/
def Reaches (before after : Registry) : Prop :=
  ∃ uses, after = before.afterUses uses

section Reaching

variable {before between after : Registry}

theorem Reaches.refl (registry : Registry) : registry.Reaches registry :=
  ⟨[], rfl⟩

theorem Reaches.trans (first : before.Reaches between) (second : between.Reaches after) :
    before.Reaches after := by
  rcases first with ⟨uses, rfl⟩
  rcases second with ⟨more, rfl⟩
  exact ⟨uses ++ more, (afterUses_append before uses more).symm⟩

theorem reaches_use (registry : Registry) (use : Use Nat) :
    registry.Reaches (registry.use use).state :=
  ⟨[use], rfl⟩

theorem reaches_onKey (registry : Registry) (key : String) (act : KeyAct) :
    registry.Reaches (registry.onKey key act).state :=
  registry.reaches_use (.onKey key act)

theorem reaches_onEntry (registry : Registry) (number : Nat) (act : EntryAct) :
    registry.Reaches (registry.onEntry number act).state :=
  registry.reaches_use (.onEntry number act)

end Reaching

section Outcomes

/-- What happens when the loop of a subscription delivers a payload. -/
def deliveryEvents (text : String) (subscription : Subscription) : List Event :=
  (subscription.feed.deliver text).events ++
    if subscription.isCancelled then [.tickerStopped subscription.key .cancelled] else []

/-- What comes of an act on an entry, from the subscription, whether the table holds it, and the
directory. -/
def EntryAct.outcome (subscription : Subscription) (inTable : Bool) (directory : Directory) :
    EntryAct → Reply (Subscription × Directory) Said
  | .inspect => ⟨.ofSubscription subscription, (subscription, directory), []⟩
  | .lend =>
      ⟨.nothing, ({ subscription with lent := subscription.lent + 1 }, directory), []⟩
  | .giveBack =>
      let returned := { subscription with lent := subscription.lent - 1 }
      if inTable || 0 < returned.lent then ⟨.nothing, (returned, directory), []⟩
      else
        let cancelled := returned.cancel .handleDropped
        ⟨.nothing, (cancelled.state, directory), cancelled.events⟩
  | .cancel =>
      let cancelled := subscription.cancel .cancelled
      ⟨.nothing, (cancelled.state, directory), cancelled.events⟩
  | .replaceOptions options =>
      let replaced := subscription.replaceOptions options
      ⟨.nothing, (replaced.state, directory), replaced.events⟩
  | .snapshot =>
      let taken := directory.takeSnapshot subscription.key subscription.feed.options
      ⟨.text taken.answer, (subscription, taken.state), taken.events⟩
  | .trySnapshot =>
      let taken := directory.trySnapshot subscription.key subscription.feed.options
      ⟨.attempt taken.answer, (subscription, taken.state), taken.events⟩
  | .channel act =>
      let held := inTable || 0 < subscription.lent || subscription.phase != .ended
      let reply := subscription.feed.channel.act held act
      ⟨.channel reply.answer, (subscription.withChannel reply.state, directory), reply.events⟩
  | .beginTick =>
      if subscription.phase = .waiting then
        ⟨.begun (some subscription.feed.options),
          ({ subscription with phase := .ticking }, directory), []⟩
      else ⟨.begun none, (subscription, directory), []⟩
  | .endTick options =>
      let taken := directory.takeSnapshot subscription.key options
      match taken.answer with
      | .error _ =>
          ⟨.flag false, ({ subscription with phase := .ended }, taken.state), taken.events⟩
      | .ok text =>
          ⟨.flag (!subscription.isCancelled), (delivered text subscription, taken.state),
            taken.events ++ deliveryEvents text subscription⟩

variable {registry : Registry} {number : Nat} {subscription : Subscription}

theorem keyOf_of_present (present : registry.subscription? number = some subscription) :
    registry.keyOf number = subscription.key := by
  simp [keyOf, present]

theorem optionsOf_of_present (present : registry.subscription? number = some subscription) :
    registry.optionsOf number = subscription.feed.options := by
  simp [optionsOf, present]

theorem onSubscription_of_present {Answer : Type} (absent : Answer)
    (operation : Subscription → Reply Subscription Answer)
    (present : registry.subscription? number = some subscription) :
    registry.onSubscription number absent operation =
      ⟨(operation subscription).answer,
        registry.changing number fun _ => (operation subscription).state,
        (operation subscription).events⟩ := by
  simp only [onSubscription, present]
  rw [registry.store_eq_changing number present fun _ => (operation subscription).state]

theorem publisherHeld_of_present (present : registry.subscription? number = some subscription) :
    registry.publisherHeld number =
      (registry.inTable number || 0 < subscription.lent || subscription.phase != .ended) := by
  simp [publisherHeld, isHeld, present]

theorem giveBack_of_present (present : registry.subscription? number = some subscription) :
    registry.giveBack number =
      let returned := { subscription with lent := subscription.lent - 1 }
      if registry.inTable number || 0 < returned.lent then
        ⟨(), registry.changing number fun _ => returned, []⟩
      else
        ⟨(), registry.changing number fun _ => (returned.cancel .handleDropped).state,
          (returned.cancel .handleDropped).events⟩ := by
  have found : (registry.changing number fun _ =>
      { subscription with lent := subscription.lent - 1 }).subscription? number =
        some { subscription with lent := subscription.lent - 1 } := by
    simp [subscription?_changing, present]
  have held : (registry.changing number fun _ =>
      { subscription with lent := subscription.lent - 1 }).isHeld number =
        (registry.inTable number || 0 < subscription.lent - 1) := by
    simp only [isHeld, found]
    rfl
  simp only [giveBack, onSubscription_of_present () _ present, held]
  split
  · rfl
  · rw [onSubscription_of_present () _ found, changing_changing]

theorem beginTick?_of_present (present : registry.subscription? number = some subscription) :
    registry.beginTick? number =
      if subscription.phase = .waiting then
        some (subscription.feed.options,
          registry.changing number fun _ => { subscription with phase := .ticking })
      else none := by
  simp only [beginTick?, present, Option.bind_some]
  rw [registry.store_eq_changing number present fun _ => { subscription with phase := .ticking }]

theorem endTick_of_present (present : registry.subscription? number = some subscription)
    (options : OptionSet) :
    registry.endTick number options =
      let taken := registry.directory.takeSnapshot subscription.key options
      match taken.answer with
      | .error _ =>
          ⟨false, { registry.changing number (fun _ => { subscription with phase := .ended }) with
              directory := taken.state }, taken.events⟩
      | .ok text =>
          ⟨!subscription.isCancelled, { registry.changing number (fun _ =>
              delivered text subscription) with directory := taken.state },
            taken.events ++ deliveryEvents text subscription⟩ := by
  have key := keyOf_of_present present
  have asked : { registry with directory :=
      (registry.directory.takeSnapshot subscription.key options).state }.subscription? number =
        some subscription := present
  simp only [endTick, onDirectory, key]
  cases (registry.directory.takeSnapshot subscription.key options).answer with
  | error panic =>
      simp only [onSubscription_of_present () _ asked, List.append_nil]
      rfl
  | ok text =>
      simp only [onSubscription_of_present false _ asked]
      cases marked : subscription.feed.cancelled <;>
        simp [delivered, deliveryEvents, Feed.deliver, Subscription.isCancelled, marked] <;> rfl

/-- An act on an entry depends on nothing but the entry, whether the table holds it, and the
directory, and changes nothing but the entry and the directory. -/
theorem onEntry_eq (present : registry.subscription? number = some subscription)
    (act : EntryAct) :
    let outcome := act.outcome subscription (registry.inTable number) registry.directory
    registry.onEntry number act =
      ⟨outcome.answer,
        { registry.changing number (fun _ => outcome.state.1) with directory := outcome.state.2 },
        outcome.events⟩ := by
  have unchanged : registry.changing number (fun _ => subscription) = registry := by
    apply registry.changing_self
    intro found same
    rw [present] at same
    exact Option.some.inj same
  have key := keyOf_of_present present
  have options := optionsOf_of_present present
  simp only [onEntry, present]
  cases act with
  | inspect => simp [actOn, EntryAct.outcome, unchanged]
  | lend =>
      simp only [actOn, EntryAct.outcome, lend, onSubscription_of_present () _ present]
      rfl
  | giveBack =>
      simp only [actOn, EntryAct.outcome, giveBack_of_present present]
      split <;> rfl
  | cancel =>
      simp only [actOn, EntryAct.outcome, cancel, onSubscription_of_present () _ present]
      rfl
  | replaceOptions options =>
      simp only [actOn, EntryAct.outcome, onSubscription_of_present () _ present]
      rfl
  | snapshot =>
      simp only [actOn, EntryAct.outcome, takeSnapshotOf, onDirectory, key, options, unchanged]
  | trySnapshot =>
      simp only [actOn, EntryAct.outcome, trySnapshotOf, onDirectory, key, options, unchanged]
  | channel act =>
      simp only [actOn, EntryAct.outcome, ChannelHost.withChannel, present,
        publisherHeld_of_present present]
      rw [registry.store_eq_changing number present fun _ => subscription.withChannel _]
      rfl
  | beginTick =>
      simp only [actOn, EntryAct.outcome, beginTick?_of_present present]
      by_cases waits : subscription.phase = .waiting
      · simp only [waits, if_true]
        rfl
      · simp only [waits, if_false, unchanged]
  | endTick options =>
      simp only [actOn, EntryAct.outcome, endTick_of_present present]
      split <;> rfl

end Outcomes

end ConsoleFeed.Registry
