import ConsoleFeed.Registry.Lifecycle

/-!
# Snapshots and streams of the registry

A snapshot for a key is taken with the options of its subscription. Getting one makes the
subscription if there is none; peeking never does, and then takes the options that came with the
question. A stream is got like a snapshot, without calling a provider.

A tick is taken in two steps, because the provider may take its time and other operations may come
between: first the options are read and the loop is inside the tick, then the snapshot is taken with
these options and delivered. A lookup that panics ends the loop without cancelling the subscription.
-/

namespace ConsoleFeed.Registry

/-- Why an operation has no answer of its own kind. -/
inductive Refusal where
  | unscheduled (failure : SchedulingFailure)
  | panicked (panic : LookupPanic)

/-- Carries an operation on the directory over to the registry. -/
def onDirectory {Answer : Type} (registry : Registry)
    (operation : Directory → Reply Directory Answer) : Reply Registry Answer :=
  let reply := operation registry.directory
  ⟨reply.answer, { registry with directory := reply.state }, reply.events⟩

/-- The options of the subscription with a number. -/
def optionsOf (registry : Registry) (number : Nat) : OptionSet :=
  ((registry.subscription? number).map (·.feed.options)).getD KeyMap.empty

/-- The key of the subscription with a number. -/
def keyOf (registry : Registry) (number : Nat) : String :=
  ((registry.subscription? number).map Subscription.key).getD ""

/-- Takes a snapshot with a subscription's options. -/
def takeSnapshotOf (registry : Registry) (number : Nat) :
    Reply Registry (Except LookupPanic String) :=
  registry.onDirectory (·.takeSnapshot (registry.keyOf number) (registry.optionsOf number))

/-- Takes a snapshot with a subscription's options and keeps a failure visible. -/
def trySnapshotOf (registry : Registry) (number : Nat) :
    Reply Registry (Except LookupPanic Snapshot) :=
  registry.onDirectory (·.trySnapshot (registry.keyOf number) (registry.optionsOf number))

/-- Takes a snapshot for a key, whose subscription is made if there is none. -/
def getSnapshot (registry : Registry) (key : String) (options : OptionSet)
    (refusal : Option StartRefusal) : Reply Registry (Except Refusal String) :=
  let entry := registry.getOrCreate key options refusal
  match entry.answer with
  | .error failure => ⟨.error (.unscheduled failure), entry.state, entry.events⟩
  | .ok number =>
      let snapshot := entry.state.takeSnapshotOf number
      ⟨snapshot.answer.mapError .panicked, snapshot.state, entry.events ++ snapshot.events⟩

/-- Takes a snapshot for a key and makes no subscription: with the live subscription's options if
there is one, with the options given otherwise. -/
def peekSnapshot (registry : Registry) (key : String) (options : OptionSet) :
    Reply Registry (Except LookupPanic String) :=
  match registry.get? key with
  | some number => registry.takeSnapshotOf number
  | none => registry.onDirectory (·.takeSnapshot key options)

/-- Opens a stream handle on the channel for a key, whose subscription is made if there is none. The
answer is the subscription's number. -/
def getStream (registry : Registry) (key : String) (options : OptionSet)
    (refusal : Option StartRefusal) : Reply Registry (Except SchedulingFailure Nat) :=
  let entry := registry.getOrCreate key options refusal
  match entry.answer with
  | .error failure => ⟨.error failure, entry.state, entry.events⟩
  | .ok number =>
      let opened := entry.state.onChannel number fun channel => ((), channel.openStream)
      ⟨.ok number, (opened.map Prod.snd).getD entry.state, entry.events⟩

/-- Begins a tick of a subscription whose loop waits: the options that it will ask with, and the
registry with the loop inside the tick. -/
def beginTick? (registry : Registry) (number : Nat) : Option (OptionSet × Registry) :=
  (registry.subscription? number).bind fun subscription =>
    if subscription.phase = .waiting then
      some (subscription.feed.options,
        registry.store number { subscription with phase := .ticking })
    else none

/-- Ends a tick that was begun with the given options. The answer is whether the loop goes on. -/
def endTick (registry : Registry) (number : Nat) (options : OptionSet) : Reply Registry Bool :=
  let snapshot := registry.onDirectory (·.takeSnapshot (registry.keyOf number) options)
  match snapshot.answer with
  | .error _ =>
      let died := snapshot.state.onSubscription number () fun subscription =>
        ⟨(), { subscription with phase := .ended }, []⟩
      ⟨false, died.state, snapshot.events ++ died.events⟩
  | .ok payload =>
      let delivered := snapshot.state.onSubscription number false fun subscription =>
        let delivery := subscription.feed.deliver payload
        match delivery.answer with
        | .published _ =>
            ⟨true, { subscription with feed := delivery.state, phase := .waiting },
              delivery.events⟩
        | .discarded =>
            ⟨false, { subscription with feed := delivery.state, phase := .ended },
              delivery.events ++ [.tickerStopped subscription.key .cancelled]⟩
      ⟨delivered.answer, delivered.state, snapshot.events ++ delivered.events⟩

/-- A whole tick of a subscription whose loop waits. -/
def tick? (registry : Registry) (number : Nat) : Option (Reply Registry Bool) :=
  (registry.beginTick? number).map fun (options, begun) => begun.endTick number options

end ConsoleFeed.Registry
