import ConsoleFeed.Registry.Basic

/-!
# The life of a subscription

A subscription is made when it is first asked for, shared by everyone who asks for its key while it
is live, and ends when it is deactivated, cancelled through a handle, or let go of by everyone.

Making one needs a runtime and a thread for its loop, either of which the system may refuse. The
refusal is found before anything is changed, so a creation that fails leaves the registry as it was.
-/

namespace ConsoleFeed

/-- What is logged of the refusal. -/
def StartRefusal.event : StartRefusal → Event
  | .runtime fault => .runtimeRefused fault.message
  | .thread fault => .threadRefused fault.message

namespace Registry

/-- Makes a subscription, which nobody holds yet. `refusal` is the system's reason not to give what
its loop needs, if it has one. -/
def schedule (registry : Registry) (key : String) (options : OptionSet)
    (settings : StreamerSettings) (refusal : Option StartRefusal) :
    Reply Registry (Except SchedulingFailure Nat) :=
  match refusal with
  | some refused =>
      ⟨.error ⟨key, refused.fault⟩, registry, [.threadRequested, refused.event]⟩
  | none =>
      { answer := .ok registry.subscriptions.length
        state :=
          { registry with
            subscriptions := registry.subscriptions ++ [Subscription.create key options settings] }
        events :=
          [.threadRequested, .threadStarted, .subscriptionCreated key options.loggedKeys] }

/-- The number of the live subscription for a key, or of the one that `make` makes if there is none;
a cancelled one gives way. The answer also says whether it was made. -/
def findOrMake (registry : Registry) (key : String)
    (make : Registry → Reply Registry (Except SchedulingFailure Nat)) :
    Reply Registry (Except SchedulingFailure (Nat × Bool)) :=
  match registry.get? key with
  | some number => ⟨.ok (number, false), registry, []⟩
  | none =>
      let made := make registry
      match made.answer with
      | .error failure => ⟨.error failure, made.state, made.events⟩
      | .ok number =>
          { answer := .ok (number, true)
            state := { made.state with table := made.state.table.insert key number }
            events := made.events }

/-- The number of the live subscription for a key; it is made with the options given if there is
none, and keeps its own options if there is one. -/
def getOrCreate (registry : Registry) (key : String) (options : OptionSet)
    (refusal : Option StartRefusal) : Reply Registry (Except SchedulingFailure Nat) :=
  let found := registry.findOrMake key fun state =>
    state.schedule key options state.settings refusal
  match found.answer with
  | .ok (number, true) => ⟨.ok number, found.state, found.events⟩
  | .ok (number, false) =>
      ⟨.ok number, found.state, found.events ++ [.subscriptionReused registry.name key]⟩
  | .error failure =>
      ⟨.error failure, found.state,
        found.events ++ [.creationFailed registry.name key failure.message]⟩

/-- Puts other options into the place of a live subscription's. The answer is whether there is one.
-/
def updateLive (registry : Registry) (key : String) (options : OptionSet) : Reply Registry Bool :=
  match registry.get? key with
  | none => ⟨false, registry, []⟩
  | some number =>
      let replaced := registry.onSubscription number () (·.replaceOptions options)
      ⟨true, replaced.state, replaced.events⟩

/-- Puts other options into the place of a live subscription's, and logs if there is none. -/
def updateOptions (registry : Registry) (key : String) (options : OptionSet) :
    Reply Registry Bool :=
  let updated := registry.updateLive key options
  if updated.answer then updated
  else
    ⟨false, updated.state,
      updated.events ++ [.updateMissed registry.name key options.loggedKeys]⟩

/-- Cancels the subscription with a number through a handle. -/
def cancel (registry : Registry) (number : Nat) : Reply Registry Unit :=
  registry.onSubscription number () (·.cancel .cancelled)

/-- Takes the subscription for a key out of the table, cancelled or not. -/
def remove (registry : Registry) (key : String) : Option Nat × Registry :=
  match registry.table.find? key with
  | none => (none, registry)
  | some number => (some number, { registry with table := registry.table.erase key })

/-- Removes the subscription for a key and cancels it. The answer is whether there was one. -/
def deactivate (registry : Registry) (key : String) : Reply Registry Bool :=
  match registry.remove key with
  | (none, state) => ⟨false, state, [.deactivationMissed registry.name key]⟩
  | (some number, state) =>
      let cancelled := state.cancel number
      let subscribers :=
        ((cancelled.state.subscription? number).map Subscription.subscribers).getD 0
      ⟨true, cancelled.state,
        cancelled.events ++ [.deactivated registry.name key subscribers]⟩

/-- Deactivates the subscriptions for keys one after the other. The answer is how many there were.
-/
def deactivateAll (registry : Registry) : List String → Reply Registry Nat
  | [] => ⟨0, registry, []⟩
  | key :: rest =>
      let first := registry.deactivate key
      let others := deactivateAll first.state rest
      ⟨(if first.answer then 1 else 0) + others.answer, others.state,
        first.events ++ others.events⟩

/-- Deactivates the subscriptions for keys in the order given, and logs how many there were. -/
def shutdownInOrder (registry : Registry) (keys : List String) : Reply Registry Nat :=
  let swept := registry.deactivateAll keys
  ⟨swept.answer, swept.state, swept.events ++ [.shutDown registry.name swept.answer]⟩

/-- Deactivates every subscription in the table, cancelled ones too. -/
def shutdown (registry : Registry) : Reply Registry Nat :=
  registry.shutdownInOrder registry.table.keys

/-- Lends a handle on the subscription with a number. -/
def lend (registry : Registry) (number : Nat) : Registry :=
  (registry.onSubscription number () fun subscription =>
    ⟨(), { subscription with lent := subscription.lent + 1 }, []⟩).state

/-- Takes a handle back. If nothing holds the subscription any more, it is cancelled. -/
def giveBack (registry : Registry) (number : Nat) : Reply Registry Unit :=
  let returned :=
    (registry.onSubscription number () fun subscription =>
      ⟨(), { subscription with lent := subscription.lent - 1 }, []⟩).state
  if returned.isHeld number then ⟨(), returned, []⟩
  else returned.onSubscription number () (·.cancel .handleDropped)

end Registry

end ConsoleFeed
