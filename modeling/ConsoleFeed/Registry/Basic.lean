import ConsoleFeed.Fault
import ConsoleFeed.Subscription.Basic

/-!
# The registry

A registry holds the live subscriptions of a streamer by key. Its state is the directory of
providers, every subscription made so far, by number, and the table that binds keys to numbers. A
subscription made outside the table is numbered like the others.

A subscription is live if the table holds it and it is not cancelled. One that was cancelled through
a handle stays in the table, where it counts as absent, until it is replaced or removed.

The table, the handles lent and the tick loop keep a subscription's publisher: it is there as long
as one of them is. When the table and the handles have let go of a subscription, it is cancelled.
-/

namespace ConsoleFeed

/-- The state of a streamer. -/
structure Registry where
  name : String
  settings : StreamerSettings
  directory : Directory
  subscriptions : List Subscription
  table : KeyMap Nat

namespace Registry

/-- A streamer without subscriptions. -/
def create (name : String) (settings : StreamerSettings) (directory : Directory) :
    Reply Registry Unit :=
  ⟨(), ⟨name, settings, directory, [], KeyMap.empty⟩,
    [.streamerCreated name settings.updateIntervalMs.toNat settings.messageQueueSize.toNat]⟩

/-- The subscription with a number. -/
def subscription? (registry : Registry) (number : Nat) : Option Subscription :=
  registry.subscriptions[number]?

/-- Puts a subscription back under its number. -/
def store (registry : Registry) (number : Nat) (subscription : Subscription) : Registry :=
  { registry with subscriptions := registry.subscriptions.set number subscription }

/-- Carries an operation on one subscription over to the registry; nothing happens to a number that
is not in use. -/
def onSubscription {Answer : Type} (registry : Registry) (number : Nat) (absent : Answer)
    (operation : Subscription → Reply Subscription Answer) : Reply Registry Answer :=
  match registry.subscription? number with
  | none => ⟨absent, registry, []⟩
  | some subscription =>
      let reply := operation subscription
      ⟨reply.answer, registry.store number reply.state, reply.events⟩

/-- Carries an operation on the channel of one subscription over to the registry. -/
def onChannel {Answer : Type} (registry : Registry) (number : Nat)
    (operation : Channel → Answer × Channel) : Option (Answer × Registry) :=
  (registry.subscription? number).map fun subscription =>
    let (answer, channel) := operation subscription.feed.channel
    (answer, registry.store number (subscription.withChannel channel))

/-- Whether the subscription with a number is cancelled. -/
def isCancelled (registry : Registry) (number : Nat) : Bool :=
  (registry.subscription? number).any Subscription.isCancelled

/-- The number of the live subscription for a key. -/
def get? (registry : Registry) (key : String) : Option Nat :=
  (registry.table.find? key).filter fun number => !registry.isCancelled number

/-- Whether there is a live subscription for a key. -/
def contains (registry : Registry) (key : String) : Bool :=
  (registry.get? key).isSome

/-- The keys with a live subscription, in ascending order. -/
def activeKeys (registry : Registry) : List String :=
  (registry.table.entries.filter fun entry => !registry.isCancelled entry.2).map Prod.fst

/-- How many live subscriptions there are. -/
def size (registry : Registry) : Nat :=
  registry.activeKeys.length

/-- Whether there is no live subscription. -/
def isEmpty (registry : Registry) : Bool :=
  registry.size == 0

/-- Whether the table holds the subscription with a number. -/
def inTable (registry : Registry) (number : Nat) : Bool :=
  registry.table.entries.any fun entry => entry.2 == number

/-- Whether the table or a handle holds the subscription with a number. -/
def isHeld (registry : Registry) (number : Nat) : Bool :=
  registry.inTable number ||
    (registry.subscription? number).any fun subscription => 0 < subscription.lent

/-- Whether the publisher of the subscription with a number is still there. -/
def publisherHeld (registry : Registry) (number : Nat) : Bool :=
  registry.isHeld number ||
    (registry.subscription? number).any fun subscription => subscription.phase != .ended

/-- The inner form of the streamer; cancelled subscriptions that are still in the table count. -/
def description (registry : Registry) : String :=
  "ConsoleStreamer \x7b name: " ++ Visible.quoted registry.name ++ ", config: " ++
    registry.settings.description ++ ", subscriptions: " ++ toString registry.table.size ++
    ", .. \x7d"

end Registry

/-- A registry has the channels of its subscriptions. -/
instance : ChannelHost Registry where
  channel? registry number := (registry.subscription? number).map (·.feed.channel)
  withChannel registry number channel :=
    match registry.subscription? number with
    | none => registry
    | some subscription => registry.store number (subscription.withChannel channel)
  publisherHeld registry number := registry.publisherHeld number

end ConsoleFeed
