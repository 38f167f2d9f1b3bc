import ConsoleFeed.Channel.Holdings

/-!
# Broadcasts

A broadcast is a channel with the publisher that owns it. Several of them, by number, are a place
for channels of which the ends can be held by name; their publishers have names too.
-/

namespace ConsoleFeed

/-- A channel together with whether its publisher is still there. -/
structure Broadcast where
  channel : Channel
  publisherHeld : Bool

namespace Broadcast

/-- A channel with its publisher. -/
def create (queueCapacity : Nat) : Broadcast :=
  ⟨Channel.create queueCapacity, true⟩

/-- Publishes payloads one after the other. The answers are how many receivers each is kept for. -/
def publishAll (broadcast : Broadcast) : List String → List Nat × Broadcast
  | [] => ([], broadcast)
  | payload :: rest =>
      let (count, channel) := broadcast.channel.publish payload
      let (counts, last) := publishAll { broadcast with channel := channel } rest
      (count :: counts, last)

end Broadcast

/-- Broadcasts by number, and the names of those whose publishers are still there. -/
structure Broadcasts where
  all : List Broadcast
  publishers : KeyMap Nat

namespace Broadcasts

/-- There are no broadcasts yet. -/
def empty : Broadcasts := ⟨[], KeyMap.empty⟩

/-- Puts a broadcast back under its number. -/
def store (broadcasts : Broadcasts) (number : Nat) (broadcast : Broadcast) : Broadcasts :=
  { broadcasts with all := broadcasts.all.set number broadcast }

instance : ChannelHost Broadcasts where
  channel? broadcasts number := broadcasts.all[number]?.map Broadcast.channel
  withChannel broadcasts number channel :=
    match broadcasts.all[number]? with
    | none => broadcasts
    | some broadcast => broadcasts.store number { broadcast with channel := channel }
  publisherHeld broadcasts number := broadcasts.all[number]?.any Broadcast.publisherHeld

/-- Takes away the publisher with a name. -/
def dropPublisher (broadcasts : Broadcasts) (name : String) : Broadcasts :=
  match broadcasts.publishers.find? name with
  | none => broadcasts
  | some number =>
      let unnamed := { broadcasts with publishers := broadcasts.publishers.erase name }
      match unnamed.all[number]? with
      | none => unnamed
      | some broadcast => unnamed.store number { broadcast with publisherHeld := false }

/-- Makes a broadcast, whose publisher gets a name. -/
def addPublisher (broadcasts : Broadcasts) (name : String) (queueCapacity : Nat) : Broadcasts :=
  let dropped := broadcasts.dropPublisher name
  { all := dropped.all ++ [Broadcast.create queueCapacity]
    publishers := dropped.publishers.insert name dropped.all.length }

/-- Publishes payloads with the publisher with a name. -/
def publishAll? (broadcasts : Broadcasts) (name : String) (payloads : List String) :
    Option (List Nat × Broadcasts) :=
  (broadcasts.publishers.find? name).bind fun number =>
    broadcasts.all[number]?.map fun broadcast =>
      let (counts, published) := broadcast.publishAll payloads
      (counts, broadcasts.store number published)

end Broadcasts

end ConsoleFeed
