import ConsoleFeed.Channel.Holdings
import ConsoleFeed.Snapshot

/-!
# Feeds

A feed is what a subscription's handles and its tick loop share: the key, the options that the next
snapshot is asked with, the mark that it is cancelled, and the channel on which snapshots are
published.

A tick takes a snapshot and then delivers it. A delivery looks at the mark and publishes in one
step; so once the feed is marked nothing is published on it any more, also if the snapshot was taken
before.
-/

namespace ConsoleFeed

/-- What handles and tick loop of a subscription share. -/
structure Feed where
  key : String
  options : OptionSet
  cancelled : Bool
  channel : Channel

/-- What became of the payload of a tick. -/
inductive Delivery where
  | published (subscribers : Nat)
  | discarded
deriving DecidableEq

/-- A feed has one channel, whose publisher it keeps. -/
instance : ChannelHost Feed where
  channel? feed number := if number = 0 then some feed.channel else none
  withChannel feed _ channel := { feed with channel := channel }
  publisherHeld _ _ := true

namespace Feed

/-- A feed to which nothing has happened yet. -/
def create (key : String) (options : OptionSet) (queueCapacity : Nat) : Feed :=
  ⟨key, options, false, Channel.create queueCapacity⟩

/-- Puts other options into the place of the feed's. -/
def replaceOptions (feed : Feed) (options : OptionSet) : Reply Feed Unit :=
  ⟨(), { feed with options := options }, [.optionsReplaced feed.key options.loggedKeys]⟩

/-- Marks the feed as cancelled. The answer is whether this was the first time. -/
def markCancelled (feed : Feed) : Bool × Feed :=
  (!feed.cancelled, { feed with cancelled := true })

/-- Publishes a payload, or drops it if the feed is cancelled. -/
def deliver (feed : Feed) (payload : String) : Reply Feed Delivery :=
  if feed.cancelled then ⟨.discarded, feed, [.tickDiscarded feed.key]⟩
  else
    let (subscribers, channel) := feed.channel.publish payload
    { answer := .published subscribers
      state := { feed with channel := channel }
      events :=
        [if subscribers = 0 then .tickUnheard feed.key else .tickPublished feed.key subscribers] }

/-- A whole tick: a snapshot with the feed's options, and its delivery. -/
def tick (feed : Feed) (directory : Directory) :
    Reply (Directory × Feed) (Except LookupPanic Delivery) :=
  let snapshot := directory.takeSnapshot feed.key feed.options
  match snapshot.answer with
  | .error panic => ⟨.error panic, (snapshot.state, feed), snapshot.events⟩
  | .ok payload =>
      let delivery := feed.deliver payload
      ⟨.ok delivery.answer, (snapshot.state, delivery.state),
        snapshot.events ++ delivery.events⟩

end Feed

end ConsoleFeed
