import ConsoleFeed.Settings.Basic
import ConsoleFeed.Subscription.Feed

/-!
# Subscriptions

A subscription is a feed with its interval, its tick loop and the handles lent on it. The loop is
between two ticks, inside of one, or has ended. Cancelling marks the feed and sends the stop signal:
a loop that is between two ticks ends with it, and one that is inside of a tick ends when the tick
is over. A loop that is signalled between two ticks does nothing any more but see the signal, so it
counts as ended from the signal on.
-/

namespace ConsoleFeed

/-- Where a subscription's tick loop stands. -/
inductive LoopPhase where
  | waiting
  | ticking
  | ended
deriving DecidableEq

/-- A subscription. `lent` is how many handles on it are left besides the table's. -/
structure Subscription where
  feed : Feed
  interval : Duration
  phase : LoopPhase
  lent : Nat

namespace Subscription

/-- A subscription that was just scheduled. -/
def create (key : String) (options : OptionSet) (settings : StreamerSettings) : Subscription :=
  ⟨Feed.create key options settings.queueCapacity, settings.interval, .waiting, 0⟩

/-- The key of the subscription. -/
def key (subscription : Subscription) : String := subscription.feed.key

/-- Whether the subscription is cancelled. -/
def isCancelled (subscription : Subscription) : Bool := subscription.feed.cancelled

/-- How many are subscribed to its channel. -/
def subscribers (subscription : Subscription) : Nat := subscription.feed.channel.subscribers

/-- Where the loop stands once the stop signal is sent. Between two ticks it counts as ended with
the signal, whether or not it has seen it. -/
def LoopPhase.stopped : LoopPhase → LoopPhase
  | .ticking => .ticking
  | _ => .ended

/-- Cancels the subscription, which only the first call does. -/
def cancel (subscription : Subscription) (reason : CancelReason) : Reply Subscription Unit :=
  let (first, feed) := subscription.feed.markCancelled
  if first then
    ⟨(), { subscription with feed := feed, phase := LoopPhase.stopped subscription.phase },
      [.subscriptionCancelled subscription.key reason]⟩
  else ⟨(), subscription, []⟩

/-- Puts other options into the place of the subscription's. -/
def replaceOptions (subscription : Subscription) (options : OptionSet) : Reply Subscription Unit :=
  let replaced := subscription.feed.replaceOptions options
  ⟨(), { subscription with feed := replaced.state }, replaced.events⟩

/-- The subscription with another channel. -/
def withChannel (subscription : Subscription) (channel : Channel) : Subscription :=
  { subscription with feed := { subscription.feed with channel := channel } }

/-- The inner form of the subscription, with its worker shown as given. -/
def description (subscription : Subscription) (worker : String) : String :=
  "ConsoleSubscription \x7b key: " ++ Visible.quoted subscription.key ++ ", worker_id: " ++
    Visible.quoted worker ++ ", interval: " ++ subscription.interval.text ++ ", .. \x7d"

end Subscription

end ConsoleFeed
