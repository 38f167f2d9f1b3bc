import ConsoleFeed.Subscription.Feed

/-!
# The tick loop

A loop ticks once every period; the first tick is due one period after its start. Whenever the loop
gets to run it looks at the stop signal first. A tick that is due is begun at once, and the next one
is then due one period after this one was, or, if this one was begun more than five milliseconds
late, one period after its beginning; ticks that were missed are not made up. The loop ends with the
stop signal, or with the first tick that finds the feed cancelled.

`TickLoop.poll` is the loop's timing alone. `TickingFeed` is a feed with its loop on a clock of its
own, in milliseconds, so that a run of the loop is a function of the times at which it gets to run.
-/

namespace ConsoleFeed

/-- The timing of a tick loop. `stopping` is set once the stop signal was sent or can no longer be
sent. -/
structure TickLoop where
  period : Nat
  due : Nat
  stopping : Bool
  ended : Option StopReason
  period_pos : 0 < period

/-- What a loop does that gets to run. -/
inductive Poll where
  | stops
  | waits
  | ticks (nextDue : Nat)

namespace TickLoop

/-- How late a tick may begin without putting off the ones after it, in milliseconds. -/
def tolerance : Nat := 5

/-- A loop that starts at a time. -/
def start (period now : Nat) (period_pos : 0 < period) : TickLoop :=
  ⟨period, now + period, false, none, period_pos⟩

/-- When the tick after one is due that was due at `due` and begins at `now`. -/
def nextDue (period due now : Nat) : Nat :=
  if now - due ≤ tolerance then due + period else now + period

/-- What the loop does if it gets to run at a time. -/
def poll (loop : TickLoop) (now : Nat) : Poll :=
  if loop.ended.isSome then .waits
  else if loop.stopping then .stops
  else if loop.due ≤ now then .ticks (nextDue loop.period loop.due now)
  else .waits

/-- A tick is never due again before a period has passed. -/
theorem add_period_le_nextDue {period due now : Nat} (isDue : due ≤ now) :
    due + period ≤ nextDue period due now := by
  unfold nextDue
  split <;> omega

end TickLoop

/-- A feed with its tick loop, the providers that it asks, and the time. `senderLeft` says whether
the stop signal can still be sent. -/
structure TickingFeed where
  directory : Directory
  feed : Feed
  loop : TickLoop
  now : Nat
  senderLeft : Bool

namespace TickingFeed

/-- A feed whose loop starts at time zero. -/
def start (directory : Directory) (feed : Feed) (period : Nat) (period_pos : 0 < period) :
    Reply TickingFeed Unit :=
  ⟨(), ⟨directory, feed, TickLoop.start period 0 period_pos, 0, true⟩,
    [.tickerStarted feed.key period]⟩

/-- Whether the loop has not ended. -/
def isRunning (ticking : TickingFeed) : Bool :=
  ticking.loop.ended.isNone

/-- Ends the loop. -/
def finish (ticking : TickingFeed) (reason : StopReason) : Reply TickingFeed Unit :=
  ⟨(), { ticking with loop := { ticking.loop with ended := some reason } },
    [.tickerStopped ticking.feed.key reason]⟩

/-- One tick, after which the next one is due at the given time. -/
def tick (ticking : TickingFeed) (nextDue : Nat) : Reply TickingFeed Unit :=
  let ticked := ticking.feed.tick ticking.directory
  let after : TickingFeed :=
    { ticking with
      directory := ticked.state.1
      feed := ticked.state.2
      loop := { ticking.loop with due := nextDue } }
  match ticked.answer with
  | .ok .discarded =>
      let finished := after.finish .cancelled
      ⟨(), finished.state, ticked.events ++ finished.events⟩
  | _ => ⟨(), after, ticked.events⟩

/-- Lets the loop run at the present time until it waits, for at most `bound` ticks. -/
def settleWithin (ticking : TickingFeed) : Nat → Reply TickingFeed Unit
  | 0 => ⟨(), ticking, []⟩
  | bound + 1 =>
      match ticking.loop.poll ticking.now with
      | .waits => ⟨(), ticking, []⟩
      | .stops => ticking.finish .stopSignal
      | .ticks nextDue =>
          let ticked := ticking.tick nextDue
          let later := settleWithin ticked.state bound
          ⟨(), later.state, ticked.events ++ later.events⟩

/-- Lets the loop run at the present time until it waits. Each tick moves the next one at least one
millisecond on, so no more ticks can follow than there are milliseconds from the one that is due to
now. -/
def settle (ticking : TickingFeed) : Reply TickingFeed Unit :=
  ticking.settleWithin (ticking.now - ticking.loop.due + 2)

/-- Lets the time pass up to `target`, with the loop running at each time at which a tick is due,
for at most `bound` such times. -/
def passWithin (ticking : TickingFeed) (target : Nat) : Nat → Reply TickingFeed Unit
  | 0 => ⟨(), { ticking with now := target }, []⟩
  | bound + 1 =>
      let settled := ticking.settle
      let next := max settled.state.now settled.state.loop.due
      if settled.state.isRunning ∧ next ≤ target then
        let later := passWithin { settled.state with now := next } target bound
        ⟨(), later.state, settled.events ++ later.events⟩
      else ⟨(), { settled.state with now := target }, settled.events⟩

/-- Lets some time pass, with the loop running at each time at which a tick is due. -/
def pass (ticking : TickingFeed) (milliseconds : Nat) : Reply TickingFeed Unit :=
  let target := ticking.now + milliseconds
  ticking.passWithin target (target - ticking.loop.due + 2)

/-- Puts the clock forward without letting the loop run. -/
def jump (ticking : TickingFeed) (milliseconds : Nat) : TickingFeed :=
  { ticking with now := ticking.now + milliseconds }

/-- Sends the stop signal. The answer is whether it was sent: it can be sent once, and only while
the loop runs. -/
def stop (ticking : TickingFeed) : Bool × TickingFeed :=
  if ticking.senderLeft then
    (ticking.isRunning,
      { ticking with
        senderLeft := false
        loop := { ticking.loop with stopping := true } })
  else (false, ticking)

/-- Gives up the means to send the stop signal, which stops the loop as well. The answer is whether
it was still there. -/
def dropStop (ticking : TickingFeed) : Bool × TickingFeed :=
  if ticking.senderLeft then
    (true,
      { ticking with
        senderLeft := false
        loop := { ticking.loop with stopping := true } })
  else (false, ticking)

end TickingFeed

end ConsoleFeed
