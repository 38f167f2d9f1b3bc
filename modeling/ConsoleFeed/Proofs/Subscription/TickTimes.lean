import ConsoleFeed.Proofs.Subscription.LoopSteps
import ConsoleFeed.Provider.Scripted
import Mathlib.Data.List.Induction

/-!
# The times of ticks

A loop asks its provider once in a tick, and each tick is due at least a period after the one before
it: a tick that is begun in time puts the next one a period after its own due time, and a late one a
period after its beginning. So the due times never fall behind the grid of periods that begins with
the loop (`Paced`), however the clock goes and however long a provider takes, and the calls of the
provider, which come after the due times, do not either. As long as no tick is later than the
tolerance the due times are the points of the grid themselves (`OnGrid`).

Whatever happens to a subscription, its clock and its stop signal is a list of turns. Time may pass
between any two steps of the loop, so a provider that is slow is one after whose call much time
passes before its payload is delivered. The signal may be sent by itself, by a cancellation, or by
nobody any more; in each case the polls that follow take no tick.
-/

namespace ConsoleFeed

namespace TickLoop

variable {loop : TickLoop} {now next : Nat}

/-- A tick is taken when it is due. -/
theorem due_of_poll_eq_ticks (ticks : loop.poll now = .ticks next) :
    loop.due ≤ now ∧ next = nextDue loop.period loop.due now := by
  unfold poll at ticks
  split at ticks
  · cases ticks
  · split at ticks
    · cases ticks
    · split at ticks
      · cases ticks
        exact ⟨by assumption, rfl⟩
      · cases ticks

theorem nextDue_of_inTime {period due : Nat} (inTime : now ≤ due + tolerance) :
    nextDue period due now = due + period := by
  rw [nextDue, if_pos (by omega)]

end TickLoop

namespace SteppedFeed

/-- A subscription that is made at a time, with its loop started. -/
def startAt (directory : Directory) (key : String) (options : OptionSet)
    (settings : StreamerSettings) (begun : Nat) : SteppedFeed :=
  let fresh := start directory key options settings
  ⟨{ fresh.ticking with
      loop := TickLoop.start fresh.ticking.loop.period begun fresh.ticking.loop.period_pos
      now := begun }, .polling⟩

/-- What may happen to a subscription, its clock and its stop signal. -/
inductive Turn where
  | act (act : Act)
  | sendStop
  | dropSender

/-- Whether the stop signal is sent or can no longer be sent after this. -/
def Turn.isSignal : Turn → Bool
  | .act (.cancel _) => true
  | .act _ => false
  | .sendStop => true
  | .dropSender => true

/-- The subscription after a turn. -/
def turn (stepped : SteppedFeed) : Turn → SteppedFeed
  | .act act => (stepped.perform act).state
  | .sendStop => ⟨stepped.ticking.stop.2, stepped.stage⟩
  | .dropSender => ⟨stepped.ticking.dropStop.2, stepped.stage⟩

/-- The subscription after turns, one after the other. -/
def turns (stepped : SteppedFeed) (all : List Turn) : SteppedFeed :=
  all.foldl turn stepped

/-- When a turn begins to ask the provider, if it does. -/
def beginning? (stepped : SteppedFeed) : Turn → Option Nat
  | .act act =>
      if (stepped.perform act).answer = some .asked then some stepped.ticking.now else none
  | _ => none

/-- The times at which the provider is asked in the course of turns. -/
def beginnings (stepped : SteppedFeed) : List Turn → List Nat
  | [] => []
  | next :: rest => (stepped.beginning? next).toList ++ (stepped.turn next).beginnings rest

/-- What each turn keeps holds after all of them, and what it tells of a call that it begins is so
of every call, by its number. -/
theorem beginnings_induction (Holds : Nat → SteppedFeed → List Turn → Prop)
    (Tells : Nat → Nat → Prop)
    (step : ∀ {count stepped} next rest, Holds count stepped (next :: rest) →
      Holds (count + (stepped.beginning? next).toList.length) (stepped.turn next) rest ∧
        ∀ time ∈ stepped.beginning? next, Tells count time)
    {count : Nat} {stepped : SteppedFeed} (later : List Turn)
    (holds : Holds count stepped later) :
    Holds (count + (stepped.beginnings later).length) (stepped.turns later) [] ∧
      ∀ number time, (stepped.beginnings later)[number]? = some time →
        Tells (count + number) time := by
  induction later generalizing count stepped with
  | nil => exact ⟨holds, by simp [beginnings]⟩
  | cons next rest ih =>
      rcases step next rest holds with ⟨kept, told⟩
      rcases ih kept with ⟨atEnd, toldLater⟩
      rw [beginnings, List.length_append, ← Nat.add_assoc]
      refine ⟨atEnd, fun number time there => ?_⟩
      cases begins : stepped.beginning? next with
      | none =>
          rw [begins] at there toldLater
          exact toldLater number time there
      | some now =>
          rw [begins] at there toldLater
          cases number with
          | zero =>
              cases there
              exact told time begins
          | succ number =>
              have onward := toldLater number time there
              rwa [Option.toList_some, List.length_singleton, Nat.add_assoc, Nat.add_comm 1]
                at onward

/-- How much time a turn lets pass. -/
def Turn.elapsed : Turn → Nat
  | .act (.elapse milliseconds) => milliseconds
  | _ => 0

/-- Whether a tick is taken whose provider is not asked yet. -/
def inHand (stepped : SteppedFeed) : Bool :=
  match stepped.stage with
  | .taken => true
  | .asking _ => true
  | _ => false

/-- The loop goes on and has no tick in hand: it is at its poll, or has a payload to deliver. -/
structure IsIdle (stepped : SteppedFeed) : Prop where
  free : stepped.inHand = false
  running : stepped.ticking.loop.ended = none
  alive : stepped.stage ≠ .lost

section Moves

/-- A turn that is not the loop's: the loop and its stage stay as they are, and nothing is asked. -/
structure Leaves (before : SteppedFeed) (next : Turn) (after : SteppedFeed) : Prop where
  stage : after.stage = before.stage
  period : after.ticking.loop.period = before.ticking.loop.period
  due : after.ticking.loop.due = before.ticking.loop.due
  ended : after.ticking.loop.ended = before.ticking.loop.ended
  now : after.ticking.now = before.ticking.now + next.elapsed
  silent : before.beginning? next = none
  directory : after.ticking.directory = before.ticking.directory ∨
    ∃ directory, next = .act (.changeProviders directory)

/-- What a turn does to the times of the loop: a tick that is due is taken, the provider is asked in
the tick that is in hand, or nothing of that. -/
inductive TimesMove (before : SteppedFeed) (next : Turn) (after : SteppedFeed) : Prop where
  | takes (idle : before.IsIdle) (unsignalled : before.ticking.loop.stopping = false)
      (held : after.inHand = true) (isDue : before.ticking.loop.due ≤ before.ticking.now)
      (silent : before.beginning? next = none)
      (now : after.ticking.now = before.ticking.now)
      (due : after.ticking.loop.due = TickLoop.nextDue before.ticking.loop.period
        before.ticking.loop.due before.ticking.now)
  | asks (held : before.inHand = true) (free : after.inHand = false)
      (begins : before.beginning? next = some before.ticking.now)
      (now : after.ticking.now = before.ticking.now)
      (due : after.ticking.loop.due = before.ticking.loop.due)
  | rests (held : after.inHand = before.inHand) (idle : after.IsIdle → before.IsIdle)
      (silent : before.beginning? next = none)
      (now : after.ticking.now = before.ticking.now + next.elapsed)
      (due : after.ticking.loop.due = before.ticking.loop.due)

variable {stepped : SteppedFeed}

/-- Only the loop's own turns move the loop. -/
theorem turn_cases (stepped : SteppedFeed) (next : Turn) :
    next = .act .loop ∨ stepped.Leaves next (stepped.turn next) := by
  cases next with
  | sendStop =>
      simp only [turn, TickingFeed.stop]
      split <;> exact .inr ⟨rfl, rfl, rfl, rfl, rfl, rfl, .inl rfl⟩
  | dropSender =>
      simp only [turn, TickingFeed.dropStop]
      split <;> exact .inr ⟨rfl, rfl, rfl, rfl, rfl, rfl, .inl rfl⟩
  | act act =>
      cases act with
      | loop => exact .inl rfl
      | cancel reason =>
          simp only [turn, perform, cancel, TickingFeed.stop]
          split
          · split <;> exact .inr ⟨rfl, rfl, rfl, rfl, rfl, rfl, .inl rfl⟩
          · exact .inr ⟨rfl, rfl, rfl, rfl, rfl, rfl, .inl rfl⟩
      | changeProviders directory =>
          exact .inr ⟨rfl, rfl, rfl, rfl, rfl, rfl, .inr ⟨directory, rfl⟩⟩
      | replaceOptions options => exact .inr ⟨rfl, rfl, rfl, rfl, rfl, rfl, .inl rfl⟩
      | receive act => exact .inr ⟨rfl, rfl, rfl, rfl, rfl, rfl, .inl rfl⟩
      | elapse milliseconds => exact .inr ⟨rfl, rfl, rfl, rfl, rfl, rfl, .inl rfl⟩

/-- A turn that leaves the loop alone leaves its times alone. -/
theorem Leaves.timesMove {after : SteppedFeed} {next : Turn}
    (leaves : stepped.Leaves next after) : TimesMove stepped next after := by
  have held : after.inHand = stepped.inHand := by
    rw [inHand, inHand, leaves.stage]
  refine .rests held ?_ leaves.silent leaves.now leaves.due
  rintro ⟨free, running, alive⟩
  exact ⟨held ▸ free, leaves.ended ▸ running, leaves.stage ▸ alive⟩

/-- The loop asks the provider in a step that leaves that mark. -/
theorem beginning?_loop {mark : Option LoopMark} (leaves : stepped.loopStep.answer = mark) :
    stepped.beginning? (.act .loop) =
      if mark = some .asked then some stepped.ticking.now else none := by
  rw [beginning?, ← leaves]
  rfl

theorem timesMove_loop (stepped : SteppedFeed) :
    TimesMove stepped (.act .loop) (stepped.turn (.act .loop)) := by
  have after : stepped.turn (.act .loop) = stepped.loopStep.state := rfl
  rw [after]
  cases stepped.loopMove_loopStep with
  | waits stage poll silent same =>
      rw [same]
      exact .rests rfl id (beginning?_loop silent) rfl rfl
  | sees stage poll leaves ends =>
      rw [ends]
      refine .rests ?_ ?_ (beginning?_loop leaves) rfl rfl
      · simp [inHand, stage]
      · rintro ⟨-, running, -⟩
        cases running
  | takes nextDue stage poll leaves goesOn =>
      rcases TickLoop.due_of_poll_eq_ticks poll with ⟨isDue, again⟩
      have free := TickLoop.poll_eq_ticks poll
      rw [goesOn]
      refine .takes ⟨by simp [inHand, stage], by simpa using free.1, by simp [stage]⟩ free.2 rfl
        isDue (beginning?_loop leaves) rfl again
  | reads stage silent goesOn =>
      rw [goesOn]
      refine .rests (by simp [inHand, stage]) ?_ (beginning?_loop silent) rfl rfl
      rintro ⟨held, -, -⟩
      cases held
  | asks options payload stage answer leaves goesOn =>
      rw [goesOn]
      exact .asks (by simp [inHand, stage]) rfl (beginning?_loop leaves) rfl rfl
  | loses options panic stage answer leaves dies =>
      rw [dies]
      exact .asks (by simp [inHand, stage]) rfl (beginning?_loop leaves) rfl rfl
  | publishes payload stage unmarked leaves goesOn =>
      rw [goesOn]
      refine .rests (by simp [inHand, stage]) ?_ (beginning?_loop leaves) rfl rfl
      rintro ⟨-, running, -⟩
      exact ⟨by simp [inHand, stage], running, by simp [stage]⟩
  | drops payload stage marked leaves ends =>
      rw [ends]
      refine .rests (by simp [inHand, stage]) ?_ (beginning?_loop leaves) rfl rfl
      rintro ⟨-, running, -⟩
      cases running
  | rests stage silent same =>
      rw [same]
      exact .rests rfl id (beginning?_loop silent) rfl rfl

theorem timesMove_turn (stepped : SteppedFeed) (next : Turn) :
    TimesMove stepped next (stepped.turn next) := by
  rcases stepped.turn_cases next with rfl | leaves
  · exact timesMove_loop stepped
  · exact leaves.timesMove

theorem period_turn (stepped : SteppedFeed) (next : Turn) :
    (stepped.turn next).ticking.loop.period = stepped.ticking.loop.period := by
  rcases stepped.turn_cases next with rfl | leaves
  · have after : stepped.turn (.act .loop) = stepped.loopStep.state := rfl
    rw [after]
    cases stepped.loopMove_loopStep <;> simp [*, TickingFeed.finish]
  · exact leaves.period

/-- A turn that begins a call asks the provider for the key's snapshot, and no other turn asks it
anything. -/
def AskedIffBegun (stepped : SteppedFeed) (next : Turn) : Prop :=
  (stepped.beginning? next = none ∧
      ((stepped.turn next).ticking.directory = stepped.ticking.directory ∨
        ∃ directory, next = .act (.changeProviders directory))) ∨
    ∃ options, stepped.stage = .asking options ∧
      stepped.beginning? next = some stepped.ticking.now ∧
      (stepped.turn next).ticking.directory =
        (stepped.ticking.directory.takeSnapshot stepped.ticking.feed.key options).state

theorem askedIffBegun (stepped : SteppedFeed) (next : Turn) : stepped.AskedIffBegun next := by
  rcases stepped.turn_cases next with rfl | leaves
  · have after : stepped.turn (.act .loop) = stepped.loopStep.state := rfl
    rw [AskedIffBegun, after]
    cases stepped.loopMove_loopStep with
    | waits _ _ silent same => exact .inl ⟨beginning?_loop silent, .inl (by rw [same])⟩
    | sees _ _ leaves ends => exact .inl ⟨beginning?_loop leaves, .inl (by rw [ends]; rfl)⟩
    | takes _ _ _ leaves goesOn => exact .inl ⟨beginning?_loop leaves, .inl (by rw [goesOn])⟩
    | reads _ silent goesOn => exact .inl ⟨beginning?_loop silent, .inl (by rw [goesOn])⟩
    | asks options _ stage _ leaves goesOn =>
        exact .inr ⟨options, stage, beginning?_loop leaves, by rw [goesOn]⟩
    | loses options _ stage _ leaves dies =>
        exact .inr ⟨options, stage, beginning?_loop leaves, by rw [dies]⟩
    | publishes _ _ _ leaves goesOn => exact .inl ⟨beginning?_loop leaves, .inl (by rw [goesOn])⟩
    | drops _ _ _ leaves ends => exact .inl ⟨beginning?_loop leaves, .inl (by rw [ends]; rfl)⟩
    | rests _ silent same => exact .inl ⟨beginning?_loop silent, .inl (by rw [same])⟩
  · exact .inl ⟨leaves.silent, leaves.directory⟩

end Moves

/-- The time of a call, counted from the start of the loop, if each tick is begun when it is due. -/
def gridTime (begun period count : Nat) : Nat :=
  begun + count * period

theorem gridTime_succ (begun period count : Nat) :
    gridTime begun period (count + 1) = gridTime begun period count + period := by
  rw [gridTime, gridTime, Nat.add_mul, Nat.one_mul, Nat.add_assoc]

/-- After the given number of calls the next tick is due no earlier than the grid says, and one that
is in hand was taken no earlier. -/
structure Paced (begun interval count : Nat) (stepped : SteppedFeed) : Prop where
  period : stepped.ticking.loop.period = interval
  due : gridTime begun interval (count + 1) + (if stepped.inHand then interval else 0) ≤
    stepped.ticking.loop.due
  taken : stepped.inHand = true → gridTime begun interval (count + 1) ≤ stepped.ticking.now

section Rate

variable {stepped : SteppedFeed} {begun interval count : Nat}

/-- A turn begins no call before its time, and keeps the loop's pace. -/
theorem Paced.turn (paced : Paced begun interval count stepped) (next : Turn) :
    Paced begun interval (count + (stepped.beginning? next).toList.length) (stepped.turn next) ∧
      ∀ time ∈ stepped.beginning? next, gridTime begun interval (count + 1) ≤ time := by
  rcases paced with ⟨period, due, taken⟩
  have kept := (stepped.period_turn next).trans period
  cases stepped.timesMove_turn next with
  | takes idle unsignalled held isDue silent now later =>
      have apart : stepped.ticking.loop.due + interval ≤ (stepped.turn next).ticking.loop.due := by
        rw [later, period]
        exact TickLoop.add_period_le_nextDue isDue
      simp only [idle.free, Bool.false_eq_true, if_false, Nat.add_zero] at due
      rw [silent]
      refine ⟨⟨kept, ?_, fun _ => ?_⟩, nofun⟩
      · rw [held, if_pos rfl]
        exact Nat.le_trans (Nat.add_le_add_right due interval) apart
      · rw [now]
        exact Nat.le_trans due isDue
  | asks held free begins now same =>
      rw [held, if_pos rfl, ← gridTime_succ] at due
      rw [begins]
      refine ⟨⟨kept, ?_, fun again => ?_⟩, ?_⟩
      · simpa [free, same] using due
      · rw [free] at again
        cases again
      · rintro time ⟨⟩
        exact taken held
  | rests held idle silent now same =>
      rw [silent]
      refine ⟨⟨kept, ?_, fun again => ?_⟩, nofun⟩
      · rw [held, same]
        exact due
      · rw [now]
        exact Nat.le_trans (taken (held ▸ again)) (Nat.le_add_right ..)

/-- The calls that a paced loop begins come no earlier than the grid says, each counted on from
those before. -/
theorem Paced.beginnings (paced : Paced begun interval count stepped) (later : List Turn) :
    ∀ number time, (stepped.beginnings later)[number]? = some time →
      gridTime begun interval (count + number + 1) ≤ time :=
  (beginnings_induction (fun count stepped _ => Paced begun interval count stepped)
    (fun count time => gridTime begun interval (count + 1) ≤ time)
    (fun next _ paced => paced.turn next) later paced).2

/-- Where the calls come no earlier than the grid says, no more have begun by any time than periods
have passed. -/
theorem countP_le_of_grid {times : List Nat} (positive : 0 < interval)
    (late : ∀ number time, times[number]? = some time →
      gridTime begun interval (number + 1) ≤ time) (time : Nat) :
    times.countP (· ≤ time) ≤ (time - begun) / interval := by
  induction times using List.reverseRecOn with
  | nil => simp
  | append_singleton times last ih =>
      have earlier := ih fun number other there =>
        late number other ((List.getElem?_append_left
          (List.getElem?_eq_some_iff.mp there).1).trans there)
      have lastLate := late times.length last (by simp)
      rw [List.countP_append, List.countP_singleton]
      by_cases passed : last ≤ time
      · have all := List.countP_le_length (p := (· ≤ time)) (l := times)
        have fits : (times.length + 1) * interval ≤ time - begun := by
          rw [gridTime] at lastLate
          omega
        simp only [passed, decide_true, if_true]
        exact Nat.le_trans (Nat.succ_le_succ all) ((Nat.le_div_iff_mul_le positive).mpr fits)
      · simpa [passed] using earlier

end Rate

/-- No turn leaves a tick waiting, or in hand, for longer than this after it was due. -/
def InTime (late : Nat) (stepped : SteppedFeed) : List Turn → Prop
  | [] => True
  | next :: rest =>
      (stepped.IsIdle →
        stepped.ticking.now + next.elapsed ≤ stepped.ticking.loop.due + late) ∧
      (stepped.inHand = true →
        stepped.ticking.now + next.elapsed + stepped.ticking.loop.period ≤
          stepped.ticking.loop.due + late) ∧
      InTime late (stepped.turn next) rest

/-- After the given number of calls, none of which was begun late: the next tick is due at its point
of the grid, and so was one that is in hand. -/
structure OnGrid (begun interval late count : Nat) (stepped : SteppedFeed) : Prop where
  period : stepped.ticking.loop.period = interval
  passed : gridTime begun interval count ≤ stepped.ticking.now
  idle : stepped.IsIdle → stepped.ticking.loop.due = gridTime begun interval (count + 1) ∧
    stepped.ticking.now ≤ stepped.ticking.loop.due + late
  held : stepped.inHand = true →
    stepped.ticking.loop.due = gridTime begun interval (count + 1) + interval ∧
      gridTime begun interval (count + 1) ≤ stepped.ticking.now ∧
      stepped.ticking.now ≤ gridTime begun interval (count + 1) + late

section Punctual

variable {stepped : SteppedFeed} {begun interval late count : Nat}

theorem OnGrid.turn (onGrid : OnGrid begun interval late count stepped)
    (tolerated : late ≤ TickLoop.tolerance) (next : Turn)
    (inTime : InTime late stepped [next]) :
    OnGrid begun interval late (count + (stepped.beginning? next).toList.length)
        (stepped.turn next) ∧
      ∀ time ∈ stepped.beginning? next, time ≤ gridTime begun interval (count + 1) + late := by
  rcases onGrid with ⟨period, passed, idle, held⟩
  rcases inTime with ⟨idleInTime, heldInTime, -⟩
  have kept := (stepped.period_turn next).trans period
  cases stepped.timesMove_turn next with
  | takes wasIdle unsignalled nowHeld isDue silent now later =>
      rcases idle wasIdle with ⟨due, notLate⟩
      have next : stepped.ticking.loop.due + interval = (stepped.turn next).ticking.loop.due := by
        rw [later, period, TickLoop.nextDue_of_inTime (by omega)]
      rw [silent]
      refine ⟨⟨kept, now ▸ passed, fun again => ?_, fun _ => ?_⟩, nofun⟩
      · rw [again.free] at nowHeld
        cases nowHeld
      · simp only [Option.toList_none, List.length_nil, Nat.add_zero]
        omega
  | asks wasHeld free begins now same =>
      rcases held wasHeld with ⟨due, taken, notLate⟩
      rw [begins]
      simp only [Option.toList_some, List.length_singleton]
      refine ⟨⟨kept, by omega, fun _ => ?_, fun again => ?_⟩, ?_⟩
      · rw [gridTime_succ]
        omega
      · rw [free] at again
        cases again
      · rintro time ⟨⟩
        exact notLate
  | rests nowHeld wasIdle silent now same =>
      rw [silent]
      simp only [Option.toList_none, List.length_nil, Nat.add_zero]
      refine ⟨⟨kept, by omega, fun again => ?_, fun again => ?_⟩, nofun⟩
      · have limit := idleInTime (wasIdle again)
        have before := idle (wasIdle again)
        omega
      · have limit := heldInTime (nowHeld ▸ again)
        have before := held (nowHeld ▸ again)
        rw [period] at limit
        omega

theorem InTime.head {next : Turn} {rest : List Turn} (inTime : InTime late stepped (next :: rest)) :
    InTime late stepped [next] :=
  ⟨inTime.1, inTime.2.1, trivial⟩

/-- As long as no tick is begun too late every call begins soon after its point of the grid. -/
theorem OnGrid.beginnings (onGrid : OnGrid begun interval late count stepped)
    (tolerated : late ≤ TickLoop.tolerance) (later : List Turn)
    (inTime : InTime late stepped later) :
    OnGrid begun interval late (count + (stepped.beginnings later).length)
        (stepped.turns later) ∧
      ∀ number time, (stepped.beginnings later)[number]? = some time →
        time ≤ gridTime begun interval (count + number + 1) + late := by
  have all := beginnings_induction
    (fun count stepped later =>
      OnGrid begun interval late count stepped ∧ InTime late stepped later)
    (fun count time => time ≤ gridTime begun interval (count + 1) + late)
    (fun next rest holds =>
      have step := holds.1.turn tolerated next holds.2.head
      ⟨⟨step.1, holds.2.2.2⟩, step.2⟩)
    later ⟨onGrid, inTime⟩
  exact ⟨all.1.1, all.2⟩

/-- A loop that goes on has begun a call for every point of the grid that is further back than a
tick may be late. -/
theorem OnGrid.le_count (onGrid : OnGrid begun interval late count stepped)
    (running : stepped.ticking.loop.ended = none) (alive : stepped.stage ≠ .lost) {number : Nat}
    (past : gridTime begun interval number + late < stepped.ticking.now) : number ≤ count := by
  have limit : stepped.ticking.now ≤ gridTime begun interval (count + 1) + late := by
    cases free : stepped.inHand with
    | true => exact (onGrid.held free).2.2
    | false =>
        have idle := onGrid.idle ⟨free, running, alive⟩
        omega
  by_contra more
  have further : gridTime begun interval (count + 1) ≤ gridTime begun interval number :=
    Nat.add_le_add_left (Nat.mul_le_mul_right interval (by omega)) begun
  omega

end Punctual

section Signal

variable {stepped : SteppedFeed}

/-- The means to send the stop signal are given up only in sending it or in letting it go, and a
cancellation does the former. -/
structure Wired (stepped : SteppedFeed) : Prop where
  sender : stepped.ticking.senderLeft = false → stepped.ticking.loop.stopping = true
  marked : stepped.ticking.feed.cancelled = true → stepped.ticking.senderLeft = false

/-- The loop itself neither sends the signal nor takes it back. -/
theorem signal_loopStep (stepped : SteppedFeed) :
    stepped.loopStep.state.ticking.senderLeft = stepped.ticking.senderLeft ∧
      stepped.loopStep.state.ticking.loop.stopping = stepped.ticking.loop.stopping ∧
      stepped.loopStep.state.ticking.feed.cancelled = stepped.ticking.feed.cancelled := by
  cases stepped.loopMove_loopStep <;> simp [*, TickingFeed.finish]

/-- Sending the signal gives it, unless the means to send it are gone. -/
theorem signal_stop (ticking : TickingFeed) :
    (ticking.senderLeft = true ∧ ticking.stop.2.senderLeft = false ∧
        ticking.stop.2.loop.stopping = true) ∨
      ticking.senderLeft = false ∧ ticking.stop.2 = ticking := by
  cases sender : ticking.senderLeft <;> simp [TickingFeed.stop, sender]

theorem dropStop_eq_stop (ticking : TickingFeed) : ticking.dropStop.2 = ticking.stop.2 := by
  cases sender : ticking.senderLeft <;> simp [TickingFeed.dropStop, TickingFeed.stop, sender]

/-- A wired subscription in which the signal is given. -/
def Signalled (stepped : SteppedFeed) : Prop :=
  stepped.Wired ∧ stepped.ticking.loop.stopping = true

theorem Wired.sendStop (wired : stepped.Wired) :
    Signalled ⟨stepped.ticking.stop.2, stepped.stage⟩ := by
  rcases signal_stop stepped.ticking with ⟨-, given, stopping⟩ | ⟨given, same⟩
  · exact ⟨⟨fun _ => stopping, fun _ => given⟩, stopping⟩
  · rw [same]
    exact ⟨wired, wired.sender given⟩

theorem Wired.cancel (wired : stepped.Wired) (reason : CancelReason) :
    (stepped.cancel reason).state.Signalled := by
  cases marked : stepped.ticking.feed.cancelled with
  | true =>
      have same : (stepped.cancel reason).state = stepped := by
        simp [SteppedFeed.cancel, Feed.markCancelled, marked]
      rw [same]
      exact ⟨wired, wired.sender (wired.marked marked)⟩
  | false =>
      have sent : (stepped.cancel reason).state =
          ⟨(stepped.withFeed { stepped.ticking.feed with cancelled := true }).ticking.stop.2,
            stepped.stage⟩ := by
        simp [SteppedFeed.cancel, Feed.markCancelled, marked]
      rw [sent]
      -- The mark comes first, so the feed is not wired in between.
      rcases signal_stop
          (stepped.withFeed { stepped.ticking.feed with cancelled := true }).ticking with
        ⟨-, given, stopping⟩ | ⟨given, same⟩
      · exact ⟨⟨fun _ => stopping, fun _ => given⟩, stopping⟩
      · rw [same]
        exact ⟨⟨wired.sender, fun _ => given⟩, wired.sender given⟩

/-- The signal is given by what gives it, and then stays given. -/
theorem Wired.turn (wired : stepped.Wired) (next : Turn) :
    (stepped.turn next).Wired ∧
      (stepped.ticking.loop.stopping = true ∨ next.isSignal = true →
        (stepped.turn next).ticking.loop.stopping = true) := by
  have given : ∀ {after : SteppedFeed}, after.Signalled →
      after.Wired ∧ (stepped.ticking.loop.stopping = true ∨ next.isSignal = true →
        after.ticking.loop.stopping = true) :=
    fun signalled => ⟨signalled.1, fun _ => signalled.2⟩
  have same : ∀ {after : SteppedFeed},
      after.ticking.senderLeft = stepped.ticking.senderLeft →
      after.ticking.loop.stopping = stepped.ticking.loop.stopping →
      after.ticking.feed.cancelled = stepped.ticking.feed.cancelled → next.isSignal = false →
      after.Wired ∧ (stepped.ticking.loop.stopping = true ∨ next.isSignal = true →
        after.ticking.loop.stopping = true) := by
    intro after sender stopping marked silent
    refine ⟨⟨?_, ?_⟩, ?_⟩
    · rw [sender, stopping]
      exact wired.sender
    · rw [sender, marked]
      exact wired.marked
    · rw [silent, stopping]
      simp
  cases next with
  | sendStop => exact given wired.sendStop
  | dropSender =>
      simp only [SteppedFeed.turn, dropStop_eq_stop]
      exact given wired.sendStop
  | act act =>
      cases act with
      | loop =>
          rcases stepped.signal_loopStep with ⟨sender, stopping, marked⟩
          exact same sender stopping marked rfl
      | cancel reason => exact given (wired.cancel reason)
      | replaceOptions options => exact same rfl rfl rfl rfl
      | receive act => exact same rfl rfl rfl rfl
      | elapse milliseconds => exact same rfl rfl rfl rfl
      | changeProviders directory => exact same rfl rfl rfl rfl

theorem Wired.turns (wired : stepped.Wired) (later : List Turn) : (stepped.turns later).Wired := by
  induction later generalizing stepped with
  | nil => exact wired
  | cons next rest ih => exact ih (wired.turn next).1

theorem Signalled.turns (signalled : stepped.Signalled) (later : List Turn) :
    (stepped.turns later).Signalled := by
  induction later generalizing stepped with
  | nil => exact signalled
  | cons next rest ih =>
      rcases signalled with ⟨wired, stopping⟩
      exact ih ⟨(wired.turn next).1, (wired.turn next).2 (.inl stopping)⟩

/-- Once the signal is given only the tick that is in hand asks the provider. -/
theorem Signalled.length_beginnings_le (signalled : stepped.Signalled) (later : List Turn) :
    (stepped.beginnings later).length ≤ if stepped.inHand then 1 else 0 := by
  induction later generalizing stepped with
  | nil => exact Nat.zero_le _
  | cons next rest ih =>
      have onward := ih (signalled.turns [next])
      have after : stepped.turns [next] = stepped.turn next := rfl
      rw [after] at onward
      rw [beginnings, List.length_append]
      cases stepped.timesMove_turn next with
      | takes idle unsignalled held isDue silent now due =>
          rw [signalled.2] at unsignalled
          cases unsignalled
      | asks held free begins now due =>
          rw [free] at onward
          have nothing : (stepped.turn next).beginnings rest = [] := by simpa using onward
          rw [begins, held, nothing]
          exact Nat.le_refl 1
      | rests held idle silent now due =>
          rw [held] at onward
          rw [silent]
          simpa using onward

theorem Signalled.poll_ne_ticks (signalled : stepped.Signalled) (time next : Nat) :
    stepped.ticking.loop.poll time ≠ .ticks next := by
  intro ticks
  have unsignalled := (TickLoop.poll_eq_ticks ticks).2
  rw [signalled.2] at unsignalled
  cases unsignalled

end Signal

section Begun

variable (directory : Directory) (key : String) (options : OptionSet)
  (settings : StreamerSettings) (begun : Nat)

theorem startAt_zero :
    startAt directory key options settings 0 = start directory key options settings :=
  rfl

theorem paced_startAt :
    Paced begun (max 1 settings.updateIntervalMs.toNat) 0
      (startAt directory key options settings begun) := by
  refine ⟨rfl, ?_, nofun⟩
  have due : (startAt directory key options settings begun).ticking.loop.due =
      begun + max 1 settings.updateIntervalMs.toNat := rfl
  have free : (startAt directory key options settings begun).inHand = false := rfl
  rw [due, free, gridTime]
  simp

theorem onGrid_startAt (late : Nat) :
    OnGrid begun (max 1 settings.updateIntervalMs.toNat) late 0
      (startAt directory key options settings begun) := by
  refine ⟨rfl, ?_, fun _ => ⟨?_, ?_⟩, nofun⟩
  · simp [gridTime, startAt]
  · simp [gridTime, startAt, TickLoop.start, start, TickingFeed.start]
  · simp [startAt, TickLoop.start]
    omega

theorem wired_startAt : (startAt directory key options settings begun).Wired :=
  ⟨nofun, nofun⟩

end Begun

/-- A loop asks its provider at most once in a period, whatever happens to it: the call of each
number begins no earlier than that many periods after the start. If every tick is begun when it is
due the calls begin just then. A signal that is sent or can no longer be sent lets no later poll
take a tick, so that at most the call of a tick that was taken before is still begun. -/
theorem provider_asked_at_most_once_a_period (directory : Directory) (key : String)
    (options : OptionSet) (settings : StreamerSettings) (begun : Nat) (before : List Turn) :
    let period := max 1 settings.updateIntervalMs.toNat
    let first := startAt directory key options settings begun
    let calls := first.beginnings before
    let present := first.turns before
    (∀ (stepped : SteppedFeed) next, stepped.AskedIffBegun next) ∧
      (∀ number time, calls[number]? = some time → begun + (number + 1) * period ≤ time) ∧
      (∀ time, calls.countP (· ≤ time) ≤ (time - begun) / period) ∧
      (∀ time ∈ calls, begun + period ≤ time) ∧
      (InTime 0 first before →
        (∀ number time, calls[number]? = some time → time = begun + (number + 1) * period) ∧
          (present.ticking.loop.ended = none → present.stage ≠ .lost →
            ∀ number, begun + (number + 1) * period < present.ticking.now →
              calls[number]? = some (begun + (number + 1) * period))) ∧
      ∀ signal later, signal.isSignal = true →
        (∀ time next,
            ((present.turn signal).turns later).ticking.loop.poll time ≠ .ticks next) ∧
          ((present.turn signal).beginnings later).length ≤
            if (present.turn signal).inHand then 1 else 0 := by
  intro period first calls present
  have early : ∀ number time, calls[number]? = some time →
      begun + (number + 1) * period ≤ time := by
    intro number time there
    have bound := (paced_startAt directory key options settings begun).beginnings before
      number time there
    rwa [Nat.zero_add] at bound
  refine ⟨askedIffBegun, early, countP_le_of_grid (Nat.le_max_left ..) early, ?_, ?_, ?_⟩
  · intro time there
    rcases List.getElem?_of_mem there with ⟨number, there⟩
    have bound := early number time there
    rw [Nat.succ_mul] at bound
    omega
  · intro inTime
    rcases (onGrid_startAt directory key options settings begun 0).beginnings (Nat.zero_le _)
      before inTime with ⟨onGrid, notLate⟩
    have exactly : ∀ number time, calls[number]? = some time →
        time = begun + (number + 1) * period := by
      intro number time there
      have bound := notLate number time there
      rw [Nat.zero_add, gridTime] at bound
      exact Nat.le_antisymm bound (early number time there)
    refine ⟨exactly, fun running alive number past => ?_⟩
    have passed : gridTime begun period (number + 1) + 0 < present.ticking.now := past
    have there : number < calls.length := by
      have counted := onGrid.le_count running alive passed
      rwa [Nat.zero_add] at counted
    have found : calls[number]? = some calls[number] := List.getElem?_eq_getElem there
    rw [found, exactly number _ found]
  · intro signal later given
    have wired := (wired_startAt directory key options settings begun).turns before
    have signalled : (present.turn signal).Signalled :=
      ⟨(wired.turn signal).1, (wired.turn signal).2 (.inr given)⟩
    exact ⟨(signalled.turns later).poll_ne_ticks, signalled.length_beginnings_le later⟩

/-- A directory with one provider, which counts its calls. -/
def countingDirectory : Directory :=
  (Directory.empty.register (Script.counted.provider "console")).state

/-- Two ticks in time, the second of which is given the stop signal while its payload is not yet
delivered. The provider is called once in each of them, and not again. -/
theorem provider_asked_in_two_seconds :
    let first := startAt countingDirectory "console" KeyMap.empty ⟨1000, 16⟩ 500
    let tick : List Turn := [.act (.elapse 1000), .act .loop, .act .loop, .act .loop]
    let before := tick ++ [.act .loop] ++ tick
    let stopped := (first.turns before).turn .sendStop
    let later := .act .loop :: tick
    InTime 0 first before ∧ Turn.sendStop.isSignal = true ∧
      first.beginnings before = [1500, 2500] ∧
      (∀ number time, (first.beginnings before)[number]? = some time →
        time = 500 + (number + 1) * 1000) ∧
      stopped.beginnings later = [] ∧
      first.ticking.directory.calls 0 = 0 ∧
      (first.turns before).ticking.directory.calls 0 = 2 ∧
      (stopped.turns later).ticking.directory.calls 0 = 2 := by
  intro first tick before stopped later
  have inTime : InTime 0 first before := by
    refine ⟨fun _ => ?_, ?_, fun _ => ?_, ?_, fun _ => ?_, ?_, fun _ => ?_, ?_, fun _ => ?_, ?_,
      fun _ => ?_, ?_, fun _ => ?_, ?_, fun _ => ?_, ?_, fun _ => ?_, ?_, trivial⟩ <;> decide
  rcases provider_asked_at_most_once_a_period countingDirectory "console" KeyMap.empty
    ⟨1000, 16⟩ 500 before with ⟨-, -, -, -, onTime, signal⟩
  have silent := (signal .sendStop later rfl).2
  exact ⟨inTime, rfl, by decide, (onTime inTime).1,
    List.length_eq_zero_iff.mp (Nat.le_zero.mp silent), rfl, by decide, by decide⟩

end SteppedFeed

end ConsoleFeed
