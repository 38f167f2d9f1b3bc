import ConsoleFeed.Proofs.Subscription.LoopSteps

/-!
# Nothing is published after a cancellation

A cancellation sets the mark, which the delivery looks at, and sends the stop signal, which the poll
looks at. Wherever it finds the loop, what the loop can still do is one of few things (`ahead`): at
its poll it sees the signal and ends; in the middle of an iteration it asks the provider, if it has
not asked yet, drops what it gets, and ends. Every step of the loop of a marked feed takes one thing
off the front of what is ahead, and nothing else that happens puts anything back. From this follows
all that is claimed of a cancelled subscription: that nothing is published any more, that at most
one more call of the provider is begun and its payload dropped, and which reason the loop ends with.
-/

namespace ConsoleFeed.SteppedFeed

/-- Whether it is the loop that takes a step. -/
def Act.isLoop : Act → Bool
  | .loop => true
  | _ => false

/-- What the loop of a marked feed can still leave in its history. -/
def ahead (stepped : SteppedFeed) : List LoopMark :=
  if stepped.ticking.loop.ended.isSome then []
  else
    match stepped.stage with
    | .polling => [.sawStop]
    | .taken => [.asked, .discarded]
    | .asking _ => [.asked, .discarded]
    | .delivering _ => [.discarded]
    | .lost => []

/-- How many steps the loop of a marked feed takes until it has ended. -/
def stepsAhead (stepped : SteppedFeed) : Nat :=
  if stepped.ticking.loop.ended.isSome then 0
  else
    match stepped.stage with
    | .polling => 1
    | .taken => 3
    | .asking _ => 2
    | .delivering _ => 1
    | .lost => 0

/-- The reason with which the loop ends if it is cancelled now. -/
def reasonNow (stepped : SteppedFeed) : StopReason :=
  match stepped.stage with
  | .polling => .stopSignal
  | _ => .cancelled

/-- The loop of a marked feed has ended with the reason, or is about to. -/
def EndsWith (stepped : SteppedFeed) (reason : StopReason) : Prop :=
  stepped.ticking.loop.ended = some reason ∨
    stepped.ticking.loop.ended = none ∧ stepped.reasonNow = reason

/-- Nothing has happened to the mark, to the loop, or to what is published. -/
structure Untouched (before after : SteppedFeed) : Prop where
  cancelled : after.ticking.feed.cancelled = before.ticking.feed.cancelled
  stage : after.stage = before.stage
  ended : after.ticking.loop.ended = before.ticking.loop.ended
  published : after.ticking.feed.channel.published = before.ticking.feed.channel.published
  kept : after.ticking.feed.channel.kept = before.ticking.feed.channel.kept

section Steps

variable {stepped : SteppedFeed}

theorem received_keeps (channel : Channel) (act : Channel.ReceiverAct) :
    (channel.received act).published = channel.published ∧
      (channel.received act).kept = channel.kept := by
  cases act with
  | subscribe => exact ⟨rfl, rfl⟩
  | leave id => exact ⟨rfl, rfl⟩
  | read id publisherHeld =>
      simp only [Channel.received, Channel.read?_eq]
      cases channel.receiver? id <;> exact ⟨rfl, rfl⟩

/-- What happens to a marked subscription is a step of its loop, or it leaves the loop and what is
published alone. -/
theorem perform_of_marked (sound : stepped.Sound)
    (marked : stepped.ticking.feed.cancelled = true) (act : Act) :
    (act.isLoop = true ∧
        LoopMove stepped (stepped.perform act).state (stepped.perform act).answer) ∨
      act.isLoop = false ∧ (stepped.perform act).answer = none ∧
        Untouched stepped (stepped.perform act).state := by
  cases act with
  | loop => exact Or.inl ⟨rfl, stepped.loopMove_loopStep⟩
  | cancel reason =>
      rcases cancel_cases sound reason with ⟨_, same⟩ | ⟨unmarked, _⟩
      · refine Or.inr ⟨rfl, rfl, ?_⟩
        simp only [perform, same]
        exact ⟨rfl, rfl, rfl, rfl, rfl⟩
      · rw [marked] at unmarked
        cases unmarked
  | replaceOptions options => exact Or.inr ⟨rfl, rfl, rfl, rfl, rfl, rfl, rfl⟩
  | receive act =>
      rcases received_keeps stepped.ticking.feed.channel act with ⟨published, kept⟩
      exact Or.inr ⟨rfl, rfl, rfl, rfl, rfl, published, kept⟩
  | elapse milliseconds => exact Or.inr ⟨rfl, rfl, rfl, rfl, rfl, rfl, rfl⟩
  | changeProviders directory => exact Or.inr ⟨rfl, rfl, rfl, rfl, rfl, rfl, rfl⟩

end Steps

/-- What can have happened to a marked subscription whose loop has left these marks since. -/
structure Settling (before after : SteppedFeed) (marks : List LoopMark) : Prop where
  marked : after.ticking.feed.cancelled = true
  published : after.ticking.feed.channel.published = before.ticking.feed.channel.published
  kept : after.ticking.feed.channel.kept = before.ticking.feed.channel.kept
  ahead : marks ++ after.ahead <+: before.ahead
  reason : ∀ reason, before.EndsWith reason → after.EndsWith reason

namespace Settling

variable {before between after : SteppedFeed} {first second : List LoopMark}

theorem refl (marked : before.ticking.feed.cancelled = true) : Settling before before [] :=
  ⟨marked, rfl, rfl, List.prefix_rfl, fun _ ends => ends⟩

theorem trans (earlier : Settling before between first) (later : Settling between after second) :
    Settling before after (first ++ second) where
  marked := later.marked
  published := later.published.trans earlier.published
  kept := later.kept.trans earlier.kept
  ahead := by
    rw [List.append_assoc]
    exact ((List.prefix_append_right_inj first).mpr later.ahead).trans earlier.ahead
  reason reason ends := later.reason reason (earlier.reason reason ends)

theorem of_untouched (marked : before.ticking.feed.cancelled = true)
    (untouched : Untouched before after) : Settling before after [] where
  marked := untouched.cancelled.trans marked
  published := untouched.published
  kept := untouched.kept
  ahead := by
    simp [SteppedFeed.ahead, untouched.stage, untouched.ended]
  reason reason ends := by
    simpa only [EndsWith, reasonNow, untouched.stage, untouched.ended] using ends

/-- A loop that has not ended, and is about to end with a reason, has ended with it. -/
theorem endsWith_of_ended {reason : StopReason} (running : before.ticking.loop.ended = none)
    (now : before.reasonNow = reason) (ended : after.ticking.loop.ended = some reason)
    (other : StopReason) (ends : before.EndsWith other) : after.EndsWith other := by
  rcases ends with halted | ⟨_, same⟩
  · rw [running] at halted
    cases halted
  · rw [← same, now]
    exact Or.inl ended

/-- Every step of the loop of a marked feed settles it: its poll cannot find a tick, and its
delivery cannot publish. -/
theorem of_loopMove {mark : Option LoopMark} (sound : before.Sound)
    (marked : before.ticking.feed.cancelled = true) (move : LoopMove before after mark) :
    Settling before after mark.toList := by
  cases move with
  | waits stage poll silent same =>
      subst same silent
      exact .refl marked
  | sees stage poll leaves ends =>
      have alive : before.ticking.loop.ended = none := by
        simpa using (TickLoop.poll_eq_stops poll).1
      subst ends leaves
      refine ⟨marked, rfl, rfl, ?_, ?_⟩
      · simp [SteppedFeed.ahead, TickingFeed.finish, alive, stage]
      · exact endsWith_of_ended alive (by simp [reasonNow, stage]) rfl
  | takes nextDue stage poll leaves goesOn =>
      have unsignalled := sound.signalled.symm.trans (TickLoop.poll_eq_ticks poll).2
      rw [marked] at unsignalled
      cases unsignalled
  | reads stage silent goesOn =>
      have alive := sound.running (by simp [stage])
      subst goesOn silent
      refine ⟨marked, rfl, rfl, ?_, ?_⟩
      · simp [SteppedFeed.ahead, alive, stage]
      · intro reason ends
        simpa [EndsWith, reasonNow, stage] using ends
  | asks options payload stage answer leaves goesOn =>
      have alive := sound.running (by simp [stage])
      subst goesOn leaves
      refine ⟨marked, rfl, rfl, ?_, ?_⟩
      · simp [SteppedFeed.ahead, alive, stage]
      · intro reason ends
        simpa [EndsWith, reasonNow, stage] using ends
  | loses options panic stage answer leaves dies =>
      have alive := sound.running (by simp [stage])
      subst dies leaves
      refine ⟨marked, rfl, rfl, ?_, ?_⟩
      · simp [SteppedFeed.ahead, alive, stage]
      · intro reason ends
        simpa [EndsWith, reasonNow, stage] using ends
  | publishes payload stage unmarked leaves goesOn =>
      rw [marked] at unmarked
      cases unmarked
  | drops payload stage _ leaves ends =>
      have alive := sound.running (by simp [stage])
      subst ends leaves
      refine ⟨marked, rfl, rfl, ?_, ?_⟩
      · simp [SteppedFeed.ahead, TickingFeed.finish, alive, stage]
      · exact endsWith_of_ended alive (by simp [reasonNow, stage]) rfl
  | rests stage silent same =>
      subst same silent
      exact .refl marked

end Settling

theorem settling_perform {stepped : SteppedFeed} (sound : stepped.Sound)
    (marked : stepped.ticking.feed.cancelled = true) (act : Act) :
    Settling stepped (stepped.perform act).state (stepped.perform act).answer.toList := by
  rcases perform_of_marked sound marked act with ⟨_, step⟩ | ⟨_, silent, untouched⟩
  · exact .of_loopMove sound marked step
  · rw [silent]
    exact .of_untouched marked untouched

theorem settling_run {stepped : SteppedFeed} (sound : stepped.Sound)
    (marked : stepped.ticking.feed.cancelled = true) (acts : List Act) :
    Settling stepped (stepped.run acts) (stepped.history acts) := by
  induction acts generalizing stepped with
  | nil => exact .refl marked
  | cons act rest ih =>
      have now := settling_perform sound marked act
      exact now.trans (ih (sound.perform act) now.marked)

section Ending

variable {stepped : SteppedFeed}

theorem stepsAhead_le (stepped : SteppedFeed) : stepped.stepsAhead ≤ 3 := by
  simp only [stepsAhead]
  split
  · omega
  · split <;> omega

theorem LoopMove.stepsAhead {before after : SteppedFeed} {mark : Option LoopMark}
    (sound : before.Sound) (marked : before.ticking.feed.cancelled = true)
    (move : LoopMove before after mark) : after.stepsAhead ≤ before.stepsAhead - 1 := by
  cases move with
  | waits stage poll silent same =>
      have stopping : before.ticking.loop.stopping = true := sound.signalled.trans marked
      have halted : before.ticking.loop.ended.isSome = true := by
        simpa [TickLoop.poll, stopping, Option.isSome_iff_ne_none] using poll
      simp [SteppedFeed.stepsAhead, same, halted]
  | sees stage poll leaves ends => simp [SteppedFeed.stepsAhead, ends, TickingFeed.finish]
  | takes nextDue stage poll leaves goesOn =>
      have unsignalled := sound.signalled.symm.trans (TickLoop.poll_eq_ticks poll).2
      rw [marked] at unsignalled
      cases unsignalled
  | reads stage silent goesOn =>
      simp [SteppedFeed.stepsAhead, goesOn, sound.running, stage]
  | asks options payload stage answer leaves goesOn =>
      simp [SteppedFeed.stepsAhead, goesOn, sound.running, stage]
  | loses options panic stage answer leaves dies =>
      simp [SteppedFeed.stepsAhead, dies, sound.running, stage]
  | publishes payload stage unmarked leaves goesOn =>
      rw [marked] at unmarked
      cases unmarked
  | drops payload stage _ leaves ends =>
      simp [SteppedFeed.stepsAhead, ends, TickingFeed.finish]
  | rests stage silent same => simp [SteppedFeed.stepsAhead, same, stage]

/-- The loop of a marked feed comes nearer to its end with each of its steps. -/
theorem stepsAhead_run (sound : stepped.Sound)
    (marked : stepped.ticking.feed.cancelled = true) (acts : List Act) :
    (stepped.run acts).stepsAhead ≤ stepped.stepsAhead - acts.countP Act.isLoop := by
  induction acts generalizing stepped with
  | nil => exact Nat.le_refl _
  | cons act rest ih =>
      have later := ih (sound.perform act) (settling_perform sound marked act).marked
      change ((stepped.perform act).state.run rest).stepsAhead ≤ _
      rw [List.countP_cons]
      rcases perform_of_marked sound marked act with ⟨steps, step⟩ | ⟨aside, _, untouched⟩
      · have fewer := step.stepsAhead sound marked
        rw [if_pos steps]
        omega
      · have same : (stepped.perform act).state.stepsAhead = stepped.stepsAhead := by
          simp only [stepsAhead, untouched.stage, untouched.ended]
        simp only [aside, Bool.false_eq_true, if_false]
        omega

/-- Where no lookup panics the loop's thread is not lost. -/
theorem stage_ne_lost (acts : List Act) (succeed : stepped.ticking.directory.LookupsSucceed)
    (others : ∀ directory, .changeProviders directory ∈ acts → directory.LookupsSucceed)
    (alive : stepped.stage ≠ .lost) : (stepped.run acts).stage ≠ .lost := by
  induction acts generalizing stepped with
  | nil => exact alive
  | cons act rest ih =>
      have now : (stepped.perform act).state.ticking.directory.LookupsSucceed ∧
          (stepped.perform act).state.stage ≠ .lost := by
        cases act with
        | loop =>
            have fine := fun options =>
              Directory.takeSnapshot_ok stepped.ticking.feed.key options succeed
            simp only [perform]
            cases stepped.loopMove_loopStep with
            | waits stage poll silent same => simp [same, succeed, alive]
            | sees stage poll leaves ends => simp [ends, succeed, TickingFeed.finish]
            | takes nextDue stage poll leaves goesOn => simp [goesOn, succeed]
            | reads stage silent goesOn => simp [goesOn, succeed]
            | asks options payload stage answer leaves goesOn =>
                simp [goesOn, (fine options).2]
            | loses options panic stage answer leaves dies =>
                rcases (fine options).1 with ⟨text, answered⟩
                rw [answered] at answer
                cases answer
            | publishes payload stage unmarked leaves goesOn => simp [goesOn, succeed]
            | drops payload stage marked leaves ends => simp [ends, succeed, TickingFeed.finish]
            | rests stage silent same => exact absurd stage alive
        | cancel reason =>
            cases marked : stepped.ticking.feed.cancelled <;>
              cases left : stepped.ticking.senderLeft <;>
                simp [perform, cancel, Feed.markCancelled, withFeed, TickingFeed.stop, marked,
                  left, succeed, alive]
        | changeProviders directory => exact ⟨others directory List.mem_cons_self, alive⟩
        | replaceOptions options => exact ⟨succeed, alive⟩
        | receive act => exact ⟨succeed, alive⟩
        | elapse milliseconds => exact ⟨succeed, alive⟩
      exact ih now.1 (fun directory member => others directory (List.mem_cons_of_mem act member))
        now.2

theorem cancelled_loopStep (stepped : SteppedFeed) :
    stepped.loopStep.state.ticking.feed.cancelled = stepped.ticking.feed.cancelled := by
  cases stepped.loopMove_loopStep <;> simp [*, TickingFeed.finish]

theorem Sound.ended_eq_none (sound : stepped.Sound)
    (unmarked : stepped.ticking.feed.cancelled = false) : stepped.ticking.loop.ended = none := by
  cases halted : stepped.ticking.loop.ended with
  | none => rfl
  | some reason =>
      have marked := (sound.ended (by simp [halted])).1
      rw [unmarked] at marked
      cases marked

theorem cancel_keeps (sound : stepped.Sound) (reason : CancelReason) :
    (stepped.cancel reason).state.ticking.feed.cancelled = true ∧
      (stepped.cancel reason).state.stage = stepped.stage ∧
      (stepped.cancel reason).state.ticking.loop.ended = stepped.ticking.loop.ended ∧
      (stepped.cancel reason).state.ticking.feed.channel = stepped.ticking.feed.channel := by
  rcases cancel_cases sound reason with ⟨marked, same⟩ | ⟨_, changed⟩
  · rw [same]
    exact ⟨marked, rfl, rfl, rfl⟩
  · rw [changed]
    exact ⟨rfl, rfl, rfl, rfl⟩

/-- A loop with no step ahead of it has ended, unless its thread is lost. -/
theorem ended_of_stepsAhead (none_ahead : stepped.stepsAhead = 0)
    (alive : stepped.stage ≠ .lost) : stepped.ticking.loop.ended.isSome = true := by
  simp only [stepsAhead] at none_ahead
  split at none_ahead
  · assumption
  · split at none_ahead <;> simp_all

theorem unmarked_run (acts : List Act) (unmarked : stepped.ticking.feed.cancelled = false)
    (uncancelled : ∀ reason, .cancel reason ∉ acts) :
    (stepped.run acts).ticking.feed.cancelled = false := by
  induction acts generalizing stepped with
  | nil => exact unmarked
  | cons act rest ih =>
      have now : (stepped.perform act).state.ticking.feed.cancelled = false := by
        cases act with
        | loop => exact stepped.cancelled_loopStep.trans unmarked
        | cancel reason => exact absurd List.mem_cons_self (uncancelled reason)
        | changeProviders directory => exact unmarked
        | replaceOptions options => exact unmarked
        | receive act => exact unmarked
        | elapse milliseconds => exact unmarked
      exact ih now (fun reason member => uncancelled reason (List.mem_cons_of_mem act member))

/-- A loop that has dropped a payload or has seen the stop signal has ended. -/
theorem ended_of_last {act : Act} {mark : LoopMark}
    (leaves : (stepped.perform act).answer = some mark)
    (last : mark = .discarded ∨ mark = .sawStop) :
    (stepped.perform act).state.ticking.loop.ended.isSome = true := by
  cases act with
  | loop =>
      simp only [perform] at leaves ⊢
      cases stepped.loopMove_loopStep with
      | sees stage poll left ends => simp [ends, TickingFeed.finish]
      | drops payload stage marked left ends => simp [ends, TickingFeed.finish]
      | _ => rcases last with rfl | rfl <;> simp_all
  | _ => simp [perform] at leaves

/-- The loop's history ends with a payload dropped or with the stop signal seen. -/
theorem history_of_last (sound : stepped.Sound) (acts : List Act) {first second : List LoopMark}
    {mark : LoopMark} (splits : stepped.history acts = first ++ mark :: second)
    (last : mark = .discarded ∨ mark = .sawStop) : second = [] := by
  induction acts generalizing stepped first with
  | nil => simp [history] at splits
  | cons act rest ih =>
      rw [history] at splits
      cases leaves : (stepped.perform act).answer with
      | none =>
          rw [leaves] at splits
          exact ih (sound.perform act) splits
      | some left =>
          rw [leaves] at splits
          cases first with
          | cons head more =>
              simp only [Option.toList_some, List.cons_append, List.nil_append,
                List.cons.injEq] at splits
              exact ih (sound.perform act) splits.2
          | nil =>
              simp only [Option.toList_some, List.cons_append, List.nil_append,
                List.cons.injEq] at splits
              rcases splits with ⟨rfl, remaining⟩
              have halted := ended_of_last leaves last
              have soundNow := sound.perform act
              have settling := (settling_run soundNow (soundNow.ended halted).1 rest).ahead
              simp only [ahead, halted, if_true, List.prefix_nil, List.append_eq_nil_iff]
                at settling
              rw [← remaining]
              exact settling.1

end Ending

theorem ahead_cases (stepped : SteppedFeed) :
    stepped.ahead = [] ∨ stepped.ahead = [.sawStop] ∨ stepped.ahead = [.discarded] ∨
      stepped.ahead = [.asked, .discarded] ∧
        (stepped.stage = .taken ∨ ∃ options, stepped.stage = .asking options) := by
  simp only [ahead]
  split
  · exact Or.inl rfl
  · split <;> simp_all

/-- What a marked feed's loop leaves in its history: nothing is published, the provider is asked at
most once, and only if a tick was taken before, and then nothing follows but the payload's being
dropped. -/
theorem marks_of_prefix {stepped : SteppedFeed} {marks : List LoopMark}
    (within : marks <+: stepped.ahead) :
    (∀ payload subscribers, .published payload subscribers ∉ marks) ∧
      marks.count .asked ≤ 1 ∧
      (.asked ∈ marks → stepped.stage = .taken ∨ ∃ options, stepped.stage = .asking options) ∧
      ∀ first second, marks = first ++ .asked :: second → second <+: [.discarded] := by
  have unpublished : ∀ payload subscribers, .published payload subscribers ∉ stepped.ahead := by
    rcases stepped.ahead_cases with whole | whole | whole | ⟨whole, _⟩ <;> simp [whole]
  have once : stepped.ahead.count .asked ≤ 1 := by
    rcases stepped.ahead_cases with whole | whole | whole | ⟨whole, _⟩ <;> simp [whole]
  have asks : .asked ∈ stepped.ahead → stepped.ahead = [.asked, .discarded] ∧
      (stepped.stage = .taken ∨ ∃ options, stepped.stage = .asking options) := by
    rcases stepped.ahead_cases with whole | whole | whole | ⟨whole, taken⟩
    · simp [whole]
    · simp [whole]
    · simp [whole]
    · exact fun _ => ⟨whole, taken⟩
  refine ⟨?_, Nat.le_trans (within.sublist.count_le .asked) once, ?_, ?_⟩
  · intro payload subscribers member
    exact unpublished payload subscribers (within.subset member)
  · intro member
    exact (asks (within.subset member)).2
  · rintro first second rfl
    rw [(asks (within.subset (by simp))).1] at within
    cases first with
    | nil => exact (List.prefix_cons_inj _).mp within
    | cons head more =>
        rw [List.cons_append, List.cons_prefix_cons] at within
        have member : LoopMark.asked ∈ [LoopMark.discarded] := within.2.subset (by simp)
        simp at member

/-- Whatever happens to a subscription before it is cancelled and afterwards: once it is cancelled
nothing is published on its channel any more. The loop begins at most one more call of the provider,
and that only for a tick that it had taken, and drops what it gets. Nothing follows in the loop once
it has dropped a payload or has seen the stop signal. If this was the first cancellation, the loop
had not ended before; it ends within three steps of its own unless a lookup panics; and it ends as
cancelled if the cancellation found it in the middle of an iteration, and with the stop signal if it
found it at its poll. -/
theorem nothing_published_after_cancel (directory : Directory) (key : String)
    (options : OptionSet) (settings : StreamerSettings) (earlier later : List Act)
    (reason : CancelReason) :
    let begun := start directory key options settings
    let before := begun.run earlier
    let cancelled := (before.perform (.cancel reason)).state
    let after := cancelled.run later
    let marks := cancelled.history later
    (after.ticking.feed.channel.published = before.ticking.feed.channel.published ∧
      after.ticking.feed.channel.kept = before.ticking.feed.channel.kept ∧
      ∀ payload subscribers, .published payload subscribers ∉ marks) ∧
    (marks.count .asked ≤ 1 ∧
      (.asked ∈ marks → before.stage = .taken ∨ ∃ options, before.stage = .asking options) ∧
      ∀ first second, marks = first ++ .asked :: second → second <+: [.discarded]) ∧
    (∀ first mark second,
      begun.history (earlier ++ .cancel reason :: later) = first ++ mark :: second →
        mark = .discarded ∨ mark = .sawStop → second = []) ∧
    ((∀ other, .cancel other ∉ earlier) →
      before.ticking.loop.ended = none ∧
      (∀ stopReason, after.ticking.loop.ended = some stopReason →
        (stopReason = .cancelled ↔ before.stage ≠ .polling) ∧
          (stopReason = .stopSignal ↔ before.stage = .polling)) ∧
      (directory.LookupsSucceed →
        (∀ other, .changeProviders other ∈ earlier ++ later → other.LookupsSucceed) →
        3 ≤ later.countP Act.isLoop → after.ticking.loop.ended.isSome = true)) := by
  intro begun before cancelled after marks
  have fresh : begun.Sound := sound_start directory key options settings
  have sound : before.Sound := fresh.run earlier
  have soundNow : cancelled.Sound := sound.perform (.cancel reason)
  have now : cancelled.ticking.feed.cancelled = true ∧ cancelled.stage = before.stage ∧
      cancelled.ticking.loop.ended = before.ticking.loop.ended ∧
      cancelled.ticking.feed.channel = before.ticking.feed.channel := cancel_keeps sound reason
  rcases now with ⟨marked, stage, ended, channel⟩
  have settling : Settling cancelled after marks := settling_run soundNow marked later
  have within : marks <+: cancelled.ahead :=
    (List.prefix_append marks after.ahead).trans settling.ahead
  rcases marks_of_prefix within with ⟨unpublished, once, taken, dropped⟩
  rw [stage] at taken
  refine ⟨⟨?_, ?_, unpublished⟩, ⟨once, taken, dropped⟩, ?_, ?_⟩
  · rw [settling.published, channel]
  · rw [settling.kept, channel]
  · intro first mark second splits last
    exact history_of_last fresh _ splits last
  · intro uncancelled
    have running : before.ticking.loop.ended = none :=
      sound.ended_eq_none (unmarked_run earlier rfl uncancelled)
    have ends := settling.reason cancelled.reasonNow (Or.inr ⟨ended.trans running, rfl⟩)
    refine ⟨running, ?_, ?_⟩
    · intro stopReason halted
      have same : stopReason = cancelled.reasonNow := by
        rcases ends with endsSo | ⟨runs, _⟩
        · exact Option.some.inj (halted.symm.trans endsSo)
        · rw [halted] at runs
          cases runs
      rw [same, reasonNow, stage]
      cases before.stage <;> simp
    · intro succeed others steps
      have alive : after.stage ≠ .lost := by
        have whole : after = begun.run (earlier ++ .cancel reason :: later) := by
          rw [run_append]
          rfl
        rw [whole]
        refine stage_ne_lost _ succeed ?_ (by simp [begun, start])
        intro directory member
        apply others directory
        simpa using member
      have near : after.stepsAhead ≤ cancelled.stepsAhead - later.countP Act.isLoop :=
        stepsAhead_run soundNow marked later
      have few := stepsAhead_le cancelled
      exact ended_of_stepsAhead (by omega) alive

/-- A cancellation that finds the first tick taken: the loop asks, drops the payload and ends as
cancelled. -/
theorem nothing_published_after_cancel_of_taken :
    let before := (start Directory.empty "console" KeyMap.empty .standard).run
      [.elapse 5000, .loop]
    let after := (before.perform (.cancel .cancelled)).state.run [.loop, .loop, .loop]
    before.stage = .taken ∧ after.ticking.loop.ended = some .cancelled := by
  intro before after
  have stage : before.stage = .taken := by rfl
  have succeed : Directory.empty.LookupsSucceed := by
    intro registration member
    cases member
  rcases (nothing_published_after_cancel Directory.empty "console" KeyMap.empty .standard
    [.elapse 5000, .loop] [.loop, .loop, .loop] .cancelled).2.2.2 (by simp) with ⟨_, reason, ends⟩
  rcases Option.isSome_iff_exists.mp (ends succeed (by simp) (by decide)) with ⟨found, ended⟩
  have busy : before.stage ≠ .polling := by
    rw [stage]
    simp
  have cancelled : found = .cancelled := (reason found ended).1.mpr busy
  exact ⟨stage, cancelled ▸ ended⟩

end ConsoleFeed.SteppedFeed
