import ConsoleFeed.Proofs.Subscription.LoopSteps

/-!
# A subscription and those who use its options

The options of a subscription are replaced by some and used by others, all at the same time. Who
replaces them stores a whole set under the monitor; through the registry the mark is looked at
before that, in a step of its own. Who takes a snapshot loads the set once, without the monitor, and
calls the provider with what was loaded, possibly much later. The tick loop does the same, and
publishes later still. This file puts the callers beside the loop of `SteppedFeed`: between any two
steps of one of them anything may happen.

A set is known by its version, which is the number of sets that were replaced before it. Nothing
that happens depends on versions. They are kept beside the sets that were loaded, so that it can be
said which set that was (`sets`), and they appear in the marks that a run leaves in its history.
-/

namespace ConsoleFeed

/-- Whether the loop has loaded options and not yet delivered what came of them. -/
def LoopStage.isBusy : LoopStage → Bool
  | .asking _ | .delivering _ => true
  | _ => false

/-- Someone who asks the provider for snapshots. -/
inductive Reader where
  | loop
  | caller (number : Nat)
deriving DecidableEq

/-- How far a call has come. An update that stores its options has yet to return, and a snapshot
that has begun has yet to load them. -/
inductive FeedCall where
  | checking (options : OptionSet)
  | replacing (options : OptionSet)
  | returning (version : Nat) (options : OptionSet)
  | beginning
  | asking (version : Nat) (options : OptionSet)
  | finished

/-- What can be asked of a subscription: an update through the registry or through a handle, and a
snapshot. -/
inductive FeedRequest where
  | updateLive (options : OptionSet)
  | update (options : OptionSet)
  | snapshot

/-- What a step leaves in the history. -/
inductive UseMark where
  | installed (options : OptionSet)
  | returned (version : Nat) (options : OptionSet)
  | began (reader : Reader)
  | asked (reader : Reader) (version : Nat) (options : OptionSet)
      (answer : Except LookupPanic String)
  | published (version : Nat) (payload : String)

namespace UseMark

/-- The set that was installed. -/
def installed? : UseMark → Option OptionSet
  | .installed options => some options
  | _ => none

/-- The version of the set that a published payload was computed from. -/
def published? : UseMark → Option Nat
  | .published version _ => some version
  | _ => none

/-- Whether the mark is left by the tick loop. -/
def isLoop : UseMark → Bool
  | .began .loop => true
  | .asked .loop .. => true
  | .published .. => true
  | _ => false

end UseMark

/-- The call that a request begins with. -/
def FeedRequest.call : FeedRequest → FeedCall
  | .updateLive options => .checking options
  | .update options => .replacing options
  | .snapshot => .beginning

/-- What the beginning of a request leaves in the history. -/
def FeedRequest.mark? (caller : Nat) : FeedRequest → Option UseMark
  | .snapshot => some (.began (.caller caller))
  | _ => none

/-- A subscription with its loop, the calls that are going on, the sets of options that were
replaced so far, and the version of the set that the loop loaded last. -/
structure SharedFeed where
  stepped : SteppedFeed
  calls : List FeedCall
  replaced : List OptionSet
  loopVersion : Nat

namespace SharedFeed

/-- One step of somebody: something that happens to the subscription, a step of its loop among it,
the beginning of a call, or a step of one. -/
inductive Move where
  | act (act : SteppedFeed.Act)
  | begin (request : FeedRequest)
  | advance (caller : Nat)

/-- A subscription that was just made. -/
def start (directory : Directory) (key : String) (options : OptionSet)
    (settings : StreamerSettings) : SharedFeed :=
  ⟨SteppedFeed.start directory key options settings, [], [], 0⟩

/-- The options that are loaded now. -/
def options (shared : SharedFeed) : OptionSet := shared.stepped.ticking.feed.options

/-- The sets that were ever in place, by version. -/
def sets (shared : SharedFeed) : List OptionSet := shared.replaced ++ [shared.options]

/-- The version of the options that are loaded now. -/
def version (shared : SharedFeed) : Nat := shared.replaced.length

/-- What the providers give for the subscription's key. -/
def snapshot (shared : SharedFeed) (options : OptionSet) :
    Reply Directory (Except LookupPanic String) :=
  shared.stepped.ticking.directory.takeSnapshot shared.stepped.ticking.feed.key options

/-- What the next step of the loop leaves in the history. -/
def loopMark? (shared : SharedFeed) : Option UseMark :=
  match shared.stepped.loopStep.answer, shared.stepped.stage with
  | some .tookTick, _ => some (.began .loop)
  | some .asked, .asking options =>
      some (.asked .loop shared.loopVersion options (shared.snapshot options).answer)
  | some (.published payload _), _ => some (.published shared.loopVersion payload)
  | _, _ => none

/-- Something happens to the subscription. -/
def happen (shared : SharedFeed) (act : SteppedFeed.Act) : Reply SharedFeed (Option UseMark) :=
  let moved := shared.stepped.perform act
  match act with
  | .loop =>
      { answer := shared.loopMark?
        state :=
          { shared with
            stepped := moved.state
            loopVersion :=
              match shared.stepped.stage with
              | .taken => shared.version
              | _ => shared.loopVersion }
        events := moved.events }
  | .replaceOptions options =>
      ⟨some (.installed options), { shared with stepped := moved.state, replaced := shared.sets },
        moved.events⟩
  | _ => ⟨none, { shared with stepped := moved.state }, moved.events⟩

/-- A caller has come so far. -/
def goesTo (shared : SharedFeed) (caller : Nat) (call : FeedCall) : SharedFeed :=
  { shared with calls := shared.calls.set caller call }

/-- The next step of a call. -/
def advance (shared : SharedFeed) (caller : Nat) : FeedCall → Reply SharedFeed (Option UseMark)
  | .checking options =>
      ⟨none, shared.goesTo caller
        (if shared.stepped.ticking.feed.cancelled then .finished else .replacing options), []⟩
  | .replacing options =>
      let installed := shared.happen (.replaceOptions options)
      ⟨installed.answer,
        installed.state.goesTo caller (.returning installed.state.version options),
        installed.events⟩
  | .returning version options =>
      ⟨some (.returned version options), shared.goesTo caller .finished, []⟩
  | .beginning => ⟨none, shared.goesTo caller (.asking shared.version shared.options), []⟩
  | .asking version options =>
      let asked := shared.snapshot options
      ⟨some (.asked (.caller caller) version options asked.answer),
        (shared.happen (.changeProviders asked.state)).state.goesTo caller .finished, asked.events⟩
  | .finished => ⟨none, shared, []⟩

/-- The subscription and its callers after a move, and what it leaves in the history. -/
def perform (shared : SharedFeed) : Move → Reply SharedFeed (Option UseMark)
  | .act act => shared.happen act
  | .begin request =>
      ⟨request.mark? shared.calls.length, { shared with calls := shared.calls ++ [request.call] },
        []⟩
  | .advance caller =>
      match shared.calls[caller]? with
      | none => ⟨none, shared, []⟩
      | some call => shared.advance caller call

/-- The subscription and its callers after moves, one after the other. -/
def run (shared : SharedFeed) (moves : List Move) : SharedFeed :=
  moves.foldl (fun state move => (state.perform move).state) shared

/-- What the history gets in the course of moves. -/
def history (shared : SharedFeed) : List Move → List UseMark
  | [] => []
  | move :: rest =>
      (shared.perform move).answer.toList ++ (shared.perform move).state.history rest

section Histories

variable (shared : SharedFeed)

theorem run_append (first second : List Move) :
    shared.run (first ++ second) = (shared.run first).run second :=
  List.foldl_append ..

/-- A mark in the history is left by one of the moves. -/
theorem history_eq_append_cons {moves : List Move} {earlier later : List UseMark}
    {mark : UseMark} (split : shared.history moves = earlier ++ mark :: later) :
    ∃ before move after, moves = before ++ move :: after ∧ shared.history before = earlier ∧
      ((shared.run before).perform move).answer = some mark ∧
      ((shared.run before).perform move).state.history after = later := by
  induction moves generalizing shared earlier with
  | nil => cases earlier <;> cases split
  | cons move rest ih =>
      simp only [history] at split
      cases left : (shared.perform move).answer with
      | none =>
          rw [left] at split
          rcases ih _ split with ⟨before, found, after, rfl, same, leaves, rests⟩
          refine ⟨move :: before, found, after, rfl, ?_, leaves, rests⟩
          simpa [history, left] using same
      | some first =>
          rw [left] at split
          cases earlier with
          | nil =>
              simp only [Option.toList_some, List.singleton_append, List.nil_append,
                List.cons.injEq] at split
              rcases split with ⟨rfl, rests⟩
              exact ⟨[], move, rest, rfl, rfl, left, rests⟩
          | cons head tail =>
              simp only [Option.toList_some, List.cons_append, List.cons.injEq] at split
              rcases split with ⟨rfl, split⟩
              rcases ih _ split with ⟨before, found, after, rfl, same, leaves, rests⟩
              refine ⟨move :: before, found, after, rfl, ?_, leaves, rests⟩
              simp [history, left, same]

end Histories

section Alone

variable (shared : SharedFeed)

/-- An update that nobody comes between is what the registry does when options are replaced. -/
theorem view_run_update (options : OptionSet) (interval : Duration) (lent : Nat) :
    (shared.run [.begin (.update options), .advance shared.calls.length,
        .advance shared.calls.length]).stepped.view interval lent =
      ((shared.stepped.view interval lent).replaceOptions options).state := by
  simp [run, perform, FeedRequest.call, advance, goesTo, happen]
  rfl

/-- A snapshot that nobody comes between is the one that the registry takes of the subscription. -/
theorem history_snapshot {registry : Registry} {number : Nat} {interval : Duration} {lent : Nat}
    (present : registry.subscription? number = some (shared.stepped.view interval lent))
    (same : registry.directory = shared.stepped.ticking.directory) :
    shared.history [.begin .snapshot, .advance shared.calls.length,
        .advance shared.calls.length] =
      [.began (.caller shared.calls.length),
        .asked (.caller shared.calls.length) shared.version shared.options
          (registry.takeSnapshotOf number).answer] := by
  simp [history, perform, FeedRequest.call, FeedRequest.mark?, advance, goesTo, snapshot, version,
    SharedFeed.options, Registry.takeSnapshotOf, Registry.onDirectory, Registry.keyOf,
    Registry.optionsOf, present, same, SteppedFeed.view, Subscription.key]

end Alone

/-- No set was installed or loaded, and no call went on. -/
structure SameUse (before after : SharedFeed) : Prop where
  sets : after.sets = before.sets
  calls : after.calls = before.calls
  loopVersion : after.loopVersion = before.loopVersion

/-- What a step does of a call that stands at `call`: where the call stands then, and what the step
leaves in the history. -/
inductive CallMove (before : SharedFeed) (caller : Nat) :
    FeedCall → FeedCall → Option UseMark → Prop where
  | refuses (options : OptionSet) : CallMove before caller (.checking options) .finished none
  | admits (options : OptionSet) :
      CallMove before caller (.checking options) (.replacing options) none
  | installs (options : OptionSet) :
      CallMove before caller (.replacing options) (.returning (before.version + 1) options)
        (some (.installed options))
  | returns (version : Nat) (options : OptionSet) :
      CallMove before caller (.returning version options) .finished
        (some (.returned version options))
  | loads : CallMove before caller .beginning (.asking before.version before.options) none
  | asks (version : Nat) (options : OptionSet) :
      CallMove before caller (.asking version options) .finished
        (some (.asked (.caller caller) version options (before.snapshot options).answer))

/-- What one move does, as far as options are concerned. -/
inductive FeedMove (before after : SharedFeed) (mark : Option UseMark) : Prop where
  | quiet (silent : mark = none) (same : SameUse before after)
      (stage : after.stepped.stage = before.stepped.stage ∨
        after.stepped.stage.isBusy = false)
  | installs (options : OptionSet) (leaves : mark = some (.installed options))
      (sets : after.sets = before.sets ++ [options]) (calls : after.calls = before.calls)
      (loopVersion : after.loopVersion = before.loopVersion)
      (stage : after.stepped.stage = before.stepped.stage)
  | takes (leaves : mark = some (.began .loop)) (same : SameUse before after)
      (stage : after.stepped.stage = .taken)
  | loads (silent : mark = none) (sets : after.sets = before.sets)
      (calls : after.calls = before.calls) (loopVersion : after.loopVersion = before.version)
      (stage : after.stepped.stage = .asking before.options)
  | asks (options : OptionSet) (asking : before.stepped.stage = .asking options)
      (leaves : mark =
        some (.asked .loop before.loopVersion options (before.snapshot options).answer))
      (same : SameUse before after)
      (stage : (∃ payload, (before.snapshot options).answer = .ok payload ∧
        after.stepped.stage = .delivering payload) ∨ after.stepped.stage = .lost)
  | publishes (payload : String) (delivering : before.stepped.stage = .delivering payload)
      (leaves : mark = some (.published before.loopVersion payload)) (same : SameUse before after)
      (stage : after.stepped.stage = .polling)
  | begins (request : FeedRequest) (leaves : mark = request.mark? before.calls.length)
      (sets : after.sets = before.sets) (calls : after.calls = before.calls ++ [request.call])
      (loopVersion : after.loopVersion = before.loopVersion)
      (stage : after.stepped.stage = before.stepped.stage)
  | advances (caller : Nat) (call later : FeedCall)
      (present : before.calls[caller]? = some call)
      (moves : CallMove before caller call later mark)
      (sets : after.sets = before.sets ++ (mark.bind UseMark.installed?).toList)
      (calls : after.calls = before.calls.set caller later)
      (loopVersion : after.loopVersion = before.loopVersion)
      (stage : after.stepped.stage = before.stepped.stage)

section Moves

variable (shared : SharedFeed)

/-- The loop reads the options and never writes them. -/
theorem loopStep_options (stepped : SteppedFeed) :
    stepped.loopStep.state.ticking.feed.options = stepped.ticking.feed.options := by
  cases stepped.loopMove_loopStep with
  | waits _ _ _ same => rw [same]
  | sees _ _ _ ends => rw [ends]; rfl
  | takes _ _ _ _ goesOn => rw [goesOn]
  | reads _ _ goesOn => rw [goesOn]
  | asks _ _ _ _ _ goesOn => rw [goesOn]
  | loses _ _ _ _ _ dies => rw [dies]
  | publishes _ _ _ _ goesOn => rw [goesOn]
  | drops _ _ _ _ ends => rw [ends]; rfl
  | rests _ _ same => rw [same]

theorem feedMove_loop :
    FeedMove shared (shared.happen .loop).state (shared.happen .loop).answer := by
  have options := loopStep_options shared.stepped
  have sets : (shared.happen .loop).state.sets = shared.sets := by
    simp only [sets, SharedFeed.options, happen, SteppedFeed.perform, options]
  have same : shared.stepped.stage ≠ .taken → SameUse shared (shared.happen .loop).state := by
    intro loaded
    refine ⟨sets, rfl, ?_⟩
    cases stage : shared.stepped.stage with
    | taken => exact absurd stage loaded
    | _ => simp only [happen, stage]
  have mark : (shared.happen .loop).answer = shared.loopMark? := rfl
  have next : (shared.happen .loop).state.stepped = shared.stepped.loopStep.state := rfl
  cases shared.stepped.loopMove_loopStep with
  | waits stage poll silent unchanged =>
      refine .quiet ?_ (same (by simp [stage])) (Or.inl ?_)
      · simp [mark, loopMark?, silent]
      · rw [next, unchanged]
  | sees stage poll leaves ends =>
      refine .quiet ?_ (same (by simp [stage])) (Or.inr ?_)
      · simp [mark, loopMark?, leaves]
      · rw [next, ends]
        rfl
  | takes nextDue stage poll leaves goesOn =>
      refine .takes ?_ (same (by simp [stage])) ?_
      · simp [mark, loopMark?, leaves]
      · rw [next, goesOn]
  | reads stage silent goesOn =>
      refine .loads ?_ sets rfl ?_ ?_
      · simp [mark, loopMark?, silent]
      · simp [happen, stage]
      · rw [next, goesOn]
        rfl
  | asks options payload stage answer leaves goesOn =>
      refine .asks options stage ?_ (same (by simp [stage])) (Or.inl ⟨payload, answer, ?_⟩)
      · simp [mark, loopMark?, leaves, stage]
      · rw [next, goesOn]
  | loses options panic stage answer leaves dies =>
      refine .asks options stage ?_ (same (by simp [stage])) (Or.inr ?_)
      · simp [mark, loopMark?, leaves, stage]
      · rw [next, dies]
  | publishes payload stage unmarked leaves goesOn =>
      refine .publishes payload stage ?_ (same (by simp [stage])) ?_
      · simp [mark, loopMark?, leaves]
      · rw [next, goesOn]
  | drops payload stage marked leaves ends =>
      refine .quiet ?_ (same (by simp [stage])) (Or.inr ?_)
      · simp [mark, loopMark?, leaves]
      · rw [next, ends]
        rfl
  | rests stage silent unchanged =>
      refine .quiet ?_ (same (by simp [stage])) (Or.inl ?_)
      · simp [mark, loopMark?, silent]
      · rw [next, unchanged]

theorem cancel_options (stepped : SteppedFeed) (reason : CancelReason) :
    (stepped.cancel reason).state.ticking.feed.options = stepped.ticking.feed.options ∧
      (stepped.cancel reason).state.stage = stepped.stage := by
  cases marked : stepped.ticking.feed.cancelled <;> cases sender : stepped.ticking.senderLeft <;>
    simp [SteppedFeed.cancel, SteppedFeed.withFeed, TickingFeed.stop, Feed.markCancelled, marked,
      sender]

theorem feedMove_happen (act : SteppedFeed.Act) :
    FeedMove shared (shared.happen act).state (shared.happen act).answer := by
  cases act with
  | loop => exact shared.feedMove_loop
  | cancel reason =>
      rcases cancel_options shared.stepped reason with ⟨options, stage⟩
      refine .quiet rfl ⟨?_, rfl, rfl⟩ (Or.inl stage)
      simp only [sets, SharedFeed.options, happen, SteppedFeed.perform, options]
  | replaceOptions options => exact .installs options rfl rfl rfl rfl rfl
  | receive act => exact .quiet rfl ⟨rfl, rfl, rfl⟩ (Or.inl rfl)
  | elapse milliseconds => exact .quiet rfl ⟨rfl, rfl, rfl⟩ (Or.inl rfl)
  | changeProviders directory => exact .quiet rfl ⟨rfl, rfl, rfl⟩ (Or.inl rfl)

theorem length_sets : shared.sets.length = shared.version + 1 := by
  simp [sets, version]

theorem sets_version : shared.sets[shared.version]? = some shared.options := by
  simp [sets, version]

theorem feedMove_perform (move : Move) :
    FeedMove shared (shared.perform move).state (shared.perform move).answer := by
  cases move with
  | act act => exact shared.feedMove_happen act
  | begin request => exact .begins request rfl rfl rfl rfl rfl
  | advance caller =>
      simp only [perform]
      cases present : shared.calls[caller]? with
      | none => exact .quiet rfl ⟨rfl, rfl, rfl⟩ (Or.inl rfl)
      | some call =>
          cases call with
          | checking options =>
              cases marked : shared.stepped.ticking.feed.cancelled with
              | true =>
                  refine .advances caller _ .finished present (.refuses options) ?_ ?_ rfl rfl
                  · exact (List.append_nil _).symm
                  · simp [advance, goesTo, marked]
              | false =>
                  refine .advances caller _ (.replacing options) present (.admits options) ?_ ?_
                    rfl rfl
                  · exact (List.append_nil _).symm
                  · simp [advance, goesTo, marked]
          | replacing options =>
              refine .advances caller _ _ present (.installs options) rfl ?_ rfl rfl
              simp [advance, goesTo, happen, version, sets]
          | returning version options =>
              exact .advances caller _ _ present (.returns version options)
                (List.append_nil _).symm rfl rfl rfl
          | beginning =>
              exact .advances caller _ _ present .loads (List.append_nil _).symm rfl rfl rfl
          | asking version options =>
              exact .advances caller _ _ present (.asks version options)
                (List.append_nil _).symm rfl rfl rfl
          | finished => exact .quiet rfl ⟨rfl, rfl, rfl⟩ (Or.inl rfl)

/-- The sets that were ever in place are those that were, and the one that is installed. -/
theorem sets_perform (move : Move) :
    (shared.perform move).state.sets =
      shared.sets ++ ((shared.perform move).answer.bind UseMark.installed?).toList := by
  cases shared.feedMove_perform move with
  | quiet silent same stage => simp [silent, same.sets]
  | installs options leaves sets calls loopVersion stage => simp [leaves, sets, UseMark.installed?]
  | takes leaves same stage => simp [leaves, same.sets, UseMark.installed?]
  | loads silent sets calls loopVersion stage => simp [silent, sets]
  | asks options asking leaves same stage => simp [leaves, same.sets, UseMark.installed?]
  | publishes payload delivering leaves same stage =>
      simp [leaves, same.sets, UseMark.installed?]
  | begins request leaves sets calls loopVersion stage =>
      rw [leaves, sets]
      cases request <;> simp [FeedRequest.mark?, UseMark.installed?]
  | advances caller call later present moves sets calls loopVersion stage => exact sets

theorem sets_run (moves : List Move) :
    (shared.run moves).sets =
      shared.sets ++ (shared.history moves).filterMap UseMark.installed? := by
  induction moves generalizing shared with
  | nil => simp [run, history]
  | cons move rest ih =>
      have first := shared.sets_perform move
      calc (shared.run (move :: rest)).sets
          = (shared.perform move).state.sets ++
              ((shared.perform move).state.history rest).filterMap UseMark.installed? := ih _
        _ = _ := by
            rw [first, history, List.filterMap_append, List.append_assoc]
            cases (shared.perform move).answer with
            | none => rfl
            | some mark => cases mark <;> rfl

theorem version_le_perform (move : Move) :
    shared.version ≤ (shared.perform move).state.version := by
  have longer := congrArg List.length (shared.sets_perform move)
  rw [List.length_append, length_sets, length_sets] at longer
  omega

end Moves

end SharedFeed

end ConsoleFeed
