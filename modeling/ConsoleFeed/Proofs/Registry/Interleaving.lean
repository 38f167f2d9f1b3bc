import ConsoleFeed.Proofs.Registry.Operations

/-!
# Calls on one registry that go on at the same time

A registry is shared by many callers. A call is not one step: it reads the table, and then it takes
the step that makes an entry; it takes an entry out of the table, and then it cancels it. Between
two steps of one call any number of steps of others may come. This file gives the calls as the steps
that they are made of. A step is what happens while one lock is held, and none is divided further:
the first look at the table together with the look at the mark of what it finds, the step that looks
again and makes an entry where there is none, the removal from the table, and what happens to a
subscription under its own monitor.

A `SharedRegistry` is a registry with the calls that are going on, and a `Move` is one step of
somebody: of a call, of the holder of a handle, of a tick loop, or of the readers of a channel. Any
sequence of moves is a run, so a statement about all runs is one about all interleavings. The model
allows more than can happen. A guard of the table that keeps a removal waiting while the options of
an entry are replaced is left out, a handle may be used by someone to whom none was lent, and a
shutdown may list a key at any moment at which the table holds it.

A call that nobody comes between does what the registry's operation of that name does:
`Call.Finishes` is going on alone to the end, and there is one lemma for each kind of call.
-/

namespace ConsoleFeed

namespace SharedRegistry

open Registry (Answer entryAnswer snapshotAnswer)

/-- What a caller wants of the entry that it asks for. -/
inductive Wish where
  | handle
  | snapshot
  | stream

/-- How far a deactivation has come. Between its removal and its report it holds the entry. -/
inductive Deactivation where
  | removing (key : String)
  | cancelling (key : String) (number : Nat)
  | reporting (key : String) (number : Nat)
  | finished (found : Bool)

/-- How far a call has come. -/
inductive Call where
  | looking (key : String) (options : OptionSet) (wish : Wish)
  | entering (key : String) (options : OptionSet) (wish : Wish)
  | holding (number : Nat) (wish : Wish)
  | asking (number : Nat) (options : OptionSet)
  | leaving (number : Nat) (answer : Answer)
  | updating (key : String) (options : OptionSet)
  | replacing (number : Nat) (options : OptionSet)
  | deactivating (deactivation : Deactivation)
  | listing (keys : List String)
  | sweeping (deactivation : Deactivation) (keys : List String) (count : Nat)
  | done (answer : Answer)

/-- The next step of a deactivation. -/
def Deactivation.step (registry : Registry) : Deactivation → Reply Registry Deactivation
  | .removing key =>
      match registry.remove key with
      | (none, state) => ⟨.finished false, state, [.deactivationMissed registry.name key]⟩
      | (some number, state) => ⟨.cancelling key number, state.lend number, []⟩
  | .cancelling key number =>
      let cancelled := registry.cancel number
      ⟨.reporting key number, cancelled.state, cancelled.events⟩
  | .reporting key number =>
      let subscribers := ((registry.subscription? number).map Subscription.subscribers).getD 0
      let returned := registry.giveBack number
      ⟨.finished true, returned.state,
        .deactivated registry.name key subscribers :: returned.events⟩
  | .finished found => ⟨.finished found, registry, []⟩

namespace Call

/-- A shutdown that has its list of keys goes to the next one, or ends. -/
def sweepOn (registry : Registry) (count : Nat) : List String → Reply Registry Call
  | [] => ⟨.done (.count count), registry, [.shutDown registry.name count]⟩
  | key :: rest => ⟨.sweeping (.removing key) rest count, registry, []⟩

/-- The next step of a call. `refusal` is the system's reason not to give what a new loop needs
in this step, if it has one. -/
def step (registry : Registry) (refusal : Option StartRefusal) : Call → Reply Registry Call
  | .looking key options wish =>
      match registry.get? key with
      | some number =>
          ⟨.holding number wish, registry.lend number, [.subscriptionReused registry.name key]⟩
      | none => ⟨.entering key options wish, registry, []⟩
  | .entering key options wish =>
      let entered := registry.getOrCreate key options refusal
      match entered.answer with
      | .ok number => ⟨.holding number wish, entered.state.lend number, entered.events⟩
      | .error failure => ⟨.done (.failed failure), entered.state, entered.events⟩
  | .holding number .handle => ⟨.done (.entry number), registry, []⟩
  | .holding number .snapshot => ⟨.asking number (registry.optionsOf number), registry, []⟩
  | .holding number .stream =>
      let opened := registry.onChannel number fun channel => ((), channel.openStream)
      ⟨.leaving number (.entry number), (opened.map Prod.snd).getD registry, []⟩
  | .asking number options =>
      let taken := registry.onDirectory (·.takeSnapshot (registry.keyOf number) options)
      ⟨.leaving number (.snapshot taken.answer), taken.state, taken.events⟩
  | .leaving number answer =>
      let returned := registry.giveBack number
      ⟨.done answer, returned.state, returned.events⟩
  | .updating key options =>
      match registry.get? key with
      | some number => ⟨.replacing number options, registry, []⟩
      | none =>
          ⟨.done (.flag false), registry, [.updateMissed registry.name key options.loggedKeys]⟩
  | .replacing number options =>
      let replaced := registry.onSubscription number () (·.replaceOptions options)
      ⟨.done (.flag true), replaced.state, replaced.events⟩
  | .deactivating deactivation =>
      let moved := deactivation.step registry
      match moved.answer with
      | .finished found => ⟨.done (.flag found), moved.state, moved.events⟩
      | later => ⟨.deactivating later, moved.state, moved.events⟩
  | .listing keys => sweepOn registry 0 keys
  | .sweeping deactivation keys count =>
      let moved := deactivation.step registry
      match moved.answer with
      | .finished found =>
          let next := sweepOn moved.state (count + if found then 1 else 0) keys
          ⟨next.answer, next.state, moved.events ++ next.events⟩
      | later => ⟨.sweeping later keys count, moved.state, moved.events⟩
  | .done answer => ⟨.done answer, registry, []⟩

end Call

/-- What can be asked of a registry. -/
inductive Request where
  | getOrCreate (key : String) (options : OptionSet)
  | getSnapshot (key : String) (options : OptionSet)
  | getStream (key : String) (options : OptionSet)
  | updateOptions (key : String) (options : OptionSet)
  | deactivate (key : String)
  | shutdown

/-- The call that a request begins with. -/
def Request.call : Request → Call
  | .getOrCreate key options => .looking key options .handle
  | .getSnapshot key options => .looking key options .snapshot
  | .getStream key options => .looking key options .stream
  | .updateOptions key options => .updating key options
  | .deactivate key => .deactivating (.removing key)
  | .shutdown => .listing []

/-- One step of somebody who has to do with a registry. -/
inductive Move where
  | invoke (request : Request)
  | advance (caller : Nat) (refusal : Option StartRefusal)
  | list (caller : Nat) (key : String)
  | cancel (number : Nat)
  | giveBack (number : Nat)
  | replaceOptions (number : Nat) (options : OptionSet)
  | beginTick (number : Nat)
  | endTick (number : Nat) (options : OptionSet)
  | changeChannel (number : Nat) (change : Channel → Channel)
  | changeProviders (directory : Directory)

end SharedRegistry

/-- A registry with the calls that are going on, or are over, in the order in which they began. -/
structure SharedRegistry where
  registry : Registry
  calls : List SharedRegistry.Call

namespace SharedRegistry

open Registry (Answer entryAnswer snapshotAnswer)

/-- A registry that nobody has used yet. -/
def start (name : String) (settings : StreamerSettings) (directory : Directory) : SharedRegistry :=
  ⟨(Registry.create name settings directory).state, []⟩

/-- The registry and its callers after a move. A move that names a caller or a subscription that is
not there changes nothing. -/
def perform (shared : SharedRegistry) : Move → SharedRegistry
  | .invoke request => { shared with calls := shared.calls ++ [request.call] }
  | .advance caller refusal =>
      match shared.calls[caller]? with
      | none => shared
      | some call =>
          let moved := call.step shared.registry refusal
          ⟨moved.state, shared.calls.set caller moved.answer⟩
  | .list caller key =>
      match shared.calls[caller]? with
      | some (.listing keys) =>
          if shared.registry.table.contains key then
            { shared with calls := shared.calls.set caller (.listing (keys ++ [key])) }
          else shared
      | _ => shared
  | .cancel number => { shared with registry := (shared.registry.cancel number).state }
  | .giveBack number => { shared with registry := (shared.registry.giveBack number).state }
  | .replaceOptions number options =>
      { shared with
        registry := (shared.registry.onSubscription number () (·.replaceOptions options)).state }
  | .beginTick number =>
      { shared with
        registry := ((shared.registry.beginTick? number).map Prod.snd).getD shared.registry }
  | .endTick number options =>
      { shared with registry := (shared.registry.endTick number options).state }
  | .changeChannel number change =>
      { shared with
        registry := shared.registry.changing number fun subscription =>
          subscription.withChannel (change subscription.feed.channel) }
  | .changeProviders directory =>
      { shared with registry := { shared.registry with directory := directory } }

/-- The registry and its callers after moves, one after the other. -/
def run (shared : SharedRegistry) (moves : List Move) : SharedRegistry :=
  moves.foldl perform shared

@[simp]
theorem run_append (shared : SharedRegistry) (first second : List Move) :
    shared.run (first ++ second) = (shared.run first).run second :=
  List.foldl_append ..

/-- A call that nobody comes between goes on to its end. What stands on the left is the call as it
is, with the registry and with the events so far. -/
inductive Call.Finishes (refusal : Option StartRefusal) :
    Reply Registry Call → Reply Registry Answer → Prop where
  | done (answer : Answer) (registry : Registry) (events : List Event) :
      Finishes refusal ⟨.done answer, registry, events⟩ ⟨answer, registry, events⟩
  | step {call : Call} {registry : Registry} {events : List Event}
      {result : Reply Registry Answer}
      (rest : Finishes refusal ⟨(call.step registry refusal).answer,
        (call.step registry refusal).state,
        events ++ (call.step registry refusal).events⟩ result) :
      Finishes refusal ⟨call, registry, events⟩ result

end SharedRegistry

namespace Registry

variable (registry : Registry) (number : Nat)

theorem lend_eq_changing :
    registry.lend number =
      registry.changing number fun subscription =>
        { subscription with lent := subscription.lent + 1 } :=
  registry.state_onSubscription number () _

@[simp]
theorem keyOf_lend (other : Nat) : (registry.lend number).keyOf other = registry.keyOf other := by
  simp only [keyOf]
  rw [lend_eq_changing, subscription?_changing]
  by_cases same : other = number
  · subst same
    cases registry.subscription? other <;> simp [Subscription.key]
  · simp [same]

@[simp]
theorem optionsOf_lend (other : Nat) :
    (registry.lend number).optionsOf other = registry.optionsOf other := by
  simp only [optionsOf]
  rw [lend_eq_changing, subscription?_changing]
  by_cases same : other = number
  · subst same
    cases registry.subscription? other <;> simp
  · simp [same]

theorem onDirectory_lend {Answer : Type} (operation : Directory → Reply Directory Answer) :
    (registry.lend number).onDirectory operation =
      ⟨(registry.onDirectory operation).answer, (registry.onDirectory operation).state.lend number,
        (registry.onDirectory operation).events⟩ := by
  simp only [lend_eq_changing]
  rfl

theorem state_onChannel_lend {Answer : Type} (operation : Channel → Answer × Channel) :
    (((registry.lend number).onChannel number operation).map Prod.snd).getD
        (registry.lend number) =
      (((registry.onChannel number operation).map Prod.snd).getD registry).lend number := by
  simp only [state_onChannel, lend_eq_changing, changing_changing]
  rfl

theorem name_cancel : (registry.cancel number).state.name = registry.name := by
  simp only [cancel]
  rw [state_onSubscription]
  rfl

theorem onSubscription_cancel_of_cancelled (reason : CancelReason)
    (cancelled : ∀ subscription, registry.subscription? number = some subscription →
      subscription.isCancelled = true) :
    registry.onSubscription number () (·.cancel reason) = ⟨(), registry, []⟩ := by
  simp only [onSubscription]
  cases present : registry.subscription? number with
  | none => rfl
  | some subscription =>
      have idle := subscription.cancel_of_cancelled reason (cancelled subscription present)
      have same : registry.store number subscription = registry :=
        (registry.store_eq_changing number present id).trans
          (registry.changing_self number fun _ _ => rfl)
      simp only [idle, same]

/-- A handle that is lent and given back while the table holds the subscription leaves no trace. -/
theorem giveBack_lend_of_inTable (held : registry.inTable number = true) :
    (registry.lend number).giveBack number = ⟨(), registry, []⟩ := by
  have returned : ((registry.lend number).onSubscription number () fun subscription =>
      ⟨(), { subscription with lent := subscription.lent - 1 }, []⟩).state = registry := by
    rw [state_onSubscription, lend_eq_changing, changing_changing]
    exact registry.changing_self number fun _ _ => rfl
  simp only [giveBack]
  simp [returned, isHeld, held]

/-- A handle that is held while the subscription is cancelled through it, and is given back then,
leaves no trace but the cancellation. -/
theorem giveBack_cancel_lend :
    ((registry.lend number).cancel number).state.giveBack number =
      ⟨(), (registry.cancel number).state, []⟩ := by
  have returned : (((registry.lend number).cancel number).state.onSubscription number ()
      fun subscription => ⟨(), { subscription with lent := subscription.lent - 1 }, []⟩).state =
      (registry.cancel number).state := by
    simp only [cancel]
    simp only [state_onSubscription, lend_eq_changing, changing_changing]
    apply registry.changing_congr number
    intro subscription _
    simp only [Subscription.cancel_lent, Nat.add_sub_cancel]
    rw [← subscription.lent_cancel .cancelled]
  simp only [giveBack]
  simp only [returned]
  split
  · rfl
  · apply onSubscription_cancel_of_cancelled
    intro subscription present
    have standing := (registry.cancelsEntry_cancel number).standing number
    rw [standing?_eq_some _ present] at standing
    cases before : registry.standing? number <;> simp_all

theorem events_cancel_lend :
    ((registry.lend number).cancel number).events = (registry.cancel number).events := by
  simp only [cancel]
  rw [lend_eq_changing]
  simp only [onSubscription]
  rw [subscription?_changing]
  cases registry.subscription? number with
  | none => simp
  | some subscription =>
      simp [Subscription.cancel_lent]

theorem subscribers_cancel_lend :
    (((registry.lend number).cancel number).state.subscription? number).map
        Subscription.subscribers =
      ((registry.cancel number).state.subscription? number).map Subscription.subscribers := by
  simp only [cancel]
  simp only [state_onSubscription, lend_eq_changing, changing_changing, subscription?_changing]
  cases registry.subscription? number with
  | none => simp
  | some subscription =>
      simp [Subscription.subscribers]

end Registry

namespace SharedRegistry

open Registry (Answer entryAnswer snapshotAnswer)

variable (refusal : Option StartRefusal) (registry : Registry)

/-- A deactivation that nobody comes between takes one step if it finds nothing, and three steps
otherwise, and does what the registry's deactivation does. -/
theorem deactivation_alone (key : String) :
    (∃ after, registry.deactivate key = ⟨false, after.state, after.events⟩ ∧
        (Deactivation.removing key).step registry = after ∧ after.answer = .finished false) ∨
      ∃ (number : Nat) (removed : Registry) (cancelled reported : Reply Registry Deactivation),
        registry.deactivate key =
          ⟨true, reported.state, cancelled.events ++ reported.events⟩ ∧
        (Deactivation.removing key).step registry = ⟨.cancelling key number, removed, []⟩ ∧
        (Deactivation.cancelling key number).step removed = cancelled ∧
        cancelled.answer = .reporting key number ∧
        (Deactivation.reporting key number).step cancelled.state = reported ∧
        reported.answer = .finished true := by
  simp only [Registry.deactivate]
  rcases registry.remove_entries key with ⟨absent, _⟩ | ⟨number, found, _⟩
  · left
    refine ⟨_, ?_, rfl, ?_⟩ <;> simp [Deactivation.step, absent]
  · right
    have name : (((registry.without key).lend number).cancel number).state.name =
        registry.name := by
      rw [Registry.name_cancel, Registry.lend_eq_changing]
      rfl
    refine ⟨number, (registry.without key).lend number, _, _, ?_, ?_, rfl, rfl, rfl, rfl⟩
    · simp [Deactivation.step, found, name, Registry.giveBack_cancel_lend,
        Registry.events_cancel_lend, Registry.subscribers_cancel_lend]
    · simp [Deactivation.step, found]

/-- One step of a call, and what comes of the rest of it. -/
theorem Call.Finishes.next {refusal : Option StartRefusal} {registry state : Registry}
    {call later : Call} {events logged : List Event} {result : Reply Registry Answer}
    (moved : call.step registry refusal = ⟨later, state, logged⟩)
    (rest : Call.Finishes refusal ⟨later, state, events ++ logged⟩ result) :
    Call.Finishes refusal ⟨call, registry, events⟩ result := by
  apply Call.Finishes.step
  rw [moved]
  exact rest

theorem Call.Finishes.last {refusal : Option StartRefusal} {registry state : Registry}
    {call : Call} {answer : Answer} {events logged : List Event}
    (moved : call.step registry refusal = ⟨.done answer, state, logged⟩) :
    Call.Finishes refusal ⟨call, registry, events⟩ ⟨answer, state, events ++ logged⟩ :=
  .next moved (.done answer state _)

theorem finishes_deactivate (key : String) :
    Call.Finishes refusal ⟨(Request.deactivate key).call, registry, []⟩
      ⟨.flag (registry.deactivate key).answer, (registry.deactivate key).state,
        (registry.deactivate key).events⟩ := by
  rcases deactivation_alone registry key with
    ⟨after, whole, removing, finished⟩ |
      ⟨number, removed, cancelled, reported, whole, removing, cancelling, cancelledAnswer,
        reporting, finished⟩
  · rw [whole]
    apply Call.Finishes.last
    simp [Request.call, Call.step, removing, finished]
  · have first : (Request.deactivate key).call.step registry refusal =
        ⟨.deactivating (.cancelling key number), removed, []⟩ := by
      simp [Request.call, Call.step, removing]
    have second : (Call.deactivating (.cancelling key number)).step removed refusal =
        ⟨.deactivating (.reporting key number), cancelled.state, cancelled.events⟩ := by
      simp [Call.step, cancelling, cancelledAnswer]
    have third : (Call.deactivating (.reporting key number)).step cancelled.state refusal =
        ⟨.done (.flag true), reported.state, reported.events⟩ := by
      simp [Call.step, reporting, finished]
    rw [whole]
    exact .next first (.next second (.last third))

theorem name_deactivate (key : String) :
    (registry.deactivate key).state.name = registry.name := by
  simp only [Registry.deactivate]
  rcases registry.remove_entries key with ⟨absent, _⟩ | ⟨number, found, _⟩
  · simp [absent]
  · simp only [found, Registry.name_cancel]
    rfl

/-- A sweep that nobody comes between deactivates its keys in order, and adds them to its count. -/
theorem finishes_sweepOn (keys : List String) (registry : Registry) (count : Nat)
    (events : List Event) :
    Call.Finishes refusal
      ⟨(Call.sweepOn registry count keys).answer, (Call.sweepOn registry count keys).state,
        events ++ (Call.sweepOn registry count keys).events⟩
      ⟨.count (count + (registry.deactivateAll keys).answer), (registry.deactivateAll keys).state,
        events ++ ((registry.deactivateAll keys).events ++
          [.shutDown registry.name (count + (registry.deactivateAll keys).answer)])⟩ := by
  induction keys generalizing registry count events with
  | nil => exact .done _ _ _
  | cons key rest ih =>
      have later := ih (registry.deactivate key).state
        (count + if (registry.deactivate key).answer then 1 else 0)
        (events ++ (registry.deactivate key).events)
      rw [name_deactivate] at later
      have total : ∀ others, count + (if (registry.deactivate key).answer then 1 else 0) + others =
          count + ((if (registry.deactivate key).answer then 1 else 0) + others) :=
        fun others => Nat.add_assoc ..
      simp only [total] at later
      simp only [Call.sweepOn, List.append_nil, Registry.deactivateAll]
      rcases deactivation_alone registry key with
        ⟨after, whole, removing, finished⟩ |
          ⟨number, removed, cancelled, reported, whole, removing, cancelling, cancelledAnswer,
            reporting, finished⟩
      · have first : (Call.sweeping (.removing key) rest count).step registry refusal =
            ⟨(Call.sweepOn after.state (count + 0) rest).answer,
              (Call.sweepOn after.state (count + 0) rest).state,
              after.events ++ (Call.sweepOn after.state (count + 0) rest).events⟩ := by
          simp [Call.step, removing, finished]
        refine .next first ?_
        simpa [whole, List.append_assoc] using later
      · have first : (Call.sweeping (.removing key) rest count).step registry refusal =
            ⟨.sweeping (.cancelling key number) rest count, removed, []⟩ := by
          simp [Call.step, removing]
        have second :
            (Call.sweeping (.cancelling key number) rest count).step removed refusal =
              ⟨.sweeping (.reporting key number) rest count, cancelled.state,
                cancelled.events⟩ := by
          simp [Call.step, cancelling, cancelledAnswer]
        have third :
            (Call.sweeping (.reporting key number) rest count).step cancelled.state refusal =
              ⟨(Call.sweepOn reported.state (count + 1) rest).answer,
                (Call.sweepOn reported.state (count + 1) rest).state,
                reported.events ++ (Call.sweepOn reported.state (count + 1) rest).events⟩ := by
          simp [Call.step, reporting, finished]
        refine .next first (.next second (.next third ?_))
        simpa [whole, List.append_assoc] using later

/-- A shutdown that nobody comes between sweeps the keys that it has listed. -/
theorem finishes_shutdown (keys : List String) :
    Call.Finishes refusal ⟨.listing keys, registry, []⟩
      ⟨.count (registry.shutdownInOrder keys).answer, (registry.shutdownInOrder keys).state,
        (registry.shutdownInOrder keys).events⟩ := by
  have swept := finishes_sweepOn refusal keys registry 0 []
  simp only [Nat.zero_add] at swept
  exact .next rfl swept

theorem finishes_updateOptions (key : String) (options : OptionSet) :
    Call.Finishes refusal ⟨(Request.updateOptions key options).call, registry, []⟩
      ⟨.flag (registry.updateOptions key options).answer,
        (registry.updateOptions key options).state,
        (registry.updateOptions key options).events⟩ := by
  rw [Registry.updateOptions, Registry.updateLive]
  cases live : registry.get? key with
  | none =>
      apply Call.Finishes.last
      simp [Request.call, Call.step, live]
  | some number =>
      have first : (Request.updateOptions key options).call.step registry refusal =
          ⟨.replacing number options, registry, []⟩ := by
        simp [Request.call, Call.step, live]
      exact .next first (.last rfl)

/-- A call that asks for an entry, and that nobody comes between, gets to hold what the registry's
operation of that name answers, with one handle lent on it. -/
theorem finishes_looking {key : String} {options : OptionSet} {wish : Wish}
    {result : Reply Registry Answer}
    (failed : ∀ failure, (registry.getOrCreate key options refusal).answer = .error failure →
      result = ⟨.failed failure, (registry.getOrCreate key options refusal).state,
        (registry.getOrCreate key options refusal).events⟩)
    (held : ∀ number, (registry.getOrCreate key options refusal).answer = .ok number →
      Call.Finishes refusal ⟨.holding number wish,
        (registry.getOrCreate key options refusal).state.lend number,
        (registry.getOrCreate key options refusal).events⟩ result) :
    Call.Finishes refusal ⟨.looking key options wish, registry, []⟩ result := by
  cases live : registry.get? key with
  | some number =>
      have whole : registry.getOrCreate key options refusal =
          ⟨.ok number, registry, [.subscriptionReused registry.name key]⟩ := by
        simp [Registry.getOrCreate, Registry.findOrMake, live]
      have first : (Call.looking key options wish).step registry refusal =
          ⟨.holding number wish, registry.lend number,
            [.subscriptionReused registry.name key]⟩ := by
        simp [Call.step, live]
      rw [whole] at held
      exact .next first (held number rfl)
  | none =>
      have first : (Call.looking key options wish).step registry refusal =
          ⟨.entering key options wish, registry, []⟩ := by
        simp [Call.step, live]
      apply Call.Finishes.next first
      cases answer : (registry.getOrCreate key options refusal).answer with
      | error failure =>
          rw [failed failure answer]
          apply Call.Finishes.last
          simp [Call.step, answer]
      | ok number =>
          have second : (Call.entering key options wish).step registry refusal =
              ⟨.holding number wish, (registry.getOrCreate key options refusal).state.lend number,
                (registry.getOrCreate key options refusal).events⟩ := by
            simp [Call.step, answer]
          exact .next second (held number answer)

/-- The caller keeps the handle. -/
theorem finishes_getOrCreate (key : String) (options : OptionSet) :
    Call.Finishes refusal ⟨(Request.getOrCreate key options).call, registry, []⟩
      ⟨entryAnswer (registry.getOrCreate key options refusal).answer,
        (registry.getOrCreate key options refusal).answer.toOption.elim
          (registry.getOrCreate key options refusal).state
          (registry.getOrCreate key options refusal).state.lend,
        (registry.getOrCreate key options refusal).events⟩ := by
  apply finishes_looking
  · intro failure answer
    simp [answer, entryAnswer, Except.toOption]
  · intro number answer
    simp only [answer, entryAnswer, Except.toOption, Option.elim]
    exact .step (by simpa [Call.step] using Call.Finishes.done ..)

theorem inTable_getOrCreate {key : String} {options : OptionSet} {number : Nat}
    (answer : (registry.getOrCreate key options refusal).answer = .ok number) :
    (registry.getOrCreate key options refusal).state.inTable number = true := by
  rcases registry.getOrCreate_cases key options refusal with
    ⟨found, live, foundAnswer, same⟩ | ⟨reason, _, _, failed, _⟩ | ⟨_, _, madeAnswer, made⟩
  · rw [foundAnswer] at answer
    cases answer
    rw [same]
    exact registry.inTable_of_find? ((registry.get?_eq_some_iff key number).mp live).1
  · rw [failed] at answer
    cases answer
  · rw [madeAnswer] at answer
    cases answer
    rw [made]
    apply Registry.inTable_of_find?
    rw [Registry.entered, KeyMap.find?_insert, if_pos rfl]

theorem finishes_getSnapshot (key : String) (options : OptionSet) :
    Call.Finishes refusal ⟨(Request.getSnapshot key options).call, registry, []⟩
      ⟨snapshotAnswer (registry.getSnapshot key options refusal).answer,
        (registry.getSnapshot key options refusal).state,
        (registry.getSnapshot key options refusal).events⟩ := by
  apply finishes_looking
  · intro failure answer
    simp [Registry.getSnapshot, answer, snapshotAnswer]
  · intro number answer
    have held := inTable_getOrCreate refusal registry answer
    simp only [Registry.getSnapshot, answer]
    generalize (registry.getOrCreate key options refusal).state = entered at held
    have first : (Call.holding number .snapshot).step (entered.lend number) refusal =
        ⟨.asking number (entered.optionsOf number), entered.lend number, []⟩ := by
      simp [Call.step]
    have second : (Call.asking number (entered.optionsOf number)).step (entered.lend number)
        refusal = ⟨.leaving number (.snapshot (entered.takeSnapshotOf number).answer),
          (entered.takeSnapshotOf number).state.lend number,
          (entered.takeSnapshotOf number).events⟩ := by
      simp [Call.step, Registry.onDirectory_lend, Registry.takeSnapshotOf]
    have third : (Call.leaving number (.snapshot (entered.takeSnapshotOf number).answer)).step
        ((entered.takeSnapshotOf number).state.lend number) refusal =
          ⟨.done (.snapshot (entered.takeSnapshotOf number).answer),
            (entered.takeSnapshotOf number).state, []⟩ := by
      have stillHeld : (entered.takeSnapshotOf number).state.inTable number = true := held
      simp [Call.step, Registry.giveBack_lend_of_inTable _ _ stillHeld]
    refine .next first (.next second (.next third ?_))
    have reported : Answer.snapshot (entered.takeSnapshotOf number).answer =
        snapshotAnswer ((entered.takeSnapshotOf number).answer.mapError .panicked) := by
      cases (entered.takeSnapshotOf number).answer <;> rfl
    rw [reported, List.append_nil, List.append_nil]
    exact Call.Finishes.done ..

theorem finishes_getStream (key : String) (options : OptionSet) :
    Call.Finishes refusal ⟨(Request.getStream key options).call, registry, []⟩
      ⟨entryAnswer (registry.getStream key options refusal).answer,
        (registry.getStream key options refusal).state,
        (registry.getStream key options refusal).events⟩ := by
  apply finishes_looking
  · intro failure answer
    simp [Registry.getStream, answer, entryAnswer]
  · intro number answer
    have held := inTable_getOrCreate refusal registry answer
    simp only [Registry.getStream, answer]
    generalize (registry.getOrCreate key options refusal).state = entered at held
    have openedLate := entered.state_onChannel_lend number fun channel => ((), channel.openStream)
    have stillHeld : (((entered.onChannel number fun channel => ((), channel.openStream)).map
        Prod.snd).getD entered).inTable number = true := by
      rw [Registry.state_onChannel]
      exact held
    generalize ((entered.onChannel number fun channel => ((), channel.openStream)).map
      Prod.snd).getD entered = opened at openedLate stillHeld
    have first : (Call.holding number .stream).step (entered.lend number) refusal =
        ⟨.leaving number (.entry number), opened.lend number, []⟩ := by
      simp [Call.step, openedLate]
    have second : (Call.leaving number (.entry number)).step (opened.lend number) refusal =
        ⟨.done (.entry number), opened, []⟩ := by
      simp [Call.step, Registry.giveBack_lend_of_inTable _ _ stillHeld]
    refine .next first (.next second ?_)
    simpa [entryAnswer] using Call.Finishes.done ..

end SharedRegistry

end ConsoleFeed
