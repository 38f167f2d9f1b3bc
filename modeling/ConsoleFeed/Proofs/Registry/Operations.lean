import ConsoleFeed.Proofs.Channel.FanOut
import ConsoleFeed.Proofs.Registry.Entries

/-!
# Operations on a registry

A registry is used by the calls of its callers, through the handles that it has lent, through the
channels of its subscriptions, by the ticks of their loops, and by whoever registers providers. Each
such use is an `Operation`. This file gathers them into one step function, so that a run is a list
of operations, each of which is over before the next one begins.

Seen by the entries of the registry an operation is again one of few things, which is said here once
for each of them: what it does to the entry that a key has (`get?`), to the options of the
subscriptions (`terms`), and to their loops. Between two operations no loop is inside of a tick. So
where lookups do not panic, a loop waits, or it has ended and its subscription is cancelled
(`Settled`).
-/

namespace ConsoleFeed.Registry

/-- What a registry answers to an operation. -/
inductive Answer where
  | entry (number : Nat)
  | snapshot (text : Except LookupPanic String)
  | flag (answer : Bool)
  | count (deactivated : Nat)
  | failed (failure : SchedulingFailure)
  | joined (receiver : Nat)
  | reading (reading : Option Reading)
  | nothing

/-- The answer of a call that asks for an entry. -/
def entryAnswer : Except SchedulingFailure Nat → Answer
  | .ok number => .entry number
  | .error failure => .failed failure

/-- The answer of a call that asks for a snapshot. -/
def snapshotAnswer : Except Refusal String → Answer
  | .ok text => .snapshot (.ok text)
  | .error (.panicked panic) => .snapshot (.error panic)
  | .error (.unscheduled failure) => .failed failure

/-- Something that is done with a registry. Where an entry may have to be made, the
system's reason to refuse it is given, if it has one. -/
inductive Operation where
  | getOrCreate (key : String) (options : OptionSet) (refusal : Option StartRefusal)
  | getSnapshot (key : String) (options : OptionSet) (refusal : Option StartRefusal)
  | getStream (key : String) (options : OptionSet) (refusal : Option StartRefusal)
  | peekSnapshot (key : String) (options : OptionSet)
  | updateOptions (key : String) (options : OptionSet)
  | deactivate (key : String)
  | shutdown
  | cancel (number : Nat)
  | replaceOptions (number : Nat) (options : OptionSet)
  | lend (number : Nat)
  | giveBack (number : Nat)
  | closeStream (number : Nat)
  | receive (number : Nat) (act : Channel.ReceiverAct)
  | tick (number : Nat)
  | register (provider : Provider)
  | unregister (key : String)

/-- What a receiver gets to know of its own act. -/
def receiverAnswer (channel : Channel) : Channel.ReceiverAct → Answer
  | .subscribe => .joined channel.subscribe.1
  | .read id publisherHeld => .reading ((channel.read? publisherHeld id).map Prod.fst)
  | .leave _ => .nothing

/-- What an operation does. A handle, a channel or a loop that is not there does nothing. -/
def perform (registry : Registry) : Operation → Reply Registry Answer
  | .getOrCreate key options refusal =>
      let entry := registry.getOrCreate key options refusal
      ⟨entryAnswer entry.answer, entry.state, entry.events⟩
  | .getSnapshot key options refusal =>
      let snapshot := registry.getSnapshot key options refusal
      ⟨snapshotAnswer snapshot.answer, snapshot.state, snapshot.events⟩
  | .getStream key options refusal =>
      let entry := registry.getStream key options refusal
      ⟨entryAnswer entry.answer, entry.state, entry.events⟩
  | .peekSnapshot key options =>
      let snapshot := registry.peekSnapshot key options
      ⟨.snapshot snapshot.answer, snapshot.state, snapshot.events⟩
  | .updateOptions key options =>
      let updated := registry.updateOptions key options
      ⟨.flag updated.answer, updated.state, updated.events⟩
  | .deactivate key =>
      let deactivated := registry.deactivate key
      ⟨.flag deactivated.answer, deactivated.state, deactivated.events⟩
  | .shutdown =>
      let swept := registry.shutdown
      ⟨.count swept.answer, swept.state, swept.events⟩
  | .cancel number =>
      let cancelled := registry.cancel number
      ⟨.nothing, cancelled.state, cancelled.events⟩
  | .replaceOptions number options =>
      let replaced := registry.onSubscription number () (·.replaceOptions options)
      ⟨.nothing, replaced.state, replaced.events⟩
  | .lend number => ⟨.nothing, registry.lend number, []⟩
  | .giveBack number =>
      let returned := registry.giveBack number
      ⟨.nothing, returned.state, returned.events⟩
  | .closeStream number =>
      let closed := registry.onChannel number fun channel => ((), channel.closeStream)
      ⟨.nothing, (closed.map Prod.snd).getD registry, []⟩
  | .receive number act =>
      let received := registry.onChannel number fun channel =>
        (receiverAnswer channel act, channel.received act)
      ⟨(received.map Prod.fst).getD .nothing, (received.map Prod.snd).getD registry, []⟩
  | .tick number =>
      match registry.tick? number with
      | some ticked => ⟨.flag ticked.answer, ticked.state, ticked.events⟩
      | none => ⟨.nothing, registry, []⟩
  | .register provider =>
      let registered := registry.onDirectory (·.register provider)
      ⟨.flag registered.answer, registered.state, registered.events⟩
  | .unregister key =>
      let unregistered := registry.onDirectory (·.unregister key)
      ⟨.flag unregistered.answer, unregistered.state, unregistered.events⟩

/-- The registry after operations, one after the other. -/
def run (registry : Registry) (operations : List Operation) : Registry :=
  operations.foldl (fun state operation => (state.perform operation).state) registry

section Live

variable {before after : Registry}

theorem SameEntries.isCancelled (same : SameEntries before after) (number : Nat) :
    after.isCancelled number = before.isCancelled number := by
  rw [isCancelled_eq_standing?, isCancelled_eq_standing?, same.standing]

theorem SameEntries.get? (same : SameEntries before after) (key : String) :
    after.get? key = before.get? key := by
  simp only [Registry.get?, same.table, same.isCancelled]

theorem MakesEntry.get? {key : String} (makes : MakesEntry key before after)
    (inUse : ∀ other number, before.table.find? other = some number →
      number < before.subscriptions.length) (other : String) :
    after.get? other =
      if other = key then some before.subscriptions.length else before.get? other := by
  apply Option.ext
  intro number
  rw [get?_eq_some_iff, makes.table, KeyMap.find?_insert, isCancelled_eq_standing?,
    makes.standing]
  by_cases same : other = key
  · simp only [same, if_true, Option.some.injEq]
    constructor
    · exact And.left
    · intro new
      exact ⟨new, by simp [← new]⟩
  · simp only [same, if_false]
    rw [get?_eq_some_iff, isCancelled_eq_standing?]
    refine and_congr_right ?_
    intro held
    have below := inUse other number held
    have old : number ≠ before.subscriptions.length := by omega
    simp [old]

theorem RemovesEntry.get? {key : String} {number : Nat}
    (removes : RemovesEntry key number before after) (other : String) :
    after.get? other = if other = key then none else before.get? other := by
  have kept : ∀ found, after.isCancelled found = before.isCancelled found := by
    intro found
    rw [isCancelled_eq_standing?, isCancelled_eq_standing?, removes.standing]
  simp only [Registry.get?, removes.table, KeyMap.find?_erase, kept]
  split <;> rfl

/-- A cancelled entry is the live one of no key, and the others are as they were. -/
theorem CancelsEntry.get? {number : Nat} (cancels : CancelsEntry number before after)
    (inUse : ∀ key found, before.table.find? key = some found →
      found < before.subscriptions.length) (key : String) :
    after.get? key = (before.get? key).filter fun found => found != number := by
  apply Option.ext
  intro found
  rw [get?_eq_some_iff, Option.filter_eq_some_iff, get?_eq_some_iff, cancels.table, and_assoc]
  refine and_congr_right ?_
  intro held
  have present := (before.standing?_isSome_iff found).mpr (inUse key found held)
  rw [isCancelled_eq_standing?, isCancelled_eq_standing?, cancels.standing]
  by_cases same : found = number
  · subst same
    cases standing : before.standing? found with
    | none =>
        rw [standing] at present
        cases present
    | some entry => simp
  · simp [same]

end Live

section Terms

variable (registry : Registry) (number : Nat)

/-- The key of each subscription and the options that its next snapshot is asked with. -/
def terms : List (String × OptionSet) :=
  registry.subscriptions.map fun subscription => (subscription.key, subscription.feed.options)

/-- Between two operations a loop waits, unless its subscription is cancelled: then it has ended. -/
def Settled : Prop :=
  ∀ subscription ∈ registry.subscriptions,
    subscription.phase = if subscription.isCancelled then .ended else .waiting

theorem terms_changing {change : Subscription → Subscription}
    (keeps : ∀ subscription, (change subscription).key = subscription.key ∧
      (change subscription).feed.options = subscription.feed.options) :
    (registry.changing number change).terms = registry.terms := by
  apply List.ext_getElem?
  intro other
  simp only [terms, changing, List.getElem?_map, List.getElem?_modify]
  cases registry.subscriptions[other]? with
  | none => rfl
  | some subscription =>
      by_cases same : number = other
      · simp [same, keeps subscription]
      · simp [same]

theorem terms_replaceOptions (options : OptionSet) :
    (registry.onSubscription number () (·.replaceOptions options)).state.terms =
      registry.terms.modify number fun entry => (entry.1, options) := by
  rw [state_onSubscription]
  apply List.ext_getElem?
  intro other
  simp only [terms, changing, List.getElem?_map, List.getElem?_modify]
  cases registry.subscriptions[other]? with
  | none => rfl
  | some subscription =>
      by_cases same : number = other
      · simp [same, Subscription.replaceOptions, Feed.replaceOptions, Subscription.key]
      · simp [same]

variable {registry number}

theorem Settled.changing (settled : registry.Settled) {change : Subscription → Subscription}
    (keeps : ∀ subscription,
      subscription.phase = (if subscription.isCancelled then .ended else .waiting) →
        (change subscription).phase =
          if (change subscription).isCancelled then .ended else .waiting) :
    (registry.changing number change).Settled := by
  intro subscription member
  rcases List.mem_iff_getElem?.mp member with ⟨other, present⟩
  have found : (registry.subscriptions.modify number change)[other]? = some subscription := present
  simp only [List.getElem?_modify, Option.map_eq_map, Option.map_eq_some_iff] at found
  rcases found with ⟨old, oldPresent, rfl⟩
  have oldSettled := settled old (List.mem_of_getElem? oldPresent)
  by_cases same : number = other
  · simpa [same] using keeps old oldSettled
  · simpa [same] using oldSettled

end Terms

section Directory

variable (registry : Registry)

@[simp]
theorem directory_onSubscription {Answer : Type} (number : Nat) (absent : Answer)
    (operation : Subscription → Reply Subscription Answer) :
    (registry.onSubscription number absent operation).state.directory = registry.directory := by
  rw [state_onSubscription]
  rfl

@[simp]
theorem directory_onChannel {Answer : Type} (number : Nat)
    (operation : Channel → Answer × Channel) :
    (((registry.onChannel number operation).map Prod.snd).getD registry).directory =
      registry.directory := by
  rw [state_onChannel]
  rfl

theorem directory_getOrCreate (key : String) (options : OptionSet)
    (refusal : Option StartRefusal) :
    (registry.getOrCreate key options refusal).state.directory = registry.directory := by
  rcases registry.getOrCreate_cases key options refusal with
    ⟨_, _, _, same⟩ | ⟨_, _, _, _, same⟩ | ⟨_, _, _, made⟩
  · rw [same]
  · rw [same]
  · rw [made]
    rfl

theorem directory_getStream (key : String) (options : OptionSet)
    (refusal : Option StartRefusal) :
    (registry.getStream key options refusal).state.directory = registry.directory := by
  have entered := registry.directory_getOrCreate key options refusal
  simp only [getStream]
  cases answer : (registry.getOrCreate key options refusal).answer with
  | error failure => simpa only [answer] using entered
  | ok number =>
      simp only [directory_onChannel]
      exact entered

theorem directory_updateOptions (key : String) (options : OptionSet) :
    (registry.updateOptions key options).state.directory = registry.directory := by
  rw [updateOptions, updateLive]
  cases registry.get? key <;> simp

theorem directory_deactivate (key : String) :
    (registry.deactivate key).state.directory = registry.directory := by
  simp only [deactivate, remove]
  cases registry.table.find? key <;> simp [cancel]

theorem directory_deactivateAll (keys : List String) :
    (registry.deactivateAll keys).state.directory = registry.directory := by
  induction keys generalizing registry with
  | nil => rfl
  | cons key rest ih => exact (ih _).trans (registry.directory_deactivate key)

theorem directory_giveBack (number : Nat) :
    (registry.giveBack number).state.directory = registry.directory := by
  unfold giveBack
  dsimp only
  split <;> simp

end Directory

section Ticks

variable (registry : Registry) (number : Nat)

/-- A subscription to which its loop has delivered a payload. -/
def delivered (text : String) (subscription : Subscription) : Subscription :=
  { subscription with
    feed := (subscription.feed.deliver text).state
    phase := if subscription.isCancelled then .ended else .waiting }

/-- A tick that gets a text from the providers delivers it, and changes nothing else. -/
theorem state_endTick {options : OptionSet} {text : String}
    (taken : (registry.directory.takeSnapshot (registry.keyOf number) options).answer =
      .ok text) :
    (registry.endTick number options).state =
      { registry.changing number (delivered text) with
        directory := (registry.directory.takeSnapshot (registry.keyOf number) options).state } := by
  have asked : (registry.onDirectory
      (·.takeSnapshot (registry.keyOf number) options)).answer = .ok text := taken
  simp only [endTick, asked]
  rw [state_onSubscription]
  calc
    _ = (registry.onDirectory (·.takeSnapshot (registry.keyOf number) options)).state.changing
          number (delivered text) := by
        apply changing_congr
        intro subscription _
        cases marked : subscription.feed.cancelled <;>
          simp [delivered, Subscription.isCancelled, Feed.deliver, marked]
    _ = _ := rfl

theorem tick?_of_waiting {subscription : Subscription} {text : String}
    (present : registry.subscription? number = some subscription)
    (waits : subscription.phase = .waiting)
    (taken : (registry.directory.takeSnapshot subscription.key
      subscription.feed.options).answer = .ok text) :
    ∃ ticked, registry.tick? number = some ticked ∧
      ticked.state = { registry.changing number (delivered text) with
        directory := (registry.directory.takeSnapshot subscription.key
          subscription.feed.options).state } := by
  have begun : registry.beginTick? number = some (subscription.feed.options,
      registry.changing number fun found => { found with phase := .ticking }) := by
    rw [← registry.store_eq_changing number present fun found => { found with phase := .ticking }]
    simp [beginTick?, present, waits]
  have key : (registry.changing number fun found => { found with phase := .ticking }).keyOf number =
      subscription.key := by
    simp [keyOf, subscription?_changing, present, Subscription.key]
  refine ⟨_, by rw [tick?, begun]; rfl, ?_⟩
  rw [state_endTick _ _ (by rw [key]; exact taken), key]
  simp only [changing, List.modify_modify_eq]
  rfl

theorem tick?_eq_none (busy : ∀ subscription, registry.subscription? number = some subscription →
    subscription.phase ≠ .waiting) : registry.tick? number = none := by
  simp only [tick?, beginTick?]
  cases present : registry.subscription? number with
  | none => rfl
  | some subscription => simp [busy subscription present]

end Ticks

end ConsoleFeed.Registry
