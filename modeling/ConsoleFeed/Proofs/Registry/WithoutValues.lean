import ConsoleFeed.Proofs.Registry.ProviderCalls
import ConsoleFeed.Proofs.Subscription.WithoutValues

/-!
# A registry without option values

Where no provider looks at option values, a registry does without them what it does with them. The
values are taken away from the entries of the registry, from what is passed to it, and from what it
answers (`withoutValues`); then every use leads to the same state, answers the same, and logs the
same to the letter (`use_withoutValues`). Of two runs that differ only in option values each is thus
the other one as far as the log goes.
-/

namespace ConsoleFeed

namespace Subscription

/-- The subscription without the values of its options. -/
def withoutValues (subscription : Subscription) : Subscription :=
  { subscription with feed := subscription.feed.withoutValues }

theorem cancel_withoutValues (subscription : Subscription) (reason : CancelReason) :
    subscription.withoutValues.cancel reason =
      (subscription.cancel reason).mapState withoutValues := by
  rcases subscription with ⟨⟨key, options, cancelled, channel⟩, interval, phase, lent⟩
  cases cancelled <;> rfl

theorem replaceOptions_withoutValues (subscription : Subscription) (options : OptionSet) :
    subscription.withoutValues.replaceOptions options.withoutValues =
      (subscription.replaceOptions options).mapState withoutValues := by
  simp only [replaceOptions, withoutValues, Feed.replaceOptions_withoutValues]
  rfl

end Subscription

namespace Registry

/-- The registry without the values of the options that its entries have. -/
def withoutValues (registry : Registry) : Registry :=
  { registry with subscriptions := registry.subscriptions.map Subscription.withoutValues }

/-- The act without the values of the options that it passes. -/
def EntryAct.withoutValues : EntryAct → EntryAct
  | .replaceOptions options => .replaceOptions options.withoutValues
  | .endTick options => .endTick options.withoutValues
  | act => act

/-- The act without the values of the options that it passes. -/
def KeyAct.withoutValues : KeyAct → KeyAct
  | .getOrCreate options refusal => .getOrCreate options.withoutValues refusal
  | .getStream options refusal => .getStream options.withoutValues refusal
  | .getSnapshot options refusal => .getSnapshot options.withoutValues refusal
  | .peekSnapshot options => .peekSnapshot options.withoutValues
  | .build options settings refusal => .build options.withoutValues settings refusal
  | .updateOptions options => .updateOptions options.withoutValues
  | act => act

/-- The use without the values of the options that it passes. -/
def Use.withoutValues {Entry : Type} : Use Entry → Use Entry
  | .onKey key act => .onKey key act.withoutValues
  | .onEntry entry act => .onEntry entry act.withoutValues
  | use => use

/-- What is said, without the values of the options in it. -/
def Said.withoutValues : Said → Said
  | .seen key options interval cancelled running subscribers =>
      .seen key options.withoutValues interval cancelled running subscribers
  | .begun options => .begun (options.map OptionSet.withoutValues)
  | said => said

/-- What comes of a use, without the values of the options in it. -/
def Yield.withoutValues {Entry : Type} : Yield Entry → Yield Entry
  | .entry named => .entry named
  | .said answer => .said answer.withoutValues

/-- The option set that is in an answer, if there is one. -/
def Yield.options? {Entry : Type} : Yield Entry → Option OptionSet
  | .said (.seen _ options _ _ _ _) => some options
  | .said (.begun options) => options
  | _ => none

section Answers

variable {Entry : Type} {first second : Yield Entry}

theorem Yield.options?_withoutValues (answer : Yield Entry) :
    answer.withoutValues.options? = answer.options?.map OptionSet.withoutValues := by
  cases answer with
  | entry named => rfl
  | said answer => cases answer <;> rfl

theorem Yield.withoutValues_of_none {answer : Yield Entry} (without : answer.options? = none) :
    answer.withoutValues = answer := by
  cases answer with
  | entry named => rfl
  | said answer =>
      cases answer with
      | seen key options => cases without
      | begun options =>
          cases without
          rfl
      | _ => rfl

/-- Answers without an option set in them are the same if they are the same without values. -/
theorem Yield.eq_of_withoutValues (same : first.withoutValues = second.withoutValues)
    (without : first.options? = none) : first = second := by
  have withoutSecond : second.options? = none := by
    rw [← Option.map_eq_none_iff, ← second.options?_withoutValues, ← same,
      first.options?_withoutValues, without]
    rfl
  rw [← withoutValues_of_none without, same, withoutValues_of_none withoutSecond]

theorem options?_onKey (registry : Registry) (key : String) (act : KeyAct) :
    (registry.onKey key act).answer.options? = none := by
  have ofEntry : ∀ entry, (Yield.ofEntry entry).options? = none := by
    intro entry
    cases entry <;> rfl
  have ofSnapshot : ∀ snapshot,
      (Yield.said (Said.ofSnapshot snapshot) : Yield Nat).options? = none := by
    rintro ((failure | panic) | payload) <;> rfl
  cases act with
  | getOrCreate options refusal => exact ofEntry _
  | getStream options refusal => exact ofEntry _
  | getSnapshot options refusal => exact ofSnapshot _
  | build options settings refusal => exact ofEntry _
  | get =>
      simp only [onKey]
      split <;> rfl
  | _ => rfl

end Answers

section Entries

variable (registry : Registry)

@[simp]
theorem subscription?_withoutValues (number : Nat) :
    registry.withoutValues.subscription? number =
      (registry.subscription? number).map Subscription.withoutValues := by
  simp [subscription?, withoutValues]

@[simp]
theorem isCancelled_withoutValues (number : Nat) :
    registry.withoutValues.isCancelled number = registry.isCancelled number := by
  simp only [isCancelled, subscription?_withoutValues]
  cases registry.subscription? number <;> rfl

@[simp]
theorem get?_withoutValues (key : String) :
    registry.withoutValues.get? key = registry.get? key := by
  have table : registry.withoutValues.table = registry.table := rfl
  simp only [get?, isCancelled_withoutValues, table]

theorem keyOf_withoutValues (number : Nat) :
    registry.withoutValues.keyOf number = registry.keyOf number := by
  simp only [keyOf, subscription?_withoutValues]
  cases registry.subscription? number <;> rfl

theorem optionsOf_withoutValues (number : Nat) :
    registry.withoutValues.optionsOf number = (registry.optionsOf number).withoutValues := by
  simp only [optionsOf, subscription?_withoutValues]
  cases registry.subscription? number <;> rfl

theorem store_withoutValues (number : Nat) (subscription : Subscription) :
    registry.withoutValues.store number subscription.withoutValues =
      (registry.store number subscription).withoutValues := by
  simp only [store, withoutValues, List.map_set]

theorem onChannel_withoutValues {Answer : Type} (number : Nat)
    (operation : Channel → Answer × Channel) :
    registry.withoutValues.onChannel number operation =
      (registry.onChannel number operation).map fun (answer, state) =>
        (answer, state.withoutValues) := by
  simp only [onChannel, subscription?_withoutValues, Option.map_map]
  cases registry.subscription? number with
  | none => rfl
  | some subscription =>
      have stored := registry.store_withoutValues number
        (subscription.withChannel (operation subscription.feed.channel).2)
      simp only [Option.map_some, Function.comp_apply, ← stored]
      rfl

/-- What is done to an entry without option values is done to it in the registry without them. -/
theorem onSubscription_withoutValues {Answer : Type} (number : Nat) (absent : Answer)
    {operation bare : Subscription → Reply Subscription Answer}
    (same : ∀ subscription, bare subscription.withoutValues =
      (operation subscription).mapState Subscription.withoutValues) :
    registry.withoutValues.onSubscription number absent bare =
      (registry.onSubscription number absent operation).mapState withoutValues := by
  simp only [onSubscription, subscription?_withoutValues]
  cases registry.subscription? number with
  | none => rfl
  | some subscription =>
      simp only [Option.map_some, same, Reply.answer_mapState, Reply.state_mapState,
        Reply.events_mapState, store_withoutValues]
      rfl

end Entries

theorem delivered_withoutValues (text : String) (subscription : Subscription) :
    delivered text subscription.withoutValues = (delivered text subscription).withoutValues ∧
      deliveryEvents text subscription.withoutValues = deliveryEvents text subscription := by
  rcases subscription with ⟨⟨key, options, cancelled, channel⟩, interval, phase, lent⟩
  cases cancelled <;> exact ⟨rfl, rfl⟩

section Acts

variable (registry : Registry) (key : String) (options : OptionSet) (refusal : Option StartRefusal)

theorem schedule_withoutValues (settings : StreamerSettings) :
    registry.withoutValues.schedule key options.withoutValues settings refusal =
      (registry.schedule key options settings refusal).mapState withoutValues := by
  cases refusal with
  | some reason => rfl
  | none =>
      simp only [schedule, Reply.mapState, withoutValues, List.length_map, List.map_append,
        OptionSet.loggedKeys_withoutValues]
      rfl

theorem getOrCreate_withoutValues :
    registry.withoutValues.getOrCreate key options.withoutValues refusal =
      (registry.getOrCreate key options refusal).mapState withoutValues := by
  have scheduled : registry.withoutValues.schedule key options.withoutValues
      registry.withoutValues.settings refusal =
        (registry.schedule key options registry.settings refusal).mapState withoutValues :=
    registry.schedule_withoutValues key options refusal registry.settings
  simp only [getOrCreate, findOrMake, get?_withoutValues, scheduled]
  cases registry.get? key with
  | some number => rfl
  | none => cases refusal <;> rfl

theorem getStream_withoutValues :
    registry.withoutValues.getStream key options.withoutValues refusal =
      (registry.getStream key options refusal).mapState withoutValues := by
  simp only [getStream, getOrCreate_withoutValues, Reply.answer_mapState, Reply.state_mapState,
    Reply.events_mapState]
  cases (registry.getOrCreate key options refusal).answer with
  | error failure => rfl
  | ok number =>
      simp only [onChannel_withoutValues]
      cases (registry.getOrCreate key options refusal).state.onChannel number _ <;> rfl

theorem updateOptions_withoutValues :
    registry.withoutValues.updateOptions key options.withoutValues =
      (registry.updateOptions key options).mapState withoutValues := by
  have updated : registry.withoutValues.updateLive key options.withoutValues =
      (registry.updateLive key options).mapState withoutValues := by
    simp only [updateLive, get?_withoutValues]
    cases registry.get? key with
    | none => rfl
    | some number =>
        have replaced : registry.withoutValues.onSubscription number ()
            (·.replaceOptions options.withoutValues) =
              (registry.onSubscription number () (·.replaceOptions options)).mapState
                withoutValues :=
          registry.onSubscription_withoutValues number () (·.replaceOptions_withoutValues options)
        simp only [replaced]
        rfl
  simp only [updateOptions, updated, Reply.answer_mapState, OptionSet.loggedKeys_withoutValues]
  split <;> rfl

theorem cancel_withoutValues (number : Nat) :
    registry.withoutValues.cancel number = (registry.cancel number).mapState withoutValues :=
  registry.onSubscription_withoutValues number () (·.cancel_withoutValues .cancelled)

theorem deactivate_withoutValues :
    registry.withoutValues.deactivate key = (registry.deactivate key).mapState withoutValues := by
  have table : registry.withoutValues.table = registry.table := rfl
  cases held : registry.table.find? key with
  | none =>
      simp only [deactivate, remove, table, held]
      rfl
  | some number =>
      have removed : registry.remove key = (some number, registry.without key) := by
        simp [remove, held, without]
      have removedBare : registry.withoutValues.remove key =
          (some number, (registry.without key).withoutValues) := by
        simp only [remove, table, held]
        rfl
      have subscribers : ∀ later : Registry,
          (later.withoutValues.subscription? number).map Subscription.subscribers =
            (later.subscription? number).map Subscription.subscribers := by
        intro later
        rw [subscription?_withoutValues, Option.map_map]
        rfl
      simp only [deactivate, removed, removedBare, cancel_withoutValues, Reply.state_mapState,
        Reply.events_mapState, subscribers]
      rfl

theorem deactivateAll_withoutValues (keys : List String) :
    registry.withoutValues.deactivateAll keys =
      (registry.deactivateAll keys).mapState withoutValues := by
  induction keys generalizing registry with
  | nil => rfl
  | cons key rest ih =>
      simp only [deactivateAll, deactivate_withoutValues, Reply.answer_mapState,
        Reply.state_mapState, Reply.events_mapState, ih]
      rfl

theorem shutdown_withoutValues :
    registry.withoutValues.shutdown = registry.shutdown.mapState withoutValues := by
  have swept := registry.deactivateAll_withoutValues registry.table.keys
  have table : registry.withoutValues.table = registry.table := rfl
  simp only [shutdown, shutdownInOrder, table, swept]
  rfl

end Acts

section Asking

variable {registry : Registry} (ignores : registry.directory.IgnoresValues)
include ignores

theorem takeSnapshotOf_withoutValues (number : Nat) :
    registry.withoutValues.takeSnapshotOf number =
      (registry.takeSnapshotOf number).mapState withoutValues := by
  have directory : registry.withoutValues.directory = registry.directory := rfl
  simp only [takeSnapshotOf, onDirectory, keyOf_withoutValues, optionsOf_withoutValues, directory,
    Directory.takeSnapshot_withoutValues ignores]
  rfl

theorem getSnapshot_withoutValues (key : String) (options : OptionSet)
    (refusal : Option StartRefusal) :
    registry.withoutValues.getSnapshot key options.withoutValues refusal =
      (registry.getSnapshot key options refusal).mapState withoutValues := by
  have entered : (registry.getOrCreate key options refusal).state.directory.IgnoresValues := by
    rw [registry.directory_getOrCreate]
    exact ignores
  simp only [getSnapshot, getOrCreate_withoutValues, Reply.answer_mapState, Reply.state_mapState,
    Reply.events_mapState, takeSnapshotOf_withoutValues entered]
  cases (registry.getOrCreate key options refusal).answer <;> rfl

theorem peekSnapshot_withoutValues (key : String) (options : OptionSet) :
    registry.withoutValues.peekSnapshot key options.withoutValues =
      (registry.peekSnapshot key options).mapState withoutValues := by
  have directory : registry.withoutValues.directory = registry.directory := rfl
  simp only [peekSnapshot, get?_withoutValues, takeSnapshotOf_withoutValues ignores, onDirectory,
    directory, Directory.takeSnapshot_withoutValues ignores]
  cases registry.get? key <;> rfl

/-- What is done under a key is done under it without option values too. -/
theorem onKey_withoutValues (key : String) (act : KeyAct) :
    registry.withoutValues.onKey key act.withoutValues =
      (registry.onKey key act).mapState withoutValues := by
  cases act with
  | getOrCreate options refusal =>
      simp only [onKey, KeyAct.withoutValues, getOrCreate_withoutValues]
      rfl
  | getStream options refusal =>
      simp only [onKey, KeyAct.withoutValues, getStream_withoutValues]
      rfl
  | getSnapshot options refusal =>
      simp only [onKey, KeyAct.withoutValues, getSnapshot_withoutValues ignores]
      rfl
  | peekSnapshot options =>
      simp only [onKey, KeyAct.withoutValues, peekSnapshot_withoutValues ignores]
      rfl
  | build options settings refusal =>
      simp only [onKey, KeyAct.withoutValues, schedule_withoutValues]
      rfl
  | get =>
      simp only [onKey, KeyAct.withoutValues, get?_withoutValues]
      split <;> rfl
  | contains =>
      simp only [onKey, KeyAct.withoutValues, contains, get?_withoutValues]
      rfl
  | updateOptions options =>
      simp only [onKey, KeyAct.withoutValues, updateOptions_withoutValues]
      rfl
  | deactivate =>
      simp only [onKey, KeyAct.withoutValues, deactivate_withoutValues]
      rfl
  | lookup => rfl
  | unregister => rfl

end Asking

section Uses

/-- What comes of an act on an entry, without the values of the options in it. -/
def bareOutcome (outcome : Reply (Subscription × Directory) Said) :
    Reply (Subscription × Directory) Said :=
  ⟨outcome.answer.withoutValues, (outcome.state.1.withoutValues, outcome.state.2), outcome.events⟩

theorem outcome_withoutValues {directory : Directory} (ignores : directory.IgnoresValues)
    (subscription : Subscription) (inTable : Bool) (act : EntryAct) :
    act.withoutValues.outcome subscription.withoutValues inTable directory =
      bareOutcome (act.outcome subscription inTable directory) := by
  have key : subscription.withoutValues.key = subscription.key := rfl
  have asksWith : subscription.withoutValues.feed.options =
      subscription.feed.options.withoutValues := rfl
  cases act with
  | giveBack =>
      have lent : subscription.withoutValues.lent = subscription.lent := rfl
      have cancelled : { subscription.withoutValues with lent := subscription.lent - 1 }.cancel
          .handleDropped = ({ subscription with lent := subscription.lent - 1 }.cancel
            .handleDropped).mapState Subscription.withoutValues :=
        Subscription.cancel_withoutValues { subscription with lent := subscription.lent - 1 }
          .handleDropped
      simp only [EntryAct.outcome, EntryAct.withoutValues, lent, cancelled]
      split <;> rfl
  | cancel =>
      simp only [EntryAct.outcome, EntryAct.withoutValues, Subscription.cancel_withoutValues]
      rfl
  | replaceOptions options =>
      simp only [EntryAct.outcome, EntryAct.withoutValues,
        Subscription.replaceOptions_withoutValues]
      rfl
  | snapshot =>
      simp only [EntryAct.outcome, EntryAct.withoutValues, key, asksWith,
        Directory.takeSnapshot_withoutValues ignores]
      rfl
  | trySnapshot =>
      simp only [EntryAct.outcome, EntryAct.withoutValues, key, asksWith,
        Directory.trySnapshot_withoutValues ignores]
      rfl
  | beginTick =>
      have phase : subscription.withoutValues.phase = subscription.phase := rfl
      simp only [EntryAct.outcome, EntryAct.withoutValues, phase]
      split <;> rfl
  | endTick options =>
      simp only [EntryAct.outcome, EntryAct.withoutValues, key,
        Directory.takeSnapshot_withoutValues ignores]
      split
      · rfl
      · rename_i text _
        rcases delivered_withoutValues text subscription with ⟨later, events⟩
        simp only [later, events]
        rfl
  | _ => rfl

variable {registry : Registry} (ignores : registry.directory.IgnoresValues)
include ignores

theorem onEntry_withoutValues (number : Nat) (act : EntryAct) :
    registry.withoutValues.onEntry number act.withoutValues =
      ⟨(registry.onEntry number act).answer.withoutValues,
        (registry.onEntry number act).state.withoutValues,
        (registry.onEntry number act).events⟩ := by
  cases present : registry.subscription? number with
  | none => simp [onEntry, present, Said.withoutValues]
  | some subscription =>
      have bare : registry.withoutValues.subscription? number =
          some subscription.withoutValues := by
        rw [subscription?_withoutValues, present]
        rfl
      have directory : registry.withoutValues.directory = registry.directory := rfl
      have inTable : registry.withoutValues.inTable number = registry.inTable number := rfl
      have outcome := outcome_withoutValues ignores subscription (registry.inTable number) act
      rw [onEntry_eq present act, onEntry_eq bare act.withoutValues, directory, inTable, outcome,
        ← registry.store_eq_changing number present fun _ => _,
        ← registry.withoutValues.store_eq_changing number bare fun _ => _]
      simp only [bareOutcome, store_withoutValues]
      rfl

/-- What a registry is used for comes out the same without option values. -/
theorem use_withoutValues (use : Use Nat) :
    registry.withoutValues.use use.withoutValues =
      ⟨(registry.use use).answer.withoutValues, (registry.use use).state.withoutValues,
        (registry.use use).events⟩ := by
  cases use with
  | onKey key act =>
      have answer := Yield.withoutValues_of_none (registry.options?_onKey key act)
      simp only [Registry.use, Use.withoutValues, onKey_withoutValues ignores, answer]
      rfl
  | onEntry number act =>
      simp only [Registry.use, Use.withoutValues, onEntry_withoutValues ignores]
      rfl
  | register provider => rfl
  | shutdown =>
      simp only [Registry.use, Use.withoutValues, shutdown_withoutValues]
      rfl

theorem ignoresValues_use {use : Use Nat}
    (registers : ∀ provider, use = .register provider → provider.IgnoresValues) :
    (registry.use use).state.directory.IgnoresValues := by
  apply registry.directory_keeps Directory.IgnoresValues ignores
  · exact fun key options => ignores.takeSnapshot key options
  · exact fun provider isUse => ignores.register (registers provider isUse)
  · exact fun key => ignores.unregister key

end Uses

/-- What uses answer and log, one after the other. -/
def yields (registry : Registry) : List (Use Nat) → List (Yield Nat × List Event)
  | [] => []
  | use :: rest =>
      let used := registry.use use
      (used.answer, used.events) :: yields used.state rest

/-- A run without option values answers the same without them, logs the same, and leads to the same
state without them. -/
theorem yields_withoutValues {registry : Registry} (ignores : registry.directory.IgnoresValues)
    {uses : List (Use Nat)}
    (registers : ∀ provider, .register provider ∈ uses → provider.IgnoresValues) :
    registry.withoutValues.yields (uses.map Use.withoutValues) =
        (registry.yields uses).map (fun reply => (reply.1.withoutValues, reply.2)) ∧
      registry.withoutValues.afterUses (uses.map Use.withoutValues) =
        (registry.afterUses uses).withoutValues := by
  induction uses generalizing registry with
  | nil => exact ⟨rfl, rfl⟩
  | cons use rest ih =>
      have later : (registry.use use).state.directory.IgnoresValues := by
        apply ignoresValues_use ignores
        rintro provider rfl
        exact registers provider List.mem_cons_self
      have used := use_withoutValues ignores use
      rcases ih later fun provider member => registers provider (List.mem_cons_of_mem _ member) with
        ⟨yields, state⟩
      constructor
      · simp only [List.map_cons, Registry.yields, used, yields]
      · simp only [List.map_cons, afterUses, List.foldl_cons, used]
        exact state

end Registry

end ConsoleFeed
