import ConsoleFeed.Proofs.Provider.OneKeyDirectory
import ConsoleFeed.Proofs.Registry.EntryTurns

/-!
# What a registry is to one key

A registry is to a key what it would be if no other key had ever been used (`Registry.only`).
Entries are numbered as they are made, so without the others an entry has the number that says how
many of its own key there were before it, its rank. This file goes through what can be done under a
key and with an entry of it: with or without the others it gives the same answer, writes the same
log, and leaves the same behind for the key.

For this the table must hold entries under their own keys and the directory providers under theirs
(`Proper`).
-/

namespace ConsoleFeed.Registry

/-- Whether a subscription is one of a key. -/
def isOf (key : String) (subscription : Subscription) : Bool :=
  subscription.key == key

/-- How many subscriptions of a key were made before the one with a number. -/
def rank (registry : Registry) (key : String) (number : Nat) : Nat :=
  registry.subscriptions.countPBefore (isOf key) number

/-- What the registry would be if no other key had been used. -/
def only (registry : Registry) (key : String) : Registry where
  name := registry.name
  settings := registry.settings
  directory := registry.directory.only key
  subscriptions := registry.subscriptions.filter (isOf key)
  table := KeyMap.just key ((registry.table.find? key).map (registry.rank key))

/-- The table holds entries, and the directory providers, under their own keys. -/
structure Proper (registry : Registry) : Prop where
  entries : registry.Owned
  providers : registry.directory.Owned

section Entries

variable {registry : Registry} {key : String} {number : Nat} {subscription : Subscription}

theorem isOf_of_key (own : subscription.key = key) : isOf key subscription = true := by
  simp [isOf, own]

theorem isOf_of_ne (foreign : subscription.key ≠ key) : isOf key subscription = false := by
  simp [isOf, foreign]

/-- An entry of the key has its rank for a number. -/
theorem subscription?_only (present : registry.subscription? number = some subscription)
    (own : subscription.key = key) :
    (registry.only key).subscription? (registry.rank key number) = some subscription :=
  getElem?_filter_countPBefore (isOf key) present (isOf_of_key own)

theorem isCancelled_only (present : registry.subscription? number = some subscription)
    (own : subscription.key = key) :
    (registry.only key).isCancelled (registry.rank key number) = registry.isCancelled number := by
  simp only [isCancelled, subscription?_only present own, present]

@[simp]
theorem find?_table_only (registry : Registry) (key : String) :
    (registry.only key).table.find? key = (registry.table.find? key).map (registry.rank key) := by
  simp [only]

theorem get?_only (owned : registry.Owned) :
    (registry.only key).get? key = (registry.get? key).map (registry.rank key) := by
  simp only [get?, find?_table_only]
  cases held : registry.table.find? key with
  | none => rfl
  | some number =>
      rcases owned.present held with ⟨subscription, present, own⟩
      have same := isCancelled_only present own
      cases cancelled : registry.isCancelled number <;>
        simp [Option.filter, same, cancelled]

/-- Entries of one key differ in rank. -/
theorem rank_inj {other : Nat} {another : Subscription}
    (present : registry.subscription? number = some subscription) (own : subscription.key = key)
    (presentOther : registry.subscription? other = some another) (ownOther : another.key = key)
    (same : registry.rank key number = registry.rank key other) : number = other := by
  rcases List.getElem?_eq_some_iff.mp present with ⟨inside, found⟩
  rcases List.getElem?_eq_some_iff.mp presentOther with ⟨insideOther, foundOther⟩
  have first := List.findIdxNth_countPBefore_of_lt_length_of_pos (p := isOf key) (h := inside)
    (by rw [found]; exact isOf_of_key own)
  have second := List.findIdxNth_countPBefore_of_lt_length_of_pos (p := isOf key) (h := insideOther)
    (by rw [foundOther]; exact isOf_of_key ownOther)
  have same : registry.subscriptions.countPBefore (isOf key) number =
      registry.subscriptions.countPBefore (isOf key) other := same
  rw [← first, same, second]

theorem inTable_iff : registry.inTable number = true ↔
    ∃ key, registry.table.find? key = some number := by
  simp only [inTable, List.any_eq_true, beq_iff_eq]
  constructor
  · rintro ⟨⟨key, found⟩, member, rfl⟩
    exact ⟨key, registry.table.mem_entries_iff.mp member⟩
  · rintro ⟨key, held⟩
    exact ⟨(key, number), registry.table.mem_entries_iff.mpr held, rfl⟩

theorem Owned.inTable_iff (owned : registry.Owned)
    (present : registry.subscription? number = some subscription) (own : subscription.key = key) :
    registry.inTable number = true ↔ registry.table.find? key = some number := by
  constructor
  · intro inside
    rcases Registry.inTable_iff.mp inside with ⟨other, held⟩
    rcases owned.present held with ⟨found, presentFound, ownOther⟩
    rw [present] at presentFound
    cases presentFound
    rw [← own, ownOther]
    exact held
  · exact registry.inTable_of_find?

theorem owned_only (owned : registry.Owned) (key : String) : (registry.only key).Owned := by
  intro other number held
  simp only [only, KeyMap.find?_just] at held
  split at held
  · rename_i same
    subst same
    rcases Option.map_eq_some_iff.mp held with ⟨found, heldFound, rfl⟩
    rcases owned.present heldFound with ⟨subscription, present, own⟩
    refine ⟨subscription.isCancelled, ?_⟩
    rw [standing?_eq_some _ (subscription?_only present own), own]
  · cases held

theorem inTable_only (owned : registry.Owned)
    (present : registry.subscription? number = some subscription) (own : subscription.key = key) :
    (registry.only key).inTable (registry.rank key number) = registry.inTable number := by
  rw [Bool.eq_iff_iff, owned.inTable_iff present own,
    (owned_only owned key).inTable_iff (subscription?_only present own) own, find?_table_only]
  constructor
  · intro held
    rcases Option.map_eq_some_iff.mp held with ⟨found, heldFound, same⟩
    rcases owned.present heldFound with ⟨another, presentFound, ownFound⟩
    rw [rank_inj presentFound ownFound present own same] at heldFound
    exact heldFound
  · intro held
    rw [held]
    rfl

end Entries

section Changing

variable {registry : Registry} {key : String} {number : Nat} {subscription later : Subscription}

theorem rank_store (present : registry.subscription? number = some subscription)
    (same : later.key = subscription.key) :
    (registry.store number later).rank key = registry.rank key := by
  funext place
  apply countPBefore_set _ present
  simp only [isOf, same]

theorem only_store (present : registry.subscription? number = some subscription)
    (own : subscription.key = key) (same : later.key = subscription.key) :
    (registry.store number later).only key =
      (registry.only key).store (registry.rank key number) later := by
  have again : isOf key later = true := isOf_of_key (same.trans own)
  have places : (registry.store number later).rank key = registry.rank key :=
    rank_store present same
  simp only [only, store, Registry.mk.injEq, true_and]
  exact ⟨filter_set_of_pos _ present (isOf_of_key own) again,
    congrArg (fun rank => KeyMap.just key ((registry.table.find? key).map rank)) places⟩

theorem only_store_of_ne (present : registry.subscription? number = some subscription)
    (foreign : subscription.key ≠ key) (same : later.key = subscription.key) :
    (registry.store number later).only key = registry.only key := by
  have again : isOf key later = false := isOf_of_ne (by rw [same]; exact foreign)
  have places : (registry.store number later).rank key = registry.rank key :=
    rank_store present same
  simp only [only, store, Registry.mk.injEq, true_and]
  exact ⟨filter_set_of_neg _ present (isOf_of_ne foreign) again,
    congrArg (fun rank => KeyMap.just key ((registry.table.find? key).map rank)) places⟩

variable {change : Subscription → Subscription}

/-- Changing an entry of the key changes it without the others too. -/
theorem only_changing (present : registry.subscription? number = some subscription)
    (own : subscription.key = key) (same : (change subscription).key = subscription.key) :
    (registry.changing number change).only key =
      (registry.only key).changing (registry.rank key number) change := by
  rw [← registry.store_eq_changing number present change,
    ← (registry.only key).store_eq_changing _ (subscription?_only present own) change]
  exact only_store present own same

theorem only_changing_of_ne (present : registry.subscription? number = some subscription)
    (foreign : subscription.key ≠ key) (same : (change subscription).key = subscription.key) :
    (registry.changing number change).only key = registry.only key := by
  rw [← registry.store_eq_changing number present change]
  exact only_store_of_ne present foreign same

theorem rank_changing (present : registry.subscription? number = some subscription)
    (same : (change subscription).key = subscription.key) :
    (registry.changing number change).rank key = registry.rank key := by
  rw [← registry.store_eq_changing number present change]
  exact rank_store present same

end Changing

/-- What a reply is to one key, when entries in the answer are renamed as said. -/
def onlyReply {Answer : Type} (rename : (Nat → Nat) → Answer → Answer) (key : String)
    (reply : Reply Registry Answer) : Reply Registry Answer :=
  ⟨rename (reply.state.rank key) reply.answer, reply.state.only key, reply.events⟩

/-- No entry is in the answer. -/
def unnamed {Answer : Type} (_ : Nat → Nat) (answer : Answer) : Answer := answer

section UnderTheKey

variable {registry : Registry} {key : String}

theorem length_only (registry : Registry) (key : String) :
    (registry.only key).subscriptions.length =
      registry.rank key registry.subscriptions.length := by
  simp only [only, rank]
  rw [List.countPBefore_length, List.countP_eq_length_filter]

/-- An entry that is added has the next number, and leaves the others their ranks. -/
theorem rank_append (registry : Registry) (key : String) (more : List Subscription) {number : Nat}
    (inside : number ≤ registry.subscriptions.length) :
    (registry.subscriptions ++ more).countPBefore (isOf key) number = registry.rank key number :=
  countPBefore_append _ inside

theorem Owned.rank_held_append (owned : registry.Owned) (key : String)
    (more : List Subscription) :
    (registry.table.find? key).map ((registry.subscriptions ++ more).countPBefore (isOf key)) =
      (registry.table.find? key).map (registry.rank key) := by
  apply Option.map_congr
  intro number held
  rcases owned.present held with ⟨subscription, present, _⟩
  exact registry.rank_append key more (Nat.le_of_lt (List.getElem?_eq_some_iff.mp present).1)

theorem schedule_only (owned : registry.Owned) (options : OptionSet)
    (settings : StreamerSettings) (refusal : Option StartRefusal) :
    (registry.only key).schedule key options settings refusal =
      onlyReply Except.map key (registry.schedule key options settings refusal) := by
  cases refusal with
  | some reason => rfl
  | none =>
      have last : isOf key (Subscription.create key options settings) = true := isOf_of_key rfl
      have number := registry.rank_append key [Subscription.create key options settings]
        (Nat.le_refl _)
      have held := owned.rank_held_append key [Subscription.create key options settings]
      simp only [schedule, onlyReply, Except.map, length_only, Reply.mk.injEq, and_true]
      refine ⟨congrArg Except.ok number.symm, ?_⟩
      simp only [only, Registry.mk.injEq, true_and]
      refine ⟨?_, congrArg (KeyMap.just key) held.symm⟩
      rw [List.filter_append, List.filter_singleton, last]
      rfl

theorem entered_only (registry : Registry) (key : String) (options : OptionSet) :
    (registry.only key).entered key options = (registry.entered key options).only key := by
  have last : isOf key (Subscription.create key options registry.settings) = true :=
    isOf_of_key rfl
  have place : (registry.entered key options).rank key registry.subscriptions.length =
      registry.rank key registry.subscriptions.length := registry.rank_append key _ (Nat.le_refl _)
  have bound : (registry.only key).table.insert key (registry.only key).subscriptions.length =
      KeyMap.just key (some (registry.rank key registry.subscriptions.length)) := by
    rw [length_only]
    exact KeyMap.insert_just ..
  have held : ((registry.entered key options).table.find? key).map
      ((registry.entered key options).rank key) =
        some (registry.rank key registry.subscriptions.length) := by
    rw [← place, entered, KeyMap.find?_insert, if_pos rfl]
    rfl
  simp only [entered, only, Registry.mk.injEq, true_and]
  refine ⟨?_, bound.trans (congrArg (KeyMap.just key) held.symm)⟩
  rw [List.filter_append, List.filter_singleton, last]
  rfl

theorem getOrCreate_only (owned : registry.Owned) (options : OptionSet)
    (refusal : Option StartRefusal) :
    (registry.only key).getOrCreate key options refusal =
      onlyReply Except.map key (registry.getOrCreate key options refusal) := by
  have entered := registry.entered_only key options
  have place : (registry.entered key options).rank key registry.subscriptions.length =
      registry.rank key registry.subscriptions.length := registry.rank_append key _ (Nat.le_refl _)
  simp only [getOrCreate, findOrMake, get?_only owned]
  cases live : registry.get? key with
  | some number => rfl
  | none =>
      cases refusal with
      | some reason => rfl
      | none =>
          have reply : onlyReply Except.map key
              ⟨(.ok registry.subscriptions.length : Except SchedulingFailure Nat),
              registry.entered key options,
              [.threadRequested, .threadStarted, .subscriptionCreated key options.loggedKeys]⟩ =
            ⟨.ok (registry.only key).subscriptions.length, (registry.only key).entered key options,
              [.threadRequested, .threadStarted,
                .subscriptionCreated key options.loggedKeys]⟩ := by
            rw [onlyReply, Except.map, place, entered, length_only]
          exact reply.symm

theorem present_of_getOrCreate (owned : registry.Owned) {options : OptionSet}
    {refusal : Option StartRefusal} {number : Nat}
    (answer : (registry.getOrCreate key options refusal).answer = .ok number) :
    ∃ subscription,
      (registry.getOrCreate key options refusal).state.subscription? number = some subscription ∧
        subscription.key = key := by
  have stands := stands_getOrCreate owned answer
  rcases Option.map_eq_some_iff.mp stands.2 with ⟨subscription, present, same⟩
  exact ⟨subscription, present, congrArg Prod.fst same⟩

theorem getStream_only (owned : registry.Owned) (options : OptionSet)
    (refusal : Option StartRefusal) :
    (registry.only key).getStream key options refusal =
      onlyReply Except.map key (registry.getStream key options refusal) := by
  simp only [getStream, getOrCreate_only owned]
  cases answer : (registry.getOrCreate key options refusal).answer with
  | error failure => simp [onlyReply, answer, Except.map]
  | ok number =>
      rcases present_of_getOrCreate owned answer with ⟨subscription, present, own⟩
      simp only [onlyReply, answer, Except.map, state_onChannel, Reply.mk.injEq, and_true]
      refine ⟨?_, ?_⟩
      · rw [rank_changing present rfl]
      · exact (only_changing present own rfl).symm

theorem onDirectory_only {Answer : Type} (operation : Directory → Reply Directory Answer)
    (same : operation (registry.directory.only key) =
      ⟨(operation registry.directory).answer, (operation registry.directory).state.only key,
        (operation registry.directory).events⟩) :
    (registry.only key).onDirectory operation =
      onlyReply unnamed key (registry.onDirectory operation) := by
  have directory : (registry.only key).directory = registry.directory.only key := rfl
  simp only [onDirectory, directory, same]
  rfl

theorem takeSnapshotOf_only (providers : registry.directory.Owned) {number : Nat}
    {subscription : Subscription} (present : registry.subscription? number = some subscription)
    (own : subscription.key = key) :
    (registry.only key).takeSnapshotOf (registry.rank key number) =
      onlyReply unnamed key (registry.takeSnapshotOf number) := by
  have there := subscription?_only present own
  have keys : (registry.only key).keyOf (registry.rank key number) = key :=
    (keyOf_of_present there).trans own
  have options : (registry.only key).optionsOf (registry.rank key number) =
      registry.optionsOf number := by
    simp [optionsOf, there, present]
  simp only [takeSnapshotOf, keys, options, keyOf_of_present present, own]
  exact onDirectory_only _ (Directory.takeSnapshot_only providers _)

theorem getSnapshot_only (proper : registry.Proper) (options : OptionSet)
    (refusal : Option StartRefusal) :
    (registry.only key).getSnapshot key options refusal =
      onlyReply unnamed key (registry.getSnapshot key options refusal) := by
  simp only [getSnapshot, getOrCreate_only proper.entries]
  cases answer : (registry.getOrCreate key options refusal).answer with
  | error failure => simp [onlyReply, unnamed, answer, Except.map]
  | ok number =>
      rcases present_of_getOrCreate proper.entries answer with ⟨subscription, present, own⟩
      have providers : (registry.getOrCreate key options refusal).state.directory.Owned := by
        rw [registry.directory_getOrCreate]
        exact proper.providers
      have taken := takeSnapshotOf_only providers present own
      simp only [onlyReply, answer, Except.map] at taken ⊢
      rw [taken]
      rfl

theorem peekSnapshot_only (proper : registry.Proper) (options : OptionSet) :
    (registry.only key).peekSnapshot key options =
      onlyReply unnamed key (registry.peekSnapshot key options) := by
  simp only [peekSnapshot, get?_only proper.entries]
  cases live : registry.get? key with
  | none => exact onDirectory_only _ (Directory.takeSnapshot_only proper.providers options)
  | some number =>
      rcases proper.entries.present_of_get? live with ⟨subscription, present, own⟩
      exact takeSnapshotOf_only proper.providers present own

/-- What is done to an entry of the key is done to it without the others too. -/
theorem onSubscription_only {Answer : Type} {number : Nat} {subscription : Subscription}
    (present : registry.subscription? number = some subscription) (own : subscription.key = key)
    (absent : Answer) (operation : Subscription → Reply Subscription Answer)
    (same : (operation subscription).state.key = subscription.key) :
    (registry.only key).onSubscription (registry.rank key number) absent operation =
      onlyReply unnamed key (registry.onSubscription number absent operation) := by
  have changed : (registry.changing number fun _ => (operation subscription).state).only key =
      (registry.only key).changing (registry.rank key number)
        fun _ => (operation subscription).state :=
    only_changing present own same
  rw [onSubscription_of_present absent operation present,
    onSubscription_of_present absent operation (subscription?_only present own), onlyReply, changed]
  rfl

theorem updateLive_only (owned : registry.Owned) (options : OptionSet) :
    (registry.only key).updateLive key options =
      onlyReply unnamed key (registry.updateLive key options) := by
  have lives : (registry.only key).get? key = (registry.get? key).map (registry.rank key) :=
    get?_only owned
  cases live : registry.get? key with
  | none =>
      rw [live, Option.map_none] at lives
      simp only [updateLive, live, lives]
      rfl
  | some number =>
      rw [live, Option.map_some] at lives
      rcases owned.present_of_get? live with ⟨subscription, present, own⟩
      have same : (subscription.replaceOptions options).state.key = subscription.key := rfl
      have replaced := onSubscription_only present own () (·.replaceOptions options) same
      simp only [updateLive, live, lives]
      rw [replaced]
      rfl

theorem updateOptions_only (owned : registry.Owned) (options : OptionSet) :
    (registry.only key).updateOptions key options =
      onlyReply unnamed key (registry.updateOptions key options) := by
  simp only [updateOptions, updateLive_only owned, onlyReply, unnamed]
  split <;> rfl

theorem cancel_only {number : Nat} {subscription : Subscription}
    (present : registry.subscription? number = some subscription) (own : subscription.key = key) :
    (registry.only key).cancel (registry.rank key number) =
      onlyReply unnamed key (registry.cancel number) :=
  onSubscription_only present own () _ (subscription.key_cancel .cancelled)

theorem without_only (registry : Registry) (key : String) :
    (registry.only key).without key = (registry.without key).only key := by
  simp only [without, only, KeyMap.erase_just, KeyMap.find?_erase, if_true, Option.map_none]

/-- The subscription that was cancelled, and its rank. -/
theorem cancelled_only {number : Nat} {subscription : Subscription}
    (present : registry.subscription? number = some subscription) (own : subscription.key = key) :
    ((registry.cancel number).state.only key).subscription? (registry.rank key number) =
      (registry.cancel number).state.subscription? number := by
  have changed : (registry.cancel number).state =
      registry.changing number fun found => (found.cancel .cancelled).state :=
    registry.state_onSubscription number () _
  have later : (registry.cancel number).state.subscription? number =
      some (subscription.cancel .cancelled).state := by
    rw [changed, subscription?_changing, if_pos rfl, present]
    rfl
  have ownLater := (subscription.key_cancel .cancelled).trans own
  have place : (registry.cancel number).state.rank key = registry.rank key := by
    rw [changed]
    exact rank_changing present (subscription.key_cancel .cancelled)
  rw [← place, subscription?_only later ownLater, later]

theorem deactivate_only (owned : registry.Owned) :
    (registry.only key).deactivate key = onlyReply unnamed key (registry.deactivate key) := by
  cases held : registry.table.find? key with
  | none => simp [deactivate, remove, held, onlyReply, unnamed, only]
  | some number =>
      rcases owned.present held with ⟨subscription, present, own⟩
      have there : (registry.without key).subscription? number = some subscription := present
      have cancelled : ((registry.without key).only key).cancel (registry.rank key number) =
          onlyReply unnamed key ((registry.without key).cancel number) := cancel_only there own
      have counted : (((registry.without key).cancel number).state.only key).subscription?
          (registry.rank key number) =
            ((registry.without key).cancel number).state.subscription? number :=
        cancelled_only there own
      have removed : registry.remove key = (some number, registry.without key) := by
        simp [remove, held, without]
      have removedOnly : (registry.only key).remove key =
          (some (registry.rank key number), (registry.without key).only key) := by
        rw [← without_only]
        simp [remove, held, without]
      simp only [deactivate, removed, removedOnly, cancelled]
      simp only [onlyReply, unnamed, counted]
      rfl

/-- What is done under a key comes out the same without the other keys. -/
theorem onKey_only (proper : registry.Proper) (act : KeyAct) :
    (registry.only key).onKey key act = onlyReply Yield.map key (registry.onKey key act) := by
  have owned := proper.entries
  cases act with
  | getOrCreate options refusal =>
      simp only [onKey, getOrCreate_only owned]
      cases answer : (registry.getOrCreate key options refusal).answer <;>
        simp [onlyReply, answer, Yield.ofEntry, Except.map, Yield.map]
  | getStream options refusal =>
      simp only [onKey, getStream_only owned]
      cases answer : (registry.getStream key options refusal).answer <;>
        simp [onlyReply, answer, Yield.ofEntry, Except.map, Yield.map]
  | getSnapshot options refusal =>
      simp only [onKey, getSnapshot_only proper]
      rfl
  | peekSnapshot options =>
      simp only [onKey, peekSnapshot_only proper]
      rfl
  | build options settings refusal =>
      simp only [onKey, schedule_only owned]
      cases answer : (registry.schedule key options settings refusal).answer <;>
        simp [onlyReply, answer, Yield.ofEntry, Except.map, Yield.map]
  | get =>
      simp only [onKey, get?_only owned]
      cases registry.get? key <;> rfl
  | contains =>
      simp only [onKey, contains, get?_only owned, Option.isSome_map]
      rfl
  | updateOptions options =>
      simp only [onKey, updateOptions_only owned]
      rfl
  | deactivate =>
      simp only [onKey, deactivate_only owned]
      rfl
  | lookup =>
      have directory : (registry.only key).directory = registry.directory.only key := rfl
      simp only [onKey, directory, Directory.find_only proper.providers]
      cases found : registry.directory.find key with
      | error panic => simp [onlyReply, Except.map, Yield.map]
      | ok place => cases place <;> simp [onlyReply, Except.map, Yield.map]
  | unregister =>
      have unregistered := onDirectory_only (·.unregister key)
        (registry.directory.unregister_only key)
      simp only [onKey, unregistered]
      rfl

theorem key_outcome (subscription : Subscription) (inTable : Bool) (directory : Directory)
    (act : EntryAct) :
    (act.outcome subscription inTable directory).state.1.key = subscription.key := by
  cases act with
  | giveBack =>
      simp only [EntryAct.outcome]
      split
      · rfl
      · exact Subscription.key_cancel _ .handleDropped
  | cancel => exact subscription.key_cancel .cancelled
  | beginTick =>
      simp only [EntryAct.outcome]
      split <;> rfl
  | endTick options =>
      simp only [EntryAct.outcome]
      split
      · rfl
      · simp only [delivered, Feed.deliver, Subscription.key]
        split <;> rfl
  | _ => rfl

theorem outcome_only {directory : Directory} (providers : directory.Owned)
    {subscription : Subscription} (own : subscription.key = key) (inTable : Bool)
    (act : EntryAct) :
    act.outcome subscription inTable (directory.only key) =
      ⟨(act.outcome subscription inTable directory).answer,
        ((act.outcome subscription inTable directory).state.1,
          (act.outcome subscription inTable directory).state.2.only key),
        (act.outcome subscription inTable directory).events⟩ := by
  cases act with
  | giveBack =>
      simp only [EntryAct.outcome]
      split <;> rfl
  | snapshot =>
      simp only [EntryAct.outcome, own, Directory.takeSnapshot_only providers]
  | trySnapshot =>
      simp only [EntryAct.outcome, own, Directory.trySnapshot_only providers]
  | beginTick =>
      simp only [EntryAct.outcome]
      split <;> rfl
  | endTick options =>
      simp only [EntryAct.outcome, own, Directory.takeSnapshot_only providers]
      split <;> rfl
  | _ => rfl

/-- What is done with an entry of a key comes out the same without the other keys. -/
theorem onEntry_only (proper : registry.Proper) {number : Nat} {subscription : Subscription}
    (present : registry.subscription? number = some subscription) (own : subscription.key = key)
    (act : EntryAct) :
    (registry.only key).onEntry (registry.rank key number) act =
      onlyReply unnamed key (registry.onEntry number act) := by
  have directory : (registry.only key).directory = registry.directory.only key := rfl
  have changed : (registry.changing number fun _ =>
      (act.outcome subscription (registry.inTable number) registry.directory).state.1).only key =
        (registry.only key).changing (registry.rank key number) fun _ =>
          (act.outcome subscription (registry.inTable number) registry.directory).state.1 :=
    only_changing present own (key_outcome subscription _ _ act)
  rw [onEntry_eq present act, onEntry_eq (subscription?_only present own) act,
    inTable_only proper.entries present own, directory, outcome_only proper.providers own]
  simp only [onlyReply, unnamed, ← changed]
  rfl

end UnderTheKey

section UnderAnother

variable {registry : Registry} {key other : String}

/-- What is done to the directory under another key is not seen. -/
theorem only_onDirectory_of_ne {Answer : Type} (operation : Directory → Reply Directory Answer)
    (same : (operation registry.directory).state.only key = registry.directory.only key) :
    (registry.onDirectory operation).state.only key = registry.only key := by
  have unseen : (registry.onDirectory operation).state.only key =
      { registry.only key with directory := (operation registry.directory).state.only key } := rfl
  rw [unseen, same]
  rfl

theorem only_takeSnapshot_of_ne {directory : Directory} (providers : directory.Owned)
    (foreign : other ≠ key) (options : OptionSet) :
    (directory.takeSnapshot other options).state.only key = directory.only key := by
  rw [Directory.state_takeSnapshot]
  exact Directory.only_trySnapshot_of_ne providers foreign options

theorem only_takeSnapshotOf_of_ne (providers : registry.directory.Owned) {number : Nat}
    {subscription : Subscription} (present : registry.subscription? number = some subscription)
    (foreign : subscription.key ≠ key) :
    (registry.takeSnapshotOf number).state.only key = registry.only key := by
  apply only_onDirectory_of_ne
  rw [keyOf_of_present present]
  exact only_takeSnapshot_of_ne providers foreign _

theorem only_onSubscription_of_ne {Answer : Type} {number : Nat} {subscription : Subscription}
    (present : registry.subscription? number = some subscription)
    (foreign : subscription.key ≠ key) (absent : Answer)
    (operation : Subscription → Reply Subscription Answer)
    (same : (operation subscription).state.key = subscription.key) :
    (registry.onSubscription number absent operation).state.only key = registry.only key := by
  rw [state_onSubscription]
  exact only_changing_of_ne present foreign same

theorem only_schedule_of_ne (owned : registry.Owned) (foreign : other ≠ key)
    (options : OptionSet) (settings : StreamerSettings) (refusal : Option StartRefusal) :
    (registry.schedule other options settings refusal).state.only key = registry.only key := by
  cases refusal with
  | some reason => rfl
  | none =>
      have last : isOf key (Subscription.create other options settings) = false :=
        isOf_of_ne foreign
      have held := owned.rank_held_append key [Subscription.create other options settings]
      simp only [schedule, only, Registry.mk.injEq, true_and]
      refine ⟨?_, congrArg (KeyMap.just key) held⟩
      rw [List.filter_append, List.filter_singleton, last]
      exact List.append_nil _

theorem only_getOrCreate_of_ne (owned : registry.Owned) (foreign : other ≠ key)
    (options : OptionSet) (refusal : Option StartRefusal) :
    (registry.getOrCreate other options refusal).state.only key = registry.only key := by
  rcases registry.getOrCreate_cases other options refusal with
    ⟨_, _, _, same⟩ | ⟨_, _, _, _, same⟩ | ⟨_, _, _, same⟩
  · rw [same]
  · rw [same]
  · have scheduled := only_schedule_of_ne owned foreign options registry.settings none
    have unbound : (registry.entered other options).table.find? key = registry.table.find? key := by
      simp [entered, KeyMap.find?_insert, foreign.symm]
    have entered : (registry.entered other options).only key =
        (registry.schedule other options registry.settings none).state.only key := by
      simp only [only, unbound]
      rfl
    rw [same, entered, scheduled]

theorem only_deactivate_of_ne (owned : registry.Owned) (foreign : other ≠ key) :
    (registry.deactivate other).state.only key = registry.only key := by
  simp only [deactivate]
  rcases registry.remove_entries other with ⟨absent, _⟩ | ⟨number, found, removes⟩
  · simp only [absent]
  · rcases owned.present removes.held with ⟨subscription, present, own⟩
    have there : (registry.without other).subscription? number = some subscription := present
    have removed : (registry.without other).only key = registry.only key := by
      simp only [without, only, KeyMap.find?_erase, if_neg foreign.symm]
      rfl
    simp only [found]
    rw [← removed]
    apply only_onSubscription_of_ne there _ () _ (subscription.key_cancel .cancelled)
    rw [own]
    exact foreign

theorem only_updateOptions_of_ne (owned : registry.Owned) (foreign : other ≠ key)
    (options : OptionSet) :
    (registry.updateOptions other options).state.only key = registry.only key := by
  have replaced : (registry.updateLive other options).state.only key = registry.only key := by
    simp only [updateLive]
    cases live : registry.get? other with
    | none => rfl
    | some number =>
        rcases owned.present_of_get? live with ⟨subscription, present, own⟩
        apply only_onSubscription_of_ne present _ () _ rfl
        rw [own]
        exact foreign
  simp only [updateOptions]
  split <;> exact replaced

/-- What is done under another key is not seen. -/
theorem only_onKey_of_ne (proper : registry.Proper) (foreign : other ≠ key) (act : KeyAct) :
    (registry.onKey other act).state.only key = registry.only key := by
  have owned := proper.entries
  cases act with
  | getOrCreate options refusal => exact only_getOrCreate_of_ne owned foreign options refusal
  | getStream options refusal =>
      have entered := only_getOrCreate_of_ne owned foreign options refusal
      simp only [onKey, getStream]
      cases answer : (registry.getOrCreate other options refusal).answer with
      | error failure => exact entered
      | ok number =>
          rcases present_of_getOrCreate owned answer with ⟨subscription, present, own⟩
          simp only [state_onChannel]
          rw [← entered]
          apply only_changing_of_ne present _ rfl
          rw [own]
          exact foreign
  | getSnapshot options refusal =>
      have entered := only_getOrCreate_of_ne owned foreign options refusal
      simp only [onKey, getSnapshot]
      cases answer : (registry.getOrCreate other options refusal).answer with
      | error failure => exact entered
      | ok number =>
          rcases present_of_getOrCreate owned answer with ⟨subscription, present, own⟩
          have providers : (registry.getOrCreate other options refusal).state.directory.Owned := by
            rw [registry.directory_getOrCreate]
            exact proper.providers
          dsimp only
          rw [← entered]
          apply only_takeSnapshotOf_of_ne providers present
          rw [own]
          exact foreign
  | peekSnapshot options =>
      simp only [onKey, peekSnapshot]
      cases live : registry.get? other with
      | none =>
          exact only_onDirectory_of_ne _ (only_takeSnapshot_of_ne proper.providers foreign options)
      | some number =>
          rcases owned.present_of_get? live with ⟨subscription, present, own⟩
          apply only_takeSnapshotOf_of_ne proper.providers present
          rw [own]
          exact foreign
  | build options settings refusal =>
      exact only_schedule_of_ne owned foreign options settings refusal
  | get =>
      simp only [onKey]
      split <;> rfl
  | contains => rfl
  | updateOptions options => exact only_updateOptions_of_ne owned foreign options
  | deactivate => exact only_deactivate_of_ne owned foreign
  | lookup => rfl
  | unregister =>
      exact only_onDirectory_of_ne (·.unregister other)
        (registry.directory.only_unregister_of_ne foreign)

/-- What is done with an entry of another key is not seen. -/
theorem only_onEntry_of_ne (proper : registry.Proper) {number : Nat}
    {subscription : Subscription} (present : registry.subscription? number = some subscription)
    (foreign : subscription.key ≠ key) (act : EntryAct) :
    (registry.onEntry number act).state.only key = registry.only key := by
  have changed : (registry.changing number fun _ =>
      (act.outcome subscription (registry.inTable number) registry.directory).state.1).only key =
        registry.only key :=
    only_changing_of_ne present foreign (key_outcome subscription _ _ act)
  have asked : (act.outcome subscription (registry.inTable number)
      registry.directory).state.2.only key = registry.directory.only key := by
    cases act with
    | giveBack =>
        simp only [EntryAct.outcome]
        split <;> rfl
    | snapshot => exact only_takeSnapshot_of_ne proper.providers foreign _
    | trySnapshot => exact Directory.only_trySnapshot_of_ne proper.providers foreign _
    | beginTick =>
        simp only [EntryAct.outcome]
        split <;> rfl
    | endTick options =>
        have taken := only_takeSnapshot_of_ne proper.providers foreign options
        simp only [EntryAct.outcome]
        split <;> exact taken
    | _ => rfl
  rw [onEntry_eq present act]
  have apart : ∀ (later : Registry) (directory : Directory),
      { later with directory := directory }.only key =
        { later.only key with directory := directory.only key } := fun _ _ => rfl
  rw [apart, changed, asked]
  rfl

end UnderAnother

end ConsoleFeed.Registry
