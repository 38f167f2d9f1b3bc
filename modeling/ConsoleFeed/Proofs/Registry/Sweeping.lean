import ConsoleFeed.Proofs.Registry.Deeds
import ConsoleFeed.Proofs.Registry.FormerEntries
import ConsoleFeed.Proofs.Registry.Observers

/-!
# What a shutdown leaves

A shutdown deactivates one key after the other, in the order in which the table happens to be
listed. Each deactivation takes one entry out and leaves what the others will say and become as it
was, because the table holds an entry under one key only. So what a shutdown leads to can be told
beforehand (`swept`), and what it logs is a farewell for each entry, in the order of the listing.
The induction is on the keys that are left, and the registry that it is over holds just those: it
keeps `swept` and the farewells to come.

What is left has an empty table, and for every key it is a registry that was never used.
-/

namespace ConsoleFeed

namespace Registry

/-- The registry after a shutdown: what was in the table is cancelled, and nothing is in it. -/
def swept (registry : Registry) : Registry :=
  { registry with
    subscriptions := registry.subscriptions.mapIdx fun number subscription =>
      if registry.inTable number then (subscription.cancel .cancelled).state else subscription
    table := KeyMap.empty }

/-- What is logged when an entry of the table is deactivated. -/
def farewell (registry : Registry) (entry : String × Nat) : List Event :=
  (if registry.isCancelled entry.2 then [] else [.subscriptionCancelled entry.1 .cancelled]) ++
    [.deactivated registry.name entry.1
      (((registry.subscription? entry.2).map Subscription.subscribers).getD 0)]

/-- The registry after the deactivation of an entry that the table holds for a key. -/
def deactivated (registry : Registry) (entry : String × Nat) : Registry :=
  (registry.without entry.1).changing entry.2 fun subscription =>
    (subscription.cancel .cancelled).state

section Sweeping

variable {registry : Registry}

theorem eq_of_subscription? {first second : Registry} (name : first.name = second.name)
    (settings : first.settings = second.settings) (directory : first.directory = second.directory)
    (table : first.table = second.table)
    (same : ∀ number, first.subscription? number = second.subscription? number) :
    first = second := by
  rcases first with ⟨_, _, _, subscriptions, _⟩
  rcases second with ⟨_, _, _, others, _⟩
  cases name
  cases settings
  cases directory
  cases table
  congr 1
  exact List.ext_getElem? same

theorem subscription?_swept (registry : Registry) (number : Nat) :
    registry.swept.subscription? number =
      (registry.subscription? number).map fun subscription =>
        if registry.inTable number then (subscription.cancel .cancelled).state
        else subscription := by
  simp [subscription?, swept, List.getElem?_mapIdx]

/-- A registry with an empty table is left as it is. -/
theorem swept_of_empty (empty : registry.table = KeyMap.empty) : registry.swept = registry := by
  have outside : ∀ number, registry.inTable number = false := by
    intro number
    rw [inTable, empty]
    rfl
  refine eq_of_subscription? rfl rfl rfl empty.symm fun number => ?_
  rw [subscription?_swept, outside]
  exact Option.map_id'

/-- A deactivation takes the entry out and cancels it, and says its farewell. -/
theorem Owned.deactivate_eq (owned : registry.Owned) {entry : String × Nat}
    (found : registry.table.find? entry.1 = some entry.2) :
    registry.deactivate entry.1 =
      ⟨true, registry.deactivated entry, registry.farewell entry⟩ := by
  rcases owned.present found with ⟨subscription, present, own⟩
  have there : (registry.without entry.1).subscription? entry.2 = some subscription := present
  have state : ((registry.without entry.1).cancel entry.2).state = registry.deactivated entry :=
    state_onSubscription _ _ () _
  have events : ((registry.without entry.1).cancel entry.2).events =
      if registry.isCancelled entry.2 then [] else [.subscriptionCancelled entry.1 .cancelled] := by
    rw [cancel, onSubscription_of_present () _ there, isCancelled, present, ← own]
    rcases subscription.cancel_cases .cancelled with ⟨marked, same⟩ | ⟨unmarked, changed⟩
    · simp [same, marked]
    · simp [changed, unmarked]
  have subscribers : ((registry.deactivated entry).subscription? entry.2).map
      Subscription.subscribers =
        (registry.subscription? entry.2).map Subscription.subscribers := by
    rw [deactivated, subscription?_changing, if_pos rfl, there, present]
    simp [Subscription.subscribers]
  have removed : registry.remove entry.1 = (some entry.2, registry.without entry.1) := by
    simp [remove, found, without]
  simp only [deactivate, removed, state, events, subscribers, farewell]

/-- Under another key the table holds another entry. -/
theorem Owned.ne_of_ne (owned : registry.Owned) {key other : String} {number another : Nat}
    (found : registry.table.find? key = some number)
    (left : registry.table.find? other = some another) (apart : other ≠ key) :
    another ≠ number := by
  rintro rfl
  rcases owned _ _ found with ⟨_, standing⟩
  rcases owned _ _ left with ⟨_, standingOther⟩
  rw [standing] at standingOther
  exact apart (congrArg Prod.fst (Option.some.inj standingOther)).symm

/-- A deactivation changes nothing about where a shutdown leads to. -/
theorem Owned.swept_deactivated (owned : registry.Owned) {entry : String × Nat}
    (found : registry.table.find? entry.1 = some entry.2) :
    (registry.deactivated entry).swept = registry.swept := by
  refine eq_of_subscription? rfl rfl rfl rfl fun number => ?_
  have erased : (registry.deactivated entry).table = registry.table.erase entry.1 := rfl
  rw [subscription?_swept, subscription?_swept]
  by_cases same : number = entry.2
  · subst same
    have before : registry.inTable entry.2 = true := registry.inTable_of_find? found
    have after : (registry.deactivated entry).inTable entry.2 = false := by
      apply inTable_eq_false_iff.mpr
      intro key held
      rw [erased, KeyMap.find?_erase] at held
      split at held
      · cases held
      · rename_i apart
        exact owned.ne_of_ne found held apart rfl
    rw [deactivated, subscription?_changing, if_pos rfl, ← deactivated, after, before]
    simp only [Bool.false_eq_true, if_false, if_true, Option.map_map]
    rfl
  · have stays : (registry.deactivated entry).inTable number = registry.inTable number := by
      rw [Bool.eq_iff_iff, Registry.inTable_iff, Registry.inTable_iff]
      apply exists_congr
      intro key
      rw [erased, KeyMap.find?_erase]
      split
      · rename_i here
        rw [here, found]
        simp [Ne.symm same]
      · rfl
    rw [stays, deactivated, subscription?_changing, if_neg same]
    rfl

/-- A deactivation changes nothing about what another entry's one will log. -/
theorem Owned.farewell_deactivated (owned : registry.Owned) {entry other : String × Nat}
    (found : registry.table.find? entry.1 = some entry.2)
    (left : registry.table.find? other.1 = some other.2) (apart : other.1 ≠ entry.1) :
    (registry.deactivated entry).farewell other = registry.farewell other := by
  have there : (registry.deactivated entry).subscription? other.2 =
      registry.subscription? other.2 := by
    rw [deactivated, subscription?_changing, if_neg (owned.ne_of_ne found left apart)]
    rfl
  simp only [farewell, isCancelled, there]
  rfl

theorem Owned.deactivated (owned : registry.Owned) {entry : String × Nat}
    (found : registry.table.find? entry.1 = some entry.2) :
    (registry.deactivated entry).Owned := by
  have later := owned.turn (registry.turn_deactivate entry.1)
  rwa [owned.deactivate_eq found] at later

/-- Entries that are deactivated one after the other are counted, and each one says its farewell. -/
theorem Owned.deactivateAll_eq (owned : registry.Owned) {listing : List (String × Nat)}
    (apart : (listing.map Prod.fst).Nodup)
    (held : ∀ entry ∈ listing, registry.table.find? entry.1 = some entry.2) :
    (registry.deactivateAll (listing.map Prod.fst)).answer = listing.length ∧
      (registry.deactivateAll (listing.map Prod.fst)).state.swept = registry.swept ∧
      (registry.deactivateAll (listing.map Prod.fst)).events =
        listing.flatMap registry.farewell := by
  induction listing generalizing registry with
  | nil => exact ⟨rfl, rfl, rfl⟩
  | cons entry rest ih =>
      rcases List.nodup_cons.mp apart with ⟨once, others⟩
      rcases List.forall_mem_cons.mp held with ⟨found, left⟩
      have different : ∀ other ∈ rest, other.1 ≠ entry.1 := by
        rintro other member same
        exact once (same ▸ List.mem_map_of_mem member)
      have stillHeld : ∀ other ∈ rest,
          (registry.deactivated entry).table.find? other.1 = some other.2 := by
        intro other member
        have erased : (registry.deactivated entry).table = registry.table.erase entry.1 := rfl
        rw [erased, KeyMap.find?_erase, if_neg (different other member)]
        exact left other member
      rcases ih (owned.deactivated found) others stillHeld with ⟨answer, state, events⟩
      simp only [List.map_cons, deactivateAll, owned.deactivate_eq found]
      refine ⟨?_, state.trans (owned.swept_deactivated found), ?_⟩
      · rw [answer, if_true, List.length_cons, Nat.add_comm]
      · rw [events, List.flatMap_cons]
        congr 1
        apply List.flatMap_congr
        intro other member
        exact owned.farewell_deactivated found (left other member) (different other member)

/-- A shutdown does the same in whatever order the table is listed, up to the order of what it logs
of the entries. -/
theorem Owned.shutdownInOrder_eq (owned : registry.Owned) {listing : List (String × Nat)}
    (permuted : listing.Perm registry.table.entries) :
    registry.shutdownInOrder (listing.map fun entry => registry.keyOf entry.2) =
      ⟨registry.table.size, registry.swept,
        listing.flatMap registry.farewell ++ [.shutDown registry.name registry.table.size]⟩ := by
  have held : ∀ entry ∈ listing, registry.table.find? entry.1 = some entry.2 := fun entry member =>
    registry.table.mem_entries_iff.mp (permuted.mem_iff.mp member)
  have keys : (listing.map fun entry => registry.keyOf entry.2) = listing.map Prod.fst :=
    List.map_congr_left fun entry member => owned.keyOf (held entry member)
  have apart : (listing.map Prod.fst).Nodup :=
    (permuted.map Prod.fst).nodup_iff.mpr registry.table.nodup_keys
  rcases owned.deactivateAll_eq apart held with ⟨answer, state, events⟩
  have empty : (registry.deactivateAll (listing.map Prod.fst)).state.table = KeyMap.empty := by
    apply KeyMap.eq_of_find?
    intro key
    rw [find?_deactivateAll]
    split
    · rfl
    · rename_i unlisted
      cases left : registry.table.find? key with
      | none => rfl
      | some number =>
          have member := permuted.mem_iff.mpr (registry.table.mem_entries_iff.mpr left)
          exact absurd (List.mem_map_of_mem member) unlisted
  rw [swept_of_empty empty] at state
  have size : listing.length = registry.table.size := permuted.length_eq
  simp only [shutdownInOrder, keys, answer, state, events, size]

/-- What everything was taken out of is a registry that was never used, but for former entries. -/
theorem swept_eq_behind (registry : Registry) :
    registry.swept = (create registry.name registry.settings registry.directory).state.behind
      registry.swept.subscriptions := by
  simp only [behind, create, List.append_nil]
  rfl

end Sweeping

end Registry

namespace SharedRegistry

open Registry

/-- A shutdown, alone, goes through the table in the order of a listing. -/
structure Sweeps (registry : Registry) (listing : List (String × Nat)) : Prop where
  /-- It answers how many entries the table holds, deactivates each of them, and logs that number;
  what it leaves does not depend on the order. -/
  reply : registry.shutdownInOrder (listing.map fun entry => registry.keyOf entry.2) =
    ⟨registry.table.size, registry.swept,
      listing.flatMap registry.farewell ++ [.shutDown registry.name registry.table.size]⟩
  /-- The same comes of the steps of the call. -/
  alone : ∀ refusal, Call.Finishes refusal
    ⟨.listing (listing.map fun entry => registry.keyOf entry.2), registry, []⟩
    ⟨.count registry.table.size, registry.swept,
      listing.flatMap registry.farewell ++ [.shutDown registry.name registry.table.size]⟩

/-- What a shutdown leaves is, for every key, a registry that was never used. -/
structure LeavesUnused (registry : Registry) : Prop where
  empty : registry.swept.table = KeyMap.empty
  cancelled : ∀ key number, registry.table.find? key = some number →
    registry.swept.standing? number = some (key, true)
  again : registry.swept.shutdown = ⟨0, registry.swept, [.shutDown registry.name 0]⟩
  /-- Asking for a key's entry makes one, with the options that come with the question. -/
  fresh : ∀ key options,
    registry.swept.getOrCreate key options none =
        ⟨.ok registry.subscriptions.length, registry.swept.entered key options,
          [.threadRequested, .threadStarted, .subscriptionCreated key options.loggedKeys]⟩ ∧
      (registry.swept.entered key options).subscription? registry.subscriptions.length =
        some (Subscription.create key options registry.settings)
  /-- Whatever it is used for, it answers and logs what one that was never used would, and becomes
  what that one would, with higher numbers. -/
  later : ∀ uses : List (Use Nat),
    let unused := (create registry.name registry.settings registry.directory).state
    registry.swept.yields (uses.map (Use.map (registry.subscriptions.length + ·))) =
        (unused.yields uses).map (fun reply =>
          (reply.1.map (registry.subscriptions.length + ·), reply.2)) ∧
      registry.swept.afterUses (uses.map (Use.map (registry.subscriptions.length + ·))) =
        (unused.afterUses uses).behind registry.swept.subscriptions
  /-- Nor does it make a difference what is still done with an entry of before. -/
  former : ∀ number act, number < registry.subscriptions.length →
    ∃ subscription directory, (registry.swept.onEntry number act).state =
      (create registry.name registry.settings directory).state.behind
        (registry.swept.subscriptions.set number subscription)

theorem leavesUnused {registry : Registry} (owned : registry.Owned) : LeavesUnused registry := by
  have behind := registry.swept_eq_behind
  have length : registry.swept.subscriptions.length = registry.subscriptions.length :=
    List.length_mapIdx
  have absent : ∀ key, registry.swept.get? key = none := fun key => rfl
  refine ⟨rfl, ?_, ?_, ?_, ?_, ?_⟩
  · intro key number found
    rcases owned.present found with ⟨subscription, present, own⟩
    rw [standing?, subscription?_swept, present, registry.inTable_of_find? found]
    simp [own]
  · rfl
  · intro key options
    have made := registry.swept.subscription?_entered_self key options
    rw [length] at made
    refine ⟨?_, made⟩
    simp only [getOrCreate, findOrMake, absent, schedule, entered, length]
  · intro uses
    rw [← length]
    have same := yields_behind registry.swept.subscriptions
      (create registry.name registry.settings registry.directory).state uses
    rwa [← behind] at same
  · intro number act past
    rw [← length] at past
    have kept := onEntry_former registry.swept.subscriptions
      (create registry.name registry.settings registry.directory).state past act
    rwa [← behind] at kept

/-- In every state that a registry gets into, a shutdown sweeps all that is in the table, in
whatever order it is listed, and leaves a registry that was never used. -/
theorem shutdown_sweeps_everything (name : String) (settings : StreamerSettings)
    (directory : Directory) (deeds : List Deed) :
    let registry := ((start name settings directory).after deeds).registry
    (∀ listing, listing.Perm registry.table.entries → Sweeps registry listing) ∧
      LeavesUnused registry := by
  intro registry
  have owned : registry.Owned := ((coherent_start name settings directory).after deeds).owned
  refine ⟨?_, leavesUnused owned⟩
  intro listing permuted
  have reply := owned.shutdownInOrder_eq permuted
  refine ⟨reply, fun refusal => ?_⟩
  have finishes := finishes_shutdown refusal registry
    (listing.map fun entry => registry.keyOf entry.2)
  rwa [reply] at finishes

theorem shutdown_sweeps_everything_of_middleCancelled :
    let registry := ((start "console" .standard Directory.empty).after middleCancelled).registry
    let swept := registry.shutdownInOrder ["é", "b", "a"]
    swept.answer = 3 ∧
      swept.events =
        [.subscriptionCancelled "é" .cancelled, .deactivated "console" "é" 0,
          .deactivated "console" "b" 0,
          .subscriptionCancelled "a" .cancelled, .deactivated "console" "a" 0,
          .shutDown "console" 3] ∧
      swept.state.shutdown.answer = 0 := by
  intro registry swept
  rcases shutdown_sweeps_everything "console" .standard Directory.empty middleCancelled with
    ⟨sweeps, unused⟩
  have reply := (sweeps [("é", 1), ("b", 0), ("a", 2)] (by decide)).reply
  have keys : [("é", 1), ("b", 0), ("a", 2)].map (fun entry => registry.keyOf entry.2) =
      ["é", "b", "a"] := by decide
  rw [keys] at reply
  have state : swept.state = registry.swept := congrArg Reply.state reply
  refine ⟨congrArg Reply.answer reply, (congrArg Reply.events reply).trans (by decide), ?_⟩
  rw [state]
  exact congrArg Reply.answer unused.again

end SharedRegistry

end ConsoleFeed
