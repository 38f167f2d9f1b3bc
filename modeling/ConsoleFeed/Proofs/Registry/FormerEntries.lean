import ConsoleFeed.Proofs.KeyMap
import ConsoleFeed.Proofs.Registry.WithoutValues

/-!
# A registry with former entries

A registry whose table has been emptied still has the subscriptions that were in it, as handles on
them may be left. They make no difference: with them before its own subscriptions a registry answers
and logs what it does without them, and leads to the same state with them, only that every number is
as much greater as there are of them (`use_behind`). So a registry with an empty table is, for every
key, one that was never used.

What is done with the former entries themselves leaves the others and the table alone
(`onEntry_former`).
-/

namespace ConsoleFeed.Registry

/-- The registry with former subscriptions before its own, of which the table holds none. -/
def behind (former : List Subscription) (registry : Registry) : Registry :=
  { registry with
    subscriptions := former ++ registry.subscriptions
    table := registry.table.mapValues (former.length + ·) }

/-- The same use of entries that are named in another way. -/
def Use.map {Entry Other : Type} (rename : Entry → Other) : Use Entry → Use Other
  | .onKey key act => .onKey key act
  | .onEntry entry act => .onEntry (rename entry) act
  | .register provider => .register provider
  | .shutdown => .shutdown

/-- A reply with the former subscriptions in its state, and its answer given in another way. -/
def behindReply {Answer Other : Type} (former : List Subscription) (shift : Answer → Other)
    (reply : Reply Registry Answer) : Reply Registry Other :=
  ⟨shift reply.answer, reply.state.behind former, reply.events⟩

section Entries

variable (former : List Subscription) (registry : Registry) (number : Nat)

@[simp]
theorem subscription?_behind :
    (registry.behind former).subscription? (former.length + number) =
      registry.subscription? number := by
  simp only [subscription?, behind]
  rw [List.getElem?_append_right (Nat.le_add_right ..), Nat.add_sub_cancel_left]

@[simp]
theorem isCancelled_behind :
    (registry.behind former).isCancelled (former.length + number) =
      registry.isCancelled number := by
  simp only [isCancelled, subscription?_behind]

theorem keyOf_behind :
    (registry.behind former).keyOf (former.length + number) = registry.keyOf number := by
  simp only [keyOf, subscription?_behind]

theorem optionsOf_behind :
    (registry.behind former).optionsOf (former.length + number) = registry.optionsOf number := by
  simp only [optionsOf, subscription?_behind]

@[simp]
theorem find?_table_behind (key : String) :
    (registry.behind former).table.find? key =
      (registry.table.find? key).map (former.length + ·) :=
  registry.table.find?_mapValues _ key

@[simp]
theorem get?_behind (key : String) :
    (registry.behind former).get? key = (registry.get? key).map (former.length + ·) := by
  simp only [get?, find?_table_behind]
  cases registry.table.find? key with
  | none => rfl
  | some number => cases marked : registry.isCancelled number <;> simp [Option.filter, marked]

theorem inTable_behind :
    (registry.behind former).inTable (former.length + number) = registry.inTable number := by
  have same : ∀ other, (former.length + other == former.length + number) = (other == number) := by
    intro other
    rw [Bool.eq_iff_iff, beq_iff_eq, beq_iff_eq, Nat.add_left_cancel_iff]
  simp [inTable, behind, KeyMap.mapValues, Function.comp_def, same]

theorem store_behind (subscription : Subscription) :
    (registry.behind former).store (former.length + number) subscription =
      (registry.store number subscription).behind former := by
  simp only [store, behind]
  rw [List.set_append_right _ _ (Nat.le_add_right ..), Nat.add_sub_cancel_left]

theorem onSubscription_behind {Answer : Type} (absent : Answer)
    (operation : Subscription → Reply Subscription Answer) :
    (registry.behind former).onSubscription (former.length + number) absent operation =
      behindReply former id (registry.onSubscription number absent operation) := by
  simp only [onSubscription, subscription?_behind]
  cases registry.subscription? number with
  | none => rfl
  | some subscription =>
      simp only [store_behind]
      rfl

theorem onChannel_behind {Answer : Type} (operation : Channel → Answer × Channel) :
    (registry.behind former).onChannel (former.length + number) operation =
      (registry.onChannel number operation).map fun (answer, state) =>
        (answer, state.behind former) := by
  simp only [onChannel, subscription?_behind, Option.map_map]
  cases registry.subscription? number with
  | none => rfl
  | some subscription =>
      simp only [Option.map_some, store_behind]
      rfl

end Entries

section Acts

variable (former : List Subscription) (registry : Registry) (key : String) (options : OptionSet)
  (refusal : Option StartRefusal)

theorem schedule_behind (settings : StreamerSettings) :
    (registry.behind former).schedule key options settings refusal =
      behindReply former (Except.map (former.length + ·))
        (registry.schedule key options settings refusal) := by
  cases refusal with
  | some reason => rfl
  | none => simp [schedule, behindReply, behind, Except.map]

theorem getOrCreate_behind :
    (registry.behind former).getOrCreate key options refusal =
      behindReply former (Except.map (former.length + ·))
        (registry.getOrCreate key options refusal) := by
  have scheduled := registry.schedule_behind former key options refusal registry.settings
  have settings : (registry.behind former).settings = registry.settings := rfl
  simp only [getOrCreate, findOrMake, get?_behind, settings, scheduled]
  cases registry.get? key with
  | some number => rfl
  | none =>
      cases refusal with
      | some reason => rfl
      | none =>
          simp only [schedule, behindReply, behind, Except.map, KeyMap.mapValues_insert,
            Option.map_none]

theorem getStream_behind :
    (registry.behind former).getStream key options refusal =
      behindReply former (Except.map (former.length + ·))
        (registry.getStream key options refusal) := by
  simp only [getStream, getOrCreate_behind, behindReply]
  cases (registry.getOrCreate key options refusal).answer with
  | error failure => rfl
  | ok number =>
      simp only [Except.map, onChannel_behind]
      cases (registry.getOrCreate key options refusal).state.onChannel number _ <;> rfl

theorem takeSnapshotOf_behind (number : Nat) :
    (registry.behind former).takeSnapshotOf (former.length + number) =
      behindReply former id (registry.takeSnapshotOf number) := by
  have directory : (registry.behind former).directory = registry.directory := rfl
  simp only [takeSnapshotOf, onDirectory, keyOf_behind, optionsOf_behind, directory]
  rfl

theorem getSnapshot_behind :
    (registry.behind former).getSnapshot key options refusal =
      behindReply former id (registry.getSnapshot key options refusal) := by
  simp only [getSnapshot, getOrCreate_behind, behindReply]
  cases (registry.getOrCreate key options refusal).answer with
  | error failure => rfl
  | ok number =>
      simp only [Except.map, takeSnapshotOf_behind]
      rfl

theorem peekSnapshot_behind :
    (registry.behind former).peekSnapshot key options =
      behindReply former id (registry.peekSnapshot key options) := by
  simp only [peekSnapshot, get?_behind]
  cases registry.get? key with
  | none => rfl
  | some number => exact registry.takeSnapshotOf_behind former number

theorem updateOptions_behind :
    (registry.behind former).updateOptions key options =
      behindReply former id (registry.updateOptions key options) := by
  have updated : (registry.behind former).updateLive key options =
      behindReply former id (registry.updateLive key options) := by
    simp only [updateLive, get?_behind]
    cases registry.get? key with
    | none => rfl
    | some number =>
        simp only [Option.map_some, onSubscription_behind]
        rfl
  simp only [updateOptions, updated, behindReply, id_eq]
  split <;> rfl

theorem deactivate_behind :
    (registry.behind former).deactivate key =
      behindReply former id (registry.deactivate key) := by
  cases held : registry.table.find? key with
  | none =>
      simp only [deactivate, remove, find?_table_behind, held]
      rfl
  | some number =>
      have removed : registry.remove key = (some number, registry.without key) := by
        simp [remove, held, without]
      have removedBehind : (registry.behind former).remove key =
          (some (former.length + number), (registry.without key).behind former) := by
        simp only [remove, find?_table_behind, held, Option.map_some]
        simp only [behind, without, KeyMap.mapValues_erase]
      simp only [deactivate, removed, removedBehind, cancel, onSubscription_behind, behindReply,
        subscription?_behind]
      rfl

theorem deactivateAll_behind (keys : List String) :
    (registry.behind former).deactivateAll keys =
      behindReply former id (registry.deactivateAll keys) := by
  induction keys generalizing registry with
  | nil => rfl
  | cons key rest ih =>
      simp only [deactivateAll, deactivate_behind, behindReply, ih]
      rfl

theorem shutdown_behind :
    (registry.behind former).shutdown = behindReply former id registry.shutdown := by
  have keys : (registry.behind former).table.keys = registry.table.keys :=
    registry.table.keys_mapValues _
  simp only [shutdown, shutdownInOrder, keys, deactivateAll_behind]
  rfl

theorem ofEntry_behind (entry : Reply Registry (Except SchedulingFailure Nat)) :
    (⟨.ofEntry (behindReply former (Except.map (former.length + ·)) entry).answer,
        entry.state.behind former, entry.events⟩ : Reply Registry (Yield Nat)) =
      behindReply former (Yield.map (former.length + ·))
        ⟨.ofEntry entry.answer, entry.state, entry.events⟩ := by
  simp only [behindReply]
  cases entry.answer <;> rfl

/-- What is done under a key comes out the same with former entries. -/
theorem onKey_behind (act : KeyAct) :
    (registry.behind former).onKey key act =
      behindReply former (Yield.map (former.length + ·)) (registry.onKey key act) := by
  cases act with
  | getOrCreate options refusal =>
      simp only [onKey, getOrCreate_behind]
      exact ofEntry_behind former _
  | getStream options refusal =>
      simp only [onKey, getStream_behind]
      exact ofEntry_behind former _
  | getSnapshot options refusal =>
      simp only [onKey, getSnapshot_behind]
      rfl
  | peekSnapshot options =>
      simp only [onKey, peekSnapshot_behind]
      rfl
  | build options settings refusal =>
      simp only [onKey, schedule_behind]
      exact ofEntry_behind former _
  | get =>
      simp only [onKey, get?_behind]
      cases registry.get? key <;> rfl
  | contains =>
      simp only [onKey, contains, get?_behind, Option.isSome_map]
      rfl
  | updateOptions options =>
      simp only [onKey, updateOptions_behind]
      rfl
  | deactivate =>
      simp only [onKey, deactivate_behind]
      rfl
  | lookup => rfl
  | unregister => rfl

/-- What is done with an entry comes out the same with former entries. -/
theorem onEntry_behind (number : Nat) (act : EntryAct) :
    (registry.behind former).onEntry (former.length + number) act =
      behindReply former id (registry.onEntry number act) := by
  cases present : registry.subscription? number with
  | none => simp [onEntry, present, behindReply]
  | some subscription =>
      have shifted : (registry.behind former).subscription? (former.length + number) =
          some subscription := by
        rw [subscription?_behind, present]
      have directory : (registry.behind former).directory = registry.directory := rfl
      rw [onEntry_eq present act, onEntry_eq shifted act, directory, inTable_behind,
        ← registry.store_eq_changing number present fun _ => _,
        ← (registry.behind former).store_eq_changing _ shifted fun _ => _]
      simp only [store_behind]
      rfl

/-- What a registry is used for comes out the same with former entries. -/
theorem use_behind (use : Use Nat) :
    (registry.behind former).use (use.map (former.length + ·)) =
      behindReply former (Yield.map (former.length + ·)) (registry.use use) := by
  cases use with
  | onKey key act => exact registry.onKey_behind former key act
  | onEntry number act =>
      simp only [Registry.use, Use.map, onEntry_behind]
      rfl
  | register provider => rfl
  | shutdown =>
      simp only [Registry.use, Use.map, shutdown_behind]
      rfl

/-- In a run former entries make no difference to what is answered and logged, and to what the
state is without them. -/
theorem yields_behind (uses : List (Use Nat)) :
    (registry.behind former).yields (uses.map (Use.map (former.length + ·))) =
        (registry.yields uses).map (fun reply =>
          (reply.1.map (former.length + ·), reply.2)) ∧
      (registry.behind former).afterUses (uses.map (Use.map (former.length + ·))) =
        (registry.afterUses uses).behind former := by
  induction uses generalizing registry with
  | nil => exact ⟨rfl, rfl⟩
  | cons use rest ih =>
      have used := registry.use_behind former use
      rcases ih (registry.use use).state with ⟨yields, state⟩
      constructor
      · simp only [List.map_cons, Registry.yields, used, behindReply, yields]
      · simp only [List.map_cons, afterUses, List.foldl_cons, used]
        exact state

/-- What is done with a former entry changes nothing but that one and the directory. -/
theorem onEntry_former {number : Nat} (past : number < former.length) (act : EntryAct) :
    ∃ subscription directory, ((registry.behind former).onEntry number act).state =
      { registry with directory := directory }.behind (former.set number subscription) := by
  have present : (registry.behind former).subscription? number = some former[number] := by
    simp only [subscription?, behind]
    rw [List.getElem?_append_left past, List.getElem?_eq_getElem past]
  have outcome := onEntry_eq present act
  dsimp only at outcome
  generalize act.outcome former[number] _ _ = reply at outcome
  refine ⟨reply.state.1, reply.state.2, ?_⟩
  rw [outcome, ← (registry.behind former).store_eq_changing number present fun _ => reply.state.1]
  simp only [store, behind, List.length_set]
  rw [List.set_append_left _ _ past]

end Acts

end ConsoleFeed.Registry
