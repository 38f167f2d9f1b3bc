import ConsoleFeed.Proofs.Subscription.Cancelling
import ConsoleFeed.Registry.Snapshots

/-!
# The entries of a registry

This file says what the operations of a registry do to its entries: to the number of subscriptions,
to the key of each and its mark, and to the table. Everything else about a subscription, its options
and its channel, its loop and the handles lent on it, is left out of account here.

Seen like this, an operation does one of four things. It changes nothing, it makes an entry for a
key that has no live one, it takes an entry out of the table, or it marks an entry as cancelled.
Each is a relation between the registry before and after, and the operations are brought under these
relations one by one, so that an argument about entries has four cases and not one for each
operation.

One invariant is carried over all four: `Accounted`. The table holds an entry under that entry's own
key, which is what makes an erasure under one key harmless to the entries of the others, and a live
entry is in the table unless it was taken out to be cancelled.
-/

namespace ConsoleFeed.Registry

/-- The key of the subscription with a number, and whether it is cancelled. -/
def standing? (registry : Registry) (number : Nat) : Option (String × Bool) :=
  (registry.subscription? number).map fun subscription =>
    (subscription.key, subscription.isCancelled)

/-- The subscription with a number is one of the key, and is not cancelled. -/
def IsLive (registry : Registry) (key : String) (number : Nat) : Prop :=
  ∃ subscription, registry.subscription? number = some subscription ∧
    subscription.key = key ∧ subscription.isCancelled = false

/-- Nothing has happened to the entries. -/
structure SameEntries (before after : Registry) : Prop where
  table : after.table = before.table
  standing : ∀ number, after.standing? number = before.standing? number
  length : after.subscriptions.length = before.subscriptions.length

/-- An entry was made for a key that had no live one. -/
structure MakesEntry (key : String) (before after : Registry) : Prop where
  absent : before.get? key = none
  table : after.table = before.table.insert key before.subscriptions.length
  standing : ∀ number, after.standing? number =
    if number = before.subscriptions.length then some (key, false) else before.standing? number
  length : after.subscriptions.length = before.subscriptions.length + 1

/-- An entry was taken out of the table, and is otherwise as it was. -/
structure RemovesEntry (key : String) (number : Nat) (before after : Registry) : Prop where
  held : before.table.find? key = some number
  table : after.table = before.table.erase key
  standing : ∀ other, after.standing? other = before.standing? other
  length : after.subscriptions.length = before.subscriptions.length

/-- An entry was marked as cancelled, if it was not already, and stays where it is. -/
structure CancelsEntry (number : Nat) (before after : Registry) : Prop where
  table : after.table = before.table
  standing : ∀ other, after.standing? other =
    if other = number then (before.standing? number).map fun entry => (entry.1, true)
    else before.standing? other
  length : after.subscriptions.length = before.subscriptions.length

namespace SameEntries

variable {before between after : Registry}

@[refl]
theorem refl (registry : Registry) : SameEntries registry registry :=
  ⟨rfl, fun _ => rfl, rfl⟩

theorem trans (first : SameEntries before between) (second : SameEntries between after) :
    SameEntries before after where
  table := second.table.trans first.table
  standing number := (second.standing number).trans (first.standing number)
  length := second.length.trans first.length

end SameEntries

theorem MakesEntry.trans_same {key : String} {before between after : Registry}
    (made : MakesEntry key before between) (same : SameEntries between after) :
    MakesEntry key before after where
  absent := made.absent
  table := same.table.trans made.table
  standing number := (same.standing number).trans (made.standing number)
  length := same.length.trans made.length

theorem RemovesEntry.trans_same {key : String} {number : Nat} {before between after : Registry}
    (removed : RemovesEntry key number before between) (same : SameEntries between after) :
    RemovesEntry key number before after where
  held := removed.held
  table := same.table.trans removed.table
  standing other := (same.standing other).trans (removed.standing other)
  length := same.length.trans removed.length

theorem SameEntries.trans_cancels {number : Nat} {before between after : Registry}
    (same : SameEntries before between) (cancelled : CancelsEntry number between after) :
    CancelsEntry number before after where
  table := cancelled.table.trans same.table
  standing other := by
    rw [cancelled.standing other, same.standing number, same.standing other]
  length := cancelled.length.trans same.length

section Reading

variable (registry : Registry)

theorem standing?_eq_some {number : Nat} {subscription : Subscription}
    (present : registry.subscription? number = some subscription) :
    registry.standing? number = some (subscription.key, subscription.isCancelled) := by
  simp [standing?, present]

theorem isLive_iff (key : String) (number : Nat) :
    registry.IsLive key number ↔ registry.standing? number = some (key, false) := by
  simp only [IsLive, standing?, Option.map_eq_some_iff, Prod.mk.injEq]

theorem standing?_isSome_iff (number : Nat) :
    (registry.standing? number).isSome ↔ number < registry.subscriptions.length := by
  simp [standing?, subscription?]

theorem isCancelled_eq_standing? (number : Nat) :
    registry.isCancelled number = (registry.standing? number).any Prod.snd := by
  simp only [isCancelled, standing?]
  cases registry.subscription? number <;> rfl

/-- The live entry of a key is what the table holds for it, unless that is cancelled. -/
theorem get?_eq_some_iff (key : String) (number : Nat) :
    registry.get? key = some number ↔
      registry.table.find? key = some number ∧ registry.isCancelled number = false := by
  simp [get?, Option.filter_eq_some_iff]

theorem get?_eq_none_iff (key : String) :
    registry.get? key = none ↔
      ∀ number, registry.table.find? key = some number → registry.isCancelled number = true := by
  simp [get?, Option.filter_eq_none_iff]

theorem inTable_of_find? {key : String} {number : Nat}
    (found : registry.table.find? key = some number) :
    registry.inTable number = true := by
  simp only [inTable]
  rw [List.any_eq_true]
  exact ⟨(key, number), KeyMap.mem_of_lookup found, by simp⟩

end Reading

section Changing

variable (registry : Registry) (number : Nat)

/-- The registry with one of its subscriptions changed. -/
def changing (change : Subscription → Subscription) : Registry :=
  { registry with subscriptions := registry.subscriptions.modify number change }

theorem subscription?_changing (change : Subscription → Subscription) (other : Nat) :
    (registry.changing number change).subscription? other =
      if other = number then (registry.subscription? number).map change
      else registry.subscription? other := by
  simp only [subscription?, changing]
  rw [List.getElem?_modify]
  by_cases same : other = number
  · subst same
    simp
  · simp [same, Ne.symm same]

theorem changing_changing (first second : Subscription → Subscription) :
    (registry.changing number first).changing number second =
      registry.changing number fun subscription => second (first subscription) := by
  simp only [changing]
  rw [List.modify_modify_eq]
  rfl

/-- Only what a change does to the subscription that is there matters. -/
theorem changing_congr {first second : Subscription → Subscription}
    (agree : ∀ subscription, registry.subscription? number = some subscription →
      first subscription = second subscription) :
    registry.changing number first = registry.changing number second := by
  have same : registry.subscriptions.modify number first =
      registry.subscriptions.modify number second := by
    apply List.ext_getElem?
    intro other
    rw [List.getElem?_modify, List.getElem?_modify]
    by_cases equal : number = other
    · subst equal
      cases present : registry.subscriptions[number]? with
      | none => rfl
      | some subscription => simp [agree subscription present]
    · simp [equal]
  simp only [changing]
  rw [same]

theorem changing_self {change : Subscription → Subscription}
    (keeps : ∀ subscription, registry.subscription? number = some subscription →
      change subscription = subscription) :
    registry.changing number change = registry := by
  calc registry.changing number change
      = registry.changing number id := registry.changing_congr number keeps
    _ = registry := by simp [changing]

theorem store_eq_changing {subscription : Subscription}
    (present : registry.subscription? number = some subscription)
    (change : Subscription → Subscription) :
    registry.store number (change subscription) = registry.changing number change := by
  have inside : number < registry.subscriptions.length :=
    (List.getElem?_eq_some_iff.mp present).1
  have same : registry.subscriptions.set number (change subscription) =
      registry.subscriptions.modify number change := by
    apply List.ext_getElem?
    intro other
    rw [List.getElem?_modify, List.getElem?_set]
    by_cases equal : number = other
    · subst equal
      have found : registry.subscriptions[number]? = some subscription := present
      rw [found]
      simp [inside]
    · simp [equal]
  simp only [store, changing]
  rw [same]

/-- An operation on one subscription changes that one and leaves everything else alone. -/
theorem state_onSubscription {Answer : Type} (absent : Answer)
    (operation : Subscription → Reply Subscription Answer) :
    (registry.onSubscription number absent operation).state =
      registry.changing number fun subscription => (operation subscription).state := by
  simp only [onSubscription]
  cases present : registry.subscription? number with
  | none =>
      refine (registry.changing_self number ?_).symm
      intro subscription absurd
      rw [present] at absurd
      cases absurd
  | some subscription =>
      exact registry.store_eq_changing number present fun found => (operation found).state

/-- An operation on the channel of a subscription changes that channel and leaves everything else
alone. -/
theorem state_onChannel {Answer : Type} (operation : Channel → Answer × Channel) :
    ((registry.onChannel number operation).map Prod.snd).getD registry =
      registry.changing number fun subscription =>
        subscription.withChannel (operation subscription.feed.channel).2 := by
  simp only [onChannel]
  cases present : registry.subscription? number with
  | none =>
      refine (registry.changing_self number ?_).symm
      intro subscription absurd
      rw [present] at absurd
      cases absurd
  | some subscription =>
      exact registry.store_eq_changing number present fun found =>
        found.withChannel (operation found.feed.channel).2

/-- A tick begins in a loop that waits, with the options of that moment. -/
theorem beginTick?_eq_some {options : OptionSet} {after : Registry}
    (begun : registry.beginTick? number = some (options, after)) :
    ∃ subscription, registry.subscription? number = some subscription ∧
      subscription.phase = .waiting ∧ options = subscription.feed.options ∧
      after = registry.changing number fun found => { found with phase := .ticking } := by
  simp only [beginTick?] at begun
  cases present : registry.subscription? number with
  | none => simp [present] at begun
  | some subscription =>
      simp only [present, Option.bind_some] at begun
      split at begun
      · rename_i waits
        simp only [Option.some.injEq, Prod.mk.injEq] at begun
        rcases begun with ⟨rfl, rfl⟩
        exact ⟨subscription, rfl, waits, rfl,
          registry.store_eq_changing number present fun found => { found with phase := .ticking }⟩
      · cases begun

end Changing

section Operations

variable (registry : Registry) (number : Nat)

/-- A change that leaves a subscription's key and its mark alone changes no entry. -/
theorem sameEntries_changing {change : Subscription → Subscription}
    (keepsKey : ∀ subscription, (change subscription).key = subscription.key)
    (keepsMark : ∀ subscription, (change subscription).isCancelled = subscription.isCancelled) :
    SameEntries registry (registry.changing number change) where
  table := rfl
  standing other := by
    simp only [standing?]
    rw [subscription?_changing]
    by_cases same : other = number
    · subst same
      cases registry.subscription? other <;> simp [keepsKey, keepsMark]
    · simp [same]
  length := by simp [changing]

theorem sameEntries_onSubscription {Answer : Type} (absent : Answer)
    {operation : Subscription → Reply Subscription Answer}
    (keepsKey : ∀ subscription, (operation subscription).state.key = subscription.key)
    (keepsMark : ∀ subscription,
      (operation subscription).state.isCancelled = subscription.isCancelled) :
    SameEntries registry (registry.onSubscription number absent operation).state := by
  rw [state_onSubscription]
  exact registry.sameEntries_changing number keepsKey keepsMark

theorem sameEntries_onDirectory {Answer : Type} (operation : Directory → Reply Directory Answer) :
    SameEntries registry (registry.onDirectory operation).state :=
  ⟨rfl, fun _ => rfl, rfl⟩

theorem sameEntries_lend : SameEntries registry (registry.lend number) :=
  registry.sameEntries_onSubscription number () (fun _ => rfl) (fun _ => rfl)

theorem sameEntries_replaceOptions (options : OptionSet) :
    SameEntries registry
      (registry.onSubscription number () (·.replaceOptions options)).state :=
  registry.sameEntries_onSubscription number () (fun _ => rfl) (fun _ => rfl)

theorem sameEntries_onChannel {Answer : Type} (operation : Channel → Answer × Channel) :
    SameEntries registry (((registry.onChannel number operation).map Prod.snd).getD registry) := by
  rw [state_onChannel]
  exact registry.sameEntries_changing number (fun _ => rfl) (fun _ => rfl)

theorem sameEntries_beginTick {options : OptionSet} {after : Registry}
    (begun : registry.beginTick? number = some (options, after)) :
    SameEntries registry after := by
  rcases registry.beginTick?_eq_some number begun with ⟨_, _, _, _, rfl⟩
  exact registry.sameEntries_changing number (fun _ => rfl) (fun _ => rfl)

theorem deliver_keeps (feed : Feed) (payload : String) :
    (feed.deliver payload).state.key = feed.key ∧
      (feed.deliver payload).state.cancelled = feed.cancelled := by
  simp only [Feed.deliver]
  split <;> exact ⟨rfl, rfl⟩

theorem sameEntries_endTick (options : OptionSet) :
    SameEntries registry (registry.endTick number options).state := by
  have asked := registry.sameEntries_onDirectory
    (·.takeSnapshot (registry.keyOf number) options)
  rw [endTick]
  dsimp only
  split
  · exact asked.trans (sameEntries_onSubscription _ number () (fun _ => rfl) (fun _ => rfl))
  · rename_i payload _
    refine asked.trans (sameEntries_onSubscription _ number false ?_ ?_)
    · intro subscription
      have kept := (deliver_keeps subscription.feed payload).1
      split <;> exact kept
    · intro subscription
      have kept := (deliver_keeps subscription.feed payload).2
      split <;> exact kept

theorem cancelsEntry_onSubscription (reason : CancelReason) :
    CancelsEntry number registry
      (registry.onSubscription number () (·.cancel reason)).state := by
  rw [state_onSubscription]
  refine ⟨rfl, ?_, by simp [changing]⟩
  intro other
  simp only [standing?]
  rw [subscription?_changing]
  by_cases same : other = number
  · subst same
    cases registry.subscription? other with
    | none => simp
    | some subscription => simp
  · simp [same]

theorem cancelsEntry_cancel : CancelsEntry number registry (registry.cancel number).state :=
  registry.cancelsEntry_onSubscription number .cancelled

/-- Giving a handle back changes no entry, or cancels the one that it is a handle on if the table
does not hold it. -/
theorem giveBack_entries :
    SameEntries registry (registry.giveBack number).state ∨
      CancelsEntry number registry (registry.giveBack number).state ∧
        registry.inTable number = false := by
  have returned : SameEntries registry (registry.onSubscription number () fun subscription =>
      ⟨(), { subscription with lent := subscription.lent - 1 }, []⟩).state :=
    registry.sameEntries_onSubscription number () (fun _ => rfl) (fun _ => rfl)
  unfold giveBack
  dsimp only
  split
  · exact Or.inl returned
  · rename_i unheld
    refine Or.inr ⟨returned.trans_cancels (cancelsEntry_onSubscription _ number _), ?_⟩
    simp only [isHeld, Bool.or_eq_true, not_or, Bool.not_eq_true] at unheld
    rw [← unheld.1]
    simp only [inTable, returned.table]

/-- The registry without the entry for a key. -/
def without (key : String) : Registry :=
  { registry with table := registry.table.erase key }

theorem remove_entries (key : String) :
    (registry.remove key = (none, registry) ∧ registry.table.find? key = none) ∨
      ∃ number, registry.remove key = (some number, registry.without key) ∧
        RemovesEntry key number registry (registry.without key) := by
  simp only [remove]
  cases held : registry.table.find? key with
  | none => exact Or.inl ⟨rfl, rfl⟩
  | some number => exact Or.inr ⟨number, rfl, held, rfl, fun _ => rfl, rfl⟩

/-- The registry with a new entry for a key. -/
def entered (key : String) (options : OptionSet) : Registry :=
  { registry with
    subscriptions := registry.subscriptions ++
      [Subscription.create key options registry.settings]
    table := registry.table.insert key registry.subscriptions.length }

theorem subscription?_entered (key : String) (options : OptionSet) (number : Nat) :
    (registry.entered key options).subscription? number =
      if number = registry.subscriptions.length then
        some (Subscription.create key options registry.settings)
      else registry.subscription? number := by
  simp only [subscription?, entered]
  rcases Nat.lt_trichotomy number registry.subscriptions.length with inside | rfl | outside
  · rw [List.getElem?_append_left inside, if_neg (by omega)]
  · simp
  · rw [List.getElem?_eq_none (by simp; omega), List.getElem?_eq_none (by omega),
      if_neg (by omega)]

theorem subscription?_entered_self (key : String) (options : OptionSet) :
    (registry.entered key options).subscription? registry.subscriptions.length =
      some (Subscription.create key options registry.settings) := by
  rw [subscription?_entered, if_pos rfl]

theorem subscription?_entered_of_present (key : String) (options : OptionSet) {number : Nat}
    {subscription : Subscription} (present : registry.subscription? number = some subscription) :
    (registry.entered key options).subscription? number = some subscription := by
  have inside := (List.getElem?_eq_some_iff.mp present).1
  rw [subscription?_entered, if_neg (by omega), present]

theorem makesEntry_entered {key : String} (absent : registry.get? key = none)
    (options : OptionSet) : MakesEntry key registry (registry.entered key options) := by
  refine ⟨absent, rfl, ?_, by simp [entered]⟩
  intro number
  simp only [standing?, subscription?_entered]
  split <;> rfl

/-- Asking for a key's entry finds the live one, is refused what a new loop needs, or makes a new
one. Only the last changes anything. -/
theorem getOrCreate_cases (key : String) (options : OptionSet) (refusal : Option StartRefusal) :
    (∃ found, registry.get? key = some found ∧
        (registry.getOrCreate key options refusal).answer = .ok found ∧
        (registry.getOrCreate key options refusal).state = registry) ∨
      (∃ reason, registry.get? key = none ∧ refusal = some reason ∧
        (registry.getOrCreate key options refusal).answer = .error ⟨key, reason.fault⟩ ∧
        (registry.getOrCreate key options refusal).state = registry) ∨
      (registry.get? key = none ∧ refusal = none ∧
        (registry.getOrCreate key options refusal).answer = .ok registry.subscriptions.length ∧
        (registry.getOrCreate key options refusal).state = registry.entered key options) := by
  simp only [getOrCreate, findOrMake]
  cases absent : registry.get? key with
  | some found => exact Or.inl ⟨found, rfl, rfl, rfl⟩
  | none =>
      cases refusal with
      | some reason => exact Or.inr (Or.inl ⟨reason, rfl, rfl, rfl, rfl⟩)
      | none => exact Or.inr (Or.inr ⟨rfl, rfl, rfl, rfl⟩)

end Operations

/-- The entries of a registry from whose table some have been taken out, to be cancelled. The table
holds entries under their own keys, an entry taken out is not in it, and every live entry is either
in it or taken out. -/
structure Accounted (registry : Registry) (taken : String → Nat → Prop) : Prop where
  owned : ∀ key number, registry.table.find? key = some number →
    ∃ mark, registry.standing? number = some (key, mark)
  outside : ∀ key number, taken key number → registry.table.find? key ≠ some number ∧
    ∃ mark, registry.standing? number = some (key, mark)
  live : ∀ key number, registry.standing? number = some (key, false) →
    registry.table.find? key = some number ∨ taken key number

namespace Accounted

variable {before after : Registry} {taken later : String → Nat → Prop}

theorem of_sameEntries (account : Accounted before taken) (same : SameEntries before after)
    (agree : ∀ key number, later key number ↔ taken key number) : Accounted after later where
  owned key number held := by
    simp only [same.table, same.standing] at held ⊢
    exact account.owned key number held
  outside key number out := by
    simp only [same.table, same.standing]
    exact account.outside key number ((agree key number).mp out)
  live key number standing := by
    simp only [same.table, same.standing] at standing ⊢
    exact (account.live key number standing).imp_right (agree key number).mpr

/-- Making an entry where there is no live one keeps the account: the older entry that it replaces
in the table, if there is one, is cancelled. -/
theorem of_makesEntry {key : String} (account : Accounted before taken)
    (makes : MakesEntry key before after)
    (agree : ∀ key number, later key number ↔ taken key number) : Accounted after later := by
  have old : ∀ {other number mark}, before.standing? number = some (other, mark) →
      number ≠ before.subscriptions.length := by
    intro other number mark standing
    have inside := (before.standing?_isSome_iff number).mp (by rw [standing]; rfl)
    omega
  refine ⟨?_, ?_, ?_⟩
  · intro other number held
    simp only [makes.table, KeyMap.find?_insert, makes.standing] at held ⊢
    by_cases same : other = key
    · subst same
      simp only [if_true, Option.some.injEq] at held
      subst held
      exact ⟨false, by simp⟩
    · simp only [same, if_false] at held
      rcases account.owned other number held with ⟨mark, standing⟩
      exact ⟨mark, by simp [old standing, standing]⟩
  · intro other number out
    rcases account.outside other number ((agree other number).mp out) with
      ⟨unheld, mark, standing⟩
    simp only [makes.table, KeyMap.find?_insert, makes.standing, old standing, if_false]
    refine ⟨?_, mark, standing⟩
    split
    · simp [Ne.symm (old standing)]
    · exact unheld
  · intro other number standing
    simp only [makes.table, KeyMap.find?_insert, makes.standing] at standing ⊢
    by_cases new : number = before.subscriptions.length
    · subst new
      simp only [if_true, Option.some.injEq, Prod.mk.injEq, and_true] at standing
      subst standing
      exact Or.inl (by simp)
    · simp only [new, if_false] at standing
      rcases account.live other number standing with held | out
      · by_cases same : other = key
        · subst same
          have cancelled := (before.get?_eq_none_iff other).mp makes.absent number held
          rw [before.isCancelled_eq_standing?, standing] at cancelled
          cases cancelled
        · exact Or.inl (by simpa [same] using held)
      · exact Or.inr ((agree other number).mpr out)

/-- Taking an entry out of the table keeps the account if it counts as taken out then. -/
theorem of_removesEntry {key : String} {number : Nat} (account : Accounted before taken)
    (removes : RemovesEntry key number before after)
    (agree : ∀ other found, later other found ↔
      taken other found ∨ some (key, number) = some (other, found)) : Accounted after later := by
  refine ⟨?_, ?_, ?_⟩
  · intro other found held
    simp only [removes.table, KeyMap.find?_erase, removes.standing] at held ⊢
    by_cases same : other = key
    · simp [same] at held
    · simp only [same, if_false] at held
      exact account.owned other found held
  · intro other found out
    simp only [removes.table, KeyMap.find?_erase, removes.standing]
    rcases (agree other found).mp out with old | new
    · rcases account.outside other found old with ⟨unheld, standing⟩
      refine ⟨?_, standing⟩
      split
      · simp
      · exact unheld
    · cases new
      exact ⟨by simp, account.owned key number removes.held⟩
  · intro other found standing
    simp only [removes.table, KeyMap.find?_erase, removes.standing] at standing ⊢
    rcases account.live other found standing with held | out
    · by_cases same : other = key
      · subst same
        have equal : number = found := Option.some.inj (removes.held.symm.trans held)
        exact Or.inr ((agree other found).mpr (Or.inr (by rw [equal])))
      · exact Or.inl (by simpa [same] using held)
    · exact Or.inr ((agree other found).mpr (Or.inl out))

/-- Cancelling an entry keeps the account, whether or not the entry still counts as taken out. -/
theorem of_cancelsEntry {number : Nat} (account : Accounted before taken)
    (cancels : CancelsEntry number before after)
    (fewer : ∀ key found, later key found → taken key found)
    (others : ∀ key found, found ≠ number → taken key found → later key found) :
    Accounted after later := by
  have marked : ∀ {key found}, (∃ mark, before.standing? found = some (key, mark)) →
      ∃ mark, after.standing? found = some (key, mark) := by
    rintro key found ⟨mark, standing⟩
    rw [cancels.standing]
    by_cases same : found = number
    · subst same
      exact ⟨true, by simp [standing]⟩
    · exact ⟨mark, by simp [same, standing]⟩
  refine ⟨?_, ?_, ?_⟩
  · intro key found held
    rw [cancels.table] at held
    exact marked (account.owned key found held)
  · intro key found out
    rcases account.outside key found (fewer key found out) with ⟨unheld, standing⟩
    rw [cancels.table]
    exact ⟨unheld, marked standing⟩
  · intro key found standing
    simp only [cancels.table, cancels.standing] at standing ⊢
    by_cases same : found = number
    · subst same
      cases before.standing? found <;> simp at standing
    · simp only [same, if_false] at standing
      exact (account.live key found standing).imp_right (others key found same)

/-- If no entry of a key is taken out, its live entries are the one that the table gives. -/
theorem isLive_iff (account : Accounted before taken) {key : String}
    (untaken : ∀ number, ¬ taken key number) (number : Nat) :
    before.IsLive key number ↔ before.get? key = some number := by
  rw [Registry.isLive_iff, get?_eq_some_iff, isCancelled_eq_standing?]
  constructor
  · intro standing
    rcases account.live key number standing with held | out
    · exact ⟨held, by simp [standing]⟩
    · exact absurd out (untaken number)
  · rintro ⟨held, uncancelled⟩
    rcases account.owned key number held with ⟨mark, standing⟩
    have unmarked : mark = false := by simpa [standing] using uncancelled
    rw [standing, unmarked]

theorem inUse (account : Accounted before taken) (key : String) (number : Nat)
    (held : before.table.find? key = some number) : number < before.subscriptions.length := by
  rcases account.owned key number held with ⟨mark, standing⟩
  exact (before.standing?_isSome_iff number).mp (by rw [standing]; rfl)

end Accounted

end ConsoleFeed.Registry
