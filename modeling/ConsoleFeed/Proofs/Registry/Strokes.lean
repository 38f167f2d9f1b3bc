import ConsoleFeed.Proofs.Registry.OneKey
import ConsoleFeed.Proofs.Registry.Interleaving

/-!
# What cancels an entry

Of all that happens to a registry, two things cancel an entry: it is cancelled outright, or the last
that held it lets go of it. Whatever happens besides is quiet: it logs no cancellation, every entry
keeps its mark, and an entry that is not cancelled stays held (`Quiet`). What cancels an entry does
that to no other one (`Strikes`). This file sorts what a registry does into these two, so that an
argument about cancellations has two cases and not one for each operation.
-/

namespace ConsoleFeed.Registry

/-- Nothing is cancelled. An entry that is made is held, and the table gets no other entry. -/
structure Quiet (before after : Registry) : Prop where
  kept : ∀ number entry, before.standing? number = some entry →
    after.standing? number = some entry
  made : ∀ number entry, before.standing? number = none → after.standing? number = some entry →
    entry.2 = false ∧ after.isHeld number = true
  held : ∀ number, before.isCancelled number = false → before.isHeld number = true →
    after.isHeld number = true
  tabled : ∀ key number, after.table.find? key = some number →
    before.table.find? key = some number ∨
      before.standing? number = none ∧ after.standing? number = some (key, false)

/-- An entry is cancelled, and nothing happens to another one. If it is cancelled outright, whoever
held it still does; otherwise nobody does. -/
structure Strikes (before after : Registry) (key : String) (number : Nat) (reason : CancelReason) :
    Prop where
  live : before.standing? number = some (key, false)
  marked : after.standing? number = some (key, true)
  others : ∀ other, other ≠ number → after.standing? other = before.standing? other
  held : ∀ other, other ≠ number → before.isCancelled other = false →
    before.isHeld other = true → after.isHeld other = true
  own : before.isHeld number = true → after.isHeld number = decide (reason = .cancelled)
  tabled : ∀ other found, after.table.find? other = some found →
    before.table.find? other = some found

section Holding

variable {registry : Registry} {number : Nat}

theorem isHeld_iff : registry.isHeld number = true ↔
    (∃ key, registry.table.find? key = some number) ∨
      ∃ subscription, registry.subscription? number = some subscription ∧
        0 < subscription.lent := by
  rw [isHeld, Bool.or_eq_true, inTable_iff, Option.any_eq_true]
  simp only [decide_eq_true_eq]

theorem isHeld_of_find? (key : String) (found : registry.table.find? key = some number) :
    registry.isHeld number = true :=
  isHeld_iff.mpr (Or.inl ⟨key, found⟩)

theorem isCancelled_of_standing {key : String} {mark : Bool}
    (standing : registry.standing? number = some (key, mark)) :
    registry.isCancelled number = mark := by
  rw [isCancelled_eq_standing?, standing]
  rfl

end Holding

namespace Quiet

variable {before between after : Registry}

theorem refl (registry : Registry) : Quiet registry registry where
  kept _ _ standing := standing
  made _ _ absent standing := by
    rw [absent] at standing
    cases standing
  held _ _ held := held
  tabled _ _ found := Or.inl found

theorem absent (quiet : Quiet before after) {number : Nat}
    (absent : after.standing? number = none) : before.standing? number = none := by
  cases standing : before.standing? number with
  | none => rfl
  | some entry =>
      rw [quiet.kept number entry standing] at absent
      cases absent

theorem uncancelled (quiet : Quiet before after) {number : Nat}
    (unmarked : before.isCancelled number = false) : after.isCancelled number = false := by
  rw [isCancelled_eq_standing?] at unmarked ⊢
  cases standing : before.standing? number with
  | some entry => rwa [quiet.kept number entry standing, ← standing]
  | none =>
      cases later : after.standing? number with
      | none => rfl
      | some entry => exact (quiet.made number entry standing later).1

theorem trans (first : Quiet before between) (second : Quiet between after) :
    Quiet before after where
  kept number entry standing := second.kept number entry (first.kept number entry standing)
  made number entry absent standing := by
    cases middle : between.standing? number with
    | none => exact second.made number entry middle standing
    | some made =>
        rcases first.made number made absent middle with ⟨unmarked, held⟩
        have same := second.kept number made middle
        rw [standing] at same
        cases same
        exact ⟨unmarked, second.held number (isCancelled_of_standing middle ▸ unmarked) held⟩
  held number unmarked held :=
    second.held number (first.uncancelled unmarked) (first.held number unmarked held)
  tabled key number found := by
    rcases second.tabled key number found with earlier | ⟨absent, made⟩
    · rcases first.tabled key number earlier with earliest | ⟨absent, made⟩
      · exact Or.inl earliest
      · exact Or.inr ⟨absent, second.kept number _ made⟩
    · exact Or.inr ⟨first.absent absent, made⟩

/-- An entry may be cancelled after something quiet, in which none was made. -/
theorem trans_strikes {key : String} {number : Nat} {reason : CancelReason}
    (quiet : Quiet before between)
    (same : ∀ other, between.standing? other = before.standing? other)
    (shrinks : ∀ other found, between.table.find? other = some found →
      before.table.find? other = some found)
    (strikes : Strikes between after key number reason) :
    Strikes before after key number reason where
  live := (same number).symm.trans strikes.live
  marked := strikes.marked
  others other different := (strikes.others other different).trans (same other)
  held other different unmarked held :=
    strikes.held other different (quiet.uncancelled unmarked) (quiet.held other unmarked held)
  own held := by
    have live := (same number).symm.trans strikes.live
    exact strikes.own (quiet.held number (isCancelled_of_standing live) held)
  tabled other found there := shrinks other found (strikes.tabled other found there)

end Quiet

section Operations

variable (registry : Registry) (number : Nat)

theorem isHeld_changing {subscription : Subscription}
    (present : registry.subscription? number = some subscription) (later : Subscription) :
    (registry.changing number fun _ => later).isHeld number =
      (registry.inTable number || decide (0 < later.lent)) := by
  have there : (registry.changing number fun _ => later).subscription? number = some later := by
    rw [subscription?_changing, if_pos rfl, present]
    rfl
  rw [isHeld, there]
  rfl

/-- An entry is put back with the same key and the same mark, and held if it is not cancelled. -/
theorem quiet_changing_to {subscription later : Subscription}
    (present : registry.subscription? number = some subscription)
    (sameKey : later.key = subscription.key)
    (sameMark : later.isCancelled = subscription.isCancelled)
    (own : subscription.isCancelled = false → registry.isHeld number = true →
      (registry.inTable number || decide (0 < later.lent)) = true) :
    Quiet registry (registry.changing number fun _ => later) := by
  have same : ∀ other, (registry.changing number fun _ => later).standing? other =
      registry.standing? other := by
    intro other
    simp only [standing?]
    rw [subscription?_changing]
    split
    · rename_i here
      rw [here, present]
      simp [sameKey, sameMark]
    · rfl
  refine ⟨fun other entry standing => (same other).trans standing, ?_, ?_,
    fun key other found => Or.inl found⟩
  · intro other entry absent standing
    cases absent.symm.trans ((same other).symm.trans standing)
  · intro other unmarked held
    by_cases here : other = number
    · subst here
      rw [registry.isHeld_changing other present]
      apply own _ held
      simpa [isCancelled, present] using unmarked
    · rcases isHeld_iff.mp held with ⟨key, found⟩ | ⟨another, there, lent⟩
      · exact isHeld_of_find? key found
      · refine isHeld_iff.mpr (Or.inr ⟨another, ?_, lent⟩)
        rw [subscription?_changing, if_neg here, there]

/-- A change that leaves an entry's key and mark alone, and takes no handle on it away. -/
theorem quiet_changing {change : Subscription → Subscription}
    (keepsKey : ∀ subscription, (change subscription).key = subscription.key)
    (keepsMark : ∀ subscription, (change subscription).isCancelled = subscription.isCancelled)
    (keepsHandles : ∀ subscription, subscription.lent ≤ (change subscription).lent) :
    Quiet registry (registry.changing number change) := by
  cases present : registry.subscription? number with
  | none =>
      rw [registry.changing_self number fun _ there => absurd (present.symm.trans there) nofun]
      exact .refl registry
  | some subscription =>
      have same : registry.changing number change =
          registry.changing number fun _ => change subscription := by
        apply registry.changing_congr number
        intro found there
        cases present.symm.trans there
        rfl
      rw [same]
      apply registry.quiet_changing_to number present (keepsKey _) (keepsMark _)
      intro _ held
      have more := keepsHandles subscription
      simp only [isHeld, present, Option.any_some, Bool.or_eq_true, decide_eq_true_eq] at held ⊢
      exact held.imp_right fun lent => Nat.lt_of_lt_of_le lent more

theorem quiet_onSubscription {Answer : Type} (absent : Answer)
    {operation : Subscription → Reply Subscription Answer}
    (keepsKey : ∀ subscription, (operation subscription).state.key = subscription.key)
    (keepsMark : ∀ subscription,
      (operation subscription).state.isCancelled = subscription.isCancelled)
    (keepsHandles : ∀ subscription, subscription.lent ≤ (operation subscription).state.lent) :
    Quiet registry (registry.onSubscription number absent operation).state := by
  rw [state_onSubscription]
  exact registry.quiet_changing number keepsKey keepsMark keepsHandles

theorem quiet_lend : Quiet registry (registry.lend number) :=
  registry.quiet_onSubscription number () (fun _ => rfl) (fun _ => rfl) fun _ => Nat.le_succ _

theorem quiet_replaceOptions (options : OptionSet) :
    Quiet registry (registry.onSubscription number () (·.replaceOptions options)).state :=
  registry.quiet_onSubscription number () (fun _ => rfl) (fun _ => rfl) fun _ => Nat.le_refl _

theorem quiet_onChannel {Answer : Type} (operation : Channel → Answer × Channel) :
    Quiet registry (((registry.onChannel number operation).map Prod.snd).getD registry) := by
  rw [state_onChannel]
  exact registry.quiet_changing number (fun _ => rfl) (fun _ => rfl) fun _ => Nat.le_refl _

/-- Nothing about the entries depends on the directory. -/
theorem quiet_directory (directory : Directory) :
    Quiet registry { registry with directory := directory } :=
  ⟨fun _ _ standing => standing, (Quiet.refl registry).made, fun _ _ held => held,
    fun _ _ found => Or.inl found⟩

theorem quiet_beginTick :
    Quiet registry (((registry.beginTick? number).map Prod.snd).getD registry) := by
  cases begun : registry.beginTick? number with
  | none => exact .refl registry
  | some taken =>
      rcases registry.beginTick?_eq_some number begun with ⟨_, _, _, _, same⟩
      simp only [Option.map_some, Option.getD_some, same]
      exact registry.quiet_changing number (fun _ => rfl) (fun _ => rfl) fun _ => Nat.le_refl _

theorem quiet_endTick (options : OptionSet) :
    Quiet registry (registry.endTick number options).state := by
  have asked := registry.quiet_directory
    (registry.directory.takeSnapshot (registry.keyOf number) options).state
  rw [endTick]
  dsimp only
  split
  · exact asked.trans (quiet_onSubscription _ number () (fun _ => rfl) (fun _ => rfl)
      fun _ => Nat.le_refl _)
  · rename_i payload _
    refine asked.trans (quiet_onSubscription _ number false ?_ ?_ ?_)
    · intro subscription
      have kept := (deliver_keeps subscription.feed payload).1
      split <;> exact kept
    · intro subscription
      have kept := (deliver_keeps subscription.feed payload).2
      split <;> exact kept
    · intro subscription
      split <;> exact Nat.le_refl _

/-- What the table holds for a key gives way to a new entry if it is cancelled. -/
theorem quiet_entered {key : String} (absent : registry.get? key = none) (options : OptionSet) :
    Quiet registry (registry.entered key options) := by
  have makes := registry.makesEntry_entered absent options
  have older : ∀ other entry, registry.standing? other = some entry →
      other ≠ registry.subscriptions.length := by
    intro other entry standing
    exact Nat.ne_of_lt (lt_length_of_standing standing)
  refine ⟨?_, ?_, ?_, ?_⟩
  · intro other entry standing
    rw [makes.standing, if_neg (older other entry standing), standing]
  · intro other entry none standing
    rw [makes.standing] at standing
    split at standing
    · rename_i new
      cases standing
      refine ⟨rfl, isHeld_of_find? key ?_⟩
      rw [makes.table, KeyMap.find?_insert, if_pos rfl, new]
    · rw [none] at standing
      cases standing
  · intro other unmarked held
    rcases isHeld_iff.mp held with ⟨under, found⟩ | ⟨subscription, present, lent⟩
    · have different : under ≠ key := by
        rintro rfl
        rw [(registry.get?_eq_none_iff under).mp absent other found] at unmarked
        cases unmarked
      apply isHeld_of_find? under
      rw [makes.table, KeyMap.find?_insert, if_neg different, found]
    · exact isHeld_iff.mpr (Or.inr ⟨subscription,
        registry.subscription?_entered_of_present key options present, lent⟩)
  · intro under other found
    rw [makes.table, KeyMap.find?_insert] at found
    split at found
    · rename_i same
      cases found
      refine Or.inr ⟨?_, by rw [makes.standing, if_pos rfl, same]⟩
      cases standing : registry.standing? registry.subscriptions.length with
      | none => rfl
      | some entry => exact absurd rfl (older _ entry standing)
    · exact Or.inl found

/-- An entry is made outside of the table, and whoever made it holds it. -/
theorem quiet_schedule (key : String) (options : OptionSet) (settings : StreamerSettings) :
    Quiet registry ((registry.schedule key options settings none).state.lend
      registry.subscriptions.length) := by
  have there : ∀ other, ((registry.schedule key options settings none).state.lend
      registry.subscriptions.length).subscription? other =
        if other = registry.subscriptions.length then
          some { Subscription.create key options settings with lent := 1 }
        else registry.subscription? other := by
    intro other
    have appended := subscription?_entered { registry with settings := settings } key options
    rw [lend_eq_changing, subscription?_changing]
    split
    · exact congrArg (Option.map _) ((appended _).trans (if_pos rfl))
    · rename_i older
      exact (appended other).trans (if_neg older)
  have table : ((registry.schedule key options settings none).state.lend
      registry.subscriptions.length).table = registry.table := by
    rw [lend_eq_changing]
    rfl
  generalize (registry.schedule key options settings none).state.lend
    registry.subscriptions.length = built at there table
  refine ⟨?_, ?_, ?_, fun under other found => Or.inl (table ▸ found)⟩
  · intro other entry standing
    have older := lt_length_of_standing standing
    rw [standing?, there, if_neg (by omega)]
    exact standing
  · intro other entry absent standing
    rw [standing?, there] at standing
    split at standing
    · rename_i new
      cases standing
      exact ⟨rfl, isHeld_iff.mpr (Or.inr ⟨_, (there other).trans (if_pos new), Nat.one_pos⟩)⟩
    · cases absent.symm.trans standing
  · intro other _ held
    rcases isHeld_iff.mp held with ⟨under, found⟩ | ⟨subscription, present, lent⟩
    · exact isHeld_of_find? under (table ▸ found)
    · have older := (List.getElem?_eq_some_iff.mp present).1
      refine isHeld_iff.mpr (Or.inr ⟨subscription, ?_, lent⟩)
      rw [there, if_neg (by omega), present]

/-- Whoever takes an entry out of the table holds it. -/
theorem quiet_without (owned : registry.Owned) {key : String}
    (found : registry.table.find? key = some number) :
    Quiet registry ((registry.without key).lend number) := by
  have lent := quiet_lend (registry.without key) number
  have table : ((registry.without key).lend number).table = registry.table.erase key := by
    rw [lend_eq_changing]
    rfl
  refine ⟨lent.kept, lent.made, ?_, ?_⟩
  · intro other unmarked held
    rcases isHeld_iff.mp held with ⟨under, there⟩ | own
    · by_cases same : under = key
      · -- the table holds one entry under the key, so it is the one that was taken out
        subst same
        cases found.symm.trans there
        rcases owned.present found with ⟨subscription, present, _⟩
        refine isHeld_iff.mpr (Or.inr ⟨{ subscription with lent := subscription.lent + 1 }, ?_,
          Nat.succ_pos _⟩)
        rw [lend_eq_changing, subscription?_changing, if_pos rfl]
        exact congrArg (Option.map _) present
      · apply isHeld_of_find? under
        rw [table, KeyMap.find?_erase, if_neg same, there]
    · exact lent.held other unmarked (isHeld_iff.mpr (Or.inr own))
  · intro under other there
    rw [table, KeyMap.find?_erase] at there
    split at there
    · cases there
    · exact Or.inl there

/-- An entry that was not cancelled is put back cancelled. -/
theorem strikes_changing {subscription later : Subscription} {reason : CancelReason}
    (present : registry.subscription? number = some subscription)
    (unmarked : subscription.isCancelled = false) (sameKey : later.key = subscription.key)
    (marked : later.isCancelled = true)
    (own : registry.isHeld number = true →
      (registry.inTable number || decide (0 < later.lent)) = decide (reason = .cancelled)) :
    Strikes registry (registry.changing number fun _ => later) subscription.key number reason := by
  refine ⟨?_, ?_, ?_, ?_, ?_, fun _ _ found => found⟩
  · rw [registry.standing?_eq_some present, unmarked]
  · rw [standing?, subscription?_changing, if_pos rfl, present, ← sameKey, ← marked]
    rfl
  · intro other different
    rw [standing?, subscription?_changing, if_neg different]
    rfl
  · intro other different _ held
    rcases isHeld_iff.mp held with ⟨under, found⟩ | ⟨another, there, lent⟩
    · exact isHeld_of_find? under found
    · refine isHeld_iff.mpr (Or.inr ⟨another, ?_, lent⟩)
      rw [subscription?_changing, if_neg different, there]
  · intro held
    rw [registry.isHeld_changing number present]
    exact own held

/-- Cancelling an entry outright leaves it held by whoever held it. Nothing comes of it if the entry
is cancelled already. -/
theorem cancel_cases :
    registry.cancel number = ⟨(), registry, []⟩ ∧
        (∀ key mark, registry.standing? number = some (key, mark) → mark = true) ∨
      ∃ key, Strikes registry (registry.cancel number).state key number .cancelled ∧
        (registry.cancel number).events = [.subscriptionCancelled key .cancelled] := by
  cases present : registry.subscription? number with
  | none =>
      left
      refine ⟨by simp only [cancel, onSubscription, present], ?_⟩
      intro key mark standing
      rw [standing?, present] at standing
      cases standing
  | some subscription =>
      rcases subscription.cancel_cases .cancelled with ⟨marked, _⟩ | ⟨unmarked, changed⟩
      · left
        refine ⟨?_, ?_⟩
        · apply registry.onSubscription_cancel_of_cancelled
          intro found there
          cases present.symm.trans there
          exact marked
        · intro key mark standing
          rw [registry.standing?_eq_some present] at standing
          cases standing
          exact marked
      · right
        refine ⟨subscription.key, ?_, ?_⟩
        · rw [cancel, onSubscription_of_present () _ present]
          apply registry.strikes_changing number present unmarked (subscription.key_cancel _)
            (subscription.isCancelled_cancel _)
          intro held
          rw [isHeld, present] at held
          simpa using held
        · rw [cancel, onSubscription_of_present () _ present, changed]

/-- Giving a handle back is quiet, unless nobody holds the entry afterwards and it is not cancelled.
-/
theorem giveBack_cases :
    Quiet registry (registry.giveBack number).state ∧ (registry.giveBack number).events = [] ∨
      ∃ key, Strikes registry (registry.giveBack number).state key number .handleDropped ∧
        (registry.giveBack number).events = [.subscriptionCancelled key .handleDropped] := by
  cases present : registry.subscription? number with
  | none =>
      left
      have idle : registry.giveBack number = ⟨(), registry, []⟩ := by
        simp [giveBack, onSubscription, present]
      rw [idle]
      exact ⟨.refl registry, rfl⟩
  | some subscription =>
      let returned := { subscription with lent := subscription.lent - 1 }
      rw [giveBack_of_present present]
      cases held : registry.inTable number || decide (0 < subscription.lent - 1) with
      | true =>
          left
          simp only [held, if_true]
          exact ⟨registry.quiet_changing_to number present rfl rfl fun _ _ => held, trivial⟩
      | false =>
          simp only [held, Bool.false_eq_true, if_false]
          rcases returned.cancel_cases .handleDropped with ⟨marked, same⟩ | ⟨unmarked, changed⟩
          · left
            rw [same]
            refine ⟨registry.quiet_changing_to number present rfl rfl ?_, rfl⟩
            intro unmarked
            cases marked.symm.trans unmarked
          · right
            refine ⟨subscription.key, ?_, by rw [changed]; rfl⟩
            apply registry.strikes_changing number present unmarked (returned.key_cancel _)
              (returned.isCancelled_cancel _)
            intro _
            rw [returned.lent_cancel]
            exact held

end Operations

end ConsoleFeed.Registry
