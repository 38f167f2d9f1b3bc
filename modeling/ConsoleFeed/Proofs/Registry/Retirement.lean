import ConsoleFeed.Proofs.KeyMap
import ConsoleFeed.Proofs.Registry.Custody

/-!
# Entries that have been deactivated

An entry that is deactivated is cancelled and out of the table (`Retired`), and stays so whatever
the registry is used for. Nobody is answered with it any more. Its loop does not begin another tick,
and once it has ended it stays ended.
-/

namespace ConsoleFeed.Registry

/-- The entry is cancelled, and the table does not hold it. -/
structure Retired (registry : Registry) (number : Nat) : Prop where
  cancelled : ∃ key, registry.standing? number = some (key, true)
  outside : ∀ key, registry.table.find? key ≠ some number

section Retiring

variable {registry after : Registry} {number : Nat}

theorem inTable_eq_false_iff :
    registry.inTable number = false ↔ ∀ key, registry.table.find? key ≠ some number := by
  constructor
  · intro outside key held
    rw [registry.inTable_of_find? held] at outside
    cases outside
  · intro outside
    apply List.any_eq_false.mpr
    rintro ⟨key, held⟩ member same
    have found := registry.table.mem_entries_iff.mp member
    rw [beq_iff_eq] at same
    exact outside key (same ▸ found)

theorem Retired.turn (retired : registry.Retired number) {use : Use Nat}
    (turn : Turn registry use after) : after.Retired number := by
  rcases retired with ⟨⟨key, cancelled⟩, outside⟩
  refine ⟨⟨key, turn.cancelled_stays cancelled⟩, ?_⟩
  have older := lt_length_of_standing cancelled
  intro other held
  cases turn with
  | kept same => exact outside other (same.table ▸ held)
  | built builds => exact outside other (builds.table ▸ held)
  | cancelled cancels => exact outside other (cancels.table ▸ held)
  | dropped _ cancels => exact outside other (cancels.table ▸ held)
  | made makes =>
      rw [makes.table, KeyMap.find?_insert] at held
      split at held
      · cases held
        exact Nat.lt_irrefl _ older
      · exact outside other held
  | removed removes cancels =>
      rw [cancels.table, removes.table, KeyMap.find?_erase] at held
      split at held
      · cases held
      · exact outside other held

theorem Retired.use (retired : registry.Retired number) (use : Use Nat) :
    (registry.use use).state.Retired number := by
  rcases registry.turn_use use with rfl | turn
  · apply deactivateAll_keeps (fun state => state.Retired number) _ registry.table.keys retired
    intro before key retiredBefore
    exact retiredBefore.turn (before.turn_deactivate key)
  · exact retired.turn turn

/-- A deactivation retires the entry that the table holds under the key. -/
theorem retired_deactivate (owned : registry.Owned) {key : String}
    (held : registry.table.find? key = some number) :
    (registry.deactivate key).state.Retired number := by
  rcases owned key number held with ⟨mark, standing⟩
  rcases registry.deactivate_cases key with ⟨absent, _⟩ | ⟨gone, between, removes, cancels⟩
  · rw [absent] at held
    cases held
  · have same : gone = number := Option.some.inj (removes.held.symm.trans held)
    subst same
    refine ⟨⟨key, ?_⟩, ?_⟩
    · simpa using cancels.standing_of ((removes.standing gone).trans standing)
    · intro other found
      rw [cancels.table, removes.table, KeyMap.find?_erase] at found
      split at found
      · cases found
      · rename_i different
        -- under another key the table would hold an entry of that key
        rcases owned other gone found with ⟨_, ofOther⟩
        rw [standing] at ofOther
        cases ofOther
        exact different rfl

/-- The loop of a cancelled entry stays ended. -/
theorem EntryMove.ended {before later : Subscription} {used : Use Nat} {answer : Yield Nat}
    (move : EntryMove registry number before used answer later)
    (marked : before.isCancelled = true) (ended : before.phase = .ended) :
    later.phase = .ended := by
  have again : ∀ subscription : Subscription, ∀ reason, subscription.phase = .ended →
      (subscription.cancel reason).state.phase = .ended := by
    intro subscription reason endedBefore
    rcases subscription.cancel_cases reason with ⟨_, same⟩ | ⟨_, changed⟩
    · rw [same]
      exact endedBefore
    · rw [changed]
      simp [endedBefore, Subscription.LoopPhase.stopped]
  cases move with
  | kept => exact ended
  | opened => exact ended
  | replaced => exact ended
  | cancelled => exact again before .cancelled ended
  | acted act =>
      cases act with
      | giveBack =>
          simp only [EntryAct.outcome]
          split
          · exact ended
          · exact again _ .handleDropped ended
      | cancel => exact again before .cancelled ended
      | beginTick =>
          simp only [EntryAct.outcome, ended, reduceCtorEq, if_false]
      | endTick options =>
          simp only [EntryAct.outcome]
          split
          · rfl
          · simp [delivered, marked]
      | _ => exact ended

theorem Retired.isCancelled (retired : registry.Retired number) {subscription : Subscription}
    (present : registry.subscription? number = some subscription) :
    subscription.isCancelled = true := by
  rcases retired.cancelled with ⟨key, standing⟩
  rw [standing?, present, Option.map_some, Option.some.injEq, Prod.mk.injEq] at standing
  exact standing.2

/-- Nothing is published on a retired entry. -/
theorem Retired.published?_eq_none (retired : registry.Retired number) (used : Use Nat) :
    registry.published? number used = none := by
  rcases retired.cancelled with ⟨key, standing⟩
  have cancelled : registry.isCancelled number = true := by
    rw [isCancelled_eq_standing?, standing]
    rfl
  unfold published?
  split
  · rw [if_neg]
    simp [cancelled]
  · rfl

theorem LoopEnded.use (ended : registry.LoopEnded number) (retired : registry.Retired number)
    (used : Use Nat) : (registry.use used).state.LoopEnded number := by
  rcases ended with ⟨before, present, stopped⟩
  rcases entryMove_use present used with ⟨later, found, move⟩
  exact ⟨later, found, move.ended (retired.isCancelled present) stopped⟩

/-- When a tick has ended, the loop waits or has ended. -/
theorem subscription?_endTick {subscription : Subscription}
    (present : registry.subscription? number = some subscription) (options : OptionSet) :
    ∃ later, (registry.onEntry number (.endTick options)).state.subscription? number = some later ∧
      later.phase ≠ .ticking := by
  let outcome := (EntryAct.endTick options).outcome subscription (registry.inTable number)
    registry.directory
  refine ⟨outcome.state.1, ?_, ?_⟩
  · have changed := registry.subscription?_changing number (fun _ => outcome.state.1) number
    rw [if_pos rfl, present] at changed
    rw [onEntry_eq present]
    exact changed
  · simp only [outcome, EntryAct.outcome]
    split
    · simp
    · simp only [delivered]
      split <;> simp

/-- A retired entry's loop has ended, unless a tick is on its way. -/
theorem Held.loopEnded {custody : Custody} (held : registry.Held custody)
    (retired : registry.Retired number)
    (quiet : ∀ subscription, registry.subscription? number = some subscription →
      subscription.phase ≠ .ticking) : registry.LoopEnded number := by
  rcases retired.cancelled with ⟨key, standing⟩
  rcases Option.map_eq_some_iff.mp standing with ⟨subscription, present, _⟩
  refine ⟨subscription, present, ?_⟩
  have stopped := held.stopped number subscription present (retired.isCancelled present)
  have between := quiet subscription present
  cases phase : subscription.phase with
  | waiting => exact absurd phase stopped
  | ticking => exact absurd phase between
  | ended => rfl

end Retiring

section Runs

variable {registry : Registry} {number : Nat}

theorem Retired.afterUses (retired : registry.Retired number) (uses : List (Use Nat)) :
    (registry.afterUses uses).Retired number := by
  induction uses generalizing registry with
  | nil => exact retired
  | cons use rest ih => exact ih (retired.use use)

theorem LoopEnded.afterUses (ended : registry.LoopEnded number)
    (retired : registry.Retired number) (uses : List (Use Nat)) :
    (registry.afterUses uses).LoopEnded number := by
  induction uses generalizing registry with
  | nil => exact ended
  | cons use rest ih => exact ih (ended.use retired use) (retired.use use)

end Runs

/-- The table holds entries under their own keys, and every entry that is not cancelled. -/
def Tabled (registry : Registry) : Prop :=
  Accounted registry fun _ _ => False

section Tables

variable {before after : Registry}

theorem tabled_create (name : String) (settings : StreamerSettings) (directory : Directory) :
    (create name settings directory).state.Tabled where
  owned := owned_create name settings directory
  outside key number out := out.elim
  live key number standing := by cases standing

theorem Tabled.of_sameEntries (tabled : before.Tabled) (same : SameEntries before after) :
    after.Tabled :=
  Accounted.of_sameEntries tabled same fun _ _ => Iff.rfl

theorem Tabled.keyTurn (tabled : before.Tabled) {key : String} {act : KeyAct}
    (turn : KeyTurn before key act after) : after.Tabled := by
  cases turn with
  | kept same => exact tabled.of_sameEntries same
  | made makes => exact Accounted.of_makesEntry tabled makes fun _ _ => Iff.rfl
  | removed removes cancels =>
      rename_i number between
      have taken : Accounted between fun other found => some (key, number) = some (other, found) :=
        Accounted.of_removesEntry tabled removes (by simp)
      apply taken.of_cancelsEntry cancels
      · intro other found out
        exact out.elim
      · intro other found different out
        cases out
        exact different rfl

theorem Tabled.onKey (tabled : before.Tabled) (key : String) (act : KeyAct)
    (listed : ∀ options settings refusal, act ≠ .build options settings refusal) :
    (before.onKey key act).state.Tabled :=
  tabled.keyTurn (before.keyTurn_onKey key listed)

/-- An entry outside of the table is retired. -/
theorem Tabled.retired (tabled : before.Tabled) {number : Nat}
    (inUse : number < before.subscriptions.length) (outside : before.inTable number = false) :
    before.Retired number := by
  have unheld := inTable_eq_false_iff.mp outside
  rcases Option.isSome_iff_exists.mp ((before.standing?_isSome_iff number).mpr inUse) with
    ⟨⟨key, mark⟩, standing⟩
  cases mark with
  | true => exact ⟨⟨key, standing⟩, unheld⟩
  | false =>
      rcases tabled.live key number standing with held | out
      · exact absurd held (unheld key)
      · exact out.elim

end Tables

section Sweeping

variable (registry : Registry)

/-- A deactivation takes away what the table holds under the key, and says whether that was
something. -/
theorem deactivate_table (key : String) :
    (registry.deactivate key).state.table = registry.table.erase key ∧
      (registry.deactivate key).answer = registry.table.contains key := by
  rcases registry.deactivate_cases key with ⟨absent, same⟩ | ⟨number, between, removes, cancels⟩
  · rw [same, KeyMap.erase_of_absent _ absent, KeyMap.contains, absent]
    refine ⟨rfl, ?_⟩
    simp only [deactivate, remove, absent]
    rfl
  · refine ⟨cancels.table.trans removes.table, ?_⟩
    rw [KeyMap.contains, removes.held]
    simp only [deactivate, remove, removes.held]
    rfl

theorem find?_deactivateAll (keys : List String) (key : String) :
    (registry.deactivateAll keys).state.table.find? key =
      if key ∈ keys then none else registry.table.find? key := by
  induction keys generalizing registry with
  | nil => rfl
  | cons first rest ih =>
      have erased := (registry.deactivate_table first).1
      simp only [deactivateAll]
      rw [ih, erased, KeyMap.find?_erase]
      by_cases same : key = first
      · simp [same]
      · simp [same]

theorem answer_deactivateAll {keys : List String} (apart : keys.Nodup)
    (held : ∀ key ∈ keys, registry.table.contains key = true) :
    (registry.deactivateAll keys).answer = keys.length := by
  induction keys generalizing registry with
  | nil => rfl
  | cons first rest ih =>
      rcases registry.deactivate_table first with ⟨erased, answer⟩
      rcases List.nodup_cons.mp apart with ⟨once, others⟩
      have stillHeld : ∀ key ∈ rest,
          (registry.deactivate first).state.table.contains key = true := by
        intro key member
        have different : key ≠ first := by
          rintro rfl
          exact once member
        rw [erased, KeyMap.contains, KeyMap.find?_erase, if_neg different]
        exact held key (List.mem_cons_of_mem _ member)
      simp only [deactivateAll, answer, held first List.mem_cons_self, if_true]
      rw [ih _ others stillHeld, List.length_cons]
      omega

/-- A shutdown empties the table, and says how much was in it. -/
theorem shutdown_table : (∀ key, registry.shutdown.state.table.find? key = none) ∧
    registry.shutdown.answer = registry.table.size := by
  constructor
  · intro key
    simp only [shutdown, shutdownInOrder]
    rw [find?_deactivateAll]
    split
    · rfl
    · rename_i unlisted
      rw [← Option.not_isSome_iff_eq_none]
      intro held
      exact unlisted ((KeyMap.contains_iff _ key).mp held)
  · simp only [shutdown, shutdownInOrder]
    rw [answer_deactivateAll registry (KeyMap.nodup_keys _)
      fun key member => (KeyMap.contains_iff _ key).mpr member]
    exact List.length_map _

/-- After a shutdown every entry is retired. -/
theorem Tabled.retired_shutdown {registry : Registry} (tabled : registry.Tabled) {number : Nat}
    (inUse : number < registry.shutdown.state.subscriptions.length) :
    registry.shutdown.state.Retired number := by
  have later : registry.shutdown.state.Tabled := by
    apply deactivateAll_keeps Tabled _ registry.table.keys tabled
    intro before key tabledBefore
    exact tabledBefore.onKey key .deactivate (by simp)
  apply later.retired inUse
  apply inTable_eq_false_iff.mpr
  intro key held
  rw [registry.shutdown_table.1 key] at held
  cases held

end Sweeping

end ConsoleFeed.Registry
