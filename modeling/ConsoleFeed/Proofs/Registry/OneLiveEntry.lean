import ConsoleFeed.Proofs.Registry.Interleaving

/-!
# At most one live entry for a key

Whatever calls go on at the same time, a subscription that is not cancelled is the one that the
table holds for its key. There is one exception: a deactivation takes the entry out of the table
first and cancels it afterwards, and in between the entry is live and not in the table. So an entry
for the same key may be made in that time, and there are two. Once no deactivation stands between
its two steps there is one at most, and it is the one in the table.

The invariant is `Registry.Accounted`, with the entries that the pending deactivations have taken
out. A step of a call does one of four things to the entries (`Progress`), and the invariant is
carried over each of them.
-/

namespace ConsoleFeed.SharedRegistry

open Registry

/-- The entry that a deactivation has taken out of the table and has yet to cancel. -/
def Deactivation.pending? : Deactivation → Option (String × Nat)
  | .cancelling key number => some (key, number)
  | _ => none

/-- The entry that a call has taken out of the table and has yet to cancel. A shutdown deactivates
one entry after the other. -/
def Call.pending? : Call → Option (String × Nat)
  | .deactivating deactivation => deactivation.pending?
  | .sweeping deactivation _ _ => deactivation.pending?
  | _ => none

/-- Some call stands between taking the entry out of the table and cancelling it. -/
def IsCancelling (calls : List Call) (key : String) (number : Nat) : Prop :=
  ∃ call ∈ calls, call.pending? = some (key, number)

/-- What a step of a call does to the entries, and to the entry that the call has yet to cancel. -/
inductive Progress (before : Registry) (pending : Option (String × Nat)) (after : Registry)
    (later : Option (String × Nat)) : Prop where
  | kept (idle : pending = none) (free : later = none) (same : SameEntries before after)
  | made (key : String) (idle : pending = none) (free : later = none)
      (makes : MakesEntry key before after)
  | removed (key : String) (number : Nat) (idle : pending = none)
      (taken : later = some (key, number)) (removes : RemovesEntry key number before after)
  | cancelled (number : Nat) (own : ∀ entry, pending = some entry → entry.2 = number)
      (free : later = none) (cancels : CancelsEntry number before after)

theorem progress_giveBack (registry : Registry) (number : Nat) :
    Progress registry none (registry.giveBack number).state none := by
  rcases registry.giveBack_entries number with same | ⟨cancels, _⟩
  · exact .kept rfl rfl same
  · exact .cancelled number (by simp) rfl cancels

theorem Deactivation.progress_step (registry : Registry) (deactivation : Deactivation) :
    Progress registry deactivation.pending? (deactivation.step registry).state
      (deactivation.step registry).answer.pending? := by
  cases deactivation with
  | removing key =>
      rcases registry.remove_entries key with ⟨absent, _⟩ | ⟨number, found, removes⟩
      · simp only [Deactivation.step, absent]
        exact .kept rfl rfl (.refl registry)
      · simp only [Deactivation.step, found]
        exact .removed key number rfl rfl
          (removes.trans_same (sameEntries_lend _ number))
  | cancelling key number =>
      refine .cancelled number ?_ rfl (registry.cancelsEntry_cancel number)
      intro entry own
      cases own
      rfl
  | reporting key number => exact progress_giveBack registry number
  | finished found => exact .kept rfl rfl (.refl registry)

theorem Call.sweepOn_entries (registry : Registry) (count : Nat) (keys : List String) :
    (Call.sweepOn registry count keys).state = registry ∧
      (Call.sweepOn registry count keys).answer.pending? = none := by
  cases keys <;> exact ⟨rfl, rfl⟩

theorem Call.progress_step (registry : Registry) (refusal : Option StartRefusal) (call : Call) :
    Progress registry call.pending? (call.step registry refusal).state
      (call.step registry refusal).answer.pending? := by
  cases call with
  | looking key options wish =>
      cases live : registry.get? key with
      | some number =>
          simp only [Call.step, live]
          exact .kept rfl rfl (registry.sameEntries_lend number)
      | none =>
          simp only [Call.step, live]
          exact .kept rfl rfl (.refl registry)
  | entering key options wish =>
      rcases registry.getOrCreate_cases key options refusal with
        ⟨found, _, answer, same⟩ | ⟨reason, _, _, answer, same⟩ | ⟨absent, _, answer, made⟩
      · simp only [Call.step, answer, same]
        exact .kept rfl rfl (registry.sameEntries_lend found)
      · simp only [Call.step, answer, same]
        exact .kept rfl rfl (.refl registry)
      · simp only [Call.step, answer, made]
        exact .made key rfl rfl
          ((registry.makesEntry_entered absent options).trans_same (sameEntries_lend _ _))
  | holding number wish =>
      cases wish with
      | handle => exact .kept rfl rfl (.refl registry)
      | snapshot => exact .kept rfl rfl (.refl registry)
      | stream => exact .kept rfl rfl (registry.sameEntries_onChannel number _)
  | asking number options =>
      exact .kept rfl rfl
        (registry.sameEntries_onDirectory (·.takeSnapshot (registry.keyOf number) options))
  | leaving number answer => exact progress_giveBack registry number
  | updating key options =>
      cases live : registry.get? key <;> simp only [Call.step, live] <;>
        exact .kept rfl rfl (.refl registry)
  | replacing number options =>
      exact .kept rfl rfl (registry.sameEntries_replaceOptions number options)
  | deactivating deactivation =>
      have progress := deactivation.progress_step registry
      unfold Call.step
      dsimp only
      split
      · rename_i found finished
        rw [finished] at progress
        exact progress
      · exact progress
  | listing keys =>
      rcases Call.sweepOn_entries registry 0 keys with ⟨same, free⟩
      refine .kept rfl free ?_
      simp only [Call.step, same]
      exact .refl registry
  | sweeping deactivation keys count =>
      have progress := deactivation.progress_step registry
      rw [Call.step]
      dsimp only
      split
      · rename_i found finished
        rcases Call.sweepOn_entries (deactivation.step registry).state
          (count + if found then 1 else 0) keys with ⟨same, free⟩
        rw [finished] at progress
        simp only [same, free]
        exact progress
      · exact progress
  | done answer => exact .kept rfl rfl (.refl registry)

section Calls

variable {calls : List Call} {caller : Nat} {call later : Call} {key : String} {number : Nat}

/-- What another call has yet to cancel stays so while one call goes a step on. -/
theorem isCancelling_set_of_ne (present : calls[caller]? = some call)
    (other : call.pending? ≠ some (key, number)) (cancelling : IsCancelling calls key number) :
    IsCancelling (calls.set caller later) key number := by
  rcases cancelling with ⟨found, found_mem, pending⟩
  rcases List.mem_iff_getElem?.mp found_mem with ⟨index, found_at⟩
  have different : caller ≠ index := by
    intro same
    subst same
    rw [present] at found_at
    cases found_at
    exact other pending
  refine ⟨found, List.mem_iff_getElem?.mpr ⟨index, ?_⟩, pending⟩
  rw [List.getElem?_set_ne different]
  exact found_at

theorem isCancelling_of_set (cancelling : IsCancelling (calls.set caller later) key number) :
    IsCancelling calls key number ∨ later.pending? = some (key, number) := by
  rcases cancelling with ⟨found, found_mem, pending⟩
  rcases List.mem_or_eq_of_mem_set found_mem with old | new
  · exact Or.inl ⟨found, old, pending⟩
  · exact Or.inr (new ▸ pending)

/-- What is yet to be cancelled after a step of a call that had nothing pending. -/
theorem isCancelling_set_iff (present : calls[caller]? = some call)
    (idle : call.pending? = none) :
    IsCancelling (calls.set caller later) key number ↔
      IsCancelling calls key number ∨ later.pending? = some (key, number) := by
  refine ⟨isCancelling_of_set, ?_⟩
  rintro (old | new)
  · exact isCancelling_set_of_ne present (by simp [idle]) old
  · have inside : caller < calls.length := (List.getElem?_eq_some_iff.mp present).1
    exact ⟨later, List.mem_iff_getElem?.mpr ⟨caller, by simp [inside]⟩, new⟩

theorem isCancelling_append_idle (idle : call.pending? = none) :
    IsCancelling (calls ++ [call]) key number ↔ IsCancelling calls key number := by
  simp [IsCancelling, or_and_right, exists_or, idle]

end Calls

/-- The account of a shared registry, in which the pending deactivations have taken entries out. -/
def IsAccounted (shared : SharedRegistry) : Prop :=
  Accounted shared.registry (IsCancelling shared.calls)

theorem isAccounted_start (name : String) (settings : StreamerSettings) (directory : Directory) :
    (start name settings directory).IsAccounted where
  owned key number held := by
    simp [start, Registry.create, KeyMap.find?, KeyMap.empty, KeyMap.lookup] at held
  outside key number out := by simp [start, IsCancelling] at out
  live key number standing := by
    simp [start, Registry.create, standing?, subscription?] at standing

variable {shared : SharedRegistry}

theorem IsAccounted.advance {caller : Nat} {call later : Call} {state : Registry}
    (account : shared.IsAccounted) (present : shared.calls[caller]? = some call)
    (progress : Progress shared.registry call.pending? state later.pending?) :
    IsAccounted ⟨state, shared.calls.set caller later⟩ := by
  cases progress with
  | kept idle free same =>
      apply Accounted.of_sameEntries account same
      intro key number
      simp [isCancelling_set_iff present idle, free]
  | made key idle free makes =>
      apply Accounted.of_makesEntry account makes
      intro key number
      simp [isCancelling_set_iff present idle, free]
  | removed key number idle taken removes =>
      apply Accounted.of_removesEntry account removes
      intro other found
      simp [isCancelling_set_iff present idle, taken]
  | cancelled number own free cancels =>
      apply Accounted.of_cancelsEntry account cancels
      · intro key found cancelling
        simpa [free] using isCancelling_of_set cancelling
      · intro key found different cancelling
        apply isCancelling_set_of_ne present _ cancelling
        intro pending
        exact different (own (key, found) pending)

theorem IsAccounted.of_sameEntries {after : Registry} (account : shared.IsAccounted)
    (same : SameEntries shared.registry after) : IsAccounted ⟨after, shared.calls⟩ :=
  Accounted.of_sameEntries account same fun _ _ => Iff.rfl

theorem IsAccounted.of_cancelsEntry {after : Registry} {number : Nat}
    (account : shared.IsAccounted) (cancels : CancelsEntry number shared.registry after) :
    IsAccounted ⟨after, shared.calls⟩ :=
  Accounted.of_cancelsEntry account cancels (fun _ _ out => out) (fun _ _ _ out => out)

theorem IsAccounted.perform (account : shared.IsAccounted) (move : Move) :
    (shared.perform move).IsAccounted := by
  cases move with
  | invoke request =>
      apply Accounted.of_sameEntries account (.refl shared.registry)
      intro key number
      apply isCancelling_append_idle
      cases request <;> rfl
  | advance caller refusal =>
      cases present : shared.calls[caller]? with
      | none => simpa only [SharedRegistry.perform, present] using account
      | some call =>
          simp only [SharedRegistry.perform, present]
          exact account.advance present (call.progress_step shared.registry refusal)
  | list caller key =>
      simp only [SharedRegistry.perform]
      split
      · rename_i keys present
        split
        · exact account.advance present (.kept rfl rfl (.refl shared.registry))
        · exact account
      · exact account
  | cancel number => exact account.of_cancelsEntry (shared.registry.cancelsEntry_cancel number)
  | giveBack number =>
      rcases shared.registry.giveBack_entries number with same | ⟨cancels, _⟩
      · exact account.of_sameEntries same
      · exact account.of_cancelsEntry cancels
  | replaceOptions number options =>
      exact account.of_sameEntries (shared.registry.sameEntries_replaceOptions number options)
  | beginTick number =>
      cases begun : shared.registry.beginTick? number with
      | none =>
          simp only [SharedRegistry.perform, begun]
          exact account
      | some taken =>
          simp only [SharedRegistry.perform, begun]
          exact account.of_sameEntries (shared.registry.sameEntries_beginTick number begun)
  | endTick number options =>
      exact account.of_sameEntries (shared.registry.sameEntries_endTick number options)
  | changeChannel number change =>
      exact account.of_sameEntries
        (shared.registry.sameEntries_changing number (fun _ => rfl) (fun _ => rfl))
  | changeProviders directory => exact account.of_sameEntries ⟨rfl, fun _ => rfl, rfl⟩

theorem IsAccounted.run (account : shared.IsAccounted) (moves : List Move) :
    (shared.run moves).IsAccounted := by
  induction moves generalizing shared with
  | nil => exact account
  | cons move rest ih => exact ih (account.perform move)

/-- After any interleaving of any calls, a live subscription either is what the table holds for its
key, or was taken out by a deactivation that has yet to cancel it, and never both. For a key of
which no deactivation has an entry yet to cancel, there is at most one live subscription, and it is
the live entry of the table. -/
theorem live_entry_in_table_or_being_cancelled (name : String) (settings : StreamerSettings)
    (directory : Directory) (moves : List Move) :
    let reached := (start name settings directory).run moves
    (∀ key number, reached.registry.IsLive key number →
      (reached.registry.table.find? key = some number ∨ IsCancelling reached.calls key number) ∧
        ¬ (reached.registry.table.find? key = some number ∧
          IsCancelling reached.calls key number)) ∧
    (∀ key, (∀ number, ¬ IsCancelling reached.calls key number) →
      (∀ number, reached.registry.IsLive key number ↔ reached.registry.get? key = some number) ∧
        ∀ first second, reached.registry.IsLive key first → reached.registry.IsLive key second →
          first = second) := by
  intro reached
  have account : reached.IsAccounted := (isAccounted_start name settings directory).run moves
  refine ⟨?_, ?_⟩
  · intro key number live
    refine ⟨account.live key number ((reached.registry.isLive_iff key number).mp live), ?_⟩
    rintro ⟨held, cancelling⟩
    exact (account.outside key number cancelling).1 held
  · intro key none_pending
    have settled := account.isLive_iff none_pending
    refine ⟨settled, ?_⟩
    intro first second firstLive secondLive
    have firstHeld := (settled first).mp firstLive
    have secondHeld := (settled second).mp secondLive
    exact Option.some.inj (firstHeld.symm.trans secondHeld)

end ConsoleFeed.SharedRegistry
