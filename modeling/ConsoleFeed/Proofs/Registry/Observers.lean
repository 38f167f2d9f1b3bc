import ConsoleFeed.Proofs.Registry.Deeds
import ConsoleFeed.Proofs.Registry.Retirement
import ConsoleFeed.Proofs.Text.Utf8

/-!
# What can be seen of a registry

Whoever asks which subscriptions there are is told about the live ones, and each way of asking
leaves the cancelled ones out by itself. Two go through the table in the order in which it happens
to be listed and ask each subscription for its key; the others look one key up. They agree because
the table holds a subscription under its own key, so this is shown from `Owned` alone.

Only a deactivation also finds what is cancelled. What the table holds cancelled was cancelled
through a handle: what a deactivation cancels it has taken out before, and what everybody has let go
of the table does not hold (`tabled_cancelled`).
-/

namespace ConsoleFeed

namespace Registry

section Listing

variable (registry : Registry)

/-- The numbers of the subscriptions in a listing of the table that are not cancelled. -/
def liveIn (listing : List (String × Nat)) : List Nat :=
  (listing.map Prod.snd).filter fun number => !registry.isCancelled number

/-- The keys of the subscriptions in a listing of the table that are not cancelled, as the
subscriptions have them, sorted by their bytes. -/
def keysIn (listing : List (String × Nat)) : List String :=
  ((registry.liveIn listing).map registry.keyOf).mergeSort Utf8.notAfter

/-- Asking for a key's entry finds the live one, and makes none. -/
def Reuses (key : String) (options : OptionSet) (refusal : Option StartRefusal) : Prop :=
  ∃ number, registry.get? key = some number ∧
    registry.getOrCreate key options refusal =
      ⟨.ok number, registry, [.subscriptionReused registry.name key]⟩

/-- Asking for a key's entry goes about making one, which is made unless its loop is refused. -/
def Creates (key : String) (options : OptionSet) (refusal : Option StartRefusal) : Prop :=
  .threadRequested ∈ (registry.getOrCreate key options refusal).events ∧
    (refusal = none →
      (registry.getOrCreate key options refusal).answer = .ok registry.subscriptions.length ∧
      (registry.getOrCreate key options refusal).state = registry.entered key options)

variable {registry}

theorem pairwise_activeKeys : registry.activeKeys.Pairwise (· < ·) :=
  List.pairwise_map.mpr (registry.table.ascending.filter _)

theorem mem_activeKeys_iff (key : String) :
    key ∈ registry.activeKeys ↔ registry.contains key = true := by
  simp only [activeKeys, List.mem_map, List.mem_filter, contains, Option.isSome_iff_exists,
    get?_eq_some_iff, Bool.not_eq_true']
  constructor
  · rintro ⟨⟨_, number⟩, ⟨listed, live⟩, rfl⟩
    exact ⟨number, (registry.table.mem_entries_iff).mp listed, live⟩
  · rintro ⟨number, found, live⟩
    exact ⟨(key, number), ⟨(registry.table.mem_entries_iff).mpr found, live⟩, rfl⟩

theorem Owned.keyOf (owned : registry.Owned) {key : String} {number : Nat}
    (found : registry.table.find? key = some number) : registry.keyOf number = key := by
  rcases owned key number found with ⟨mark, standing⟩
  rw [SharedRegistry.keyOf_eq_standing?, standing]
  rfl

/-- However the table is listed, as many subscriptions are live as there are active keys. -/
theorem length_liveIn {listing : List (String × Nat)}
    (permuted : listing.Perm registry.table.entries) :
    (registry.liveIn listing).length = registry.size := by
  rw [liveIn, ((permuted.map Prod.snd).filter _).length_eq, List.filter_map, List.length_map]
  simp only [size, activeKeys, List.length_map]
  rfl

/-- However the table is listed, the keys of the live subscriptions are the active keys. -/
theorem Owned.keysIn_eq (owned : registry.Owned) {listing : List (String × Nat)}
    (permuted : listing.Perm registry.table.entries) :
    registry.keysIn listing = registry.activeKeys := by
  have listed : ((registry.liveIn listing).map registry.keyOf).Perm registry.activeKeys := by
    refine (((permuted.map Prod.snd).filter _).map registry.keyOf).trans (.of_eq ?_)
    rw [List.filter_map, List.map_map]
    apply List.map_congr_left
    rintro ⟨key, number⟩ member
    exact owned.keyOf (registry.table.mem_entries_iff.mp (List.mem_filter.mp member).1)
  exact Utf8.mergeSort_notAfter id listed pairwise_activeKeys

theorem updateOptions_answer (key : String) (options : OptionSet) :
    (registry.updateOptions key options).answer = registry.contains key := by
  cases live : registry.get? key <;> simp [updateOptions, updateLive, contains, live]

theorem reuses_iff (key : String) (options : OptionSet) (refusal : Option StartRefusal) :
    registry.Reuses key options refusal ↔ registry.contains key = true := by
  simp only [Reuses, contains, Option.isSome_iff_exists]
  apply exists_congr
  intro number
  refine and_iff_left_of_imp fun live => ?_
  simp only [getOrCreate, findOrMake, live]
  rfl

theorem creates_iff (key : String) (options : OptionSet) (refusal : Option StartRefusal) :
    registry.Creates key options refusal ↔ registry.contains key = false := by
  cases live : registry.get? key with
  | some number =>
      have kept : ¬ registry.Creates key options refusal := by
        rintro ⟨requested, _⟩
        simp [getOrCreate, findOrMake, live] at requested
      simpa [contains, live] using kept
  | none =>
      have made : registry.Creates key options refusal := by
        cases refusal with
        | none => exact ⟨by simp [getOrCreate, findOrMake, live, schedule],
            fun _ => ⟨by simp [getOrCreate, findOrMake, live, schedule],
              by simp [getOrCreate, findOrMake, live, schedule, entered]⟩⟩
        | some reason =>
            exact ⟨by simp [getOrCreate, findOrMake, live, schedule], fun given => by cases given⟩
      simpa [contains, live] using made

/-- A deactivation finds what is live, and also what is cancelled and still in the table. -/
theorem deactivate_answer_iff (key : String) :
    (registry.deactivate key).answer = true ↔ registry.contains key = true ∨
      ∃ number, registry.table.find? key = some number ∧ registry.isCancelled number = true := by
  rw [(registry.deactivate_table key).2, KeyMap.contains, contains, Option.isSome_iff_exists,
    Option.isSome_iff_exists]
  constructor
  · rintro ⟨number, found⟩
    cases mark : registry.isCancelled number with
    | false => exact Or.inl ⟨number, (registry.get?_eq_some_iff key number).mpr ⟨found, mark⟩⟩
    | true => exact Or.inr ⟨number, found, mark⟩
  · rintro (⟨number, live⟩ | ⟨number, found, _⟩)
    · exact ⟨number, ((registry.get?_eq_some_iff key number).mp live).1⟩
    · exact ⟨number, found⟩

end Listing

end Registry

namespace SharedRegistry

open Registry

/-- An entry was cancelled in a run through a handle, which it was not before. -/
def CancelledByHandle (shared : SharedRegistry) (deeds : List Deed) (key : String) (number : Nat) :
    Prop :=
  ∃ before later, deeds = before ++ .move (.cancel number) :: later ∧
    (shared.after before).registry.IsLive key number

section Handles

variable {shared : SharedRegistry} {key : String} {number : Nat}

/-- What the table holds cancelled after a deed it held cancelled before, or the deed cancels it
through a handle. -/
theorem tabled_cancelled_enact (coherent : shared.Coherent) (deed : Deed)
    (found : (shared.enact deed).state.registry.table.find? key = some number)
    (cancelled : (shared.enact deed).state.registry.standing? number = some (key, true)) :
    shared.registry.table.find? key = some number ∧
        shared.registry.standing? number = some (key, true) ∨
      deed = .move (.cancel number) ∧ shared.registry.IsLive key number := by
  have effect := shared.effect_enact coherent.owned deed
  have earlier : shared.registry.table.find? key = some number := by
    rcases effect.tabled found with earlier | ⟨_, made⟩
    · exact earlier
    · cases cancelled.symm.trans made
  have spared : ∀ {of hit reason},
      Strikes shared.registry (shared.enact deed).state.registry of hit reason → number ≠ hit →
      shared.registry.standing? number = some (key, true) := fun strikes different =>
    (strikes.others number different).symm.trans cancelled
  cases effect with
  | quiet _ quiet _ =>
      rcases coherent.owned key number earlier with ⟨mark, standing⟩
      cases (quiet.kept number _ standing).symm.trans cancelled
      exact Or.inl ⟨earlier, standing⟩
  | cancelled of hit _ outright strikes _ =>
      by_cases same : number = hit
      · subst same
        right
        cases strikes.marked.symm.trans cancelled
        have live := (shared.registry.isLive_iff key number).mpr strikes.live
        cases deed with
        | move move =>
            cases move with
            | cancel other =>
                cases outright
                exact ⟨rfl, live⟩
            | advance caller refusal =>
                -- a deactivation took the entry out of the table before it cancels it
                rcases Option.map_eq_some_iff.mp outright with ⟨⟨of, _⟩, pending, rfl⟩
                rcases Option.bind_eq_some_iff.mp pending with ⟨call, present, own⟩
                have listed := List.mem_of_getElem? present
                cases call with
                | deactivating deactivation | sweeping deactivation keys count =>
                    cases deactivation with
                    | cancelling of other =>
                        cases own
                        exact absurd earlier ((coherent.reliable _ listed _ rfl).2 key)
                    | _ => cases own
                | _ => cases own
            | _ => cases outright
        | _ => cases outright
      · exact Or.inl ⟨earlier, spared strikes same⟩
  | dropped of hit _ _ strikes _ =>
      by_cases same : number = hit
      · subst same
        have gone := strikes.own (isHeld_of_find? key earlier)
        rw [isHeld_of_find? key found] at gone
        cases gone
      · exact Or.inl ⟨earlier, spared strikes same⟩

/-- What the table holds cancelled after a run was cancelled in it through a handle, if it was not
held so before. -/
theorem tabled_cancelled (coherent : shared.Coherent) (deeds : List Deed)
    (found : (shared.after deeds).registry.table.find? key = some number)
    (cancelled : (shared.after deeds).registry.standing? number = some (key, true)) :
    shared.registry.table.find? key = some number ∧
        shared.registry.standing? number = some (key, true) ∨
      shared.CancelledByHandle deeds key number := by
  induction deeds generalizing shared with
  | nil => exact Or.inl ⟨found, cancelled⟩
  | cons deed rest ih =>
      rcases ih (coherent.enact deed) found cancelled with
        ⟨held, marked⟩ | ⟨before, later, rfl, live⟩
      · rcases tabled_cancelled_enact coherent deed held marked with earlier | ⟨rfl, live⟩
        · exact Or.inl earlier
        · exact Or.inr ⟨[], rest, rfl, live⟩
      · exact Or.inr ⟨deed :: before, later, rfl, live⟩

end Handles

/-- All that can be seen of a registry tells the same story. -/
structure SameStory (registry : Registry) (cancelledByHandle : String → Nat → Prop) : Prop where
  /-- The active keys are in strictly ascending order of their bytes. -/
  ascending : (registry.activeKeys.map Utf8.encode).Pairwise (· < ·)
  /-- In whatever order the table is listed, its live subscriptions have the active keys. -/
  listed : ∀ listing, listing.Perm registry.table.entries →
    registry.keysIn listing = registry.activeKeys ∧
      (registry.liveIn listing).length = registry.activeKeys.length
  size : registry.size = registry.activeKeys.length
  isEmpty : registry.isEmpty = registry.activeKeys.isEmpty
  contains : ∀ key, registry.contains key = true ↔ key ∈ registry.activeKeys
  get : ∀ key, registry.contains key = (registry.get? key).isSome ∧
    ∀ number, registry.get? key = some number →
      (registry.subscription? number).map Subscription.key = some key
  updateOptions : ∀ key options,
    (registry.updateOptions key options).answer = registry.contains key
  getOrCreate : ∀ key options refusal,
    (registry.Reuses key options refusal ↔ registry.contains key = true) ∧
      (registry.Creates key options refusal ↔ registry.contains key = false)
  deactivate : ∀ key, (registry.deactivate key).answer = true ↔
    registry.contains key = true ∨
      ∃ number, registry.table.find? key = some number ∧ registry.isCancelled number = true ∧
        cancelledByHandle key number

/-- In every state that a registry gets into, whatever is done to it and in whatever order, all that
can be seen of it tells the same story. -/
theorem observers_tell_the_same_story (name : String) (settings : StreamerSettings)
    (directory : Directory) (deeds : List Deed) :
    SameStory ((start name settings directory).after deeds).registry
      ((start name settings directory).CancelledByHandle deeds) := by
  have beginning := coherent_start name settings directory
  have coherent := beginning.after deeds
  have owned := coherent.owned
  have through : ∀ key number,
      ((start name settings directory).after deeds).registry.table.find? key = some number →
      ((start name settings directory).after deeds).registry.standing? number = some (key, true) →
      (start name settings directory).CancelledByHandle deeds key number := by
    intro key number found cancelled
    rcases tabled_cancelled beginning deeds found cancelled with ⟨held, _⟩ | byHandle
    · cases held
    · exact byHandle
  generalize ((start name settings directory).after deeds).registry = registry at owned through ⊢
  refine ⟨?_, ?_, rfl, ?_, ?_, ?_, updateOptions_answer, ?_, ?_⟩
  · exact List.pairwise_map.mpr (pairwise_activeKeys.imp Utf8.encode_lt)
  · exact fun listing permuted => ⟨owned.keysIn_eq permuted, length_liveIn permuted⟩
  · simp only [Registry.isEmpty, Registry.size]
    cases registry.activeKeys <;> rfl
  · exact fun key => (mem_activeKeys_iff key).symm
  · intro key
    refine ⟨rfl, ?_⟩
    intro number live
    have found := ((registry.get?_eq_some_iff key number).mp live).1
    rcases owned.present found with ⟨subscription, present, own⟩
    rw [present, Option.map_some, own]
  · exact fun key options refusal =>
      ⟨reuses_iff key options refusal, creates_iff key options refusal⟩
  · intro key
    rw [deactivate_answer_iff]
    apply or_congr Iff.rfl
    apply exists_congr
    intro number
    refine and_congr_right fun found => (and_iff_left_of_imp fun mark => ?_).symm
    rcases owned key number found with ⟨other, standing⟩
    cases (isCancelled_of_standing standing).symm.trans mark
    exact through key number found standing

/-- Three entries are made, and the one in the middle is cancelled through a handle. -/
def middleCancelled : List Deed :=
  ["b", "é", "a"].map (fun key => .move (.invoke (.getOrCreate key KeyMap.empty))) ++
    [0, 0, 1, 1, 2, 2].map (fun caller => .move (.advance caller none)) ++ [.move (.cancel 0)]

theorem observers_tell_the_same_story_of_middleCancelled :
    let fresh := start "console" .standard Directory.empty
    let registry := (fresh.after middleCancelled).registry
    registry.activeKeys = ["a", "é"] ∧ registry.contains "b" = false ∧
      (registry.deactivate "b").answer = true ∧
      ∃ number, fresh.CancelledByHandle middleCancelled "b" number := by
  intro fresh registry
  have story := observers_tell_the_same_story "console" .standard Directory.empty middleCancelled
  have keys : registry.activeKeys = ["a", "é"] := by decide
  have found : (registry.deactivate "b").answer = true := by decide
  have absent : registry.contains "b" = false := by
    rw [← Bool.not_eq_true, story.contains "b", keys]
    decide
  refine ⟨keys, absent, found, ?_⟩
  rcases (story.deactivate "b").mp found with live | ⟨number, _, _, byHandle⟩
  · exact absurd (live.symm.trans absent) nofun
  · exact ⟨number, byHandle⟩

end SharedRegistry

end ConsoleFeed
