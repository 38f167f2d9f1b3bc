import ConsoleFeed.Proofs.Registry.OneLiveEntry
import ConsoleFeed.Provider.Scripted

/-!
# The loops of live entries

The registry takes an entry for live if its table holds it and it is not cancelled. Whether the tick
loop of the entry still runs is not asked. There are two ways in which a loop ends. One is that the
entry is cancelled, and then the entry is not live any more. The other is that a tick looks the
provider up and the lookup panics: nothing absorbs that panic, the loop is gone with its thread, and
the entry stays as it was. So it is handed out to everyone who asks for its key, and nothing is
published for them.

This file proves that there is no third way. After any interleaving of calls, ticks and changes of
the providers, the loop of a live entry has ended exactly if one of its own ticks met with such a
panic, and until then each of its ticks publishes one payload, whatever the provider does when it is
called. The argument is one relation between two registries, `LosesOnly`, that composes along a run.
-/

namespace ConsoleFeed

namespace Directory

/-- A snapshot comes to nothing exactly if the lookup panics. -/
theorem takeSnapshot_answer_eq_error_iff (directory : Directory) (key : String)
    (options : OptionSet) (panic : LookupPanic) :
    (directory.takeSnapshot key options).answer = .error panic ↔
      directory.find key = .error panic := by
  simp only [takeSnapshot, trySnapshot]
  cases found : directory.find key with
  | error other => simp
  | ok number => cases number <;> simp

end Directory

namespace Registry

/-- The subscription with a number has a loop that has ended. -/
def HasEnded (registry : Registry) (number : Nat) : Prop :=
  ∃ subscription, registry.subscription? number = some subscription ∧
    subscription.phase = .ended

/-- Between two registries no subscription was unmarked or forgotten, and among those that are not
cancelled the loops that have ended since are the lost ones. -/
structure LosesOnly (lost : Nat → Prop) (before after : Registry) : Prop where
  stays : ∀ number subscription, before.subscription? number = some subscription →
    ∃ later, after.subscription? number = some later ∧
      (subscription.isCancelled = true → later.isCancelled = true)
  ended : ∀ number later, after.subscription? number = some later →
    later.isCancelled = false → (later.phase = .ended ↔ before.HasEnded number ∨ lost number)
  inUse : ∀ number, lost number → (after.subscription? number).isSome

/-- No loop ended between two registries, unless its subscription was cancelled. -/
abbrev KeepsLoops : Registry → Registry → Prop :=
  LosesOnly fun _ => False

namespace LosesOnly

variable {lost lostLater : Nat → Prop} {before between after : Registry}

theorem trans (first : LosesOnly lost before between)
    (second : LosesOnly lostLater between after) :
    LosesOnly (fun number => lost number ∨ lostLater number) before after := by
  refine ⟨?_, ?_, ?_⟩
  · intro number subscription present
    rcases first.stays number subscription present with ⟨middle, middlePresent, marked⟩
    rcases second.stays number middle middlePresent with ⟨later, laterPresent, markedLater⟩
    exact ⟨later, laterPresent, fun cancelled => markedLater (marked cancelled)⟩
  · intro number later present uncancelled
    have endedLater := second.ended number later present uncancelled
    cases middlePresent : between.subscription? number with
    | some middle =>
        have unmarked : middle.isCancelled = false := by
          rcases second.stays number middle middlePresent with ⟨same, samePresent, marked⟩
          rw [present] at samePresent
          cases samePresent
          cases mark : middle.isCancelled with
          | false => rfl
          | true => exact absurd (marked mark) (by simp [uncancelled])
        have endedFirst := first.ended number middle middlePresent unmarked
        have here : between.HasEnded number ↔ middle.phase = .ended := by
          simp [HasEnded, middlePresent]
        rw [endedLater, here, endedFirst, or_assoc]
    | none =>
        have unended : ¬ between.HasEnded number := by
          simp [HasEnded, middlePresent]
        have unendedBefore : ¬ before.HasEnded number := by
          rintro ⟨subscription, found, _⟩
          rcases first.stays number subscription found with ⟨middle, absurd, _⟩
          rw [middlePresent] at absurd
          cases absurd
        have unlost : ¬ lost number := by
          intro isLost
          have absurd := first.inUse number isLost
          rw [middlePresent] at absurd
          cases absurd
        simp [endedLater, unended, unendedBefore, unlost]
  · rintro number (isLost | isLost)
    · rcases Option.isSome_iff_exists.mp (first.inUse number isLost) with ⟨middle, present⟩
      rcases second.stays number middle present with ⟨later, laterPresent, _⟩
      simp [laterPresent]
    · exact second.inUse number isLost

theorem congr (loses : LosesOnly lost before after)
    (same : ∀ number, lostLater number ↔ lost number) : LosesOnly lostLater before after := by
  refine ⟨loses.stays, ?_, fun number isLost => loses.inUse number ((same number).mp isLost)⟩
  intro number later present uncancelled
  rw [loses.ended number later present uncancelled, same number]

end LosesOnly

namespace KeepsLoops

variable {before between after : Registry}

theorem trans (first : KeepsLoops before between) (second : KeepsLoops between after) :
    KeepsLoops before after :=
  (LosesOnly.trans first second).congr fun _ => by simp

theorem of_subscriptions_eq (same : after.subscriptions = before.subscriptions) :
    KeepsLoops before after := by
  have found : ∀ number, after.subscription? number = before.subscription? number := by
    intro number
    simp only [subscription?, same]
  refine ⟨?_, ?_, fun _ isLost => isLost.elim⟩
  · intro number subscription present
    exact ⟨subscription, (found number).trans present, id⟩
  · intro number later present _
    rw [found number] at present
    simp [HasEnded, present]

theorem refl (registry : Registry) : KeepsLoops registry registry :=
  of_subscriptions_eq rfl

end KeepsLoops

/-- Only the subscriptions matter: the table and the directory may be others. -/
theorem LosesOnly.of_subscriptions_eq {lost : Nat → Prop} {before between after : Registry}
    (loses : LosesOnly lost before between)
    (same : after.subscriptions = between.subscriptions) : LosesOnly lost before after :=
  (loses.trans (KeepsLoops.of_subscriptions_eq same)).congr fun _ => by simp

section Operations

variable (registry : Registry) (number : Nat)

/-- A change of one subscription that does not unmark it ends no other loop. -/
theorem losesOnly_changing {change : Subscription → Subscription} {lost : Prop}
    (marked : ∀ subscription, registry.subscription? number = some subscription →
      subscription.isCancelled = true → (change subscription).isCancelled = true)
    (ended : ∀ subscription, registry.subscription? number = some subscription →
      (change subscription).isCancelled = false →
        ((change subscription).phase = .ended ↔ subscription.phase = .ended ∨ lost))
    (present : lost → (registry.subscription? number).isSome) :
    LosesOnly (fun other => other = number ∧ lost) registry
      (registry.changing number change) := by
  refine ⟨?_, ?_, ?_⟩
  · intro other subscription found
    rw [subscription?_changing]
    by_cases same : other = number
    · subst same
      exact ⟨change subscription, by simp [found], marked subscription found⟩
    · exact ⟨subscription, by simp [same, found], id⟩
  · intro other later found uncancelled
    rw [subscription?_changing] at found
    by_cases same : other = number
    · subst same
      simp only [if_true, Option.map_eq_some_iff] at found
      rcases found with ⟨subscription, here, rfl⟩
      simp [HasEnded, here, ended subscription here uncancelled]
    · simp only [same, if_false] at found
      simp [HasEnded, found, same]
  · rintro other ⟨rfl, isLost⟩
    rw [subscription?_changing]
    simpa using present isLost

theorem keepsLoops_changing {change : Subscription → Subscription}
    (marked : ∀ subscription, registry.subscription? number = some subscription →
      subscription.isCancelled = true → (change subscription).isCancelled = true)
    (ended : ∀ subscription, registry.subscription? number = some subscription →
      (change subscription).isCancelled = false →
        ((change subscription).phase = .ended ↔ subscription.phase = .ended)) :
    KeepsLoops registry (registry.changing number change) := by
  have loses : LosesOnly (fun other => other = number ∧ False) registry
      (registry.changing number change) :=
    registry.losesOnly_changing number marked (by simpa using ended) False.elim
  exact loses.congr fun _ => by simp

theorem keepsLoops_lend : KeepsLoops registry (registry.lend number) := by
  rw [lend_eq_changing]
  exact registry.keepsLoops_changing number (fun _ _ mark => mark) (fun _ _ _ => Iff.rfl)

theorem keepsLoops_onChannel {Answer : Type} (operation : Channel → Answer × Channel) :
    KeepsLoops registry (((registry.onChannel number operation).map Prod.snd).getD registry) := by
  rw [state_onChannel]
  exact registry.keepsLoops_changing number (fun _ _ mark => mark) (fun _ _ _ => Iff.rfl)

theorem keepsLoops_replaceOptions (options : OptionSet) :
    KeepsLoops registry
      (registry.onSubscription number () (·.replaceOptions options)).state := by
  rw [state_onSubscription]
  exact registry.keepsLoops_changing number (fun _ _ mark => mark) (fun _ _ _ => Iff.rfl)

/-- A cancellation ends a loop only together with the life of its entry. -/
theorem keepsLoops_onSubscription_cancel (reason : CancelReason) :
    KeepsLoops registry (registry.onSubscription number () (·.cancel reason)).state := by
  rw [state_onSubscription]
  apply registry.keepsLoops_changing number
  · intro subscription _ _
    exact subscription.isCancelled_cancel reason
  · intro subscription _ uncancelled
    rw [subscription.isCancelled_cancel reason] at uncancelled
    cases uncancelled

theorem keepsLoops_giveBack : KeepsLoops registry (registry.giveBack number).state := by
  have returned : KeepsLoops registry (registry.onSubscription number () fun subscription =>
      ⟨(), { subscription with lent := subscription.lent - 1 }, []⟩).state := by
    rw [state_onSubscription]
    exact registry.keepsLoops_changing number (fun _ _ mark => mark) (fun _ _ _ => Iff.rfl)
  unfold giveBack
  dsimp only
  split
  · exact returned
  · exact returned.trans (keepsLoops_onSubscription_cancel _ number .handleDropped)

/-- The loop of a new entry waits for its first tick. -/
theorem keepsLoops_entered (key : String) (options : OptionSet) :
    KeepsLoops registry (registry.entered key options) := by
  refine ⟨?_, ?_, fun _ isLost => isLost.elim⟩
  · intro other subscription present
    exact ⟨subscription, registry.subscription?_entered_of_present key options present, id⟩
  · intro other later present _
    rw [subscription?_entered] at present
    split at present
    · rename_i new
      cases present
      simp [HasEnded, subscription?, Subscription.create, new]
    · simp [HasEnded, present]

theorem keepsLoops_getOrCreate (key : String) (options : OptionSet)
    (refusal : Option StartRefusal) :
    KeepsLoops registry (registry.getOrCreate key options refusal).state := by
  rcases registry.getOrCreate_cases key options refusal with
    ⟨_, _, _, same⟩ | ⟨_, _, _, _, same⟩ | ⟨_, _, _, made⟩
  · rw [same]
    exact .refl registry
  · rw [same]
    exact .refl registry
  · rw [made]
    exact registry.keepsLoops_entered key options

theorem keepsLoops_beginTick {options : OptionSet} {after : Registry}
    (begun : registry.beginTick? number = some (options, after)) :
    KeepsLoops registry after := by
  rcases registry.beginTick?_eq_some number begun with ⟨waiting, present, waits, _, rfl⟩
  refine registry.keepsLoops_changing number (fun _ _ mark => mark) ?_
  intro subscription found _
  rw [present] at found
  cases found
  simp [waits]

/-- The loop of the subscription with a number is inside of a tick. -/
def isTicking : Bool :=
  (registry.subscription? number).any fun subscription => subscription.phase = .ticking

/-- Looking up the provider for the subscription with a number panics. -/
def LookupPanics : Prop :=
  ∃ panic, registry.directory.find (registry.keyOf number) = .error panic

/-- A tick whose lookup panics ends its loop and changes nothing else. -/
theorem state_endTick_of_panics (panics : registry.LookupPanics number) (options : OptionSet) :
    (registry.endTick number options).state =
      { registry.changing number fun subscription => { subscription with phase := .ended } with
        directory :=
          (registry.directory.takeSnapshot (registry.keyOf number) options).state } := by
  rcases panics with ⟨panic, found⟩
  have asked : (registry.onDirectory
      (·.takeSnapshot (registry.keyOf number) options)).answer = .error panic :=
    (Directory.takeSnapshot_answer_eq_error_iff _ _ options panic).mpr found
  simp only [endTick, asked]
  rw [state_onSubscription]
  rfl

/-- A tick whose lookup does not panic gets a text, whatever the provider does. -/
theorem takeSnapshot_ok_of_not_panics (fine : ¬ registry.LookupPanics number)
    (options : OptionSet) :
    ∃ text, (registry.directory.takeSnapshot (registry.keyOf number) options).answer =
      .ok text := by
  cases answer : (registry.directory.takeSnapshot (registry.keyOf number) options).answer with
  | ok text => exact ⟨text, rfl⟩
  | error panic =>
      exact absurd ⟨panic, (Directory.takeSnapshot_answer_eq_error_iff _ _ options panic).mp answer⟩
        fine

/-- A tick ends its own loop, and only if its lookup panics or its entry is cancelled. -/
theorem losesOnly_endTick (ticking : registry.isTicking number = true) (options : OptionSet) :
    LosesOnly (fun other => other = number ∧ registry.LookupPanics number) registry
      (registry.endTick number options).state := by
  rcases (Option.any_eq_true _ _).mp ticking with ⟨inside, present, phase⟩
  have unended : ∀ subscription, registry.subscription? number = some subscription →
      subscription.phase ≠ .ended := by
    intro subscription found
    rw [present] at found
    cases found
    simp [of_decide_eq_true phase]
  by_cases panics : registry.LookupPanics number
  · rw [registry.state_endTick_of_panics number panics]
    have loses : LosesOnly (fun other => other = number ∧ registry.LookupPanics number) registry
        (registry.changing number fun subscription => { subscription with phase := .ended }) := by
      apply registry.losesOnly_changing number
      · intro _ _ marked
        exact marked
      · simp [panics]
      · simp [present]
    exact loses.of_subscriptions_eq rfl
  · rcases registry.takeSnapshot_ok_of_not_panics number panics options with ⟨text, taken⟩
    rw [registry.state_endTick number taken]
    have keeps : KeepsLoops registry (registry.changing number (delivered text)) := by
      apply registry.keepsLoops_changing number
      · intro subscription _ marked
        exact ((deliver_keeps subscription.feed text).2).trans marked
      · intro subscription found unmarked
        have uncancelled : subscription.isCancelled = false :=
          ((deliver_keeps subscription.feed text).2).symm.trans unmarked
        simp [delivered, uncancelled, unended subscription found]
    have loses : LosesOnly (fun other => other = number ∧ registry.LookupPanics number) registry
        (registry.changing number (delivered text)) := keeps.congr fun _ => by simp [panics]
    exact loses.of_subscriptions_eq rfl

end Operations

end Registry

namespace SharedRegistry

open Registry

theorem Deactivation.keepsLoops_step (registry : Registry) (deactivation : Deactivation) :
    KeepsLoops registry (deactivation.step registry).state := by
  cases deactivation with
  | removing key =>
      rcases registry.remove_entries key with ⟨absent, _⟩ | ⟨number, found, _⟩
      · simp only [Deactivation.step, absent]
        exact .refl registry
      · simp only [Deactivation.step, found]
        have removed : KeepsLoops registry (registry.without key) := .of_subscriptions_eq rfl
        exact removed.trans (keepsLoops_lend _ number)
  | cancelling key number => exact registry.keepsLoops_onSubscription_cancel number .cancelled
  | reporting key number => exact registry.keepsLoops_giveBack number
  | finished found => exact .refl registry

theorem Call.state_sweepOn (registry : Registry) (count : Nat) (keys : List String) :
    (Call.sweepOn registry count keys).state = registry := by
  cases keys <;> rfl

theorem Call.keepsLoops_step (registry : Registry) (refusal : Option StartRefusal) (call : Call) :
    KeepsLoops registry (call.step registry refusal).state := by
  cases call with
  | looking key options wish =>
      simp only [Call.step]
      split
      · exact registry.keepsLoops_lend _
      · exact .refl registry
  | entering key options wish =>
      have entered := registry.keepsLoops_getOrCreate key options refusal
      simp only [Call.step]
      split
      · exact entered.trans (keepsLoops_lend _ _)
      · exact entered
  | holding number wish =>
      cases wish with
      | handle => exact .refl registry
      | snapshot => exact .refl registry
      | stream => exact registry.keepsLoops_onChannel number _
  | asking number options => exact .of_subscriptions_eq rfl
  | leaving number answer => exact registry.keepsLoops_giveBack number
  | updating key options =>
      simp only [Call.step]
      split <;> exact .refl registry
  | replacing number options => exact registry.keepsLoops_replaceOptions number options
  | deactivating deactivation =>
      simp only [Call.step]
      split <;> exact deactivation.keepsLoops_step registry
  | listing keys =>
      simp only [Call.step, Call.state_sweepOn]
      exact .refl registry
  | sweeping deactivation keys count =>
      simp only [Call.step]
      split
      · simp only [Call.state_sweepOn]
        exact deactivation.keepsLoops_step registry
      · exact deactivation.keepsLoops_step registry
  | done answer => exact .refl registry

/-- The registry and its callers after a move, where a tick ends only in a loop that is inside of
one. -/
def orderly (shared : SharedRegistry) : Move → SharedRegistry
  | .endTick number options =>
      if shared.registry.isTicking number then shared.perform (.endTick number options) else shared
  | move => shared.perform move

/-- The registry and its callers after moves, one after the other. -/
def orderlyRun (shared : SharedRegistry) (moves : List Move) : SharedRegistry :=
  moves.foldl orderly shared

/-- The move is the end of a tick of this loop, and its lookup panics. -/
def LosesLoop (shared : SharedRegistry) (number : Nat) : Move → Prop
  | .endTick ending _ =>
      number = ending ∧ shared.registry.isTicking ending = true ∧
        shared.registry.LookupPanics ending
  | _ => False

/-- At some moment of a run this loop was lost. -/
def HasLostLoop (shared : SharedRegistry) (number : Nat) : List Move → Prop
  | [] => False
  | move :: rest => shared.LosesLoop number move ∨ (shared.orderly move).HasLostLoop number rest

variable (shared : SharedRegistry)

theorem losesOnly_orderly (move : Move) :
    LosesOnly (fun number => shared.LosesLoop number move) shared.registry
      (shared.orderly move).registry := by
  cases move with
  | invoke request => exact KeepsLoops.refl shared.registry
  | advance caller refusal =>
      simp only [orderly, SharedRegistry.perform]
      split
      · exact KeepsLoops.refl shared.registry
      · exact Call.keepsLoops_step ..
  | list caller key =>
      simp only [orderly, SharedRegistry.perform]
      split
      · split <;> exact KeepsLoops.refl shared.registry
      · exact KeepsLoops.refl shared.registry
  | cancel number => exact shared.registry.keepsLoops_onSubscription_cancel number .cancelled
  | giveBack number => exact shared.registry.keepsLoops_giveBack number
  | replaceOptions number options => exact shared.registry.keepsLoops_replaceOptions number options
  | beginTick number =>
      simp only [orderly, SharedRegistry.perform]
      cases begun : shared.registry.beginTick? number with
      | none => exact KeepsLoops.refl shared.registry
      | some taken => exact shared.registry.keepsLoops_beginTick number begun
  | endTick number options =>
      simp only [orderly, LosesLoop]
      split
      · rename_i ticking
        exact (shared.registry.losesOnly_endTick number ticking options).congr fun _ => by
          simp [ticking]
      · rename_i idle
        exact (KeepsLoops.refl shared.registry).congr fun _ => by simp [idle]
  | changeChannel number change =>
      exact shared.registry.keepsLoops_changing number (fun _ _ mark => mark) fun _ _ _ => Iff.rfl
  | changeProviders directory => exact KeepsLoops.of_subscriptions_eq rfl

theorem losesOnly_orderlyRun (moves : List Move) :
    LosesOnly (fun number => shared.HasLostLoop number moves) shared.registry
      (shared.orderlyRun moves).registry := by
  induction moves generalizing shared with
  | nil => exact KeepsLoops.refl shared.registry
  | cons move rest ih => exact (shared.losesOnly_orderly move).trans (ih (shared.orderly move))

/-- Seen by the entries, an orderly run is one of the runs that there are. -/
theorem orderlyRun_eq_run (moves : List Move) :
    ∃ made, made.Sublist moves ∧ shared.orderlyRun moves = shared.run made := by
  induction moves generalizing shared with
  | nil => exact ⟨[], .slnil, rfl⟩
  | cons move rest ih =>
      rcases ih (shared.orderly move) with ⟨made, fewer, same⟩
      have one : shared.orderly move = shared.perform move ∨ shared.orderly move = shared := by
        cases move with
        | endTick number options =>
            simp only [orderly]
            split
            · exact Or.inl rfl
            · exact Or.inr rfl
        | _ => exact Or.inl rfl
      rcases one with kept | left_out
      · refine ⟨move :: made, fewer.cons_cons move, ?_⟩
        calc
          shared.orderlyRun (move :: rest) = (shared.orderly move).run made := same
          _ = shared.run (move :: made) := by rw [kept]; rfl
      · refine ⟨made, fewer.cons move, ?_⟩
        calc
          shared.orderlyRun (move :: rest) = (shared.orderly move).run made := same
          _ = shared.run made := by rw [left_out]

end SharedRegistry

namespace Registry

/-- What comes of a tick of the live entry of a key. If the lookup does not panic, one payload is
published and the loop waits for its next tick. If it does, nothing is published and the loop is
gone. The entry is live as before in both cases. -/
structure Ticks (before : Registry) (key : String) (number : Nat) (after : Registry) : Prop where
  live : after.get? key = some number
  publishes : ¬ before.LookupPanics number →
    ∀ subscription, before.subscription? number = some subscription →
      ∃ text, after.subscription? number = some
        { subscription with
          feed := { subscription.feed with
            channel := (subscription.feed.channel.publish text).2 }
          phase := .waiting }
  dies : before.LookupPanics number →
    ∀ subscription, before.subscription? number = some subscription →
      after.subscription? number = some { subscription with phase := .ended }

variable {registry : Registry} {key : String} {number : Nat}

theorem uncancelled_of_get? (live : registry.get? key = some number)
    {subscription : Subscription}
    (present : registry.subscription? number = some subscription) :
    subscription.isCancelled = false := by
  have uncancelled := ((registry.get?_eq_some_iff key number).mp live).2
  simpa [isCancelled, present] using uncancelled

theorem ticks_endTick (live : registry.get? key = some number) (options : OptionSet) :
    registry.Ticks key number (registry.endTick number options).state := by
  refine ⟨?_, ?_, ?_⟩
  · rw [(registry.sameEntries_endTick number options).get?]
    exact live
  · intro fine subscription present
    rcases registry.takeSnapshot_ok_of_not_panics number fine options with ⟨text, taken⟩
    have unmarked : subscription.feed.cancelled = false := uncancelled_of_get? live present
    have found := registry.subscription?_changing number (delivered text) number
    refine ⟨text, ?_⟩
    rw [registry.state_endTick number taken]
    refine found.trans ?_
    simp [present, delivered, Feed.deliver, Subscription.isCancelled, unmarked]
  · intro panics subscription present
    rw [registry.state_endTick_of_panics number panics]
    refine (registry.subscription?_changing number _ number).trans ?_
    simp [present]

/-- A whole tick is the end of a tick that nobody came between. -/
theorem ticks_tick? (live : registry.get? key = some number) {subscription : Subscription}
    (present : registry.subscription? number = some subscription)
    (waits : subscription.phase = .waiting) :
    ∃ ticked, registry.tick? number = some ticked ∧ registry.Ticks key number ticked.state := by
  have begun : registry.beginTick? number = some (subscription.feed.options,
      registry.changing number fun found => { found with phase := .ticking }) := by
    rw [← registry.store_eq_changing number present fun found => { found with phase := .ticking }]
    simp [beginTick?, present, waits]
  have inside : (registry.changing number fun found =>
      { found with phase := .ticking }).subscription? number =
        some { subscription with phase := .ticking } := by
    rw [subscription?_changing, if_pos rfl, present]
    rfl
  have stillLive : (registry.changing number fun found =>
      { found with phase := .ticking }).get? key = some number := by
    rw [(registry.sameEntries_beginTick number begun).get?]
    exact live
  have samePanic : (registry.changing number fun found =>
      { found with phase := .ticking }).LookupPanics number ↔ registry.LookupPanics number := by
    simp only [LookupPanics, keyOf, inside, present]
    exact Iff.rfl
  have ends := ticks_endTick stillLive subscription.feed.options
  refine ⟨_, by rw [tick?, begun]; rfl, ends.live, ?_, ?_⟩
  · intro fine other found
    rw [present] at found
    cases found
    exact ends.publishes (fine ∘ samePanic.mp) { subscription with phase := .ticking } inside
  · intro panics other found
    rw [present] at found
    cases found
    exact ends.dies (samePanic.mpr panics) { subscription with phase := .ticking } inside

end Registry

namespace SharedRegistry

open Registry

/-- After any interleaving of calls, ticks and changes of the providers, an entry that the registry
takes for live is handed out for its key, and its loop has ended exactly if one of its own ticks met
with a panic of the lookup. While the loop has not ended, a tick publishes one payload, unless its
lookup panics. Once the loop has ended there is no tick any more, as long as the entry is live. -/
theorem live_entry_ticks_until_lookup_panics (name : String) (settings : StreamerSettings)
    (directory : Directory) (moves : List Move) (key : String) (number : Nat)
    (live : ((start name settings directory).orderlyRun moves).registry.get? key = some number) :
    let reached := (start name settings directory).orderlyRun moves
    (∀ options refusal, (reached.registry.getOrCreate key options refusal).answer = .ok number) ∧
    ∃ subscription, reached.registry.subscription? number = some subscription ∧
      (subscription.phase = .ended ↔
        (start name settings directory).HasLostLoop number moves) ∧
      (subscription.phase = .waiting →
        ∃ ticked, reached.registry.tick? number = some ticked ∧
          reached.registry.Ticks key number ticked.state) ∧
      (subscription.phase = .ticking → ∀ options,
        reached.registry.Ticks key number (reached.registry.endTick number options).state) ∧
      (subscription.phase = .ended → ∀ later,
        (reached.orderlyRun later).registry.get? key = some number →
          (reached.orderlyRun later).registry.tick? number = none) := by
  intro reached
  have loses := (start name settings directory).losesOnly_orderlyRun moves
  have account : reached.IsAccounted := by
    rcases (start name settings directory).orderlyRun_eq_run moves with ⟨made, _, same⟩
    simp only [reached, same]
    exact (isAccounted_start name settings directory).run made
  have held := ((get?_eq_some_iff reached.registry key number).mp live).1
  have inUse := Accounted.inUse account key number held
  rcases Option.isSome_iff_exists.mp ((reached.registry.standing?_isSome_iff number).mpr inUse)
    with ⟨standing, known⟩
  rcases Option.map_eq_some_iff.mp known with ⟨subscription, present, _⟩
  have uncancelled := uncancelled_of_get? live present
  have unstarted : ¬ (start name settings directory).registry.HasEnded number := by
    rintro ⟨_, absurd, _⟩
    cases absurd
  refine ⟨?_, subscription, present, ?_, ticks_tick? live present, ?_, ?_⟩
  · intro options refusal
    rcases reached.registry.getOrCreate_cases key options refusal with
      ⟨found, same, answer, _⟩ | ⟨_, absent, _⟩ | ⟨absent, _⟩
    · rw [live] at same
      cases same
      exact answer
    · rw [live] at absent
      cases absent
    · rw [live] at absent
      cases absent
  · rw [loses.ended number subscription present uncancelled]
    simp [unstarted]
  · intro _ options
    exact ticks_endTick live options
  · intro ended later stillLive
    have losesLater := reached.losesOnly_orderlyRun later
    apply tick?_eq_none
    intro afterwards found waits
    have unmarked := uncancelled_of_get? stillLive found
    have halted := (losesLater.ended number afterwards found unmarked).mpr
      (Or.inl ⟨subscription, present, ended⟩)
    rw [waits] at halted
    cases halted

/-- The moves by which a caller gets the entry of a key, and the loop then has one tick. -/
def firstTick (key : String) : List Move :=
  [.invoke (.getOrCreate key KeyMap.empty), .advance 0 none, .advance 0 none, .beginTick 0,
    .endTick 0 KeyMap.empty]

/-- A provider that panics when it is called does not keep the loop from its next tick. -/
theorem live_entry_ticks_until_lookup_panics_of_panicking :
    let directory := (Directory.empty.register
      (Script.provider "console" (.panicking .untold))).state
    let reached := (start "streamer" .standard directory).orderlyRun (firstTick "console")
    reached.registry.get? "console" = some 0 ∧
      ∃ ticked, reached.registry.tick? 0 = some ticked ∧
        reached.registry.Ticks "console" 0 ticked.state := by
  intro directory reached
  have live : reached.registry.get? "console" = some 0 := by decide +kernel
  rcases (live_entry_ticks_until_lookup_panics "streamer" .standard directory
    (firstTick "console") "console" 0 live).2 with ⟨subscription, present, _, waiting, _⟩
  refine ⟨live, waiting ?_⟩
  have waits : (reached.registry.subscription? 0).map Subscription.phase = some .waiting := by
    decide +kernel
  rw [present] at waits
  exact Option.some.inj waits

/-- A provider that panics when it is looked up leaves behind a live entry without a loop. -/
theorem live_entry_without_loop :
    let directory := (Directory.empty.register (Script.unreachable "console")).state
    let reached := (start "streamer" .standard directory).orderlyRun (firstTick "console")
    reached.registry.get? "console" = some 0 ∧
      (reached.registry.getOrCreate "console" KeyMap.empty none).answer = .ok 0 ∧
      reached.registry.HasEnded 0 ∧ reached.registry.tick? 0 = none := by
  intro directory reached
  have live : reached.registry.get? "console" = some 0 := by decide +kernel
  have halted : (reached.registry.subscription? 0).map Subscription.phase = some .ended := by
    decide +kernel
  rcases Option.map_eq_some_iff.mp halted with ⟨subscription, present, ended⟩
  refine ⟨live, ?_, ⟨subscription, present, ended⟩, ?_⟩
  · simp [getOrCreate, findOrMake, live]
  · apply tick?_eq_none
    intro other same
    rw [present] at same
    cases same
    simp [ended]

end SharedRegistry

end ConsoleFeed
