import ConsoleFeed.Proofs.Registry.Departures
import ConsoleFeed.Proofs.Registry.Strokes

/-!
# Everything that can be done to entries

Moves leave three things out: a subscription may be built outside of the table, whoever holds a
handle may hand out another one, and when the streamer itself is dropped its table lets go of its
entries, one after the other and in any order. A `Deed` is a move or one of these. A run of deeds
has a log, in which each event carries the number of the entry that the deed was about.

What a deed does to the entries is quiet, or it cancels the entry that it is about (`Effect`):
either outright, by a handle or by a deactivation or a shutdown, or because nobody holds it any
more. With that the deeds keep account of the entries (`Coherent`): whatever is not cancelled is
held, what a deactivation has yet to cancel is out of the table, and what it reports is cancelled.
-/

namespace ConsoleFeed

namespace Registry

/-- The table lets go of what it holds for a key, if that is something: it is taken out, and the
handle that the table had on it is given back. -/
def letGo (registry : Registry) (key : String) : Reply Registry Unit :=
  match registry.remove key with
  | (none, state) => ⟨(), state, []⟩
  | (some number, state) => (state.lend number).giveBack number

end Registry

namespace SharedRegistry

open Registry

/-- A move, or something that moves leave out. -/
inductive Deed where
  | move (move : Move)
  | build (key : String) (options : OptionSet) (settings : StreamerSettings)
      (refusal : Option StartRefusal)
  | lend (number : Nat)
  | letGo (key : String)

/-- The events of a move. -/
def eventsOf (shared : SharedRegistry) : Move → List Event
  | .advance caller refusal =>
      (shared.calls[caller]?.map fun call => (call.step shared.registry refusal).events).getD []
  | .cancel number => (shared.registry.cancel number).events
  | .giveBack number => (shared.registry.giveBack number).events
  | .replaceOptions number options =>
      (shared.registry.onSubscription number () (·.replaceOptions options)).events
  | .endTick number options => (shared.registry.endTick number options).events
  | _ => []

/-- The registry and its callers after a deed, and its events. Whoever builds a subscription holds
it. -/
def enact (shared : SharedRegistry) : Deed → Reply SharedRegistry Unit
  | .move move => ⟨(), shared.perform move, shared.eventsOf move⟩
  | .build key options settings refusal =>
      let built := shared.registry.schedule key options settings refusal
      let state := built.answer.toOption.elim built.state built.state.lend
      ⟨(), { shared with registry := state }, built.events⟩
  | .lend number => ⟨(), { shared with registry := shared.registry.lend number }, []⟩
  | .letGo key =>
      let gone := shared.registry.letGo key
      ⟨(), { shared with registry := gone.state }, gone.events⟩

/-- The registry and its callers after deeds, one after the other. -/
def after (shared : SharedRegistry) (deeds : List Deed) : SharedRegistry :=
  deeds.foldl (fun state deed => (state.enact deed).state) shared

/-- The entry that the next step of a call is about. -/
def Call.subject? : Call → Option Nat
  | .leaving number _ => some number
  | call => call.inHand?.map Prod.snd

/-- The entry that a deed is about. -/
def subject? (shared : SharedRegistry) : Deed → Option Nat
  | .move (.advance caller _) => shared.calls[caller]?.bind Call.subject?
  | .move (.cancel number) | .move (.giveBack number) => some number
  | .letGo key => shared.registry.table.find? key
  | _ => none

/-- The entry that a deed cancels outright, whoever may hold it. -/
def outright? (shared : SharedRegistry) : Deed → Option Nat
  | .move (.advance caller _) => (shared.calls[caller]?.bind Call.pending?).map Prod.snd
  | .move (.cancel number) => some number
  | _ => none

/-- The log of a run: its events, each with the entry that the deed was about. -/
def logged (shared : SharedRegistry) : List Deed → List (Option Nat × Event)
  | [] => []
  | deed :: rest =>
      ((shared.enact deed).events.map fun event => (shared.subject? deed, event)) ++
        (shared.enact deed).state.logged rest

/-- What is done to the entries by something that is about one entry, and that may cancel one
outright: nothing is cancelled, or the one that it is about. -/
inductive Effect (before : Registry) (subject outright : Option Nat) (events : List Event)
    (after : Registry) : Prop where
  | quiet (spares : ∀ number, outright = some number → ∀ key mark,
        before.standing? number = some (key, mark) → mark = true)
      (quiet : Quiet before after) (silent : cancellations events = [])
  | cancelled (key : String) (number : Nat) (about : subject = some number)
      (hit : outright = some number) (strikes : Strikes before after key number .cancelled)
      (told : cancellations events = [.subscriptionCancelled key .cancelled])
  | dropped (key : String) (number : Nat) (about : subject = some number)
      (missed : outright = none) (strikes : Strikes before after key number .handleDropped)
      (told : cancellations events = [.subscriptionCancelled key .handleDropped])

section Silence

theorem silent_schedule (registry : Registry) (key : String) (options : OptionSet)
    (settings : StreamerSettings) (refusal : Option StartRefusal) :
    Silent (registry.schedule key options settings refusal).events := by
  rcases refusal with _ | (_ | _) <;>
    simp [Silent, schedule, StartRefusal.event, Event.isCancellation]

theorem silent_getOrCreate (registry : Registry) (key : String) (options : OptionSet)
    (refusal : Option StartRefusal) :
    Silent (registry.getOrCreate key options refusal).events := by
  have made := silent_schedule registry key options registry.settings refusal
  simp only [getOrCreate, findOrMake]
  cases registry.get? key with
  | some number => simp [Silent, Event.isCancellation]
  | none =>
      cases refusal with
      | none => exact made
      | some reason => exact made.append (by simp [Silent, Event.isCancellation])

theorem silent_onSubscription {Answer : Type} (registry : Registry) (number : Nat)
    (absent : Answer) {operation : Subscription → Reply Subscription Answer}
    (silent : ∀ subscription, Silent (operation subscription).events) :
    Silent (registry.onSubscription number absent operation).events := by
  simp only [onSubscription]
  split
  · exact silent_nil
  · exact silent _

theorem silent_replaceOptions (registry : Registry) (number : Nat) (options : OptionSet) :
    Silent (registry.onSubscription number () (·.replaceOptions options)).events := by
  apply silent_onSubscription
  intro subscription
  simp [Silent, Subscription.replaceOptions, Feed.replaceOptions, Event.isCancellation]

theorem silent_endTick (registry : Registry) (number : Nat) (options : OptionSet) :
    Silent (registry.endTick number options).events := by
  have asked := silent_takeSnapshot registry.directory (registry.keyOf number) options
  simp only [endTick, onDirectory]
  split
  · exact asked.append (silent_onSubscription _ number () fun _ => silent_nil)
  · rename_i payload _
    apply asked.append
    apply silent_onSubscription
    intro subscription
    have delivered := silent_deliver subscription.feed payload
    split
    · exact delivered
    · exact delivered.append (by simp [Silent, Event.isCancellation])

theorem Call.silent_sweepOn (registry : Registry) (count : Nat) (keys : List String) :
    Silent (Call.sweepOn registry count keys).events := by
  cases keys with
  | nil => simp [Silent, Call.sweepOn, Event.isCancellation]
  | cons key rest => exact silent_nil

end Silence

section Effects

variable {registry before after : Registry} {subject : Option Nat}

/-- Something quiet that cancels nothing outright. -/
theorem Effect.of_quiet {events : List Event} (quiet : Quiet before after)
    (silent : Silent events) : Effect before subject none events after :=
  .quiet nofun quiet silent.cancellations

/-- Of the events only the cancellations matter. -/
theorem Effect.congr {outright : Option Nat} {events others : List Event}
    (effect : Effect before subject outright events after)
    (same : cancellations others = cancellations events) :
    Effect before subject outright others after := by
  cases effect with
  | quiet spares quiet silent => exact .quiet spares quiet (same.trans silent)
  | cancelled key number about hit strikes told =>
      exact .cancelled key number about hit strikes (same.trans told)
  | dropped key number about missed strikes told =>
      exact .dropped key number about missed strikes (same.trans told)

theorem effect_cancel (registry : Registry) (number : Nat) :
    Effect registry (some number) (some number) (registry.cancel number).events
      (registry.cancel number).state := by
  rcases registry.cancel_cases number with ⟨idle, marked⟩ | ⟨key, strikes, told⟩
  · rw [idle]
    refine .quiet ?_ (.refl registry) rfl
    rintro _ ⟨⟩
    exact marked
  · exact .cancelled key number rfl rfl strikes (by rw [told]; rfl)

theorem effect_giveBack (registry : Registry) (number : Nat) :
    Effect registry (some number) none (registry.giveBack number).events
      (registry.giveBack number).state := by
  rcases registry.giveBack_cases number with ⟨quiet, silent⟩ | ⟨key, strikes, told⟩
  · exact .of_quiet quiet (silent ▸ silent_nil)
  · exact .dropped key number rfl rfl strikes (by rw [told]; rfl)

/-- What the table lets go of is taken out first, and then given back. -/
theorem effect_letGo (owned : registry.Owned) (key : String) :
    Effect registry (registry.table.find? key) none (registry.letGo key).events
      (registry.letGo key).state := by
  rcases registry.remove_entries key with ⟨absent, _⟩ | ⟨number, found, removes⟩
  · simp only [letGo, absent]
    exact .of_quiet (.refl registry) silent_nil
  · have taken := registry.quiet_without number owned removes.held
    have same := sameEntries_lend (registry.without key) number
    simp only [letGo, found, removes.held]
    rcases giveBack_cases ((registry.without key).lend number) number with
      ⟨quiet, silent⟩ | ⟨of, strikes, told⟩
    · exact .of_quiet (taken.trans quiet) (silent ▸ silent_nil)
    · refine .dropped of number rfl rfl (taken.trans_strikes same.standing ?_ strikes)
        (by rw [told]; rfl)
      intro other entry there
      rw [same.table, removes.table, KeyMap.find?_erase] at there
      split at there
      · cases there
      · exact there

theorem Deactivation.effect_step (owned : registry.Owned) (deactivation : Deactivation) :
    Effect registry (deactivation.inHand?.map Prod.snd) (deactivation.pending?.map Prod.snd)
      (deactivation.step registry).events (deactivation.step registry).state := by
  cases deactivation with
  | removing key =>
      rcases registry.remove_entries key with ⟨absent, _⟩ | ⟨number, found, removes⟩
      · simp only [Deactivation.step, absent]
        exact .of_quiet (.refl registry) (by simp [Silent, Event.isCancellation])
      · simp only [Deactivation.step, found]
        exact .of_quiet (registry.quiet_without number owned removes.held) silent_nil
  | cancelling key number => exact effect_cancel registry number
  | reporting key number =>
      exact (effect_giveBack registry number).congr
        (List.filter_cons_of_neg (by simp [Event.isCancellation]))
  | finished found => exact .of_quiet (.refl registry) silent_nil

theorem Call.effect_step (owned : registry.Owned) (refusal : Option StartRefusal) (call : Call) :
    Effect registry call.subject? (call.pending?.map Prod.snd) (call.step registry refusal).events
      (call.step registry refusal).state := by
  cases call with
  | looking key options wish =>
      cases live : registry.get? key with
      | some number =>
          simp only [Call.step, live]
          exact .of_quiet (registry.quiet_lend number) (by simp [Silent, Event.isCancellation])
      | none =>
          simp only [Call.step, live]
          exact .of_quiet (.refl registry) silent_nil
  | entering key options wish =>
      have silent := silent_getOrCreate registry key options refusal
      rcases registry.getOrCreate_cases key options refusal with
        ⟨found, _, answer, same⟩ | ⟨reason, _, _, answer, same⟩ | ⟨absent, _, answer, made⟩
      · simp only [Call.step, answer, same]
        exact .of_quiet (registry.quiet_lend found) silent
      · simp only [Call.step, answer, same]
        exact .of_quiet (.refl registry) silent
      · simp only [Call.step, answer, made]
        exact .of_quiet ((registry.quiet_entered absent options).trans (quiet_lend _ _)) silent
  | holding number wish =>
      cases wish with
      | handle | snapshot => exact .of_quiet (.refl registry) silent_nil
      | stream => exact .of_quiet (registry.quiet_onChannel number _) silent_nil
  | asking number options =>
      exact .of_quiet (registry.quiet_directory _) (silent_takeSnapshot _ _ _)
  | leaving number answer => exact effect_giveBack registry number
  | updating key options =>
      cases live : registry.get? key <;> simp only [Call.step, live] <;>
        exact .of_quiet (.refl registry) (by simp [Silent, Event.isCancellation])
  | replacing number options =>
      exact .of_quiet (registry.quiet_replaceOptions number options)
        (silent_replaceOptions registry number options)
  | deactivating deactivation =>
      have effect := deactivation.effect_step owned
      rw [Call.step]
      split <;> exact effect
  | listing keys =>
      rcases Call.sweepOn_entries registry 0 keys with ⟨same, _⟩
      simp only [Call.step, same]
      exact .of_quiet (.refl registry) (Call.silent_sweepOn registry 0 keys)
  | sweeping deactivation keys count =>
      have effect := deactivation.effect_step owned
      rw [Call.step]
      dsimp only
      split
      · rename_i found _
        rcases Call.sweepOn_entries (deactivation.step registry).state
          (count + if found then 1 else 0) keys with ⟨same, _⟩
        have silent := Call.silent_sweepOn (deactivation.step registry).state
          (count + if found then 1 else 0) keys
        simp only [same]
        exact effect.congr (by rw [cancellations_append, silent.cancellations, List.append_nil])
      · exact effect
  | done answer => exact .of_quiet (.refl registry) silent_nil

/-- What a deed does to the entries. -/
theorem effect_enact (shared : SharedRegistry) (owned : shared.registry.Owned) (deed : Deed) :
    Effect shared.registry (shared.subject? deed) (shared.outright? deed)
      (shared.enact deed).events (shared.enact deed).state.registry := by
  cases deed with
  | move move =>
      cases move with
      | invoke request => exact .of_quiet (.refl _) silent_nil
      | advance caller refusal =>
          simp only [subject?, outright?, enact, SharedRegistry.perform, eventsOf]
          cases present : shared.calls[caller]? with
          | none => exact .of_quiet (.refl _) silent_nil
          | some call => exact call.effect_step owned refusal
      | list caller key =>
          have same : (shared.perform (.list caller key)).registry = shared.registry := by
            simp only [SharedRegistry.perform]
            split
            · split <;> rfl
            · rfl
          simp only [enact, same]
          exact .of_quiet (.refl _) silent_nil
      | cancel number => exact effect_cancel shared.registry number
      | giveBack number => exact effect_giveBack shared.registry number
      | replaceOptions number options =>
          exact .of_quiet (shared.registry.quiet_replaceOptions number options)
            (silent_replaceOptions shared.registry number options)
      | beginTick number => exact .of_quiet (shared.registry.quiet_beginTick number) silent_nil
      | endTick number options =>
          exact .of_quiet (shared.registry.quiet_endTick number options)
            (silent_endTick shared.registry number options)
      | changeChannel number change =>
          exact .of_quiet (shared.registry.quiet_changing number (fun _ => rfl) (fun _ => rfl)
            fun _ => Nat.le_refl _) silent_nil
      | changeProviders directory =>
          exact .of_quiet (shared.registry.quiet_directory directory) silent_nil
  | build key options settings refusal =>
      have silent := silent_schedule shared.registry key options settings refusal
      cases refusal with
      | some reason => exact .of_quiet (.refl _) silent
      | none => exact .of_quiet (shared.registry.quiet_schedule key options settings) silent
  | lend number => exact .of_quiet (shared.registry.quiet_lend number) silent_nil
  | letGo key => exact effect_letGo owned key

end Effects

namespace Effect

variable {before after : Registry} {subject outright : Option Nat} {events : List Event}

/-- Leaving out what is logged, and who is struck why. -/
theorem quiet_or_strikes (effect : Effect before subject outright events after) :
    Quiet before after ∨ ∃ key number reason, Strikes before after key number reason := by
  cases effect with
  | quiet _ quiet _ => exact Or.inl quiet
  | cancelled key number _ _ strikes _ | dropped key number _ _ strikes _ =>
      exact Or.inr ⟨key, number, _, strikes⟩

/-- An entry keeps its key, and stays cancelled once it is. -/
theorem standing (effect : Effect before subject outright events after) {number : Nat}
    {key : String} {mark : Bool} (present : before.standing? number = some (key, mark)) :
    ∃ later, after.standing? number = some (key, later) ∧ (mark = true → later = true) := by
  rcases effect.quiet_or_strikes with quiet | ⟨of, hit, _, strikes⟩
  · exact ⟨mark, quiet.kept number _ present, id⟩
  · by_cases same : number = hit
    · subst same
      cases strikes.live.symm.trans present
      exact ⟨true, strikes.marked, fun _ => rfl⟩
    · exact ⟨mark, (strikes.others number same).trans present, id⟩

/-- An entry that is made is not cancelled. -/
theorem absent (effect : Effect before subject outright events after) {number : Nat}
    (absent : before.standing? number = none) :
    after.standing? number = none ∨ ∃ key, after.standing? number = some (key, false) := by
  rcases effect.quiet_or_strikes with quiet | ⟨of, hit, _, strikes⟩
  · cases made : after.standing? number with
    | none => exact Or.inl rfl
    | some entry =>
        have unmarked := (quiet.made number entry absent made).1
        exact Or.inr ⟨entry.1, by rw [← unmarked]⟩
  · have different : number ≠ hit := by
      rintro rfl
      cases absent.symm.trans strikes.live
    exact Or.inl ((strikes.others number different).trans absent)

theorem cancelled_stays (effect : Effect before subject outright events after) {number : Nat}
    {key : String} (cancelled : before.standing? number = some (key, true)) :
    after.standing? number = some (key, true) := by
  rcases effect.standing cancelled with ⟨later, present, stays⟩
  rw [present, stays rfl]

/-- What the table holds afterwards it held before, or it is new. -/
theorem tabled (effect : Effect before subject outright events after) {key : String} {number : Nat}
    (found : after.table.find? key = some number) :
    before.table.find? key = some number ∨
      before.standing? number = none ∧ after.standing? number = some (key, false) := by
  rcases effect.quiet_or_strikes with quiet | ⟨_, _, _, strikes⟩
  · exact quiet.tabled key number found
  · exact Or.inl (strikes.tabled key number found)

theorem owned (effect : Effect before subject outright events after) (owned : before.Owned) :
    after.Owned := by
  intro key number found
  rcases effect.tabled found with earlier | ⟨_, made⟩
  · rcases owned key number earlier with ⟨mark, present⟩
    rcases effect.standing present with ⟨later, there, _⟩
    exact ⟨later, there⟩
  · exact ⟨false, made⟩

/-- Whatever is not cancelled stays held. -/
theorem held (effect : Effect before subject outright events after)
    (held : ∀ number key, before.standing? number = some (key, false) →
      before.isHeld number = true) {number : Nat} {key : String}
    (live : after.standing? number = some (key, false)) : after.isHeld number = true := by
  rcases effect.quiet_or_strikes with quiet | ⟨_, hit, _, strikes⟩
  · cases earlier : before.standing? number with
    | none => exact (quiet.made number _ earlier live).2
    | some entry =>
        cases (quiet.kept number entry earlier).symm.trans live
        exact quiet.held number (isCancelled_of_standing earlier) (held number key earlier)
  · have different : number ≠ hit := by
      rintro rfl
      exact absurd (strikes.marked.symm.trans live) (by simp)
    have earlier := (strikes.others number different).symm.trans live
    exact strikes.held number different (isCancelled_of_standing earlier)
      (held number key earlier)

/-- An entry that the table does not hold does not get into it. -/
theorem outside (effect : Effect before subject outright events after) {number : Nat}
    {entry : String × Bool} (present : before.standing? number = some entry)
    (outside : ∀ key, before.table.find? key ≠ some number) (key : String) :
    after.table.find? key ≠ some number := by
  intro found
  rcases effect.tabled found with earlier | ⟨absent, _⟩
  · exact outside key earlier
  · exact absurd (absent.symm.trans present) nofun

end Effect

/-- What a deactivation that is under way can rely on: an entry that it has yet to cancel is out of
the table, and one that it is to report is cancelled. -/
def Deactivation.Reliable (registry : Registry) : Deactivation → Prop
  | .cancelling key number => (∃ mark, registry.standing? number = some (key, mark)) ∧
      ∀ other, registry.table.find? other ≠ some number
  | .reporting key number => registry.standing? number = some (key, true)
  | _ => True

/-- Account is kept of the entries: the table holds them under their own keys, whatever is not
cancelled is held, and the deactivations that are under way can rely on what they have done. -/
structure Coherent (shared : SharedRegistry) : Prop where
  owned : shared.registry.Owned
  held : ∀ number key, shared.registry.standing? number = some (key, false) →
    shared.registry.isHeld number = true
  reliable : ∀ call ∈ shared.calls, ∀ deactivation, call.deactivation? = some deactivation →
    deactivation.Reliable shared.registry

section Coherence

variable {registry before later : Registry} {shared : SharedRegistry}

theorem Deactivation.Reliable.effect {subject outright : Option Nat} {events : List Event}
    {deactivation : Deactivation} (reliable : deactivation.Reliable before)
    (effect : Effect before subject outright events later) : deactivation.Reliable later := by
  cases deactivation with
  | removing key | finished found => trivial
  | cancelling key number =>
      rcases reliable with ⟨⟨mark, present⟩, outside⟩
      rcases effect.standing present with ⟨mark, there, _⟩
      exact ⟨⟨mark, there⟩, effect.outside present outside⟩
  | reporting key number => exact effect.cancelled_stays reliable

theorem Deactivation.reliable_step (owned : registry.Owned) {deactivation : Deactivation}
    (reliable : deactivation.Reliable registry) :
    (deactivation.step registry).answer.Reliable (deactivation.step registry).state := by
  cases deactivation with
  | removing key =>
      rcases registry.remove_entries key with ⟨absent, _⟩ | ⟨number, found, removes⟩
      · simp only [Deactivation.step, absent]
        trivial
      · simp only [Deactivation.step, found]
        have same := sameEntries_lend (registry.without key) number
        rcases owned key number removes.held with ⟨mark, present⟩
        refine ⟨⟨mark, (same.standing number).trans ((removes.standing number).trans present)⟩, ?_⟩
        intro other there
        rw [same.table, removes.table, KeyMap.find?_erase] at there
        split at there
        · cases there
        · rename_i different
          -- the table holds an entry under its own key only
          rcases owned other number there with ⟨_, ofOther⟩
          cases present.symm.trans ofOther
          exact different rfl
  | cancelling key number =>
      rcases reliable with ⟨⟨mark, present⟩, _⟩
      have marked : (registry.cancel number).state.standing? number = some (key, true) := by
        simpa using (registry.cancelsEntry_cancel number).standing_of present
      exact marked
  | reporting key number | finished found => trivial

/-- What a call deactivates after a step is what it deactivated before, a step on, or something that
it has just begun with. -/
theorem Call.deactivation?_step (registry : Registry) (refusal : Option StartRefusal) (call : Call)
    {later : Deactivation}
    (deactivates : (call.step registry refusal).answer.deactivation? = some later) :
    (∃ key, later = .removing key) ∨
      ∃ deactivation, call.deactivation? = some deactivation ∧
        later = (deactivation.step registry).answer ∧
        (call.step registry refusal).state = (deactivation.step registry).state := by
  have begun : ∀ state count keys, (Call.sweepOn state count keys).answer.deactivation? =
      some later → ∃ key, later = .removing key := by
    intro state count keys swept
    cases keys with
    | nil => cases swept
    | cons key rest =>
        cases swept
        exact ⟨key, rfl⟩
  cases call with
  | deactivating deactivation =>
      right
      refine ⟨deactivation, rfl, ?_⟩
      simp only [Call.step] at deactivates ⊢
      split at deactivates
      · cases deactivates
      · cases deactivates
        exact ⟨rfl, rfl⟩
  | listing keys => exact Or.inl (begun registry 0 keys deactivates)
  | sweeping deactivation keys count =>
      simp only [Call.step] at deactivates ⊢
      split at deactivates
      · exact Or.inl (begun _ _ _ deactivates)
      · cases deactivates
        exact Or.inr ⟨deactivation, rfl, rfl, rfl⟩
  | looking key options wish | updating key options =>
      simp only [Call.step] at deactivates
      split at deactivates <;> cases deactivates
  | entering key options wish =>
      simp only [Call.step] at deactivates
      split at deactivates <;> cases deactivates
  | holding number wish => cases wish <;> cases deactivates
  | _ => cases deactivates

theorem coherent_start (name : String) (settings : StreamerSettings) (directory : Directory) :
    (start name settings directory).Coherent where
  owned := owned_create name settings directory
  held number key standing := by
    simp [start, Registry.create, standing?, subscription?] at standing
  reliable call member := nomatch member

/-- The registry is changed, and the calls are as they were. -/
theorem Coherent.effect (coherent : shared.Coherent) {subject outright : Option Nat}
    {events : List Event} (effect : Effect shared.registry subject outright events later) :
    Coherent { shared with registry := later } where
  owned := effect.owned coherent.owned
  held _ _ live := effect.held coherent.held live
  reliable call member deactivation deactivates :=
    (coherent.reliable call member deactivation deactivates).effect effect

theorem Coherent.advance (coherent : shared.Coherent) {caller : Nat} {call : Call}
    (present : shared.calls[caller]? = some call) (refusal : Option StartRefusal) :
    Coherent ⟨(call.step shared.registry refusal).state,
      shared.calls.set caller (call.step shared.registry refusal).answer⟩ := by
  have effect := call.effect_step coherent.owned refusal
  have changed := coherent.effect effect
  refine ⟨changed.owned, changed.held, ?_⟩
  intro other member deactivation deactivates
  rcases List.mem_or_eq_of_mem_set member with old | new
  · exact changed.reliable other old deactivation deactivates
  · subst new
    rcases call.deactivation?_step shared.registry refusal deactivates with
      ⟨key, rfl⟩ | ⟨earlier, own, rfl, same⟩
    · trivial
    · have before := coherent.reliable call (List.mem_of_getElem? present) earlier own
      rw [same]
      exact Deactivation.reliable_step coherent.owned before

/-- Account is kept through every deed. -/
theorem Coherent.enact (coherent : shared.Coherent) (deed : Deed) :
    (shared.enact deed).state.Coherent := by
  have effect := shared.effect_enact coherent.owned deed
  cases deed with
  | build key options settings refusal | lend number | letGo key => exact coherent.effect effect
  | move move =>
      cases move with
      | invoke request =>
          refine ⟨coherent.owned, coherent.held, ?_⟩
          intro call member deactivation deactivates
          rcases List.mem_append.mp member with old | new
          · exact coherent.reliable call old deactivation deactivates
          · rw [List.mem_singleton.mp new] at deactivates
            cases request <;> cases deactivates
            trivial
      | advance caller refusal =>
          simp only [SharedRegistry.enact, SharedRegistry.perform]
          cases present : shared.calls[caller]? with
          | none => exact coherent
          | some call => exact coherent.advance present refusal
      | list caller key =>
          simp only [SharedRegistry.enact, SharedRegistry.perform]
          split
          · split
            · refine ⟨coherent.owned, coherent.held, ?_⟩
              intro call member deactivation deactivates
              rcases List.mem_or_eq_of_mem_set member with old | new
              · exact coherent.reliable call old deactivation deactivates
              · subst new
                cases deactivates
            · exact coherent
          · exact coherent
      | _ => exact coherent.effect effect

theorem Coherent.after (coherent : shared.Coherent) (deeds : List Deed) :
    (shared.after deeds).Coherent := by
  induction deeds generalizing shared with
  | nil => exact coherent
  | cons deed rest ih => exact ih (coherent.enact deed)

theorem standing_after (coherent : shared.Coherent) {number : Nat} {key : String}
    (cancelled : shared.registry.standing? number = some (key, true)) (deeds : List Deed) :
    (shared.after deeds).registry.standing? number = some (key, true) := by
  induction deeds generalizing shared with
  | nil => exact cancelled
  | cons deed rest ih =>
      have effect := shared.effect_enact coherent.owned deed
      exact ih (coherent.enact deed) (effect.cancelled_stays cancelled)

end Coherence

end SharedRegistry

end ConsoleFeed
