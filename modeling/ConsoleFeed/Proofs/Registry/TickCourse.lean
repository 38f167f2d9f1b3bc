import ConsoleFeed.Proofs.Channel.Remaining
import ConsoleFeed.Proofs.Provider.Absorbing
import ConsoleFeed.Proofs.Registry.EntryReadings
import ConsoleFeed.Proofs.Registry.ProviderCalls
import ConsoleFeed.Provider.Scripted

/-!
# The course of an entry's ticks

Whatever the provider does, a tick publishes something: what it was asked for is met (`metOn`), and
what is shown for it goes on the channel. So an entry of which the loop runs goes on running, and
its channel gets one payload for each tick, as long as lookups return and nothing comes that cancels
the entry or gives it other options. Anything else may come between the ticks: other providers are
registered, snapshots are taken, receivers come and go. That the entry runs is kept by every such
use (`runs_use`); what its channel gets follows from the acts that the uses are on it.
-/

namespace ConsoleFeed

namespace Subscription

/-- The subscription is one of the key with these options, it is not cancelled, and its loop has not
ended. -/
structure Runs (subscription : Subscription) (key : String) (options : OptionSet) : Prop where
  key : subscription.key = key
  options : subscription.feed.options = options
  uncancelled : subscription.isCancelled = false
  running : subscription.phase ≠ .ended

end Subscription

namespace Registry

/-- A use does not cancel the entry of a key, and gives it no other options. A handle may be given
back while the table holds the entry. -/
def Use.Spares (held : Prop) (key : String) (number : Nat) : Use Nat → Prop
  | .onKey other .deactivate | .onKey other (.updateOptions _) => other ≠ key
  | .onEntry entry .cancel | .onEntry entry (.replaceOptions _) => entry ≠ number
  | .onEntry entry .giveBack => entry = number → held
  | .shutdown => False
  | _ => True

/-- The options of the tick that a use ends of an entry. -/
def Use.tickEnded? (number : Nat) : Use Nat → Option OptionSet
  | .onEntry entry (.endTick options) => if entry = number then some options else none
  | _ => none

@[simp]
theorem Use.tickEnded?_endTick (number : Nat) (options : OptionSet) :
    (Use.onEntry number (.endTick options)).tickEnded? number = some options :=
  if_pos rfl

/-- What the tick meets that a use ends of an entry. -/
def met? (registry : Registry) (number : Nat) (use : Use Nat) : Option (Option Outcome) :=
  (use.tickEnded? number).map (registry.directory.met (registry.keyOf number))

/-- What the ticks of an entry meet in the course of uses. -/
def metOn (registry : Registry) (number : Nat) : List (Use Nat) → List (Option Outcome)
  | [] => []
  | use :: rest => (registry.met? number use).toList ++ (registry.use use).state.metOn number rest

/-- The lookups for the ticks of an entry return in the course of uses. -/
def TicksReturn (registry : Registry) (number : Nat) : List (Use Nat) → Prop
  | [] => True
  | use :: rest =>
      (use.tickEnded? number ≠ none → registry.directory.Returns (registry.keyOf number)) ∧
        (registry.use use).state.TicksReturn number rest

/-- A subscription goes on to run in the course of uses, in which these payloads are published on
its entry. The acts on its channel are those that the uses are on it, and these are the payloads
published in them. Each tick publishes the payload that stands where the ticks before it end. A
receiver that is there, and neither reads nor leaves, has just these payloads more to read. -/
structure RunsOn (registry : Registry) (number : Nat) (uses : List (Use Nat))
    (before after : Subscription) (payloads : List String) : Prop where
  runs : after.Runs before.key before.feed.options
  channel : after.feed.channel.bare =
    before.feed.channel.bare.run (registry.channelCourse number uses)
  published : Channel.publishedIn (registry.channelCourse number uses) = payloads
  ticks : ∀ earlier options later, uses = earlier ++ .onEntry number (.endTick options) :: later →
    ∃ channel text, (registry.afterUses earlier).channel? number = some channel ∧
      payloads[(earlier.filterMap (Use.tickEnded? number)).length]? = some text ∧
      (registry.afterUses (earlier ++ [.onEntry number (.endTick options)])).channel? number =
        some (channel.publish text).2
  receivers : ∀ id inbox, Channel.Serves before.feed.channel.bare id inbox →
    (∀ act, .onEntry number (.channel act) ∈ uses → act.actor? ≠ some id) →
    Channel.Serves after.feed.channel.bare id (inbox ++ payloads)

/-- One thing is met for each tick that is ended. -/
theorem length_metOn (registry : Registry) (number : Nat) (uses : List (Use Nat)) :
    (registry.metOn number uses).length = (uses.filterMap (Use.tickEnded? number)).length := by
  induction uses generalizing registry with
  | nil => rfl
  | cons use rest ih =>
      rw [metOn, List.length_append, ih, met?]
      cases ended : use.tickEnded? number with
      | none => simp [ended]
      | some options => simp [ended, Nat.add_comm]

theorem metOn_append (registry : Registry) (number : Nat) (earlier later : List (Use Nat)) :
    registry.metOn number (earlier ++ later) =
      registry.metOn number earlier ++ (registry.afterUses earlier).metOn number later := by
  induction earlier generalizing registry with
  | nil => rfl
  | cons use rest ih =>
      rw [List.cons_append, metOn, metOn, ih, List.append_assoc]
      rfl

theorem TicksReturn.split {registry : Registry} {number : Nat} {earlier later : List (Use Nat)}
    (returns : registry.TicksReturn number (earlier ++ later)) :
    registry.TicksReturn number earlier ∧
      (registry.afterUses earlier).TicksReturn number later := by
  induction earlier generalizing registry with
  | nil => exact ⟨trivial, returns⟩
  | cons use rest ih =>
      rcases returns with ⟨now, soon⟩
      rcases ih soon with ⟨first, second⟩
      exact ⟨⟨now, first⟩, second⟩

section Lookups

variable {registry : Registry}

theorem succeed_use (succeed : registry.directory.LookupsSucceed) {use : Use Nat}
    (fine : ∀ provider, use = .register provider → provider.lookupFault = none) :
    (registry.use use).state.directory.LookupsSucceed := by
  apply registry.directory_keeps Directory.LookupsSucceed succeed
  · exact fun key options => (Directory.takeSnapshot_ok key options succeed).2
  · exact fun provider isUse => succeed.register (fine provider isUse)
  · exact fun key => succeed.unregister key

/-- Lookups return if no provider was ever registered that panics when it is looked up. -/
theorem ticksReturn_of_succeed (succeed : registry.directory.LookupsSucceed) (number : Nat)
    {uses : List (Use Nat)}
    (fine : ∀ provider, .register provider ∈ uses → provider.lookupFault = none) :
    registry.TicksReturn number uses := by
  induction uses generalizing registry with
  | nil => trivial
  | cons use rest ih =>
      refine ⟨fun _ => succeed.returns _, ih (succeed_use succeed ?_) ?_⟩
      · rintro provider rfl
        exact fine provider List.mem_cons_self
      · intro provider member
        exact fine provider (List.mem_cons_of_mem use member)

end Lookups

section Steps

variable {registry : Registry} {number : Nat} {key : String} {options : OptionSet}
  {before : Subscription}

/-- A payload that is delivered to a running entry leaves it running. -/
theorem runs_delivered (runs : before.Runs key options) (text : String) :
    (delivered text before).Runs key options := by
  have unmarked : before.feed.cancelled = false := runs.uncancelled
  have after : delivered text before =
      { before.withChannel (before.feed.channel.publish text).2 with phase := .waiting } := by
    simp [delivered, Feed.deliver, unmarked, Subscription.isCancelled, Subscription.withChannel]
  rw [after]
  refine ⟨runs.key, runs.options, runs.uncancelled, ?_⟩
  intro ended
  cases ended

/-- An act on a running entry leaves it running, if the lookup returns for a tick. -/
theorem runs_outcome (runs : before.Runs key options) {act : EntryAct} {held : Prop}
    (spared : (Use.onEntry number act).Spares held key number) {inTable : Bool}
    (listed : held → inTable = true) {directory : Directory}
    (returns : (Use.onEntry number act).tickEnded? number ≠ none → directory.Returns key) :
    (act.outcome before inTable directory).state.1.Runs key options := by
  have lending : ∀ lent, Subscription.Runs { before with lent := lent } key options :=
    fun _ => ⟨runs.key, runs.options, runs.uncancelled, runs.running⟩
  cases act with
  | cancel | replaceOptions given => exact absurd rfl spared
  | endTick given =>
      have taken := (Directory.answers_of_returns (returns (by simp)) given).2
      simp only [EntryAct.outcome, runs.key, taken]
      exact runs_delivered runs _
  | giveBack =>
      simp only [EntryAct.outcome, listed (spared rfl), Bool.true_or, if_true]
      exact lending _
  | channel act => exact ⟨runs.key, runs.options, runs.uncancelled, runs.running⟩
  | beginTick =>
      simp only [EntryAct.outcome]
      split
      · refine ⟨runs.key, runs.options, runs.uncancelled, ?_⟩
        intro ended
        cases ended
      · exact runs
  | lend => exact lending _
  | inspect | snapshot | trySnapshot => exact runs

/-- What is done under a key leaves the entries of other keys alone. -/
theorem subscription?_onKey_of_ne (owned : registry.Owned)
    (present : registry.subscription? number = some before) {other : String}
    (foreign : other ≠ before.key) {act : KeyAct}
    (changes : act = .deactivate ∨ ∃ options, act = .updateOptions options) :
    (registry.onKey other act).state.subscription? number = some before := by
  have apart : ∀ {found subscription}, registry.subscription? found = some subscription →
      subscription.key = other → number ≠ found := by
    rintro found subscription there own rfl
    rw [present] at there
    cases there
    exact foreign own.symm
  rcases changes with rfl | ⟨options, rfl⟩
  · simp only [onKey, deactivate]
    rcases registry.remove_entries other with ⟨absent, _⟩ | ⟨found, removed, removes⟩
    · simp only [absent]
      exact present
    · rcases owned.present removes.held with ⟨subscription, there, own⟩
      simp only [removed, cancel, state_onSubscription, subscription?_changing,
        if_neg (apart there own)]
      exact present
  · have replaced : (registry.updateLive other options).state.subscription? number =
        some before := by
      simp only [updateLive]
      cases live : registry.get? other with
      | none => exact present
      | some found =>
          rcases owned.present_of_get? live with ⟨subscription, there, own⟩
          simp only [state_onSubscription, subscription?_changing, if_neg (apart there own)]
          exact present
    simp only [onKey, updateOptions]
    split <;> exact replaced

/-- What is done under a key leaves a running entry running. -/
theorem runs_onKey (owned : registry.Owned)
    (present : registry.subscription? number = some before) (runs : before.Runs key options)
    {other : String} {act : KeyAct} {held : Prop}
    (spared : (Use.onKey other act).Spares held key number) :
    ∃ after, (registry.onKey other act).state.subscription? number = some after ∧
      after.Runs key options := by
  by_cases changes : act = .deactivate ∨ ∃ options, act = .updateOptions options
  · have foreign : other ≠ before.key := by
      rw [runs.key]
      rcases changes with rfl | ⟨_, rfl⟩ <;> exact spared
    exact ⟨before, subscription?_onKey_of_ne owned present foreign changes, runs⟩
  · rcases entryMove_onKey present other act with ⟨after, found, move⟩
    refine ⟨after, found, ?_⟩
    generalize (registry.onKey other act).answer = answer at move
    cases move with
    | kept => exact runs
    | opened => exact ⟨runs.key, runs.options, runs.uncancelled, runs.running⟩
    | replaced => exact absurd (Or.inr ⟨_, rfl⟩) changes
    | cancelled sweeps =>
        rcases sweeps with absurd | ⟨_, same⟩
        · cases absurd
        · cases same
          exact absurd (Or.inl rfl) changes

/-- What is done with another entry leaves an entry as it is. -/
theorem subscription?_onEntry_of_ne (present : registry.subscription? number = some before)
    {entry : Nat} (different : number ≠ entry) (act : EntryAct) :
    (registry.onEntry entry act).state.subscription? number = some before := by
  cases there : registry.subscription? entry with
  | none =>
      simp only [onEntry, there]
      exact present
  | some subscription =>
      rw [onEntry_eq there act]
      have same := registry.subscription?_changing entry
        (fun _ => (act.outcome subscription (registry.inTable entry) registry.directory).state.1)
        number
      rw [if_neg different, present] at same
      exact same

/-- A use that spares an entry leaves it running. -/
theorem runs_use (owned : registry.Owned)
    (present : registry.subscription? number = some before) (runs : before.Runs key options)
    {use : Use Nat} {held : Prop} (spared : use.Spares held key number)
    (listed : held → registry.inTable number = true)
    (returns : use.tickEnded? number ≠ none → registry.directory.Returns key) :
    ∃ after, (registry.use use).state.subscription? number = some after ∧
      after.Runs key options := by
  cases use with
  | onKey other act => exact runs_onKey owned present runs spared
  | register provider => exact ⟨before, present, runs⟩
  | shutdown => exact absurd spared id
  | onEntry entry act =>
      by_cases same : entry = number
      · subst same
        have changed := registry.subscription?_changing entry
          (fun _ => (act.outcome before (registry.inTable entry) registry.directory).state.1) entry
        rw [if_pos rfl, present] at changed
        refine ⟨_, ?_, runs_outcome runs spared listed returns⟩
        simp only [Registry.use, onEntry_eq present act]
        exact changed
      · exact ⟨before, subscription?_onEntry_of_ne present (Ne.symm same) act, runs⟩

/-- What is published on a running entry is what is shown for what its tick met. -/
theorem published?_eq_shown (present : registry.subscription? number = some before)
    (runs : before.Runs key options) {use : Use Nat}
    (returns : use.tickEnded? number ≠ none → registry.directory.Returns key) :
    registry.published? number use = (registry.met? number use).map Directory.shown := by
  by_cases ending : ∃ given, use = .onEntry number (.endTick given)
  · rcases ending with ⟨given, rfl⟩
    have taken := (Directory.answers_of_returns (returns (by simp)) given).2
    rw [published?_endTick present, runs.uncancelled, runs.key, taken, met?,
      Use.tickEnded?_endTick, keyOf_of_present present, runs.key]
    rfl
  · have none : use.tickEnded? number = none := by
      unfold Use.tickEnded?
      split
      · rename_i entry given
        apply if_neg
        rintro rfl
        exact ending ⟨given, rfl⟩
      · rfl
    rw [met?, none, published?_of_foreign fun given same => ending ⟨given, same⟩]
    rfl

theorem Use.Spares.not_ends {use : Use Nat} {held : Prop} (spared : use.Spares held key number) :
    ¬ use.Ends key number := by
  rintro (rfl | rfl | rfl)
  · exact spared rfl
  · exact spared
  · exact spared rfl

theorem inTable_of_stands (stands : registry.Stands key number) :
    registry.inTable number = true :=
  registry.inTable_of_find? stands.1

/-- An entry runs in the course of uses that spare it, and what is published on it is what is shown
for what its ticks met, in this order. -/
theorem runs_afterUses (owned : registry.Owned)
    (present : registry.subscription? number = some before) (runs : before.Runs key options)
    {uses : List (Use Nat)} {held : Prop} (spared : ∀ use ∈ uses, use.Spares held key number)
    (stands : held → registry.Stands key number)
    (returns : registry.TicksReturn number uses) :
    ∃ after, (registry.afterUses uses).subscription? number = some after ∧
      after.Runs key options ∧
      registry.publishedOn number uses = (registry.metOn number uses).map Directory.shown ∧
      (held → (registry.afterUses uses).Stands key number) := by
  induction uses generalizing registry before with
  | nil => exact ⟨before, present, runs, rfl, stands⟩
  | cons use rest ih =>
      rcases returns with ⟨returnsNow, returnsLater⟩
      have sparedNow := spared use List.mem_cons_self
      rw [keyOf_of_present present, runs.key] at returnsNow
      have publishedNow := published?_eq_shown present runs returnsNow
      rcases runs_use owned present runs sparedNow (fun held => inTable_of_stands (stands held))
        returnsNow with ⟨between, presentLater, runsLater⟩
      have standsLater : held → (registry.use use).state.Stands key number := by
        intro isHeld
        rcases registry.turn_use use with rfl | turn
        · exact absurd sparedNow id
        · exact (stands isHeld).turn owned turn sparedNow.not_ends
      rcases ih (owned.use use) presentLater runsLater
        (fun other member => spared other (List.mem_cons_of_mem use member)) standsLater
        returnsLater with ⟨after, presentLast, runsLast, publishedLater, standsLast⟩
      refine ⟨after, presentLast, runsLast, ?_, standsLast⟩
      rw [publishedOn, metOn, publishedNow, publishedLater, List.map_append, Option.toList_map]

/-- Each tick in the course of uses that spare a running entry publishes what is shown for what it
met. -/
theorem publishes_at_tick (owned : registry.Owned)
    (present : registry.subscription? number = some before) (runs : before.Runs key options)
    {earlier later : List (Use Nat)} {given : OptionSet} {held : Prop}
    (spared : ∀ use ∈ earlier ++ .onEntry number (.endTick given) :: later,
      use.Spares held key number)
    (stands : held → registry.Stands key number)
    (returns : registry.TicksReturn number
      (earlier ++ .onEntry number (.endTick given) :: later)) :
    ∃ channel text, (registry.afterUses earlier).channel? number = some channel ∧
      ((registry.metOn number (earlier ++ .onEntry number (.endTick given) :: later)).map
        Directory.shown)[(earlier.filterMap (Use.tickEnded? number)).length]? = some text ∧
      (registry.afterUses (earlier ++ [.onEntry number (.endTick given)])).channel? number =
        some (channel.publish text).2 := by
  rcases returns.split with ⟨returnsEarlier, returnsNow, _⟩
  -- the run up to the tick leaves the entry running
  rcases runs_afterUses owned present runs
    (fun use member => spared use (List.mem_append_left _ member)) stands returnsEarlier with
    ⟨between, presentNow, runsNow, _, _⟩
  have asked := returnsNow (by simp)
  rw [keyOf_of_present presentNow] at asked
  have taken := (Directory.answers_of_returns asked given).2
  have published := (endTick_publishes presentNow runsNow.uncancelled taken).2
  refine ⟨between.feed.channel,
    Directory.shown ((registry.afterUses earlier).directory.met between.key given),
    channel?_of_present presentNow, ?_, ?_⟩
  · rw [metOn_append, metOn, met?, Use.tickEnded?_endTick, keyOf_of_present presentNow,
      ← registry.length_metOn]
    simp
  · have step : registry.afterUses (earlier ++ [.onEntry number (.endTick given)]) =
        ((registry.afterUses earlier).onEntry number (.endTick given)).state :=
      afterUses_append registry earlier [.onEntry number (.endTick given)]
    rw [step]
    simp only [onEntry, presentNow, actOn]
    exact published

/-- The channel of an entry that runs in the course of uses gets what is shown for what its ticks
met. -/
theorem runsOn_afterUses (owned : registry.Owned)
    (present : registry.subscription? number = some before)
    (runs : before.Runs before.key before.feed.options) {uses : List (Use Nat)} {held : Prop}
    (spared : ∀ use ∈ uses, use.Spares held before.key number)
    (stands : held → registry.Stands before.key number)
    (returns : registry.TicksReturn number uses) :
    ∃ after, (registry.afterUses uses).subscription? number = some after ∧
      registry.RunsOn number uses before after ((registry.metOn number uses).map Directory.shown) ∧
      (held → (registry.afterUses uses).Stands before.key number) := by
  rcases runs_afterUses owned present runs spared stands returns with
    ⟨after, presentLast, runsLast, published, standsLast⟩
  have there := channel?_of_present present
  have thereLast := channel?_of_present presentLast
  rcases channel?_afterUses there uses with ⟨channel, found, course, publishedIn⟩
  cases thereLast.symm.trans found
  refine ⟨after, presentLast, ⟨runsLast, course, publishedIn.trans published, ?_, ?_⟩, standsLast⟩
  · rintro earlier given later rfl
    exact publishes_at_tick owned present runs spared stands returns
  · intro id inbox serves others
    rcases serves_waiting there serves others with ⟨channel, foundLast, left⟩
    cases thereLast.symm.trans foundLast
    exact published ▸ left

end Steps

/-- Whatever a provider does when it is asked, if only the lookup returns: an attempt tells what was
met, and the text shown is the document's, or that of the empty object. So an entry that is not
cancelled and of which the loop runs gets one payload for each of its ticks, the texts shown for
what they met, in this order, which whoever is subscribed then has to read. The entry keeps its
options, its mark and its loop; a live one stays live. -/
theorem ticks_publish_what_is_shown (name : String) (settings : StreamerSettings)
    (directory : Directory) (earlier uses : List (Use Nat)) (number : Nat)
    (subscription : Subscription)
    (present : ((create name settings directory).state.afterUses earlier).subscription? number =
      some subscription)
    (uncancelled : subscription.isCancelled = false) (running : subscription.phase ≠ .ended)
    (spared : ∀ use ∈ uses, use.Spares
      (((create name settings directory).state.afterUses earlier).get? subscription.key =
        some number) subscription.key number)
    (returns : ((create name settings directory).state.afterUses earlier).TicksReturn number uses) :
    let registry := (create name settings directory).state.afterUses earlier
    let met := registry.metOn number uses
    (∀ met, Directory.Absorbs met (Directory.attemptOf met) (Directory.shown met)) ∧
    (∀ (asked : Directory) (key : String) (options : OptionSet), asked.Returns key →
      (asked.trySnapshot key options).answer =
        .ok (Directory.attemptOf (asked.met key options)) ∧
      (asked.takeSnapshot key options).answer = .ok (Directory.shown (asked.met key options))) ∧
    met.length = (uses.filterMap (Use.tickEnded? number)).length ∧
    (∃ after, (registry.afterUses uses).subscription? number = some after ∧
      registry.RunsOn number uses subscription after (met.map Directory.shown)) ∧
    (registry.get? subscription.key = some number →
      (registry.afterUses uses).get? subscription.key = some number) := by
  intro registry met
  have owned : registry.Owned := (owned_create name settings directory).afterUses earlier
  have runs : subscription.Runs subscription.key subscription.feed.options :=
    ⟨rfl, rfl, uncancelled, running⟩
  rcases runsOn_afterUses owned present runs spared (stands_of_get? owned) returns with
    ⟨after, presentLater, runsOn, stands⟩
  exact ⟨Directory.absorbs, fun _ _ options asked => Directory.answers_of_returns asked options,
    registry.length_metOn number uses, ⟨after, presentLater, runsOn⟩,
    fun live => (stands live).get?⟩

/-- A provider that shows a document at its first and at its sixth call, and fails in between. -/
def unsteady : Provider :=
  (Script.sequence [.fixed (.ofNat 1), .failing "boom", .panicking .untold, .unserializable,
    .silent, .fixed (.ofNat 6)]).provider "routes"

/-- Uses that register this provider, make an entry for it and subscribe to the entry. -/
def unsteadyEntry : List (Use Nat) :=
  [.register unsteady, .onKey "routes" (.getOrCreate KeyMap.empty none),
    .onEntry 0 (.channel .subscribe)]

/-- Six ticks of the entry, and one more after its provider was removed. -/
def sevenTicks : List (Use Nat) :=
  let tick : List (Use Nat) := [.onEntry 0 .beginTick, .onEntry 0 (.endTick KeyMap.empty)]
  (List.replicate 6 tick).flatten ++ .onKey "routes" .unregister :: tick

theorem metOn_unsteady :
    ((create "main" ⟨5000, 16⟩ Directory.empty).state.afterUses unsteadyEntry).metOn 0 sevenTicks =
      [some (.document (.ofNat 1)), some (.failed "boom"), some (.panicked .untold),
        some (.unserializable Script.brokenOff), some .nothing, some (.document (.ofNat 6)),
        none] :=
  rfl

/-- Whoever has subscribed to the entry has nothing to read yet. -/
theorem serves_unsteadyEntry :
    let fresh := (create "main" ⟨5000, 16⟩ Directory.empty).state
    ∃ channel, (fresh.afterUses unsteadyEntry).channel? 0 = some channel ∧
      Channel.Serves channel.bare 0 [] := by
  intro fresh
  have recorded : (fresh.afterUses (unsteadyEntry.take 2)).Recorded :=
    (recorded_create "main" ⟨5000, 16⟩ Directory.empty).afterUses (unsteadyEntry.take 2)
  have joined : ((fresh.afterUses (unsteadyEntry.take 2)).use
      (.onEntry 0 (.channel .subscribe))).answer = .said (.channel (.joined 0)) := rfl
  exact serves_of_joined recorded joined

/-- The entry gets seven payloads in seven ticks, although only two of them meet a document to show:
the others meet a failure, a panic, a fault, nothing, and in the end no provider at all. Whoever is
subscribed has these seven to read. -/
theorem ticks_publish_what_is_shown_of_unsteady :
    let registry := (create "main" ⟨5000, 16⟩ Directory.empty).state.afterUses unsteadyEntry
    let texts := ["1", "\x7b\x7d", "\x7b\x7d", "\x7b\x7d", "\x7b\x7d", "6", "\x7b\x7d"]
    registry.get? "routes" = some 0 ∧ (registry.afterUses sevenTicks).get? "routes" = some 0 ∧
      ∃ before after, registry.subscription? 0 = some before ∧
        (registry.afterUses sevenTicks).subscription? 0 = some after ∧
        registry.RunsOn 0 sevenTicks before after texts ∧
        before.feed.channel.remaining 0 = [] ∧ after.feed.channel.remaining 0 = texts ∧
        after.feed.channel.lagReports 0 = [] := by
  intro registry texts
  have spared : ∀ use ∈ sevenTicks, use.Spares (registry.get? "routes" = some 0) "routes" 0 := by
    simp [sevenTicks, Use.Spares]
  have returns : registry.TicksReturn 0 sevenTicks := by
    apply ticksReturn_of_succeed
    · intro registration member
      rw [List.mem_singleton.mp member]
      rfl
    · simp [sevenTicks]
  have shown : (registry.metOn 0 sevenTicks).map Directory.shown = texts := by
    rw [metOn_unsteady]
    cbv
  rcases ticks_publish_what_is_shown "main" ⟨5000, 16⟩ Directory.empty unsteadyEntry sevenTicks 0 _
    rfl rfl (by decide) spared returns with ⟨_, _, _, ⟨after, found, runs⟩, live⟩
  rw [shown] at runs
  rcases serves_unsteadyEntry with ⟨channel, there, serves⟩
  cases there
  have unread : Channel.Serves after.feed.channel.bare 0 texts :=
    runs.receivers 0 [] serves (by simp [sevenTicks])
  have capacity : after.feed.channel.bare.capacity = 16 := by
    rw [runs.channel, Channel.capacity_run]
    rfl
  refine ⟨rfl, live rfl, _, after, rfl, found, runs, rfl, ?_, ?_⟩
  · rw [unread.remaining]
    simp [texts, show after.feed.channel.capacity = 16 from capacity]
  · rw [unread.lagReports]
    simp [texts, show after.feed.channel.capacity = 16 from capacity]

end Registry

end ConsoleFeed
