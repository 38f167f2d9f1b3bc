import Mathlib.Data.List.Forall2
import ConsoleFeed.Proofs.Registry.WithoutValues

/-!
# Option values are not logged

Two runs of a registry that differ only in the values of the options that are passed, and whose
providers look at no such value, log the same. What is logged of an option set is the same for every
set with its names, and every use, made without values, goes as it goes with them; so both runs log
what the run without values logs.
-/

namespace ConsoleFeed.Registry

theorem Use.eq_register {use : Use Nat} {provider : Provider}
    (bare : use.withoutValues = .register provider) : use = .register provider := by
  cases use <;> cases bare
  rfl

/-- The answers are the same, except that option sets in them may differ in their values. -/
structure AnswersAlike (first second : Yield Nat) : Prop where
  withoutValues : first.withoutValues = second.withoutValues
  same : first.options? = none → first = second

/-- Runs that differ only in option values log the same and answer alike. -/
theorem yields_alike {registry : Registry} (ignores : registry.directory.IgnoresValues)
    {first second : List (Use Nat)}
    (alike : first.map Use.withoutValues = second.map Use.withoutValues)
    (registers : ∀ provider, .register provider ∈ first → provider.IgnoresValues) :
    (registry.yields first).map Prod.snd = (registry.yields second).map Prod.snd ∧
      List.Forall₂ AnswersAlike ((registry.yields first).map Prod.fst)
        ((registry.yields second).map Prod.fst) ∧
      (registry.afterUses first).withoutValues = (registry.afterUses second).withoutValues := by
  have registersSecond : ∀ provider, .register provider ∈ second → provider.IgnoresValues := by
    intro provider member
    have bare : .register provider ∈ first.map Use.withoutValues :=
      alike ▸ List.mem_map_of_mem member
    rcases List.mem_map.mp bare with ⟨use, inside, isBare⟩
    exact registers provider (Use.eq_register isBare ▸ inside)
  rcases yields_withoutValues ignores registers with ⟨yieldsFirst, stateFirst⟩
  rcases yields_withoutValues ignores registersSecond with ⟨yieldsSecond, stateSecond⟩
  have bare : (registry.yields first).map (fun reply => (reply.1.withoutValues, reply.2)) =
      (registry.yields second).map (fun reply => (reply.1.withoutValues, reply.2)) := by
    rw [← yieldsFirst, ← yieldsSecond, alike]
  refine ⟨?_, ?_, ?_⟩
  · simpa only [List.map_map, Function.comp_def] using congrArg (List.map Prod.snd) bare
  · have answers : ((registry.yields first).map Prod.fst).map Yield.withoutValues =
        ((registry.yields second).map Prod.fst).map Yield.withoutValues := by
      simpa only [List.map_map, Function.comp_def] using congrArg (List.map Prod.fst) bare
    rw [← List.forall₂_eq_eq_eq, List.forall₂_map_left_iff, List.forall₂_map_right_iff] at answers
    exact answers.imp fun one other same => ⟨same, Yield.eq_of_withoutValues same⟩
  · rw [← stateFirst, ← stateSecond, alike]

/-- Option values do not get into the log by themselves. Where no provider looks at them, two runs
of the same uses that differ only in option values log the same at every use, and answer the same
unless an option set is in the answer. So do two runs of a loop on the clock, whatever happens to
its subscription at whatever moment. To differ only in values is to have the same names, and names
are logged alike in whatever order they are listed. -/
theorem option_values_are_not_logged (name : String) (settings : StreamerSettings)
    (directory : Directory) (ignores : directory.IgnoresValues) (first second : List (Use Nat))
    (alike : first.map Use.withoutValues = second.map Use.withoutValues)
    (registers : ∀ provider, .register provider ∈ first → provider.IgnoresValues) :
    let made := (create name settings directory).state
    ((made.yields first).map Prod.snd = (made.yields second).map Prod.snd ∧
      List.Forall₂ AnswersAlike ((made.yields first).map Prod.fst)
        ((made.yields second).map Prod.fst) ∧
      (made.afterUses first).withoutValues = (made.afterUses second).withoutValues) ∧
    (∀ (key : String) (options other : OptionSet) (capacity period : Nat)
        (period_pos : 0 < period) (acts others : List SteppedFeed.Act),
      options.withoutValues = other.withoutValues →
      acts.map SteppedFeed.Act.withoutValues = others.map SteppedFeed.Act.withoutValues →
      (∀ later, .changeProviders later ∈ acts → later.IgnoresValues) →
      let started := fun given =>
        TickingFeed.start directory (Feed.create key given capacity) period period_pos
      (started options).events = (started other).events ∧
        SteppedFeed.replies ⟨(started options).state, .polling⟩ acts =
          SteppedFeed.replies ⟨(started other).state, .polling⟩ others) ∧
    (∀ options other : OptionSet, options.withoutValues = other.withoutValues ↔
      ∀ name, options.contains name = other.contains name) ∧
    ∀ (options : OptionSet) (names : List String), names.Perm options.keys →
      options.loggedKeys = OptionSet.loggedNames names := by
  intro made
  refine ⟨yields_alike ignores alike registers, ?_, OptionSet.withoutValues_eq_iff, ?_⟩
  · intro key options other capacity period period_pos acts others sameNames sameActs changes
    refine ⟨rfl, SteppedFeed.replies_eq_of_withoutValues ?_ sameActs ignores changes⟩
    simp only [SteppedFeed.withoutValues, TickingFeed.withoutValues, TickingFeed.start,
      Feed.withoutValues, Feed.create, sameNames]
  · intro options names listed
    exact OptionSet.loggedKeys_eq_of_perm listed

/-- A provider that shows a document at its first call and fails at the later ones. -/
def showsOnce : Provider :=
  ⟨"routes", fun count _ => if count = 1 then .document (.ofNat 1) else .failed "boom", none⟩

/-- Uses that pass a password in the options: of an entry that is made, found again, ticked, given
other options, inspected, and cancelled inside of a tick, and of a key that has no entry. -/
def withPassword (password : String) : List (Use Nat) :=
  let given : OptionSet := KeyMap.ofList [("password", .text password), ("depth", .ofNat 1)]
  let replaced : OptionSet := KeyMap.ofList [("password", .text (password ++ "!"))]
  [.register showsOnce, .onKey "routes" (.getOrCreate given none),
    .onKey "routes" (.getStream given none), .onEntry 0 .beginTick, .onEntry 0 (.endTick given),
    .onKey "routes" (.updateOptions replaced), .onKey "peers" (.updateOptions given),
    .onEntry 0 .inspect, .onEntry 0 .beginTick, .onEntry 0 .cancel,
    .onEntry 0 (.endTick replaced),
    .onKey "peers" (.getOrCreate given (some (.thread .noMoreThreads)))]

/-- What is answered and logged in a run with a password. -/
def yieldsWithPassword (password : String) : List (Yield Nat × List Event) :=
  (create "main" ⟨5000, 16⟩ Directory.empty).state.yields (withPassword password)

/-- Two runs with different passwords log the same, and that shows the names of the options only,
although whoever inspects the entry is shown the password. -/
theorem option_values_are_not_logged_of_password :
    (withPassword "sesame").map Use.withoutValues = (withPassword "mellon").map Use.withoutValues ∧
      (yieldsWithPassword "sesame").map Prod.snd = (yieldsWithPassword "mellon").map Prod.snd ∧
      ((yieldsWithPassword "mellon").map Prod.snd).flatten =
        [.providerRegistered "routes", .threadRequested, .threadStarted,
          .subscriptionCreated "routes" "depth,password", .subscriptionReused "main" "routes",
          .snapshotProduced "routes" "1", .tickUnheard "routes",
          .optionsReplaced "routes" "password", .updateMissed "main" "peers" "depth,password",
          .subscriptionCancelled "routes" .cancelled,
          .snapshotFailed "routes" "snapshot provider failed: boom", .tickDiscarded "routes",
          .tickerStopped "routes" .cancelled, .threadRequested,
          .threadRefused SystemFault.noMoreThreads.message,
          .creationFailed "main" "peers"
            (⟨"peers", .noMoreThreads⟩ : SchedulingFailure).message] ∧
      (yieldsWithPassword "sesame")[7]?.bind (·.1.options?) =
        some (KeyMap.ofList [("password", .text "sesame!")]) ∧
      (yieldsWithPassword "mellon")[7]?.bind (·.1.options?) =
        some (KeyMap.ofList [("password", .text "mellon!")]) := by
  have alike : (withPassword "sesame").map Use.withoutValues =
      (withPassword "mellon").map Use.withoutValues := rfl
  have registers : ∀ provider, .register provider ∈ withPassword "sesame" →
      provider.IgnoresValues := by
    intro provider member
    have here : provider = showsOnce := by simpa [withPassword] using member
    rw [here]
    exact fun _ _ _ _ => rfl
  have nobody : Directory.empty.IgnoresValues := by
    intro registration member
    cases member
  have same := option_values_are_not_logged "main" ⟨5000, 16⟩ Directory.empty nobody _ _ alike
    registers
  exact ⟨alike, same.1.1, rfl, rfl, rfl⟩

end ConsoleFeed.Registry
