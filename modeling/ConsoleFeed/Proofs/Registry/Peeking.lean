import ConsoleFeed.Proofs.Registry.EntryTurns
import ConsoleFeed.Proofs.Registry.ProviderCalls
import ConsoleFeed.Provider.Scripted

/-!
# Peeking and getting

A snapshot for a key can be peeked at or got. Both ask with the options in force: those of the live
entry, or, if there is none, those that came with the question. An entry that was cancelled through
a handle counts as none, although the table still holds it and it still has options.

Where they differ is in what they leave behind. Peeking changes nothing but the count of the
provider's calls; getting leaves a live entry, which is the old one or, in place of none, a new one
with the options given.
-/

namespace ConsoleFeed.Registry

/-- The options that a snapshot for a key is asked with: the live entry's, or else those given. -/
def inForce (registry : Registry) (key : String) (options : OptionSet) : OptionSet :=
  (registry.get? key).elim options registry.optionsOf

section Entered

variable (registry : Registry) (key : String) (options : OptionSet)

theorem get?_entered :
    (registry.entered key options).get? key = some registry.subscriptions.length := by
  apply (get?_eq_some_iff _ key _).mpr
  rw [isCancelled, subscription?_entered_self]
  exact ⟨(KeyMap.find?_insert ..).trans (if_pos rfl), rfl⟩

end Entered

section Asking

variable {registry : Registry} {key : String} {options : OptionSet} {number : Nat} {text : String}
  {bound : Option (Nat × Provider)} {after : Directory}

/-- A snapshot of an entry asks once under the entry's key with the entry's options, and touches
nothing but the directory. -/
theorem takeSnapshotOf_of_asksOnce (own : registry.keyOf number = key)
    (with_options : registry.optionsOf number = options)
    (asks : Directory.AsksOnce registry.directory key options bound text after) :
    (registry.takeSnapshotOf number).answer = .ok text ∧
      (registry.takeSnapshotOf number).state = { registry with directory := after } := by
  simp only [takeSnapshotOf, onDirectory, own, with_options, asks.taken.1, asks.taken.2, and_self]

theorem keyOf_of_get? (owned : registry.Owned) (live : registry.get? key = some number) :
    registry.keyOf number = key := by
  rcases owned.present_of_get? live with ⟨subscription, present, own⟩
  exact (keyOf_of_present present).trans own

/-- Peeking answers what asking once with the options in force gives. -/
theorem peekSnapshot_of_asksOnce (owned : registry.Owned)
    (asks : Directory.AsksOnce registry.directory key (registry.inForce key options) bound text
      after) :
    (registry.peekSnapshot key options).answer = .ok text ∧
      (registry.peekSnapshot key options).state = { registry with directory := after } := by
  rw [inForce] at asks
  cases live : registry.get? key with
  | some number =>
      rw [live] at asks
      rw [peekSnapshot, live]
      exact takeSnapshotOf_of_asksOnce (keyOf_of_get? owned live) rfl asks
  | none =>
      rw [live] at asks
      rcases asks.taken with ⟨answers, leaves⟩
      simp only [peekSnapshot, live, onDirectory]
      exact ⟨answers, leaves ▸ rfl⟩

/-- The registry in which a snapshot is got: with the live entry of the key, or a new one. -/
def withEntry (registry : Registry) (key : String) (options : OptionSet) : Registry :=
  if (registry.get? key).isSome then registry else registry.entered key options

/-- Getting answers the same, in the registry with the entry. -/
theorem getSnapshot_of_asksOnce (owned : registry.Owned)
    (asks : Directory.AsksOnce registry.directory key (registry.inForce key options) bound text
      after) :
    (registry.getSnapshot key options none).answer = .ok text ∧
      (registry.getSnapshot key options none).state =
        { registry.withEntry key options with directory := after } := by
  rw [inForce] at asks
  rcases registry.getOrCreate_cases key options none with
    ⟨number, live, answer, state⟩ | ⟨_, _, refused, _, _⟩ | ⟨absent, _, answer, state⟩
  · rw [live] at asks
    rcases takeSnapshotOf_of_asksOnce (keyOf_of_get? owned live) rfl asks with ⟨answers, leaves⟩
    simp only [getSnapshot, withEntry, answer, state, live, answers, leaves]
    exact ⟨rfl, rfl⟩
  · cases refused
  · rw [absent] at asks
    have present := registry.subscription?_entered_self key options
    rcases takeSnapshotOf_of_asksOnce (keyOf_of_present present) (optionsOf_of_present present) asks
      with ⟨answers, leaves⟩
    simp only [getSnapshot, withEntry, answer, state, absent, answers, leaves]
    exact ⟨rfl, rfl⟩

end Asking

/-- What getting a snapshot leaves of the entries: a live one for the key, the old one if there was
one and otherwise a new one with the options given, and everything else as it was. -/
structure LeavesEntry (before : Registry) (key : String) (options : OptionSet)
    (after : Registry) : Prop where
  live : ∃ number, after.get? key = some number ∧
    after.optionsOf number = before.inForce key options
  old : ∀ number, before.get? key = some number →
    after = { before with directory := after.directory }
  new : before.get? key = none → ∀ number, after.get? key = some number →
    number = before.subscriptions.length ∧
    after.subscription? number = some (Subscription.create key options before.settings)
  others : ∀ other, other ≠ key → after.table.find? other = before.table.find? other ∧
    after.get? other = before.get? other
  older : ∀ number subscription, before.subscription? number = some subscription →
    after.subscription? number = some subscription

theorem leavesEntry_withEntry {registry : Registry} (owned : registry.Owned) (key : String)
    (options : OptionSet) (directory : Directory) :
    LeavesEntry registry key options
      { registry.withEntry key options with directory := directory } := by
  cases live : registry.get? key with
  | some number =>
      have same : registry.withEntry key options = registry := by simp [withEntry, live]
      rw [same]
      refine ⟨⟨number, live, ?_⟩, fun _ _ => rfl, ?_, fun _ _ => ⟨rfl, rfl⟩, fun _ _ => id⟩
      · rw [inForce, live]
        rfl
      · intro absent
        rw [live] at absent
        cases absent
  | none =>
      have entered : registry.withEntry key options = registry.entered key options := by
        simp [withEntry, live]
      have present := registry.subscription?_entered_self key options
      have kept : ∀ {number subscription}, registry.subscription? number = some subscription →
          (registry.entered key options).subscription? number = some subscription :=
        registry.subscription?_entered_of_present key options
      rw [entered]
      refine ⟨⟨_, registry.get?_entered key options, ?_⟩, ?_, ?_, ?_, fun _ _ => kept⟩
      · rw [inForce, live]
        exact optionsOf_of_present present
      · intro number found
        rw [live] at found
        cases found
      · intro _ number found
        have latest := found.symm.trans (registry.get?_entered key options)
        cases latest
        exact ⟨rfl, present⟩
      · intro other different
        have held : (registry.entered key options).table.find? other =
            registry.table.find? other := by
          rw [Registry.entered, KeyMap.find?_insert, if_neg different]
        refine ⟨held, ?_⟩
        change (registry.entered key options).get? other = registry.get? other
        rw [get?, get?, held]
        cases there : registry.table.find? other with
        | none => rfl
        | some number =>
            rcases owned.present there with ⟨subscription, found, _⟩
            simp [Option.filter, isCancelled, found, kept found]

/-- Both questions are put to the directory with the options in force. -/
theorem question?_eq_inForce {registry : Registry} (owned : registry.Owned) (key : String)
    (options : OptionSet) :
    registry.question? (.onKey key (.peekSnapshot options)) =
        some (key, registry.inForce key options) ∧
      registry.question? (.onKey key (.getSnapshot options none)) =
        some (key, registry.inForce key options) := by
  rcases registry.getOrCreate_cases key options none with
    ⟨number, live, answer, state⟩ | ⟨_, _, refused, _, _⟩ | ⟨absent, _, answer, state⟩
  · simp [question?, inForce, answer, state, live, keyOf_of_get? owned live]
  · cases refused
  · have present := registry.subscription?_entered_self key options
    simp only [question?, inForce, answer, state, absent, keyOf_of_present present,
      optionsOf_of_present present]
    exact ⟨rfl, rfl⟩

/-- In every state that uses lead to, peeking at the snapshot for a key and getting it give the same
text and call the provider once, with the same options, if the lookup does not panic and a thread
can be had. Peeking leaves everything as it was but for the count of that call; getting leaves a
live entry as well. -/
theorem peek_answers_as_get (name : String) (settings : StreamerSettings) (directory : Directory)
    (earlier : List (Use Nat)) (key : String) (options : OptionSet)
    (returns : ((create name settings directory).state.afterUses earlier).directory.Returns key) :
    let registry := (create name settings directory).state.afterUses earlier
    let peeked := registry.peekSnapshot key options
    let got := registry.getSnapshot key options none
    let call := registry.directory.call? key (registry.inForce key options)
    (∃ text after, Directory.AsksOnce registry.directory key (registry.inForce key options)
        (registry.directory.provider? key) text after ∧
      peeked.answer = .ok text ∧ got.answer = .ok text ∧
      peeked.state = { registry with directory := after } ∧ got.state.directory = after) ∧
    registry.call? (.onKey key (.peekSnapshot options)) = call ∧
    registry.call? (.onKey key (.getSnapshot options none)) = call ∧
    LeavesEntry registry key options got.state := by
  intro registry peeked got call
  have owned : registry.Owned := (owned_create name settings directory).afterUses earlier
  rcases Directory.asksOnce_of_returns returns (registry.inForce key options) with ⟨text, asks⟩
  rcases peekSnapshot_of_asksOnce owned asks with ⟨peekedText, peekedState⟩
  rcases getSnapshot_of_asksOnce owned asks with ⟨gotText, gotState⟩
  rcases question?_eq_inForce owned key options with ⟨peekAsks, getAsks⟩
  refine ⟨⟨text, _, asks, peekedText, gotText, peekedState, ?_⟩, ?_, ?_, ?_⟩
  · rw [gotState]
  · rw [call?, peekAsks, Option.bind_some]
  · rw [call?, getAsks, Option.bind_some]
  · rw [gotState]
    exact leavesEntry_withEntry owned key options _

/-- After the entry was cancelled through a handle, both ask with the options given and not with
those that it had. -/
theorem peek_answers_as_get_of_cancelled :
    let old : OptionSet := KeyMap.ofList [("depth", .ofNat 1)]
    let new : OptionSet := KeyMap.ofList [("depth", .ofNat 2)]
    let registry := (create "main" ⟨5000, 16⟩ Directory.empty).state.afterUses
      [.register (Script.echo.provider "routes"), .onKey "routes" (.getOrCreate old none),
        .onEntry 0 .cancel]
    registry.directory.Returns "routes" ∧ registry.table.find? "routes" = some 0 ∧
      registry.inForce "routes" new = new ∧
      (registry.peekSnapshot "routes" new).answer = .ok new.toDocument.compact ∧
      (registry.getSnapshot "routes" new none).answer = .ok new.toDocument.compact ∧
      LeavesEntry registry "routes" new (registry.getSnapshot "routes" new none).state := by
  intro old new registry
  have returns : registry.directory.Returns "routes" := by
    intro panic found
    cases found
  rcases peek_answers_as_get "main" ⟨5000, 16⟩ Directory.empty
    [.register (Script.echo.provider "routes"), .onKey "routes" (.getOrCreate old none),
      .onEntry 0 .cancel] "routes" new returns with ⟨_, _, _, leaves⟩
  exact ⟨returns, rfl, rfl, rfl, rfl, leaves⟩

end ConsoleFeed.Registry
