import ConsoleFeed.Proofs.Provider.Asking
import ConsoleFeed.Proofs.Registry.Uses

/-!
# What providers are called with

A use asks the directory for one snapshot at most (`question?`): a snapshot under a key asks with
the options of the entry, or with those given where there is no entry and none is made; an entry
asks with its own, and a tick that ends with those that it began with. The directory then calls the
provider that is bound to the key, if a lookup finds one (`Directory.call?`), and is otherwise as it
was unless providers are registered or removed (`DirectoryStep`).
-/

namespace ConsoleFeed

/-- A call of the provider with a number: the how manyth of its calls it is, and the options. -/
structure ProviderCall where
  provider : Nat
  count : Nat
  options : OptionSet

namespace Directory

/-- The call that comes of asking for a snapshot. -/
def call? (directory : Directory) (key : String) (options : OptionSet) : Option ProviderCall :=
  match directory.find key with
  | .ok (some number) => some ⟨number, directory.calls number + 1, options⟩
  | _ => none

/-- A snapshot comes of the call that is made for it, and where none is made nothing is counted. -/
theorem trySnapshot_of_call? (directory : Directory) (key : String) (options : OptionSet) :
    (directory.call? key options = none ∧ (directory.trySnapshot key options).state = directory) ∨
      ∃ call registration, directory.call? key options = some call ∧
        directory.registrations[call.provider]? = some registration ∧
        directory.trySnapshot key options =
          ⟨.ok (registration.provider.answer call.count call.options).snapshot,
            directory.counted call.provider registration, []⟩ := by
  simp only [call?, trySnapshot]
  cases found : directory.find key with
  | error panic => exact Or.inl ⟨rfl, rfl⟩
  | ok place =>
      cases place with
      | none => exact Or.inl ⟨rfl, rfl⟩
      | some number =>
          have present : ∃ registration, directory.registrations[number]? = some registration := by
            simp only [find] at found
            split at found
            · cases found
            · split at found
              · cases found
              · rename_i registration there
                split at found
                · cases found
                · cases found
                  exact ⟨registration, there⟩
          rcases present with ⟨registration, present⟩
          refine Or.inr ⟨⟨number, directory.calls number + 1, options⟩, registration, rfl, present,
            ?_⟩
          simp only [Directory.call, calls, present, Option.map_some, Option.getD_some]
          rfl

end Directory

namespace Registry

/-- The key and the options with which an act on an entry asks for a snapshot. -/
def EntryAct.question? (subscription : Subscription) : EntryAct → Option (String × OptionSet)
  | .snapshot | .trySnapshot => some (subscription.key, subscription.feed.options)
  | .endTick options => some (subscription.key, options)
  | _ => none

/-- The key and the options with which a use asks for a snapshot. -/
def question? (registry : Registry) : Use Nat → Option (String × OptionSet)
  | .onKey key (.getSnapshot options refusal) =>
      let entry := registry.getOrCreate key options refusal
      match entry.answer with
      | .error _ => none
      | .ok number => some (entry.state.keyOf number, entry.state.optionsOf number)
  | .onKey key (.peekSnapshot options) =>
      match registry.get? key with
      | none => some (key, options)
      | some number => some (registry.keyOf number, registry.optionsOf number)
  | .onEntry number act => (registry.subscription? number).bind act.question?
  | _ => none

/-- The call of a provider that comes of a use. -/
def call? (registry : Registry) (use : Use Nat) : Option ProviderCall :=
  (registry.question? use).bind fun question => registry.directory.call? question.1 question.2

/-- What a use that asks this does to the directory. -/
inductive DirectoryStep (before : Directory) :
    Use Nat → Option (String × OptionSet) → Directory → Prop where
  | kept (use : Use Nat) : DirectoryStep before use none before
  | asked (use : Use Nat) (key : String) (options : OptionSet) :
      DirectoryStep before use (some (key, options)) (before.takeSnapshot key options).state
  | registered (provider : Provider) :
      DirectoryStep before (.register provider) none (before.register provider).state
  | unregistered (key : String) :
      DirectoryStep before (.onKey key .unregister) none (before.unregister key).state

section Steps

variable (registry : Registry)

theorem directoryStep_onEntry (number : Nat) (act : EntryAct) :
    DirectoryStep registry.directory (.onEntry number act)
      (registry.question? (.onEntry number act))
      (registry.onEntry number act).state.directory := by
  cases present : registry.subscription? number with
  | none =>
      simp only [onEntry, question?, present, Option.bind_none]
      exact .kept _
  | some subscription =>
      rw [onEntry_eq present act]
      simp only [question?, present, Option.bind_some]
      cases act with
      | snapshot => exact .asked _ _ _
      | trySnapshot =>
          have same := Directory.state_takeSnapshot registry.directory subscription.key
            subscription.feed.options
          simp only [EntryAct.outcome, ← same]
          exact .asked _ _ _
      | endTick options =>
          have state : (EntryAct.outcome subscription (registry.inTable number) registry.directory
              (.endTick options)).state.2 =
                (registry.directory.takeSnapshot subscription.key options).state := by
            simp only [EntryAct.outcome]
            split <;> rfl
          simp only [state]
          exact .asked _ _ _
      | giveBack =>
          simp only [EntryAct.outcome]
          split <;> exact .kept _
      | beginTick =>
          simp only [EntryAct.outcome]
          split <;> exact .kept _
      | _ => exact .kept _

theorem directoryStep_onKey (key : String) (act : KeyAct) :
    DirectoryStep registry.directory (.onKey key act) (registry.question? (.onKey key act))
      (registry.onKey key act).state.directory := by
  cases act with
  | getOrCreate options refusal =>
      simp only [onKey, question?, registry.directory_getOrCreate key options refusal]
      exact .kept _
  | getStream options refusal =>
      simp only [onKey, question?, registry.directory_getStream key options refusal]
      exact .kept _
  | getSnapshot options refusal =>
      have entered := registry.directory_getOrCreate key options refusal
      simp only [onKey, getSnapshot, question?]
      cases answer : (registry.getOrCreate key options refusal).answer with
      | error failure =>
          simp only [entered]
          exact .kept _
      | ok number =>
          simp only [takeSnapshotOf, onDirectory, entered]
          exact .asked _ _ _
  | peekSnapshot options =>
      simp only [onKey, peekSnapshot, question?]
      cases live : registry.get? key with
      | none => exact .asked _ _ _
      | some number => exact .asked _ _ _
  | build options settings refusal =>
      cases refusal <;> exact .kept _
  | get =>
      simp only [onKey]
      split <;> exact .kept _
  | contains => exact .kept _
  | updateOptions options =>
      simp only [onKey, question?, registry.directory_updateOptions key options]
      exact .kept _
  | deactivate =>
      simp only [onKey, question?, registry.directory_deactivate key]
      exact .kept _
  | lookup => exact .kept _
  | unregister => exact .unregistered key

theorem directoryStep_use (use : Use Nat) :
    DirectoryStep registry.directory use (registry.question? use)
      (registry.use use).state.directory := by
  cases use with
  | onKey key act => exact registry.directoryStep_onKey key act
  | onEntry number act => exact registry.directoryStep_onEntry number act
  | register provider => exact .registered provider
  | shutdown =>
      have same : (registry.use .shutdown).state.directory = registry.directory :=
        registry.directory_deactivateAll registry.table.keys
      rw [same]
      exact .kept _

/-- What a directory keeps when it is asked and when providers come and go, it keeps in every use.
-/
theorem directory_keeps (Kept : Directory → Prop) (kept : Kept registry.directory) {use : Use Nat}
    (asked : ∀ key options, Kept (registry.directory.takeSnapshot key options).state)
    (registered : ∀ provider, use = .register provider →
      Kept (registry.directory.register provider).state)
    (unregistered : ∀ key, Kept (registry.directory.unregister key).state) :
    Kept (registry.use use).state.directory := by
  have step := registry.directoryStep_use use
  generalize registry.question? use = question at step
  generalize (registry.use use).state.directory = after at step ⊢
  cases step with
  | kept => exact kept
  | asked _ key options => exact asked key options
  | registered provider => exact registered provider rfl
  | unregistered key => exact unregistered key

end Steps

end Registry

end ConsoleFeed
