import ConsoleFeed.Snapshot

/-!
# Asking the directory for a snapshot

Where lookups do not panic, taking a snapshot always answers a text, and it is one of two things. If
a provider is bound to the key, that provider is called once with the options given, its count goes
up by one, and the text is what it answered. If none is, nothing is called and the text is that of
the empty object.
-/

namespace ConsoleFeed.Directory

/-- Looking a key up does not panic. -/
def Returns (directory : Directory) (key : String) : Prop :=
  ∀ panic, directory.find key ≠ .error panic

/-- No provider panics when it is looked up. -/
def LookupsSucceed (directory : Directory) : Prop :=
  ∀ registration ∈ directory.registrations, registration.provider.lookupFault = none

/-- The provider that a key is bound to, with its number. -/
def provider? (directory : Directory) (key : String) : Option (Nat × Provider) :=
  (directory.bound.find? key).bind fun number =>
    directory.registrations[number]?.map fun registration => (number, registration.provider)

/-- The directory with one more call counted for the provider with a number. -/
def counted (directory : Directory) (number : Nat) (registration : Registration) : Directory :=
  { directory with
    registrations := directory.registrations.set number
      ⟨registration.provider, registration.calls + 1⟩ }

section Asking

variable {directory : Directory} (key : String) (options : OptionSet)

theorem LookupsSucceed.returns (succeed : directory.LookupsSucceed) : directory.Returns key := by
  intro panic found
  simp only [find] at found
  split at found
  · cases found
  · split at found
    · cases found
    · rename_i registration present
      simp [succeed registration (List.mem_of_getElem? present)] at found

/-- Where a key has a provider, the attempt calls it, and otherwise it calls nothing. -/
theorem trySnapshot_cases (returns : directory.Returns key) :
    (directory.provider? key = none ∧
        directory.trySnapshot key options = ⟨.ok (.ok none), directory, [.providerMissing key]⟩) ∨
      ∃ number registration, directory.provider? key = some (number, registration.provider) ∧
        directory.registrations[number]? = some registration ∧
        directory.trySnapshot key options =
          ⟨.ok (registration.provider.answer (registration.calls + 1) options).snapshot,
            directory.counted number registration, []⟩ := by
  cases bound : directory.bound.find? key with
  | none =>
      left
      simp [trySnapshot, find, provider?, bound]
  | some number =>
      cases present : directory.registrations[number]? with
      | none =>
          left
          simp [trySnapshot, find, provider?, bound, present]
      | some registration =>
          have fine : registration.provider.lookupFault = none := by
            cases fault : registration.provider.lookupFault with
            | none => rfl
            | some message =>
                exact absurd (by simp [find, bound, present, fault]) (returns ⟨message⟩)
          refine Or.inr ⟨number, registration, ?_, present, ?_⟩
          · simp [provider?, bound, present]
          · simp [trySnapshot, find, call, counted, bound, present, fine]

theorem LookupsSucceed.counted (succeed : directory.LookupsSucceed) {number : Nat}
    {registration : Registration}
    (present : directory.registrations[number]? = some registration) :
    (directory.counted number registration).LookupsSucceed := by
  intro other member
  rcases List.mem_or_eq_of_mem_set member with old | new
  · exact succeed other old
  · rw [new]
    exact succeed registration (List.mem_of_getElem? present)

theorem LookupsSucceed.register (succeed : directory.LookupsSucceed) {provider : Provider}
    (fine : provider.lookupFault = none) : (directory.register provider).state.LookupsSucceed := by
  intro registration member
  rcases List.mem_append.mp member with old | new
  · exact succeed registration old
  · rw [List.mem_singleton.mp new]
    exact fine

theorem LookupsSucceed.unregister (succeed : directory.LookupsSucceed) (key : String) :
    (directory.unregister key).state.LookupsSucceed := by
  simp only [Directory.unregister]
  split <;> exact succeed

/-- The two ways of taking a snapshot ask alike. -/
theorem state_takeSnapshot (directory : Directory) (key : String) (options : OptionSet) :
    (directory.takeSnapshot key options).state = (directory.trySnapshot key options).state := by
  simp only [takeSnapshot]
  split <;> rfl

theorem takeSnapshot_ok (succeed : directory.LookupsSucceed) :
    (∃ text, (directory.takeSnapshot key options).answer = .ok text) ∧
      (directory.takeSnapshot key options).state.LookupsSucceed := by
  rcases trySnapshot_cases key options (succeed.returns key) with
    ⟨_, attempt⟩ | ⟨number, registration, _, present, attempt⟩
  · simp only [takeSnapshot, attempt]
    exact ⟨⟨_, rfl⟩, succeed⟩
  · simp only [takeSnapshot, attempt]
    exact ⟨⟨_, rfl⟩, succeed.counted present⟩

end Asking

/-- One snapshot was taken for a key, by one lookup. If a provider is bound to the key, here with
its number, the lookup was followed by one call of that provider, with these options, and the text
is what it answered. If none is, no provider was called. -/
structure AsksOnce (before : Directory) (key : String) (options : OptionSet)
    (bound : Option (Nat × Provider)) (text : String) (after : Directory) : Prop where
  taken : (before.takeSnapshot key options).answer = .ok text ∧
    (before.takeSnapshot key options).state = after
  unbound : bound = none → after = before ∧ text = emptySnapshot
  called : ∀ number provider, bound = some (number, provider) →
    number < before.registrations.length ∧
    after.calls number = before.calls number + 1 ∧
    (∀ other, other ≠ number → after.calls other = before.calls other) ∧
    text = payloadOf (provider.answer (before.calls number + 1) options).snapshot

/-- What is bound in a directory, and that lookups do not panic in it. -/
structure Binds (directory : Directory) (bound : String → Option (Nat × Provider))
    (registered : Nat) : Prop where
  succeed : directory.LookupsSucceed
  length : directory.registrations.length = registered
  numbers : ∀ key, directory.bound.find? key = (bound key).map Prod.fst
  providers : ∀ key number provider, bound key = some (number, provider) →
    ∃ calls, directory.registrations[number]? = some ⟨provider, calls⟩

theorem calls_counted {directory : Directory} {number : Nat} {registration : Registration}
    (present : directory.registrations[number]? = some registration) (other : Nat) :
    (directory.counted number registration).calls other =
      if other = number then directory.calls number + 1 else directory.calls other := by
  have inside : number < directory.registrations.length :=
    (List.getElem?_eq_some_iff.mp present).1
  have count : directory.calls number = registration.calls := by
    simp [calls, present]
  rw [count]
  simp only [calls, counted]
  rw [List.getElem?_set]
  by_cases same : number = other
  · subst same
    simp [inside]
  · simp [same, Ne.symm same]

/-- If the lookup does not panic, taking a snapshot asks once. -/
theorem asksOnce_of_returns {directory : Directory} {key : String}
    (returns : directory.Returns key) (options : OptionSet) :
    ∃ text, directory.AsksOnce key options (directory.provider? key) text
      (directory.takeSnapshot key options).state := by
  rcases trySnapshot_cases key options returns with
    ⟨unbound, attempt⟩ | ⟨number, registration, bound, present, attempt⟩
  · refine ⟨emptySnapshot, ⟨?_, rfl⟩, ?_, ?_⟩
    · simp [takeSnapshot, attempt, payloadOf]
    · intro _
      simp [takeSnapshot, attempt]
    · intro number provider isBound
      rw [unbound] at isBound
      cases isBound
  · have inside := (List.getElem?_eq_some_iff.mp present).1
    have count : directory.calls number = registration.calls := by simp [calls, present]
    have after : (directory.takeSnapshot key options).state =
        directory.counted number registration := by
      simp [takeSnapshot, attempt]
    refine ⟨payloadOf (registration.provider.answer (registration.calls + 1) options).snapshot,
      ⟨?_, rfl⟩, ?_, ?_⟩
    · simp [takeSnapshot, attempt]
    · intro unbound
      rw [bound] at unbound
      cases unbound
    · intro other provider isBound
      rw [bound] at isBound
      cases isBound
      rw [after, calls_counted present, if_pos rfl]
      refine ⟨inside, rfl, ?_, by rw [count]⟩
      intro other different
      rw [calls_counted present, if_neg different]

/-- Registering calls nobody, and the new provider was never called. -/
theorem calls_register (directory : Directory) (provider : Provider) (number : Nat) :
    (directory.register provider).state.calls number = directory.calls number := by
  simp only [calls, register]
  by_cases old : number < directory.registrations.length
  · rw [List.getElem?_append_left old]
  · have new : directory.registrations[number]? = none :=
      List.getElem?_eq_none (Nat.le_of_not_lt old)
    rw [new, List.getElem?_append_right (Nat.le_of_not_lt old)]
    cases number - directory.registrations.length <;> simp

theorem calls_unregister (directory : Directory) (key : String) (number : Nat) :
    (directory.unregister key).state.calls number = directory.calls number := by
  simp only [unregister]
  split <;> rfl

namespace Binds

variable {directory : Directory} {bound : String → Option (Nat × Provider)} {registered : Nat}

theorem counted (binds : directory.Binds bound registered) {number : Nat}
    {registration : Registration}
    (present : directory.registrations[number]? = some registration) :
    (directory.counted number registration).Binds bound registered := by
  have inside : number < directory.registrations.length :=
    (List.getElem?_eq_some_iff.mp present).1
  refine ⟨binds.succeed.counted present, by simpa [Directory.counted] using binds.length,
    binds.numbers, ?_⟩
  intro key other provider isBound
  rcases binds.providers key other provider isBound with ⟨calls, found⟩
  simp only [Directory.counted, List.getElem?_set]
  by_cases same : number = other
  · subst same
    rw [present] at found
    cases found
    exact ⟨calls + 1, by simp [inside]⟩
  · exact ⟨calls, by simp [same, found]⟩

theorem provider?_eq (binds : directory.Binds bound registered) (key : String) :
    directory.provider? key = bound key := by
  rw [Directory.provider?, binds.numbers key]
  cases isBound : bound key with
  | none => rfl
  | some entry =>
      rcases binds.providers key entry.1 entry.2 isBound with ⟨calls, present⟩
      simp [present]

/-- Taking a snapshot asks once, and leaves everything bound as it was. -/
theorem asksOnce (binds : directory.Binds bound registered) (key : String)
    (options : OptionSet) :
    (∃ text, directory.AsksOnce key options (bound key) text
        (directory.takeSnapshot key options).state) ∧
      (directory.takeSnapshot key options).state.Binds bound registered := by
  have returns := binds.succeed.returns key
  refine ⟨binds.provider?_eq key ▸ asksOnce_of_returns returns options, ?_⟩
  rcases trySnapshot_cases key options returns with
    ⟨_, attempt⟩ | ⟨number, registration, _, present, attempt⟩
  · rw [state_takeSnapshot, attempt]
    exact binds
  · rw [state_takeSnapshot, attempt]
    exact binds.counted present

/-- A provider that is registered takes its key, and nothing else changes. -/
theorem register (binds : directory.Binds bound registered) (provider : Provider)
    (fine : provider.lookupFault = none) :
    (directory.register provider).state.Binds
      (fun key => if key = provider.key then some (registered, provider) else bound key)
      (registered + 1) := by
  refine ⟨binds.succeed.register fine, ?_, ?_, ?_⟩
  · simp [Directory.register, binds.length]
  · intro key
    rw [Directory.register, KeyMap.find?_insert, binds.numbers key, binds.length]
    split <;> rfl
  · intro key number other isBound
    simp only [Directory.register]
    split at isBound
    · cases isBound
      exact ⟨0, by simp [← binds.length]⟩
    · rcases binds.providers key number other isBound with ⟨calls, present⟩
      have inside := (List.getElem?_eq_some_iff.mp present).1
      exact ⟨calls, by rw [List.getElem?_append_left inside, present]⟩

theorem unregister (binds : directory.Binds bound registered) (key : String) :
    (directory.unregister key).state.Binds
      (fun other => if other = key then none else bound other) registered := by
  simp only [Directory.unregister]
  by_cases present : directory.bound.contains key = true
  · rw [if_pos present]
    refine ⟨binds.succeed, binds.length, ?_, ?_⟩
    · intro other
      rw [KeyMap.find?_erase, binds.numbers other]
      split <;> rfl
    · intro other number provider isBound
      split at isBound
      · cases isBound
      · exact binds.providers other number provider isBound
  · rw [if_neg present]
    have absent : bound key = none := by
      have numbers := binds.numbers key
      cases isBound : bound key with
      | none => rfl
      | some entry =>
          rw [isBound] at numbers
          exact absurd (by simp [KeyMap.contains, numbers]) present
    have same : (fun other => if other = key then none else bound other) = bound := by
      funext other
      split
      · rename_i equal
        rw [equal, absent]
      · rfl
    rw [same]
    exact binds

end Binds

end ConsoleFeed.Directory
