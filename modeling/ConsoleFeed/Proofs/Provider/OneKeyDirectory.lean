import ConsoleFeed.Proofs.KeyMap
import ConsoleFeed.Proofs.Provider.Asking
import Mathlib.Data.List.Basic

/-!
# What a directory is to one key

A directory is to a key what it would be if no provider had ever been registered under another key
(`Directory.only`). Providers are numbered as they are registered, so without the others a provider
has the number that says how many of its own key there were before it. What is done under the key
comes out the same with or without the others, and what is done under another key is not seen.

A key is bound to providers of its own only (`Directory.Owned`).
-/

namespace ConsoleFeed

section Selecting

variable {Item : Type} (chosen : Item → Bool) {items : List Item} {number : Nat} {item : Item}

/-- An item that is chosen stands where the number of those chosen before it says. -/
theorem getElem?_filter_countPBefore (present : items[number]? = some item)
    (picked : chosen item = true) :
    (items.filter chosen)[items.countPBefore chosen number]? = some item := by
  induction items generalizing number with
  | nil => cases present
  | cons head rest ih =>
      cases number with
      | zero =>
          cases present
          simp [picked]
      | succ below =>
          have later := ih present
          cases first : chosen head <;> simpa [first] using later

/-- Replacing an item that is chosen by another one replaces it among those chosen. -/
theorem filter_set_of_pos (present : items[number]? = some item) (picked : chosen item = true)
    {other : Item} (alike : chosen other = true) :
    (items.set number other).filter chosen =
      (items.filter chosen).set (items.countPBefore chosen number) other := by
  induction items generalizing number with
  | nil => cases present
  | cons head rest ih =>
      cases number with
      | zero =>
          cases present
          simp [picked, alike]
      | succ below =>
          have later := ih present
          cases first : chosen head <;> simpa [first] using later

theorem filter_set_of_neg (present : items[number]? = some item) (passed : chosen item = false)
    {other : Item} (alike : chosen other = false) :
    (items.set number other).filter chosen = items.filter chosen := by
  induction items generalizing number with
  | nil => cases present
  | cons head rest ih =>
      cases number with
      | zero =>
          cases present
          simp [passed, alike]
      | succ below =>
          have later := ih present
          cases first : chosen head <;> simpa [first] using later

/-- Replacing an item by one that is chosen if it was does not change how many are chosen before any
number. -/
theorem countPBefore_set (present : items[number]? = some item) {other : Item}
    (alike : chosen other = chosen item) (place : Nat) :
    (items.set number other).countPBefore chosen place = items.countPBefore chosen place := by
  induction items generalizing number place with
  | nil => cases present
  | cons head rest ih =>
      cases number with
      | zero =>
          cases present
          cases place <;> simp [alike]
      | succ below =>
          cases place with
          | zero => simp
          | succ before =>
              have later := ih present before
              simp [later]

theorem countPBefore_append {more : List Item} {place : Nat} (inside : place ≤ items.length) :
    (items ++ more).countPBefore chosen place = items.countPBefore chosen place := by
  rw [List.countPBefore_eq_countP_take, List.countPBefore_eq_countP_take,
    List.take_append_of_le_length inside]

/-- Where all are chosen, as many are chosen before a number as it says. -/
theorem countPBefore_of_all (all : ∀ item ∈ items, chosen item = true)
    (inside : number ≤ items.length) : items.countPBefore chosen number = number := by
  rw [List.countPBefore_eq_countP_take, List.countP_eq_length.mpr, List.length_take]
  · exact Nat.min_eq_left inside
  · intro item member
    exact all item (List.mem_of_mem_take member)

end Selecting

namespace Directory

/-- Whether a provider was registered under a key. -/
def isFor (key : String) (registration : Registration) : Bool :=
  registration.provider.key == key

/-- How many providers were registered under a key before the one with a number. -/
def rank (directory : Directory) (key : String) (number : Nat) : Nat :=
  directory.registrations.countPBefore (isFor key) number

/-- What the directory would be if no provider had been registered under another key. -/
def only (directory : Directory) (key : String) : Directory where
  registrations := directory.registrations.filter (isFor key)
  bound := KeyMap.just key ((directory.bound.find? key).map (directory.rank key))

/-- Keys are bound to providers that were registered under them. -/
def Owned (directory : Directory) : Prop :=
  ∀ key number, directory.bound.find? key = some number →
    ∃ registration, directory.registrations[number]? = some registration ∧
      registration.provider.key = key

section Registering

variable {directory : Directory} {key : String}

theorem owned_empty : Owned empty := by
  intro key number held
  cases held

theorem isFor_of_key {registration : Registration} (own : registration.provider.key = key) :
    isFor key registration = true := by
  simp [isFor, own]

theorem isFor_of_ne {registration : Registration} (foreign : registration.provider.key ≠ key) :
    isFor key registration = false := by
  simp [isFor, foreign]

@[simp]
theorem find?_bound_only (directory : Directory) (key : String) :
    (directory.only key).bound.find? key =
      (directory.bound.find? key).map (directory.rank key) := by
  simp [only]

theorem contains_bound_only (directory : Directory) (key : String) :
    (directory.only key).bound.contains key = directory.bound.contains key := by
  simp [KeyMap.contains]

theorem Owned.register (owned : directory.Owned) (provider : Provider) :
    (directory.register provider).state.Owned := by
  intro other number held
  simp only [Directory.register] at held ⊢
  rw [KeyMap.find?_insert] at held
  split at held
  · rename_i same
    cases held
    exact ⟨⟨provider, 0⟩, by simp, same.symm⟩
  · rcases owned other number held with ⟨registration, present, own⟩
    have inside := (List.getElem?_eq_some_iff.mp present).1
    exact ⟨registration, by rw [List.getElem?_append_left inside, present], own⟩

theorem Owned.unregister (owned : directory.Owned) (key : String) :
    (directory.unregister key).state.Owned := by
  intro other number held
  simp only [Directory.unregister] at held ⊢
  split at held
  · rename_i present
    rw [KeyMap.find?_erase] at held
    split at held
    · cases held
    · simpa [present] using owned other number held
  · rename_i absent
    simpa [absent] using owned other number held

theorem Owned.inside (owned : directory.Owned) {number : Nat}
    (held : directory.bound.find? key = some number) :
    number < directory.registrations.length := by
  rcases owned key number held with ⟨registration, present, _⟩
  exact (List.getElem?_eq_some_iff.mp present).1

/-- What is bound stays where it is when another provider is registered. -/
theorem Owned.rank_append (owned : directory.Owned) (key : String) (more : List Registration) :
    (directory.bound.find? key).map
        ((directory.registrations ++ more).countPBefore (isFor key)) =
      (directory.bound.find? key).map (directory.rank key) := by
  apply Option.map_congr
  intro number held
  exact countPBefore_append _ (Nat.le_of_lt (owned.inside held))

theorem register_only (directory : Directory) (provider : Provider) :
    (directory.only provider.key).register provider =
      ⟨(directory.register provider).answer,
        (directory.register provider).state.only provider.key,
        (directory.register provider).events⟩ := by
  have length : (directory.registrations.filter (isFor provider.key)).length =
      directory.rank provider.key directory.registrations.length := by
    rw [rank, List.countPBefore_length, List.countP_eq_length_filter]
  have last : isFor provider.key ⟨provider, 0⟩ = true := isFor_of_key rfl
  have place : (directory.registrations ++ [Registration.mk provider 0]).countPBefore
      (isFor provider.key) directory.registrations.length =
        directory.rank provider.key directory.registrations.length :=
    countPBefore_append _ (Nat.le_refl _)
  simp only [Directory.register, contains_bound_only, Reply.mk.injEq, true_and, and_true]
  simp [only, rank, KeyMap.find?_insert, place, length, last]

theorem only_register_of_ne (owned : directory.Owned) {provider : Provider}
    (foreign : provider.key ≠ key) :
    (directory.register provider).state.only key = directory.only key := by
  have different : key ≠ provider.key := foreign.symm
  have passed : isFor key ⟨provider, 0⟩ = false := isFor_of_ne foreign
  have places := owned.rank_append key [⟨provider, 0⟩]
  simp only [Directory.register, only, KeyMap.find?_insert, if_neg different, Directory.mk.injEq]
  refine ⟨?_, congrArg (KeyMap.just key) places⟩
  rw [List.filter_append, List.filter_singleton, passed]
  exact List.append_nil _

theorem unregister_only (directory : Directory) (key : String) :
    (directory.only key).unregister key =
      ⟨(directory.unregister key).answer, (directory.unregister key).state.only key,
        (directory.unregister key).events⟩ := by
  simp only [Directory.unregister, contains_bound_only]
  split
  · simp [only, KeyMap.find?_erase]
  · rfl

theorem only_unregister_of_ne (directory : Directory) {key other : String}
    (foreign : other ≠ key) :
    (directory.unregister other).state.only key = directory.only key := by
  simp only [Directory.unregister]
  split
  · simp only [only, KeyMap.find?_erase, if_neg foreign.symm]
    rfl
  · rfl

end Registering

section Asking

variable {directory : Directory} {key : String}

theorem find_only (owned : directory.Owned) :
    (directory.only key).find key = (directory.find key).map (Option.map (directory.rank key)) := by
  simp only [find, find?_bound_only]
  cases held : directory.bound.find? key with
  | none => rfl
  | some number =>
      rcases owned key number held with ⟨registration, present, own⟩
      have same : (directory.only key).registrations[directory.rank key number]? =
          some registration :=
        getElem?_filter_countPBefore (isFor key) present (isFor_of_key own)
      simp only [Option.map_some, present, same]
      cases registration.provider.lookupFault <;> rfl

/-- The provider that a lookup finds. -/
theorem bound_of_find {number : Nat} (found : directory.find key = .ok (some number)) :
    directory.bound.find? key = some number := by
  simp only [find] at found
  split at found
  · cases found
  · rename_i other held
    split at found
    · cases found
    · split at found
      · cases found
      · cases found
        exact held

/-- Counting a call of a provider counts it without the others too. -/
theorem only_counted {number : Nat} {registration : Registration}
    (present : directory.registrations[number]? = some registration)
    (own : registration.provider.key = key) :
    (directory.counted number registration).only key =
      (directory.only key).counted (directory.rank key number) registration := by
  have again : isFor key ⟨registration.provider, registration.calls + 1⟩ = true :=
    isFor_of_key own
  have places : (directory.counted number registration).rank key = directory.rank key := by
    funext place
    exact countPBefore_set _ present (again.trans (isFor_of_key own).symm) place
  simp only [only, counted, Directory.mk.injEq]
  exact ⟨filter_set_of_pos _ present (isFor_of_key own) again,
    congrArg (fun rank => KeyMap.just key ((directory.bound.find? key).map rank)) places⟩

theorem only_counted_of_ne {number : Nat} {registration : Registration}
    (present : directory.registrations[number]? = some registration)
    (foreign : registration.provider.key ≠ key) :
    (directory.counted number registration).only key = directory.only key := by
  have again : isFor key ⟨registration.provider, registration.calls + 1⟩ = false :=
    isFor_of_ne foreign
  have places : (directory.counted number registration).rank key = directory.rank key := by
    funext place
    exact countPBefore_set _ present (again.trans (isFor_of_ne foreign).symm) place
  simp only [only, counted, Directory.mk.injEq]
  exact ⟨filter_set_of_neg _ present (isFor_of_ne foreign) again,
    congrArg (fun rank => KeyMap.just key ((directory.bound.find? key).map rank)) places⟩

theorem Owned.counted (owned : directory.Owned) {number : Nat} {registration : Registration}
    (present : directory.registrations[number]? = some registration) :
    (directory.counted number registration).Owned := by
  intro other found held
  rcases owned other found held with ⟨bound, presentBound, own⟩
  by_cases same : number = found
  · subst same
    rw [present] at presentBound
    cases presentBound
    have inside := (List.getElem?_eq_some_iff.mp present).1
    exact ⟨⟨registration.provider, registration.calls + 1⟩,
      by simp [Directory.counted, inside], own⟩
  · exact ⟨bound, by simp [Directory.counted, same, presentBound], own⟩

/-- What a lookup and a call come to, whether or not the lookup panics: nobody is called, or the
provider that is bound to the key is. -/
theorem trySnapshot_shape (owned : directory.Owned) (key : String) (options : OptionSet) :
    (directory.trySnapshot key options).state = directory ∨
      ∃ number registration, directory.registrations[number]? = some registration ∧
        registration.provider.key = key ∧
        (directory.trySnapshot key options).state = directory.counted number registration := by
  simp only [trySnapshot]
  cases found : directory.find key with
  | error panic => exact Or.inl rfl
  | ok place =>
      cases place with
      | none => exact Or.inl rfl
      | some number =>
          rcases owned key number (bound_of_find found) with ⟨registration, present, own⟩
          refine Or.inr ⟨number, registration, present, own, ?_⟩
          simp only [call, present]
          rfl

theorem trySnapshot_only (owned : directory.Owned) (options : OptionSet) :
    (directory.only key).trySnapshot key options =
      ⟨(directory.trySnapshot key options).answer,
        (directory.trySnapshot key options).state.only key,
        (directory.trySnapshot key options).events⟩ := by
  simp only [trySnapshot, find_only owned]
  cases found : directory.find key with
  | error panic => rfl
  | ok place =>
      cases place with
      | none => rfl
      | some number =>
          rcases owned key number (bound_of_find found) with ⟨registration, present, own⟩
          have same : (directory.only key).registrations[directory.rank key number]? =
              some registration :=
            getElem?_filter_countPBefore (isFor key) present (isFor_of_key own)
          have counted := only_counted present own
          simp only [Except.map, Option.map_some, call, present, same]
          exact congrArg (Reply.mk _ · _) counted.symm

theorem only_trySnapshot_of_ne (owned : directory.Owned) {other : String} (foreign : other ≠ key)
    (options : OptionSet) :
    (directory.trySnapshot other options).state.only key = directory.only key := by
  rcases trySnapshot_shape owned other options with
    same | ⟨number, registration, present, own, same⟩
  · rw [same]
  · rw [same]
    apply only_counted_of_ne present
    rw [own]
    exact foreign

theorem Owned.trySnapshot (owned : directory.Owned) (key : String) (options : OptionSet) :
    (directory.trySnapshot key options).state.Owned := by
  rcases trySnapshot_shape owned key options with same | ⟨number, registration, present, _, same⟩
  · rw [same]
    exact owned
  · rw [same]
    exact owned.counted present

theorem takeSnapshot_only (owned : directory.Owned) (options : OptionSet) :
    (directory.only key).takeSnapshot key options =
      ⟨(directory.takeSnapshot key options).answer,
        (directory.takeSnapshot key options).state.only key,
        (directory.takeSnapshot key options).events⟩ := by
  simp only [takeSnapshot, trySnapshot_only owned]
  cases (directory.trySnapshot key options).answer <;> rfl

end Asking

end Directory

end ConsoleFeed
