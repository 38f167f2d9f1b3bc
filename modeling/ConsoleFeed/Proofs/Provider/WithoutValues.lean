import ConsoleFeed.Proofs.KeyMap
import ConsoleFeed.Proofs.Provider.Asking

/-!
# Option sets without their values

What is logged of an option set are its names, sorted, with commas between. They are the same in
whatever order the set lists them (`loggedKeys_eq_of_perm`), and whatever it holds under them. So
two option sets with the same names cannot be told apart in a log. Taking the values away
(`OptionSet.withoutValues`) leaves just what two such sets have in common.

A provider may look at the values that it is given. If none in a directory does, a snapshot comes
out the same without them.
-/

namespace ConsoleFeed

namespace OptionSet

/-- The option set with the same names and nothing under them. -/
def withoutValues (options : OptionSet) : OptionSet :=
  options.mapValues fun _ => .null

/-- What is logged of names, in whatever order they are listed. -/
def loggedNames (names : List String) : String :=
  if names.isEmpty then missingText else ",".intercalate names.mergeSort

@[simp]
theorem keys_withoutValues (options : OptionSet) : options.withoutValues.keys = options.keys := by
  simp [withoutValues, KeyMap.mapValues, KeyMap.keys]

@[simp]
theorem contains_withoutValues (options : OptionSet) (name : String) :
    options.withoutValues.contains name = options.contains name := by
  rw [Bool.eq_iff_iff, KeyMap.contains_iff, KeyMap.contains_iff, keys_withoutValues]

@[simp]
theorem withoutValues_empty : withoutValues KeyMap.empty = KeyMap.empty :=
  rfl

/-- Option sets are the same without their values if they have the same names. -/
theorem withoutValues_eq_iff (first second : OptionSet) :
    first.withoutValues = second.withoutValues ↔
      ∀ name, first.contains name = second.contains name := by
  constructor
  · intro same name
    rw [← contains_withoutValues first, same, contains_withoutValues]
  · intro same
    have names : first.keys = second.keys := KeyMap.keys_eq_of_contains same
    have nothing : ∀ options : OptionSet, options.withoutValues.entries =
        options.keys.map fun name => (name, Document.null) := by
      intro options
      simp [withoutValues, KeyMap.mapValues, KeyMap.keys]
    apply KeyMap.ext
    rw [nothing, nothing, names]

@[simp]
theorem withoutValues_withoutValues (options : OptionSet) :
    options.withoutValues.withoutValues = options.withoutValues :=
  (withoutValues_eq_iff _ _).mpr (contains_withoutValues options)

@[simp]
theorem loggedKeys_withoutValues (options : OptionSet) :
    options.withoutValues.loggedKeys = options.loggedKeys := by
  have none : options.withoutValues.entries.isEmpty = options.entries.isEmpty := by
    simp [withoutValues, KeyMap.mapValues]
  rw [loggedKeys, loggedKeys, none, keys_withoutValues]

/-- However the names of a set are listed, they are logged alike. -/
theorem loggedKeys_eq_of_perm {options : OptionSet} {names : List String}
    (listed : names.Perm options.keys) : options.loggedKeys = loggedNames names := by
  have ascending : names.mergeSort.Pairwise (· ≤ ·) := by
    have result : names.mergeSort.Pairwise fun first second => decide (first ≤ second) = true := by
      apply List.pairwise_mergeSort
      · intro first second third below above
        simp only [decide_eq_true_eq] at below above ⊢
        exact String.le_trans below above
      · intro first second
        simpa using String.le_total first second
    simpa only [decide_eq_true_eq] using result
  have sorted : names.mergeSort = options.keys := by
    apply ((names.mergeSort_perm _).trans listed).eq_of_pairwise _ ascending
    · exact options.pairwise_keys.imp fun below => String.not_lt.mp (String.lt_asymm below)
    · intro first second _ _ below above
      exact String.le_antisymm below above
  have none : names.isEmpty = options.entries.isEmpty := by
    rw [Bool.eq_iff_iff, List.isEmpty_iff_length_eq_zero, listed.length_eq, KeyMap.keys,
      List.length_map, List.isEmpty_iff_length_eq_zero]
  rw [loggedKeys, loggedNames, sorted, none]

end OptionSet

/-- The provider looks at no value of the options that it is given. -/
def Provider.IgnoresValues (provider : Provider) : Prop :=
  ∀ count (first second : OptionSet), (∀ name, first.contains name = second.contains name) →
    provider.answer count first = provider.answer count second

namespace Directory

/-- No provider looks at a value of the options that it is given. -/
def IgnoresValues (directory : Directory) : Prop :=
  ∀ registration ∈ directory.registrations, registration.provider.IgnoresValues

variable {directory : Directory}

theorem trySnapshot_withoutValues (ignores : directory.IgnoresValues) (key : String)
    (options : OptionSet) :
    directory.trySnapshot key options.withoutValues = directory.trySnapshot key options := by
  have called : ∀ number,
      directory.call number options.withoutValues = directory.call number options := by
    intro number
    simp only [call]
    split
    · rfl
    · rename_i registration present
      rw [ignores registration (List.mem_of_getElem? present) _ _ options
        options.contains_withoutValues]
  simp only [trySnapshot, called]

theorem takeSnapshot_withoutValues (ignores : directory.IgnoresValues) (key : String)
    (options : OptionSet) :
    directory.takeSnapshot key options.withoutValues = directory.takeSnapshot key options := by
  simp only [takeSnapshot, trySnapshot_withoutValues ignores]

theorem IgnoresValues.register (ignores : directory.IgnoresValues) {provider : Provider}
    (fine : provider.IgnoresValues) : (directory.register provider).state.IgnoresValues := by
  intro registration member
  rcases List.mem_append.mp member with old | new
  · exact ignores registration old
  · rw [List.mem_singleton.mp new]
    exact fine

theorem IgnoresValues.unregister (ignores : directory.IgnoresValues) (key : String) :
    (directory.unregister key).state.IgnoresValues := by
  simp only [Directory.unregister]
  split <;> exact ignores

theorem IgnoresValues.call (ignores : directory.IgnoresValues) (number : Nat)
    (options : OptionSet) : (directory.call number options).2.IgnoresValues := by
  simp only [Directory.call]
  split
  · exact ignores
  · rename_i registration present
    intro other member
    rcases List.mem_or_eq_of_mem_set member with old | new
    · exact ignores other old
    · rw [new]
      exact ignores registration (List.mem_of_getElem? present)

theorem IgnoresValues.takeSnapshot (ignores : directory.IgnoresValues) (key : String)
    (options : OptionSet) : (directory.takeSnapshot key options).state.IgnoresValues := by
  rw [state_takeSnapshot, trySnapshot]
  split
  · exact ignores
  · exact ignores
  · exact ignores.call _ options

end Directory

end ConsoleFeed
