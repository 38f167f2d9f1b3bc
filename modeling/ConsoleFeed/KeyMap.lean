/-!
# Maps with text keys

A finite map from texts is kept as the list of its entries in ascending order of keys, each key
once. So two maps with the same entries are equal however they were built, and listing the keys of a
map gives them in order. Texts are compared by their characters' numbers, which is also the order of
their UTF-8 bytes.

The order is part of the type. The three operations come with one law each, which says what it does
to looking a key up, and looking up decides which keys are listed.
-/

namespace ConsoleFeed

/-- A finite map from texts, by ascending key. -/
structure KeyMap (Value : Type) where
  entries : List (String × Value)
  ascending : entries.Pairwise (fun first second => first.1 < second.1)

namespace KeyMap

variable {Value : Type}

/-- The map without entries. -/
def empty : KeyMap Value := ⟨[], List.Pairwise.nil⟩

instance : Inhabited (KeyMap Value) := ⟨empty⟩

instance [DecidableEq Value] : DecidableEq (KeyMap Value) := fun first second =>
  if same : first.entries = second.entries then
    .isTrue (by cases first; cases second; simp_all)
  else .isFalse (fun equal => same (congrArg entries equal))

/-- The value under a key in a list of entries. -/
def lookup (key : String) : List (String × Value) → Option Value
  | [] => none
  | entry :: rest => if entry.1 = key then some entry.2 else lookup key rest

/-- Puts an entry into its place in an ascending list, over an older one with the same key. -/
def place (key : String) (value : Value) : List (String × Value) → List (String × Value)
  | [] => [(key, value)]
  | entry :: rest =>
      if key < entry.1 then (key, value) :: entry :: rest
      else if key = entry.1 then (key, value) :: rest
      else entry :: place key value rest

theorem mem_place {key : String} {value : Value} {entries : List (String × Value)}
    {entry : String × Value} (member : entry ∈ place key value entries) :
    entry = (key, value) ∨ entry ∈ entries := by
  induction entries with
  | nil => simpa [place] using member
  | cons head rest ih =>
      simp only [place] at member
      split at member
      · simpa using member
      · split at member
        · cases List.mem_cons.1 member with
          | inl here => exact .inl here
          | inr there => exact .inr (List.mem_cons_of_mem _ there)
        · cases List.mem_cons.1 member with
          | inl here => exact .inr (here ▸ List.mem_cons_self)
          | inr there =>
              cases ih there with
              | inl new => exact .inl new
              | inr old => exact .inr (List.mem_cons_of_mem _ old)

theorem pairwise_place {key : String} {value : Value} {entries : List (String × Value)}
    (ascending : entries.Pairwise (fun first second => first.1 < second.1)) :
    (place key value entries).Pairwise (fun first second => first.1 < second.1) := by
  induction entries with
  | nil => simp [place]
  | cons head rest ih =>
      obtain ⟨headBelow, restAscending⟩ := List.pairwise_cons.1 ascending
      simp only [place]
      split
      · rename_i keyBelow
        refine List.pairwise_cons.2 ⟨fun entry member => ?_, ascending⟩
        cases List.mem_cons.1 member with
        | inl here => exact here ▸ keyBelow
        | inr there => exact String.lt_trans keyBelow (headBelow entry there)
      · split
        · rename_i keySame
          exact List.pairwise_cons.2
            ⟨fun entry member => keySame ▸ headBelow entry member, restAscending⟩
        · rename_i notBelow notSame
          have headKey : head.1 < key :=
            Decidable.byContradiction fun notAbove =>
              notSame (String.le_antisymm (String.not_lt.1 notAbove) (String.not_lt.1 notBelow))
          refine List.pairwise_cons.2 ⟨fun entry member => ?_, ih restAscending⟩
          cases mem_place member with
          | inl new => exact new ▸ headKey
          | inr old => exact headBelow entry old

/-- The value under a key. -/
def find? (map : KeyMap Value) (key : String) : Option Value :=
  lookup key map.entries

/-- The map with an entry added, over an older one with the same key. -/
def insert (map : KeyMap Value) (key : String) (value : Value) : KeyMap Value :=
  ⟨place key value map.entries, pairwise_place map.ascending⟩

/-- The map without a key. -/
def erase (map : KeyMap Value) (key : String) : KeyMap Value :=
  ⟨map.entries.filter (fun entry => entry.1 ≠ key), map.ascending.filter _⟩

/-- Whether there is an entry under a key. -/
def contains (map : KeyMap Value) (key : String) : Bool :=
  (map.find? key).isSome

/-- The keys in ascending order. -/
def keys (map : KeyMap Value) : List String :=
  map.entries.map Prod.fst

/-- How many entries there are. -/
def size (map : KeyMap Value) : Nat :=
  map.entries.length

/-- The map of a list of entries, of which the last one under a key counts. -/
def ofList (entries : List (String × Value)) : KeyMap Value :=
  entries.foldl (fun map entry => map.insert entry.1 entry.2) empty

theorem ext {first second : KeyMap Value} (same : first.entries = second.entries) :
    first = second := by
  cases first
  cases second
  simp_all

/-- The keys of a map are in strictly ascending order. -/
theorem pairwise_keys (map : KeyMap Value) : map.keys.Pairwise (· < ·) :=
  List.pairwise_map.2 map.ascending

theorem lookup_place (key other : String) (value : Value) (entries : List (String × Value)) :
    lookup other (place key value entries) =
      if other = key then some value else lookup other entries := by
  induction entries with
  | nil =>
      by_cases same : other = key
      · simp [place, lookup, same]
      · simp [place, lookup, same, Ne.symm same]
  | cons head rest ih =>
      simp only [place]
      split
      · by_cases same : other = key
        · simp [lookup, same]
        · simp [lookup, same, Ne.symm same]
      · split
        · rename_i keySame
          by_cases same : other = key
          · simp [lookup, same]
          · simp [lookup, same, Ne.symm same, ← keySame]
        · rename_i notSame
          by_cases same : other = key
          · subst same
            simp [lookup, ih, Ne.symm notSame]
          · simp [lookup, ih, same]

theorem lookup_filter (key other : String) (entries : List (String × Value)) :
    lookup other (entries.filter (fun entry => entry.1 ≠ key)) =
      if other = key then none else lookup other entries := by
  induction entries with
  | nil => simp [lookup]
  | cons head rest ih =>
      by_cases headSame : head.1 = key
      · by_cases same : other = key
        · simp_all
        · have different : head.1 ≠ other := fun equal => same (equal ▸ headSame)
          simp_all [lookup]
      · by_cases same : other = key
        · subst same
          simp_all [lookup]
        · simp_all [lookup]

/-- After an insertion its key holds the new value, and every other key what it held. -/
theorem find?_insert (map : KeyMap Value) (key other : String) (value : Value) :
    (map.insert key value).find? other = if other = key then some value else map.find? other :=
  lookup_place key other value map.entries

/-- After an erasure its key holds nothing, and every other key what it held. -/
theorem find?_erase (map : KeyMap Value) (key other : String) :
    (map.erase key).find? other = if other = key then none else map.find? other :=
  lookup_filter key other map.entries

theorem lookup_of_mem {entries : List (String × Value)}
    (ascending : entries.Pairwise (fun first second => first.1 < second.1))
    {entry : String × Value} (member : entry ∈ entries) :
    lookup entry.1 entries = some entry.2 := by
  induction entries with
  | nil => cases member
  | cons head rest ih =>
      rcases List.pairwise_cons.1 ascending with ⟨below, restAscending⟩
      rcases List.mem_cons.1 member with rfl | inside
      · simp [lookup]
      · have different : head.1 ≠ entry.1 := String.ne_of_lt (below entry inside)
        simp only [lookup, different, if_false]
        exact ih restAscending inside

theorem mem_of_lookup {key : String} {value : Value} {entries : List (String × Value)}
    (found : lookup key entries = some value) : (key, value) ∈ entries := by
  induction entries with
  | nil => cases found
  | cons entry rest ih =>
      simp only [lookup] at found
      split at found
      · rename_i here
        cases found
        exact here ▸ List.mem_cons_self
      · exact List.mem_cons_of_mem entry (ih found)

theorem isSome_lookup_iff (key : String) (entries : List (String × Value)) :
    (lookup key entries).isSome ↔ key ∈ entries.map Prod.fst := by
  induction entries with
  | nil => simp [lookup]
  | cons head rest ih =>
      by_cases same : head.1 = key
      · simp [lookup, same]
      · simp only [lookup, same, if_false, List.map_cons, List.mem_cons, Ne.symm same, false_or]
        exact ih

theorem contains_iff (map : KeyMap Value) (key : String) :
    map.contains key = true ↔ key ∈ map.keys :=
  isSome_lookup_iff key map.entries

theorem nodup_keys (map : KeyMap Value) : map.keys.Nodup :=
  map.pairwise_keys.imp fun below => String.ne_of_lt below

/-- Maps that have the same keys list them alike, whatever they hold under them. -/
theorem keys_eq_of_contains {Other : Type} {first : KeyMap Value} {second : KeyMap Other}
    (same : ∀ key, first.contains key = second.contains key) : first.keys = second.keys := by
  have permuted : first.keys.Perm second.keys := by
    apply (List.perm_ext_iff_of_nodup first.nodup_keys second.nodup_keys).mpr
    intro key
    rw [← contains_iff, ← contains_iff, same key]
  exact permuted.eq_of_pairwise
    (fun _ _ _ _ below above => absurd above (String.lt_asymm below))
    first.pairwise_keys second.pairwise_keys

end KeyMap

end ConsoleFeed
