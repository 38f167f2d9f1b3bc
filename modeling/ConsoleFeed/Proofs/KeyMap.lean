import ConsoleFeed.KeyMap

/-!
# The entries of a map

An operation on a map can also be described by what it does to the list of entries. Up to order, the
list is the entry of one key, if there is one, and the entries of the others; an erasure takes the
first away, and an insertion puts another one in its place. So what is counted over the entries of a
map changes by one entry at a time.
-/

namespace ConsoleFeed.KeyMap

variable {Value : Type} (map : KeyMap Value)

theorem mem_entries_iff {key : String} {value : Value} :
    (key, value) ∈ map.entries ↔ map.find? key = some value :=
  ⟨fun member => lookup_of_mem map.ascending member, mem_of_lookup⟩

/-- The entry of a key, if there is one. -/
def entriesOf (key : String) : List (String × Value) :=
  (map.find? key).toList.map fun value => (key, value)

theorem mem_entriesOf_iff {key : String} {entry : String × Value} :
    entry ∈ map.entriesOf key ↔ entry.1 = key ∧ map.find? key = some entry.2 := by
  rcases entry with ⟨other, value⟩
  simp only [entriesOf, List.mem_map, Option.mem_toList, Prod.mk.injEq]
  constructor
  · rintro ⟨found, held, rfl, rfl⟩
    exact ⟨rfl, held⟩
  · rintro ⟨rfl, held⟩
    exact ⟨value, held, rfl, rfl⟩

theorem nodup_entries : map.entries.Nodup := by
  apply map.ascending.imp
  intro first second below same
  exact String.lt_irrefl first.1 (same ▸ below)

theorem filter_entries_eq (key : String) :
    (map.entries.filter fun entry => entry.1 = key) = map.entriesOf key := by
  have permuted : (map.entries.filter fun entry => entry.1 = key).Perm (map.entriesOf key) := by
    apply (List.perm_ext_iff_of_nodup (map.nodup_entries.filter _) _).mpr
    · intro entry
      rcases entry with ⟨other, value⟩
      rw [List.mem_filter, mem_entries_iff, mem_entriesOf_iff]
      simp only [decide_eq_true_eq]
      constructor
      · rintro ⟨held, rfl⟩
        exact ⟨rfl, held⟩
      · rintro ⟨rfl, held⟩
        exact ⟨held, rfl⟩
    · simp only [entriesOf]
      cases map.find? key <;> simp
  have short : (map.entriesOf key).length ≤ 1 := by
    simp only [entriesOf]
    cases map.find? key <;> simp
  revert permuted short
  generalize map.entriesOf key = single
  intro permuted short
  match single, short with
  | [], _ => exact permuted.eq_nil
  | [entry], _ => exact permuted.eq_singleton

/-- The entries are those of one key and those that are left when it is erased. -/
theorem entries_perm_erase (key : String) :
    map.entries.Perm (map.entriesOf key ++ (map.erase key).entries) := by
  have split := List.filter_append_perm (fun entry => decide (entry.1 = key)) map.entries
  rw [filter_entries_eq] at split
  have others : (map.entries.filter fun entry => !decide (entry.1 = key)) =
      (map.erase key).entries := by
    simp [erase]
  rw [others] at split
  exact split.symm

/-- After an insertion the entries are the new one and those of the other keys. -/
theorem entries_insert_perm (key : String) (value : Value) :
    (map.insert key value).entries.Perm ((key, value) :: (map.erase key).entries) := by
  have erased : (map.insert key value).erase key = map.erase key := by
    apply ext
    apply List.Perm.eq_of_pairwise _ ((map.insert key value).erase key).ascending
      (map.erase key).ascending
    · apply (List.perm_ext_iff_of_nodup (nodup_entries _) (nodup_entries _)).mpr
      rintro ⟨other, held⟩
      simp only [mem_entries_iff, find?_erase, find?_insert]
      split <;> rfl
    · intro first second _ _ below above
      exact absurd above (String.lt_asymm below)
  have split := (map.insert key value).entries_perm_erase key
  simpa [entriesOf, find?_insert, erased] using split

theorem erase_of_absent {key : String} (absent : map.find? key = none) : map.erase key = map := by
  apply ext
  apply List.filter_eq_self.mpr
  rintro ⟨other, value⟩ member
  have held := (mem_entries_iff map).mp member
  have different : other ≠ key := by
    rintro rfl
    rw [absent] at held
    cases held
  exact decide_eq_true different

/-- Looking keys up tells maps apart. -/
theorem eq_of_find? {first second : KeyMap Value}
    (same : ∀ key, first.find? key = second.find? key) : first = second := by
  apply ext
  apply List.Perm.eq_of_pairwise _ first.ascending second.ascending
  · apply (List.perm_ext_iff_of_nodup first.nodup_entries second.nodup_entries).mpr
    intro entry
    rw [mem_entries_iff, mem_entries_iff, same entry.1]
  · intro first second _ _ below above
    exact absurd above (String.lt_asymm below)

/-- Entries with different keys are put over a map one after the other; then each of their keys
holds what is listed under it. -/
theorem find?_foldl_insert {entries : List (String × Value)}
    (apart : (entries.map Prod.fst).Nodup) (key : String) :
    ∀ map : KeyMap Value,
      (entries.foldl (fun map entry => map.insert entry.1 entry.2) map).find? key =
        (lookup key entries).or (map.find? key) := by
  induction entries with
  | nil => exact fun map => rfl
  | cons entry others ih =>
      intro map
      rcases List.nodup_cons.mp apart with ⟨notAgain, othersApart⟩
      rw [List.foldl_cons, ih othersApart, find?_insert]
      by_cases here : entry.1 = key
      · have nowhere : lookup key others = none := by
          rw [← Option.not_isSome_iff_eq_none, isSome_lookup_iff]
          exact here ▸ notAgain
        simp [lookup, here, nowhere]
      · simp [lookup, here, Ne.symm here]

/-- The entries of a map give that map back in whatever order they are listed. -/
theorem ofList_eq_of_perm {entries : List (String × Value)} (permuted : entries.Perm map.entries) :
    ofList entries = map := by
  have apart : (entries.map Prod.fst).Nodup := (permuted.map Prod.fst).nodup_iff.mpr map.nodup_keys
  apply eq_of_find?
  intro key
  rw [ofList, find?_foldl_insert apart]
  apply Option.ext
  intro value
  have nothing : (empty : KeyMap Value).find? key = none := rfl
  rw [nothing, Option.or_none]
  constructor
  · intro found
    exact (mem_entries_iff map).mp (permuted.mem_iff.mp (mem_of_lookup found))
  · intro held
    have member := permuted.mem_iff.mpr ((mem_entries_iff map).mpr held)
    have listed : (lookup key entries).isSome :=
      (isSome_lookup_iff key entries).mpr (List.mem_map_of_mem member)
    rcases Option.isSome_iff_exists.mp listed with ⟨other, found⟩
    have same := (mem_entries_iff map).mp (permuted.mem_iff.mp (mem_of_lookup found))
    rw [found, ← held, same]

theorem mem_of_mem_ofList {entries : List (String × Value)} {entry : String × Value}
    (member : entry ∈ (ofList entries).entries) : entry ∈ entries := by
  have placed : ∀ (others : List (String × Value)) (map : KeyMap Value),
      entry ∈ (others.foldl (fun map entry => map.insert entry.1 entry.2) map).entries →
        entry ∈ others ∨ entry ∈ map.entries := by
    intro others
    induction others with
    | nil => exact fun map => Or.inr
    | cons first others ih =>
        intro map inside
        rcases ih (map.insert first.1 first.2) inside with there | before
        · exact Or.inl (List.mem_cons_of_mem first there)
        · rcases mem_place before with rfl | old
          · exact Or.inl List.mem_cons_self
          · exact Or.inr old
  rcases placed entries empty member with listed | nothing
  · exact listed
  · cases nothing

/-- The map with each value made into another one. -/
def mapValues {Other : Type} (rename : Value → Other) : KeyMap Other :=
  ⟨map.entries.map fun entry => (entry.1, rename entry.2), List.pairwise_map.mpr map.ascending⟩

@[simp]
theorem find?_mapValues {Other : Type} (rename : Value → Other) (key : String) :
    (map.mapValues rename).find? key = (map.find? key).map rename := by
  simp only [find?, mapValues]
  induction map.entries with
  | nil => rfl
  | cons entry rest ih =>
      simp only [List.map_cons, lookup]
      split
      · rfl
      · exact ih

@[simp]
theorem keys_mapValues {Other : Type} (rename : Value → Other) :
    (map.mapValues rename).keys = map.keys := by
  simp [keys, mapValues]

theorem mapValues_insert {Other : Type} (rename : Value → Other) (key : String) (value : Value) :
    (map.insert key value).mapValues rename = (map.mapValues rename).insert key (rename value) := by
  apply eq_of_find?
  intro other
  simp only [find?_mapValues, find?_insert]
  split <;> rfl

theorem mapValues_erase {Other : Type} (rename : Value → Other) (key : String) :
    (map.erase key).mapValues rename = (map.mapValues rename).erase key := by
  apply eq_of_find?
  intro other
  simp only [find?_mapValues, find?_erase]
  split <;> rfl

/-- The values of a map, in the order of their keys. -/
def values : List Value :=
  map.entries.map Prod.snd

theorem mem_values_iff {value : Value} :
    value ∈ map.values ↔ ∃ key, map.find? key = some value := by
  simp only [values, List.mem_map, Prod.exists, exists_eq_right, mem_entries_iff]

theorem values_perm_erase {key : String} {value : Value} (held : map.find? key = some value) :
    map.values.Perm (value :: (map.erase key).values) := by
  have split := (map.entries_perm_erase key).map Prod.snd
  rw [entriesOf, held] at split
  exact split

theorem values_perm_erase_of_absent {key : String} (absent : map.find? key = none) :
    map.values.Perm (map.erase key).values := by
  have split := (map.entries_perm_erase key).map Prod.snd
  rw [entriesOf, absent] at split
  exact split

theorem values_insert_perm (key : String) (value : Value) :
    (map.insert key value).values.Perm (value :: (map.erase key).values) :=
  (map.entries_insert_perm key value).map Prod.snd

theorem values_insert_perm_of_absent {key : String} (absent : map.find? key = none)
    (value : Value) : (map.insert key value).values.Perm (value :: map.values) :=
  (map.values_insert_perm key value).trans
    ((map.values_perm_erase_of_absent absent).symm.cons value)

/-- The map that binds one key at most. -/
def just (key : String) (value? : Option Value) : KeyMap Value :=
  value?.elim empty (empty.insert key)

@[simp]
theorem find?_just (key other : String) (value? : Option Value) :
    (just key value?).find? other = if other = key then value? else none := by
  have nothing : (empty : KeyMap Value).find? other = none := rfl
  cases value? with
  | none =>
      rw [ite_self]
      exact nothing
  | some value =>
      simp only [just, Option.elim_some]
      rw [find?_insert, nothing]

@[simp]
theorem insert_just (key : String) (value? : Option Value) (value : Value) :
    (just key value?).insert key value = just key (some value) := by
  apply ext
  cases value? <;> simp [just, insert, empty, place]

@[simp]
theorem erase_just (key : String) (value? : Option Value) :
    (just key value?).erase key = just key none := by
  apply ext
  cases value? <;> simp [just, insert, erase, empty, place]

/-- The keys of a map that are the one given. -/
theorem filter_keys_eq (key : String) {Other : Type} (rename : Value → Other) :
    map.keys.filter (· = key) = (just key ((map.find? key).map rename)).keys := by
  have same : map.keys.filter (· = key) = (map.entriesOf key).map Prod.fst := by
    rw [← filter_entries_eq, keys, List.filter_map]
    rfl
  rw [same, entriesOf]
  cases map.find? key <;> simp [just, keys, insert, empty, place]

end ConsoleFeed.KeyMap
