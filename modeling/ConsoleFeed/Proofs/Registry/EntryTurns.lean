import ConsoleFeed.Proofs.Registry.Uses

/-!
# What a use does to the entries

A use of a registry other than a shutdown does one of few things to the entries (`Turn`): none, or
it makes one, outside of the table or in it, or it takes one out of the table and cancels it, or it
cancels one through a handle, or because nothing holds it any more. A shutdown is one deactivation
after the other.

The table holds entries under their own keys (`Owned`). So an entry that the table holds and that is
not cancelled (`Stands`) goes on to stand under every use but three: a deactivation of its key, a
shutdown, and a cancellation of that very entry. After one of these it is cancelled for good.
Whoever asks for the entry of a key gets one that stands.
-/

namespace ConsoleFeed.Registry

/-- An entry was made outside of the table. -/
structure BuildsEntry (before after : Registry) : Prop where
  table : after.table = before.table
  older : ∀ number, number < before.subscriptions.length →
    after.standing? number = before.standing? number
  length : after.subscriptions.length = before.subscriptions.length + 1

/-- What a use other than a shutdown does to the entries. -/
inductive Turn (before : Registry) : Use Nat → Registry → Prop where
  | kept {use : Use Nat} {after : Registry} (same : SameEntries before after) :
      Turn before use after
  | built {use : Use Nat} {after : Registry} (builds : BuildsEntry before after) :
      Turn before use after
  | made {use : Use Nat} {key : String} {after : Registry} (makes : MakesEntry key before after) :
      Turn before use after
  | cancelled {number : Nat} {after : Registry} (cancels : CancelsEntry number before after) :
      Turn before (.onEntry number .cancel) after
  | dropped {number : Nat} {after : Registry} (outside : before.inTable number = false)
      (cancels : CancelsEntry number before after) : Turn before (.onEntry number .giveBack) after
  | removed {key : String} {number : Nat} {between after : Registry}
      (removes : RemovesEntry key number before between)
      (cancels : CancelsEntry number between after) : Turn before (.onKey key .deactivate) after

/-- What is done under a key, other than making an entry outside of the table. -/
inductive KeyTurn (before : Registry) (key : String) : KeyAct → Registry → Prop where
  | kept {act : KeyAct} {after : Registry} (same : SameEntries before after) :
      KeyTurn before key act after
  | made {act : KeyAct} {after : Registry} (makes : MakesEntry key before after) :
      KeyTurn before key act after
  | removed {number : Nat} {between after : Registry}
      (removes : RemovesEntry key number before between)
      (cancels : CancelsEntry number between after) : KeyTurn before key .deactivate after

theorem KeyTurn.turn {before after : Registry} {key : String} {act : KeyAct}
    (turn : KeyTurn before key act after) : Turn before (.onKey key act) after := by
  cases turn with
  | kept same => exact .kept same
  | made makes => exact .made makes
  | removed removes cancels => exact .removed removes cancels

/-- Whether an act on an entry may cancel it. -/
def EntryAct.mayCancel : EntryAct → Bool
  | .cancel | .giveBack => true
  | _ => false

section Turns

variable (registry : Registry)

theorem sameEntries_withChannel (number : Nat) (channel : Channel) :
    SameEntries registry (ChannelHost.withChannel registry number channel) := by
  simp only [ChannelHost.withChannel]
  cases present : registry.subscription? number with
  | none => exact .refl registry
  | some subscription =>
      dsimp only
      rw [registry.store_eq_changing number present (·.withChannel channel)]
      exact registry.sameEntries_changing number (fun _ => rfl) (fun _ => rfl)

theorem sameEntries_onEntry (number : Nat) {act : EntryAct} (sparing : act.mayCancel = false) :
    SameEntries registry (registry.onEntry number act).state := by
  cases present : registry.subscription? number with
  | none =>
      simp only [onEntry, present]
      exact .refl registry
  | some subscription =>
      simp only [onEntry, present]
      cases act with
      | inspect => exact .refl registry
      | lend => exact registry.sameEntries_lend number
      | giveBack | cancel => cases sparing
      | replaceOptions options => exact registry.sameEntries_replaceOptions number options
      | snapshot => exact ⟨rfl, fun _ => rfl, rfl⟩
      | trySnapshot => exact ⟨rfl, fun _ => rfl, rfl⟩
      | channel act => exact registry.sameEntries_withChannel number _
      | beginTick =>
          simp only [actOn]
          cases begun : registry.beginTick? number with
          | none => exact .refl registry
          | some taken => exact registry.sameEntries_beginTick number begun
      | endTick options => exact registry.sameEntries_endTick number options

theorem turn_onEntry (number : Nat) (act : EntryAct) :
    Turn registry (.onEntry number act) (registry.onEntry number act).state := by
  cases present : registry.subscription? number with
  | none =>
      simp only [onEntry, present]
      exact .kept (.refl registry)
  | some subscription =>
      cases act with
      | giveBack =>
          simp only [onEntry, present]
          rcases registry.giveBack_entries number with same | ⟨cancels, outside⟩
          · exact .kept same
          · exact .dropped outside cancels
      | cancel =>
          simp only [onEntry, present]
          exact .cancelled (registry.cancelsEntry_cancel number)
      | _ => exact .kept (registry.sameEntries_onEntry number rfl)

/-- Deactivating a key takes its entry out and cancels it, or finds none. -/
theorem deactivate_cases (key : String) :
    (registry.table.find? key = none ∧ (registry.deactivate key).state = registry) ∨
      ∃ number between, RemovesEntry key number registry between ∧
        CancelsEntry number between (registry.deactivate key).state := by
  simp only [deactivate]
  rcases registry.remove_entries key with ⟨absent, unheld⟩ | ⟨number, found, removes⟩
  · simp only [absent]
    exact Or.inl ⟨unheld, trivial⟩
  · simp only [found]
    exact Or.inr ⟨number, registry.without key, removes, cancelsEntry_cancel _ number⟩

theorem buildsEntry_schedule (key : String) (options : OptionSet) (settings : StreamerSettings)
    (refusal : Option StartRefusal) :
    (registry.schedule key options settings refusal).state = registry ∨
      BuildsEntry registry (registry.schedule key options settings refusal).state := by
  cases refusal with
  | some reason => exact Or.inl rfl
  | none =>
      refine Or.inr ⟨rfl, ?_, by simp [schedule]⟩
      intro number older
      simp [standing?, subscription?, schedule, List.getElem?_append_left older]

theorem keyTurn_getOrCreate {act : KeyAct} {after : Registry} (key : String) (options : OptionSet)
    (refusal : Option StartRefusal)
    (same : SameEntries (registry.getOrCreate key options refusal).state after) :
    KeyTurn registry key act after := by
  rcases registry.getOrCreate_cases key options refusal with
    ⟨_, _, _, found⟩ | ⟨_, _, _, _, refused⟩ | ⟨absent, _, _, made⟩
  · exact .kept (found ▸ same)
  · exact .kept (refused ▸ same)
  · exact .made ((registry.makesEntry_entered absent options).trans_same (made ▸ same))

theorem keyTurn_onKey (key : String) {act : KeyAct}
    (listed : ∀ options settings refusal, act ≠ .build options settings refusal) :
    KeyTurn registry key act (registry.onKey key act).state := by
  cases act with
  | getOrCreate options refusal => exact registry.keyTurn_getOrCreate key options refusal (.refl _)
  | getStream options refusal =>
      apply registry.keyTurn_getOrCreate key options refusal
      simp only [onKey, getStream]
      split
      · exact .refl _
      · exact sameEntries_onChannel _ _ _
  | getSnapshot options refusal =>
      apply registry.keyTurn_getOrCreate key options refusal
      simp only [onKey, getSnapshot]
      split
      · exact .refl _
      · exact ⟨rfl, fun _ => rfl, rfl⟩
  | peekSnapshot options =>
      simp only [onKey, peekSnapshot]
      split <;> exact .kept ⟨rfl, fun _ => rfl, rfl⟩
  | build options settings refusal => exact absurd rfl (listed options settings refusal)
  | get =>
      simp only [onKey]
      split <;> exact .kept (.refl registry)
  | contains => exact .kept (.refl registry)
  | updateOptions options =>
      have replaced : SameEntries registry (registry.updateLive key options).state := by
        simp only [updateLive]
        cases registry.get? key with
        | none => exact .refl registry
        | some number => exact registry.sameEntries_replaceOptions number options
      simp only [onKey, updateOptions]
      split <;> exact .kept replaced
  | deactivate =>
      rcases registry.deactivate_cases key with ⟨_, same⟩ | ⟨number, between, removes, cancels⟩
      · simp only [onKey, same]
        exact .kept (.refl registry)
      · exact .removed removes cancels
  | lookup => exact .kept (.refl registry)
  | unregister => exact .kept ⟨rfl, fun _ => rfl, rfl⟩

theorem turn_onKey (key : String) (act : KeyAct) :
    Turn registry (.onKey key act) (registry.onKey key act).state := by
  cases act with
  | build options settings refusal =>
      simp only [onKey]
      rcases registry.buildsEntry_schedule key options settings refusal with same | builds
      · rw [same]
        exact .kept (.refl registry)
      · exact .built builds
  | _ => exact (registry.keyTurn_onKey key (by simp)).turn

end Turns

/-- The table holds entries under their own keys. -/
def Owned (registry : Registry) : Prop :=
  ∀ key number, registry.table.find? key = some number →
    ∃ mark, registry.standing? number = some (key, mark)

/-- The table holds the entry under the key, and it is not cancelled. -/
def Stands (registry : Registry) (key : String) (number : Nat) : Prop :=
  registry.table.find? key = some number ∧ registry.standing? number = some (key, false)

/-- A use after which an entry of a key is not the live one any more. -/
def Use.Ends (key : String) (number : Nat) (use : Use Nat) : Prop :=
  use = .onKey key .deactivate ∨ use = .shutdown ∨ use = .onEntry number .cancel

section Keeping

variable {before after : Registry}

theorem owned_create (name : String) (settings : StreamerSettings) (directory : Directory) :
    (create name settings directory).state.Owned := by
  intro key number held
  simp [create, KeyMap.find?, KeyMap.empty, KeyMap.lookup] at held

theorem lt_length_of_standing {number : Nat} {standing : String × Bool}
    (present : before.standing? number = some standing) : number < before.subscriptions.length :=
  (before.standing?_isSome_iff number).mp (by rw [present]; rfl)

theorem CancelsEntry.standing_of {number other : Nat} (cancels : CancelsEntry other before after)
    {key : String} {mark : Bool} (present : before.standing? number = some (key, mark)) :
    after.standing? number = some (key, mark || number == other) := by
  rw [cancels.standing]
  by_cases same : number = other
  · subst same
    simp [present]
  · simp [same, present]

/-- An entry keeps its key, and stays cancelled once it is. -/
theorem Turn.standing {use : Use Nat} (turn : Turn before use after) {key : String} {number : Nat}
    {mark : Bool} (present : before.standing? number = some (key, mark)) :
    ∃ later, after.standing? number = some (key, later) ∧ (mark = true → later = true) := by
  have older := lt_length_of_standing present
  cases turn with
  | kept same => exact ⟨mark, (same.standing number).trans present, id⟩
  | built builds => exact ⟨mark, (builds.older number older).trans present, id⟩
  | made makes =>
      refine ⟨mark, ?_, id⟩
      have different : number ≠ before.subscriptions.length := by omega
      rw [makes.standing, if_neg different]
      exact present
  | cancelled cancels => exact ⟨_, cancels.standing_of present, by simp +contextual⟩
  | dropped outside cancels => exact ⟨_, cancels.standing_of present, by simp +contextual⟩
  | removed removes cancels =>
      exact ⟨_, cancels.standing_of ((removes.standing number).trans present), by simp +contextual⟩

theorem Turn.cancelled_stays {use : Use Nat} (turn : Turn before use after) {key : String}
    {number : Nat} (cancelled : before.standing? number = some (key, true)) :
    after.standing? number = some (key, true) := by
  rcases turn.standing cancelled with ⟨later, present, stays⟩
  rw [present, stays rfl]

theorem Owned.turn (owned : before.Owned) {use : Use Nat} (turn : Turn before use after) :
    after.Owned := by
  intro key number held
  have kept : before.table.find? key = some number →
      ∃ mark, after.standing? number = some (key, mark) := by
    intro earlier
    rcases owned key number earlier with ⟨mark, present⟩
    rcases turn.standing present with ⟨later, presentLater, _⟩
    exact ⟨later, presentLater⟩
  cases turn with
  | kept same => exact kept (same.table ▸ held)
  | built builds => exact kept (builds.table ▸ held)
  | cancelled cancels => exact kept (cancels.table ▸ held)
  | dropped outside cancels => exact kept (cancels.table ▸ held)
  | made makes =>
      rw [makes.table, KeyMap.find?_insert] at held
      split at held
      · rename_i same
        cases held
        exact ⟨false, by rw [makes.standing, if_pos rfl, same]⟩
      · exact kept held
  | removed removes cancels =>
      rw [cancels.table, removes.table, KeyMap.find?_erase] at held
      split at held
      · cases held
      · exact kept held

/-- An entry that stands goes on to stand, unless a use comes that ends it. -/
theorem Stands.turn {key : String} {number : Nat} (stands : before.Stands key number)
    (owned : before.Owned) {use : Use Nat} (turn : Turn before use after)
    (lasting : ¬ use.Ends key number) : after.Stands key number := by
  rcases stands with ⟨held, standing⟩
  have older := lt_length_of_standing standing
  cases turn with
  | kept same => exact ⟨same.table ▸ held, (same.standing number).trans standing⟩
  | built builds => exact ⟨builds.table ▸ held, (builds.older number older).trans standing⟩
  | made makes =>
      rename_i other
      have different : key ≠ other := by
        rintro rfl
        have cancelled := (before.get?_eq_none_iff key).mp makes.absent number held
        rw [isCancelled_eq_standing?, standing] at cancelled
        cases cancelled
      have fresh : number ≠ before.subscriptions.length := by omega
      refine ⟨?_, ?_⟩
      · rw [makes.table, KeyMap.find?_insert, if_neg different]
        exact held
      · rw [makes.standing, if_neg fresh]
        exact standing
  | cancelled cancels =>
      rename_i other
      have different : number ≠ other := by
        rintro rfl
        exact lasting (Or.inr (Or.inr rfl))
      refine ⟨cancels.table ▸ held, ?_⟩
      simpa [beq_false_of_ne different] using cancels.standing_of standing
  | dropped outside cancels =>
      rename_i other
      have different : number ≠ other := by
        rintro rfl
        rw [before.inTable_of_find? held] at outside
        cases outside
      refine ⟨cancels.table ▸ held, ?_⟩
      simpa [beq_false_of_ne different] using cancels.standing_of standing
  | removed removes cancels =>
      rename_i other gone between
      have otherKey : key ≠ other := by
        rintro rfl
        exact lasting (Or.inl rfl)
      -- the entry of another key has that key, so it is not this one
      have different : number ≠ gone := by
        rintro rfl
        rcases owned other number removes.held with ⟨mark, ofOther⟩
        rw [standing] at ofOther
        cases ofOther
        exact otherKey rfl
      refine ⟨?_, ?_⟩
      · rw [cancels.table, removes.table, KeyMap.find?_erase, if_neg otherKey]
        exact held
      · simpa [beq_false_of_ne different] using
          cancels.standing_of ((removes.standing number).trans standing)

end Keeping

section Runs

variable {registry : Registry} {key : String} {number : Nat}

/-- What every deactivation keeps, a shutdown keeps. -/
theorem deactivateAll_keeps (Property : Registry → Prop)
    (keeps : ∀ (registry : Registry) key, Property registry →
      Property (registry.deactivate key).state)
    (keys : List String) (holds : Property registry) :
    Property (registry.deactivateAll keys).state := by
  induction keys generalizing registry with
  | nil => exact holds
  | cons first rest ih => exact ih (keeps registry first holds)

theorem turn_deactivate (registry : Registry) (key : String) :
    Turn registry (.onKey key .deactivate) (registry.deactivate key).state :=
  registry.turn_onKey key .deactivate

/-- A use is a turn, or a shutdown. -/
theorem turn_use (registry : Registry) (use : Use Nat) :
    use = .shutdown ∨ Turn registry use (registry.use use).state := by
  cases use with
  | onKey key act => exact Or.inr (registry.turn_onKey key act)
  | onEntry number act => exact Or.inr (registry.turn_onEntry number act)
  | register provider => exact Or.inr (.kept ⟨rfl, fun _ => rfl, rfl⟩)
  | shutdown => exact Or.inl rfl

theorem Owned.use (owned : registry.Owned) (use : Use Nat) : (registry.use use).state.Owned := by
  rcases registry.turn_use use with rfl | turn
  · apply deactivateAll_keeps Owned _ registry.table.keys owned
    intro before key ownedBefore
    exact ownedBefore.turn (before.turn_deactivate key)
  · exact owned.turn turn

theorem Owned.afterUses (owned : registry.Owned) (uses : List (Use Nat)) :
    (registry.afterUses uses).Owned := by
  induction uses generalizing registry with
  | nil => exact owned
  | cons use rest ih => exact ih (owned.use use)

theorem cancelled_use (cancelled : registry.standing? number = some (key, true)) (use : Use Nat) :
    (registry.use use).state.standing? number = some (key, true) := by
  rcases registry.turn_use use with rfl | turn
  · apply deactivateAll_keeps (fun state => state.standing? number = some (key, true)) _
      registry.table.keys cancelled
    intro before other cancelledBefore
    exact (before.turn_deactivate other).cancelled_stays cancelledBefore
  · exact turn.cancelled_stays cancelled

theorem cancelled_afterUses (cancelled : registry.standing? number = some (key, true))
    (uses : List (Use Nat)) : (registry.afterUses uses).standing? number = some (key, true) := by
  induction uses generalizing registry with
  | nil => exact cancelled
  | cons use rest ih => exact ih (cancelled_use cancelled use)

/-- A deactivation of its key takes an entry that stands, and cancels it. -/
theorem Stands.deactivate (stands : registry.Stands key number) :
    (registry.deactivate key).state.standing? number = some (key, true) := by
  rcases stands with ⟨held, standing⟩
  rcases registry.deactivate_cases key with ⟨absent, _⟩ | ⟨gone, between, removes, cancels⟩
  · rw [absent] at held
    cases held
  · have same : gone = number := Option.some.inj (removes.held.symm.trans held)
    subst same
    simpa using cancels.standing_of ((removes.standing gone).trans standing)

/-- Deactivating all keys of a list, this one among them, cancels the entry. -/
theorem Stands.deactivateAll (stands : registry.Stands key number) (owned : registry.Owned)
    {keys : List String} (listed : key ∈ keys) :
    (registry.deactivateAll keys).state.standing? number = some (key, true) := by
  induction keys generalizing registry with
  | nil => cases listed
  | cons first rest ih =>
      by_cases same : first = key
      · subst same
        apply deactivateAll_keeps (fun state => state.standing? number = some (first, true)) _
          rest stands.deactivate
        intro before other cancelledBefore
        exact (before.turn_deactivate other).cancelled_stays cancelledBefore
      · have lasting : ¬ (Use.onKey first KeyAct.deactivate).Ends key number := by
          simp [Use.Ends, same]
        have turn := registry.turn_deactivate first
        have inRest : key ∈ rest := by
          rcases List.mem_cons.mp listed with here | there
          · exact absurd here.symm same
          · exact there
        exact ih (stands.turn owned turn lasting) (owned.turn turn) inRest

theorem Stands.ends (stands : registry.Stands key number) (owned : registry.Owned) {use : Use Nat}
    (ends : use.Ends key number) :
    (registry.use use).state.standing? number = some (key, true) := by
  rcases ends with rfl | rfl | rfl
  · exact stands.deactivate
  · apply stands.deactivateAll owned
    apply (KeyMap.contains_iff _ key).mp
    simp [KeyMap.contains, stands.1]
  · rcases Option.map_eq_some_iff.mp stands.2 with ⟨subscription, found, _⟩
    have cancels := registry.cancelsEntry_cancel number
    simpa [Registry.use, onEntry, found, actOn] using cancels.standing_of stands.2

/-- An entry stands until a use comes that ends it, and is cancelled from then on. -/
theorem Stands.afterUses (stands : registry.Stands key number) (owned : registry.Owned)
    (uses : List (Use Nat)) :
    ((∀ use ∈ uses, ¬ use.Ends key number) ∧ (registry.afterUses uses).Stands key number) ∨
      (¬ (∀ use ∈ uses, ¬ use.Ends key number) ∧
        (registry.afterUses uses).standing? number = some (key, true)) := by
  induction uses generalizing registry with
  | nil => exact Or.inl ⟨by simp, stands⟩
  | cons use rest ih =>
      by_cases now : use.Ends key number
      · right
        refine ⟨?_, cancelled_afterUses (stands.ends owned now) rest⟩
        intro lasting
        exact lasting use List.mem_cons_self now
      · have turn : Turn registry use (registry.use use).state := by
          rcases registry.turn_use use with rfl | turn
          · exact absurd (Or.inr (Or.inl rfl)) now
          · exact turn
        have later := ih (stands.turn owned turn now) (owned.use use)
        have whole : registry.afterUses (use :: rest) = (registry.use use).state.afterUses rest :=
          rfl
        rw [whole]
        simpa [now] using later

end Runs

/-- Whether an act asks for the entry of a key, made if there is none. -/
def KeyAct.asks : KeyAct → Bool
  | .getOrCreate _ _ | .getStream _ _ => true
  | _ => false

section Asking

variable {registry : Registry} {key : String} {number : Nat}

theorem Stands.get? (stands : registry.Stands key number) : registry.get? key = some number := by
  apply (registry.get?_eq_some_iff key number).mpr
  refine ⟨stands.1, ?_⟩
  rw [isCancelled_eq_standing?, stands.2]
  rfl

/-- What the table holds under a key is an entry of that key. -/
theorem Owned.present (owned : registry.Owned) (held : registry.table.find? key = some number) :
    ∃ subscription, registry.subscription? number = some subscription ∧ subscription.key = key := by
  rcases owned key number held with ⟨mark, standing⟩
  rcases Option.map_eq_some_iff.mp standing with ⟨subscription, present, same⟩
  exact ⟨subscription, present, congrArg Prod.fst same⟩

theorem Owned.present_of_get? (owned : registry.Owned) (live : registry.get? key = some number) :
    ∃ subscription, registry.subscription? number = some subscription ∧ subscription.key = key :=
  owned.present ((registry.get?_eq_some_iff key number).mp live).1

theorem stands_of_get? (owned : registry.Owned) (live : registry.get? key = some number) :
    registry.Stands key number := by
  rcases (registry.get?_eq_some_iff key number).mp live with ⟨held, uncancelled⟩
  rcases owned key number held with ⟨mark, standing⟩
  rw [isCancelled_eq_standing?, standing] at uncancelled
  refine ⟨held, ?_⟩
  rw [standing]
  exact congrArg (fun mark => some (key, mark)) uncancelled

theorem stands_getOrCreate (owned : registry.Owned) {options : OptionSet}
    {refusal : Option StartRefusal}
    (answer : (registry.getOrCreate key options refusal).answer = .ok number) :
    (registry.getOrCreate key options refusal).state.Stands key number := by
  rcases registry.getOrCreate_cases key options refusal with
    ⟨found, live, found_answer, same⟩ | ⟨_, _, _, refused, _⟩ | ⟨absent, _, made_answer, made⟩
  · rw [found_answer] at answer
    cases answer
    rw [same]
    exact stands_of_get? owned live
  · rw [refused] at answer
    cases answer
  · rw [made_answer] at answer
    cases answer
    have makes := registry.makesEntry_entered absent options
    rw [made]
    refine ⟨?_, ?_⟩
    · rw [makes.table, KeyMap.find?_insert, if_pos rfl]
    · rw [makes.standing, if_pos rfl]

/-- What is answered to whoever asks for an entry stands from then on. -/
theorem stands_of_answer (owned : registry.Owned) {act : KeyAct} (asks : act.asks = true)
    (answer : (registry.onKey key act).answer = .entry number) :
    (registry.onKey key act).state.Stands key number := by
  cases act with
  | getOrCreate options refusal =>
      apply stands_getOrCreate owned
      simp only [onKey] at answer
      cases entry : (registry.getOrCreate key options refusal).answer with
      | error failure =>
          rw [entry] at answer
          cases answer
      | ok found =>
          rw [entry] at answer
          cases answer
          rfl
  | getStream options refusal =>
      simp only [onKey, getStream] at answer ⊢
      cases entry : (registry.getOrCreate key options refusal).answer with
      | error failure =>
          rw [entry] at answer
          cases answer
      | ok found =>
          rw [entry] at answer
          cases answer
          have stands := stands_getOrCreate owned entry
          have same := (registry.getOrCreate key options refusal).state.sameEntries_onChannel number
            fun channel => ((), channel.openStream)
          dsimp only
          exact ⟨same.table ▸ stands.1, (same.standing number).trans stands.2⟩
  | _ => cases asks

/-- Whoever asks for the entry of a key that has one that stands gets that one. -/
theorem answer_of_stands (stands : registry.Stands key number) {act : KeyAct}
    (asks : act.asks = true) : (registry.onKey key act).answer = .entry number := by
  have live := stands.get?
  cases act with
  | getOrCreate options refusal =>
      simp [onKey, getOrCreate, findOrMake, live, Yield.ofEntry]
  | getStream options refusal =>
      simp [onKey, getStream, getOrCreate, findOrMake, live, Yield.ofEntry]
  | _ => cases asks

/-- An entry that is answered stands from then on, or it was made outside of the table. -/
theorem stands_or_new_of_answer (owned : registry.Owned) {act : KeyAct}
    (answer : (registry.onKey key act).answer = .entry number) :
    (registry.onKey key act).state.Stands key number ∨
      (number = registry.subscriptions.length ∧
        (registry.onKey key act).state.subscriptions.length = number + 1) := by
  cases act with
  | getOrCreate options refusal => exact Or.inl (stands_of_answer owned rfl answer)
  | getStream options refusal => exact Or.inl (stands_of_answer owned rfl answer)
  | get =>
      left
      simp only [onKey] at answer ⊢
      cases live : registry.get? key with
      | none =>
          rw [live] at answer
          cases answer
      | some found =>
          rw [live] at answer
          cases answer
          exact stands_of_get? owned live
  | build options settings refusal =>
      right
      cases refusal with
      | some reason => cases answer
      | none =>
          cases answer
          exact ⟨rfl, by simp [onKey, schedule]⟩
  | _ => cases answer

theorem lt_length_of_answer (owned : registry.Owned) {act : KeyAct}
    (answer : (registry.onKey key act).answer = .entry number) :
    number < (registry.onKey key act).state.subscriptions.length := by
  rcases stands_or_new_of_answer owned answer with stands | ⟨_, length⟩
  · exact lt_length_of_standing stands.2
  · omega

/-- A cancelled entry is not answered any more. -/
theorem answer_ne_of_cancelled (owned : registry.Owned) {under : String}
    (cancelled : registry.standing? number = some (under, true)) (act : KeyAct) :
    (registry.onKey key act).answer ≠ .entry number := by
  intro answer
  rcases stands_or_new_of_answer owned answer with stands | ⟨new, _⟩
  · have stays := (registry.turn_onKey key act).cancelled_stays cancelled
    rw [stands.2] at stays
    cases stays
  · exact Nat.ne_of_lt (lt_length_of_standing cancelled) new

theorem Stands.isCancelled (stands : registry.Stands key number) :
    registry.isCancelled number = false := by
  rw [isCancelled_eq_standing?, stands.2]
  rfl

end Asking

end ConsoleFeed.Registry
