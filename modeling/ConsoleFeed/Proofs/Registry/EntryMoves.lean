import ConsoleFeed.Proofs.Registry.EntryTurns

/-!
# What a use does to one entry

A use finds an entry as it was and leaves it in one of few ways (`EntryMove`): untouched; with a
stream handle opened, if the entry is what asking for a stream came to; with other options;
cancelled; or as an act on this very entry leaves it. An entry that a use makes is a new
subscription, on which a stream handle is open if it was asked for as a stream (`EntryMade`). Facts
about single entries, their channels and who holds them, follow by going through these cases.
-/

namespace ConsoleFeed.Registry

/-- The subscription with one more stream handle on its channel. -/
def opened (subscription : Subscription) : Subscription :=
  subscription.withChannel subscription.feed.channel.openStream

/-- A use that has this answer has opened a stream handle on an entry. -/
def Use.Opens (number : Nat) (use : Use Nat) (answer : Yield Nat) : Prop :=
  ∃ key options refusal, use = .onKey key (.getStream options refusal) ∧ answer = .entry number

/-- What a use does to an entry. -/
inductive EntryMove (registry : Registry) (number : Nat) (before : Subscription) :
    Use Nat → Yield Nat → Subscription → Prop where
  | kept {use : Use Nat} {answer : Yield Nat} (foreign : ∀ act, use ≠ .onEntry number act)
      (unopened : ¬ use.Opens number answer) : EntryMove registry number before use answer before
  | opened {key : String} {options : OptionSet} {refusal : Option StartRefusal} :
      EntryMove registry number before (.onKey key (.getStream options refusal)) (.entry number)
        (opened before)
  | replaced {key : String} {options : OptionSet} {answer : Yield Nat} :
      EntryMove registry number before (.onKey key (.updateOptions options)) answer
        (before.replaceOptions options).state
  | cancelled {use : Use Nat} {answer : Yield Nat}
      (sweeps : use = .shutdown ∨ ∃ key, use = .onKey key .deactivate) :
      EntryMove registry number before use answer (before.cancel .cancelled).state
  | acted (act : EntryAct) :
      EntryMove registry number before (.onEntry number act)
        (.said (act.outcome before (registry.inTable number) registry.directory).answer)
        (act.outcome before (registry.inTable number) registry.directory).state.1

/-- What an entry is that a use has made. -/
inductive EntryMade (number : Nat) : Use Nat → Yield Nat → Subscription → Prop where
  | closed {under : String} {act : KeyAct} {answer : Yield Nat} (key : String)
      (options : OptionSet) (settings : StreamerSettings)
      (unopened : ¬ (Use.onKey under act).Opens number answer) :
      EntryMade number (.onKey under act) answer (.create key options settings)
  | opened {key : String} {options : OptionSet} {refusal : Option StartRefusal}
      (settings : StreamerSettings) :
      EntryMade number (.onKey key (.getStream options refusal)) (.entry number)
        (opened (.create key options settings))

section Moves

variable {registry : Registry} {number : Nat} {before : Subscription}

theorem not_opens_of_ne {key : String} {act : KeyAct} {answer : Yield Nat}
    (other : ∀ options refusal, act ≠ .getStream options refusal) :
    ¬ (Use.onKey key act).Opens number answer := by
  rintro ⟨_, options, refusal, same, _⟩
  cases same
  exact other options refusal rfl

theorem subscription?_append_of_present {more : List Subscription} {table : KeyMap Nat}
    (present : registry.subscription? number = some before) :
    { registry with
      subscriptions := registry.subscriptions ++ more
      table := table }.subscription? number = some before := by
  have inside := (List.getElem?_eq_some_iff.mp present).1
  simp only [subscription?]
  rw [List.getElem?_append_left inside]
  exact present

theorem subscription?_getOrCreate (present : registry.subscription? number = some before)
    (key : String) (options : OptionSet) (refusal : Option StartRefusal) :
    (registry.getOrCreate key options refusal).state.subscription? number = some before := by
  rcases registry.getOrCreate_cases key options refusal with
    ⟨_, _, _, same⟩ | ⟨_, _, _, _, same⟩ | ⟨_, _, _, made⟩
  · rw [same]
    exact present
  · rw [same]
    exact present
  · rw [made]
    exact subscription?_append_of_present present

/-- A deactivation leaves an entry untouched, or cancels it. -/
theorem subscription?_deactivate (present : registry.subscription? number = some before)
    (key : String) :
    (registry.deactivate key).state.subscription? number = some before ∨
      (registry.deactivate key).state.subscription? number =
        some (before.cancel .cancelled).state := by
  simp only [deactivate]
  rcases registry.remove_entries key with ⟨absent, _⟩ | ⟨found, removed, _⟩
  · simp only [absent]
    exact Or.inl present
  · have there : (registry.without key).subscription? number = some before := present
    simp only [removed, cancel, state_onSubscription]
    rw [subscription?_changing]
    by_cases same : number = found
    · subst same
      rw [if_pos rfl, there]
      exact Or.inr rfl
    · rw [if_neg same]
      exact Or.inl there

theorem subscription?_deactivateAll (present : registry.subscription? number = some before)
    (keys : List String) :
    (registry.deactivateAll keys).state.subscription? number = some before ∨
      (registry.deactivateAll keys).state.subscription? number =
        some (before.cancel .cancelled).state := by
  induction keys generalizing registry before with
  | nil => exact Or.inl present
  | cons first rest ih =>
      rcases subscription?_deactivate present first with same | cancelled
      · exact ih same
      · right
        rcases ih cancelled with same | again
        · exact same
        · rw [Subscription.cancel_of_cancelled _ _ (before.isCancelled_cancel _)] at again
          exact again

theorem entryMove_onKey (present : registry.subscription? number = some before) (key : String)
    (act : KeyAct) :
    ∃ after, (registry.onKey key act).state.subscription? number = some after ∧
      EntryMove registry number before (.onKey key act) (registry.onKey key act).answer after := by
  have foreign : ∀ entryAct, Use.onKey key act ≠ .onEntry number entryAct := by simp
  cases act with
  | getOrCreate options refusal =>
      exact ⟨before, subscription?_getOrCreate present key options refusal,
        .kept foreign (not_opens_of_ne (by simp))⟩
  | getStream options refusal =>
      have entered := subscription?_getOrCreate present key options refusal
      simp only [onKey, getStream]
      cases answer : (registry.getOrCreate key options refusal).answer with
      | error failure =>
          refine ⟨before, entered, .kept foreign ?_⟩
          rintro ⟨_, _, _, _, absurd⟩
          cases absurd
      | ok found =>
          simp only [state_onChannel, subscription?_changing, Yield.ofEntry]
          by_cases same : number = found
          · subst same
            rw [if_pos rfl, entered]
            exact ⟨_, rfl, .opened⟩
          · rw [if_neg same]
            refine ⟨before, entered, .kept foreign ?_⟩
            rintro ⟨_, _, _, _, named⟩
            cases named
            exact same rfl
  | getSnapshot options refusal =>
      refine ⟨before, ?_, .kept foreign (not_opens_of_ne (by simp))⟩
      have entered := subscription?_getOrCreate present key options refusal
      simp only [onKey, getSnapshot]
      split <;> exact entered
  | peekSnapshot options =>
      refine ⟨before, ?_, .kept foreign (not_opens_of_ne (by simp))⟩
      simp only [onKey, peekSnapshot]
      split <;> exact present
  | build options settings refusal =>
      refine ⟨before, ?_, .kept foreign (not_opens_of_ne (by simp))⟩
      cases refusal with
      | some reason => exact present
      | none => exact subscription?_append_of_present present
  | get =>
      refine ⟨before, ?_, .kept foreign (not_opens_of_ne (by simp))⟩
      simp only [onKey]
      split <;> exact present
  | contains => exact ⟨before, present, .kept foreign (not_opens_of_ne (by simp))⟩
  | updateOptions options =>
      have state : (registry.onKey key (.updateOptions options)).state =
          (registry.updateLive key options).state := by
        simp only [onKey, updateOptions]
        split <;> rfl
      rw [state, updateLive]
      cases live : registry.get? key with
      | none => exact ⟨before, present, .kept foreign (not_opens_of_ne (by simp))⟩
      | some found =>
          simp only [state_onSubscription, subscription?_changing]
          by_cases same : number = found
          · subst same
            rw [if_pos rfl, present]
            exact ⟨_, rfl, .replaced⟩
          · rw [if_neg same]
            exact ⟨before, present, .kept foreign (not_opens_of_ne (by simp))⟩
  | deactivate =>
      rcases subscription?_deactivate present key with same | cancelled
      · exact ⟨before, same, .kept foreign (not_opens_of_ne (by simp))⟩
      · exact ⟨_, cancelled, .cancelled (Or.inr ⟨key, rfl⟩)⟩
  | lookup => exact ⟨before, present, .kept foreign (not_opens_of_ne (by simp))⟩
  | unregister => exact ⟨before, present, .kept foreign (not_opens_of_ne (by simp))⟩

theorem entryMove_onEntry (present : registry.subscription? number = some before) (other : Nat)
    (act : EntryAct) :
    ∃ after, (registry.onEntry other act).state.subscription? number = some after ∧
      EntryMove registry number before (.onEntry other act)
        (.said (registry.onEntry other act).answer) after := by
  cases there : registry.subscription? other with
  | none =>
      have different : number ≠ other := by
        rintro rfl
        rw [present] at there
        cases there
      simp only [onEntry, there]
      refine ⟨before, present, .kept ?_ ?_⟩
      · rintro _ ⟨⟩
        exact different rfl
      · rintro ⟨_, _, _, absurd, _⟩
        cases absurd
  | some subscription =>
      rw [onEntry_eq there act]
      have changed : ∀ (change : Subscription → Subscription) (directory : Directory),
          { registry.changing other change with directory := directory }.subscription? number =
            if number = other then (registry.subscription? other).map change
            else registry.subscription? number :=
        fun change _ => registry.subscription?_changing other change number
      simp only [changed]
      by_cases same : number = other
      · subst same
        rw [present] at there
        cases there
        rw [if_pos rfl, present]
        exact ⟨_, rfl, .acted act⟩
      · rw [if_neg same]
        refine ⟨before, present, .kept ?_ ?_⟩
        · rintro _ ⟨⟩
          exact same rfl
        · rintro ⟨_, _, _, absurd, _⟩
          cases absurd

/-- Every entry makes the move that a use is for it. -/
theorem entryMove_use (present : registry.subscription? number = some before) (use : Use Nat) :
    ∃ after, (registry.use use).state.subscription? number = some after ∧
      EntryMove registry number before use (registry.use use).answer after := by
  have unopened : ∀ answer, ¬ Use.shutdown.Opens number answer := by
    rintro answer ⟨_, _, _, absurd, _⟩
    cases absurd
  cases use with
  | onKey key act => exact entryMove_onKey present key act
  | onEntry other act => exact entryMove_onEntry present other act
  | register provider =>
      refine ⟨before, present, .kept (by simp) ?_⟩
      rintro ⟨_, _, _, absurd, _⟩
      cases absurd
  | shutdown =>
      rcases subscription?_deactivateAll present registry.table.keys with same | cancelled
      · exact ⟨before, same, .kept (by simp) (unopened _)⟩
      · exact ⟨_, cancelled, .cancelled (Or.inl rfl)⟩

end Moves

section Making

variable {registry : Registry} {number : Nat} {made : Subscription}

theorem subscription?_changing_eq_none (absent : registry.subscription? number = none) (other : Nat)
    (change : Subscription → Subscription) :
    (registry.changing other change).subscription? number = none := by
  rw [subscription?_changing]
  split
  · rename_i same
    subst same
    rw [absent]
    rfl
  · exact absent

/-- What is appended for a new entry is all that is new. -/
theorem eq_of_appended (absent : registry.subscription? number = none) {more : Subscription}
    {table : KeyMap Nat}
    (present : { registry with
      subscriptions := registry.subscriptions ++ [more]
      table := table }.subscription? number = some made) :
    number = registry.subscriptions.length ∧ made = more := by
  have outside := List.getElem?_eq_none_iff.mp absent
  have found : (registry.subscriptions ++ [more])[number]? = some made := present
  have inside := (List.getElem?_eq_some_iff.mp found).1
  simp only [List.length_append, List.length_singleton] at inside
  have last : number = registry.subscriptions.length := by omega
  rw [last, List.getElem?_append_right (Nat.le_refl _), Nat.sub_self] at found
  exact ⟨last, (Option.some.inj found).symm⟩

theorem made_of_getOrCreate (absent : registry.subscription? number = none) {key : String}
    {options : OptionSet} {refusal : Option StartRefusal}
    (present : (registry.getOrCreate key options refusal).state.subscription? number = some made) :
    made = .create key options registry.settings ∧
      (registry.getOrCreate key options refusal).answer = .ok number := by
  rcases registry.getOrCreate_cases key options refusal with
    ⟨_, _, _, same⟩ | ⟨_, _, _, _, same⟩ | ⟨_, _, answer, entered⟩
  · rw [same, absent] at present
    cases present
  · rw [same, absent] at present
    cases present
  · rw [entered] at present
    rcases eq_of_appended absent present with ⟨rfl, same⟩
    exact ⟨same, answer⟩

theorem subscription?_deactivate_eq_none (absent : registry.subscription? number = none)
    (key : String) : (registry.deactivate key).state.subscription? number = none := by
  simp only [deactivate]
  rcases registry.remove_entries key with ⟨missing, _⟩ | ⟨found, removed, _⟩
  · simp only [missing]
    exact absent
  · have there : (registry.without key).subscription? number = none := absent
    simp only [removed, cancel, state_onSubscription]
    exact subscription?_changing_eq_none there _ _

/-- Opening a stream makes the entry that its handle is for, and no other. -/
theorem entryMade_getStream (absent : registry.subscription? number = none) {key : String}
    {options : OptionSet} {refusal : Option StartRefusal}
    (present : (registry.onKey key (.getStream options refusal)).state.subscription? number =
      some made) :
    EntryMade number (.onKey key (.getStream options refusal))
      (registry.onKey key (.getStream options refusal)).answer made := by
  simp only [onKey, getStream] at present ⊢
  cases answer : (registry.getOrCreate key options refusal).answer with
  | error failure =>
      simp only [answer] at present
      rcases made_of_getOrCreate absent present with ⟨_, found⟩
      rw [answer] at found
      cases found
  | ok found =>
      simp only [answer, state_onChannel, subscription?_changing] at present
      cases entered : (registry.getOrCreate key options refusal).state.subscription? number with
      | none =>
          rw [entered] at present
          split at present
          · rename_i same
            subst same
            rw [entered] at present
            cases present
          · cases present
      | some new =>
          rcases made_of_getOrCreate absent entered with ⟨rfl, named⟩
          rw [answer] at named
          cases named
          rw [if_pos rfl, entered] at present
          cases present
          exact .opened registry.settings

theorem entryMade_onKey (absent : registry.subscription? number = none) {key : String}
    {act : KeyAct}
    (present : (registry.onKey key act).state.subscription? number = some made) :
    EntryMade number (.onKey key act) (registry.onKey key act).answer made := by
  have nothing : registry.subscription? number ≠ some made := by simp [absent]
  cases act with
  | getOrCreate options refusal =>
      rcases made_of_getOrCreate absent present with ⟨rfl, _⟩
      exact .closed _ _ _ (not_opens_of_ne (by simp))
  | getStream options refusal => exact entryMade_getStream absent present
  | getSnapshot options refusal =>
      have entered : (registry.getOrCreate key options refusal).state.subscription? number =
          some made := by
        simp only [onKey, getSnapshot] at present
        split at present <;> exact present
      rcases made_of_getOrCreate absent entered with ⟨rfl, _⟩
      exact .closed _ _ _ (not_opens_of_ne (by simp))
  | peekSnapshot options =>
      simp only [onKey, peekSnapshot] at present
      split at present <;> exact absurd present nothing
  | build options settings refusal =>
      cases refusal with
      | some reason => exact absurd present nothing
      | none =>
          rcases eq_of_appended absent present with ⟨_, rfl⟩
          exact .closed _ _ _ (not_opens_of_ne (by simp))
  | get =>
      simp only [onKey] at present
      split at present <;> exact absurd present nothing
  | updateOptions options =>
      have replaced : (registry.updateLive key options).state.subscription? number = none := by
        simp only [updateLive]
        cases registry.get? key with
        | none => exact absent
        | some found =>
            simp only [state_onSubscription]
            exact subscription?_changing_eq_none absent _ _
      simp only [onKey, updateOptions] at present
      split at present <;> rw [replaced] at present <;> cases present
  | deactivate =>
      have deactivated := subscription?_deactivate_eq_none absent key
      simp only [onKey] at present
      rw [deactivated] at present
      cases present
  | _ => exact absurd present nothing

/-- An entry that is there after a use, and was not before, is a new one. -/
theorem entryMade_use (absent : registry.subscription? number = none) {use : Use Nat}
    (present : (registry.use use).state.subscription? number = some made) :
    EntryMade number use (registry.use use).answer made := by
  cases use with
  | onKey key act => exact entryMade_onKey absent present
  | onEntry other act =>
      have still : (registry.onEntry other act).state.subscription? number = none := by
        cases there : registry.subscription? other with
        | none =>
            simp only [onEntry, there]
            exact absent
        | some subscription =>
            rw [onEntry_eq there act]
            exact subscription?_changing_eq_none absent other _
      have found : (registry.onEntry other act).state.subscription? number = some made := present
      rw [still] at found
      cases found
  | register provider =>
      have found : registry.subscription? number = some made := present
      rw [absent] at found
      cases found
  | shutdown =>
      have swept : (registry.use .shutdown).state.subscription? number = none := by
        apply deactivateAll_keeps (fun state => state.subscription? number = none) _
          registry.table.keys absent
        intro before key absentBefore
        exact subscription?_deactivate_eq_none absentBefore key
      rw [swept] at present
      cases present

end Making

end ConsoleFeed.Registry
