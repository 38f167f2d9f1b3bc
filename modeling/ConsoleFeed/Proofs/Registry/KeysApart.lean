import ConsoleFeed.Proofs.Registry.OneKey
import ConsoleFeed.Proofs.Registry.ProviderCalls

/-!
# Keys do not interfere

Whoever works with one key sees of a run what would be seen if the uses that name other keys were
left out, shutdowns apart: the same answers, the same log, and the same calls of the key's providers
(`keys_do_not_interfere`).

Entries are named here by their key and by how many of this key were made before (`EntryName`),
since their numbers tell what else was made. A use of the key does to what the registry is to the
key, `only`, what it does to the registry; a use of another key does nothing to that; and a shutdown
is, for the key, the deactivation of the key. So the run without the others goes through what the
run with them is to the key.
-/

namespace ConsoleFeed

/-- An entry by its key and how many of this key were made before. -/
structure EntryName where
  key : String
  rank : Nat

namespace Registry

/-- The number of the entry with a name; a number that is not in use if there is none. -/
def named (registry : Registry) (name : EntryName) : Nat :=
  registry.subscriptions.findIdxNth (isOf name.key) name.rank

/-- The name of the entry with a number. -/
def nameOf (registry : Registry) (number : Nat) : EntryName :=
  ⟨registry.keyOf number, registry.rank (registry.keyOf number) number⟩

/-- The use of the entry that is named. -/
def Use.locate (registry : Registry) : Use EntryName → Use Nat
  | .onKey key act => .onKey key act
  | .onEntry name act => .onEntry (registry.named name) act
  | .register provider => .register provider
  | .shutdown => .shutdown

/-- The key that a use names. -/
def Use.key? : Use EntryName → Option String
  | .onKey key _ => some key
  | .onEntry name _ => some name.key
  | .register provider => some provider.key
  | .shutdown => none

/-- What comes of a use, with entries named. -/
def useNamed (registry : Registry) (use : Use EntryName) : Reply Registry (Yield EntryName) :=
  let reply := registry.use (use.locate registry)
  ⟨reply.answer.map reply.state.nameOf, reply.state, reply.events⟩

/-- The answers to the uses that name a key, and what they log. -/
def answersFor (key : String) (registry : Registry) :
    List (Use EntryName) → List (Yield EntryName × List Event)
  | [] => []
  | use :: rest =>
      let reply := registry.useNamed use
      (if use.key? = some key then [(reply.answer, reply.events)] else []) ++
        reply.state.answersFor key rest

/-- The call of a provider of a key that comes of a use, with the provider numbered among those of
the key. -/
def callTo? (registry : Registry) (key : String) (use : Use EntryName) : Option ProviderCall :=
  ((registry.call? (use.locate registry)).filter fun call =>
    registry.directory.registrations[call.provider]?.any (Directory.isFor key)).map fun call =>
      { call with provider := registry.directory.rank key call.provider }

/-- The calls of providers of a key that come of uses. -/
def callsTo (key : String) (registry : Registry) : List (Use EntryName) → List ProviderCall
  | [] => []
  | use :: rest =>
      (registry.callTo? key use).toList ++ (registry.useNamed use).state.callsTo key rest

section Proper

variable {registry : Registry}

theorem proper_create (name : String) (settings : StreamerSettings) :
    (create name settings Directory.empty).state.Proper :=
  ⟨owned_create name settings Directory.empty, Directory.owned_empty⟩

theorem Proper.use (proper : registry.Proper) (use : Use Nat) :
    (registry.use use).state.Proper := by
  refine ⟨proper.entries.use use, ?_⟩
  apply registry.directory_keeps Directory.Owned proper.providers
  · intro key options
    rw [Directory.state_takeSnapshot]
    exact proper.providers.trySnapshot key options
  · exact fun provider _ => proper.providers.register provider
  · exact fun key => proper.providers.unregister key

end Proper

section Names

variable {registry : Registry} {key : String} {number : Nat} {subscription : Subscription}

/-- Where all are chosen, the one with a rank has it for a number. -/
theorem findIdxNth_of_all {Item : Type} (chosen : Item → Bool) {items : List Item}
    (all : ∀ item ∈ items, chosen item = true) {rank : Nat} (inside : rank < items.length) :
    items.findIdxNth chosen rank = rank := by
  have place := countPBefore_of_all chosen all (Nat.le_of_lt inside)
  have found := List.findIdxNth_countPBefore_of_lt_length_of_pos (p := chosen) (h := inside)
    (all _ (List.getElem_mem inside))
  rw [place] at found
  exact found

theorem all_only (registry : Registry) (key : String) :
    ∀ subscription ∈ (registry.only key).subscriptions, isOf key subscription = true := by
  intro subscription member
  exact (List.mem_filter.mp member).2

/-- An entry has the same name without the other keys. -/
theorem nameOf_only (present : registry.subscription? number = some subscription)
    (own : subscription.key = key) :
    (registry.only key).nameOf (registry.rank key number) = registry.nameOf number := by
  have there := subscription?_only present own
  have inside := (List.getElem?_eq_some_iff.mp there).1
  have place : (registry.only key).rank key (registry.rank key number) = registry.rank key number :=
    countPBefore_of_all _ (registry.all_only key) (Nat.le_of_lt inside)
  simp only [nameOf, keyOf_of_present there, keyOf_of_present present, own, place]

/-- A name means the same entry with and without the other keys, or none. -/
theorem named_cases (registry : Registry) (name : EntryName) :
    (registry.subscription? (registry.named name) = none ∧
        (registry.only name.key).subscription? ((registry.only name.key).named name) = none) ∨
      ∃ subscription, registry.subscription? (registry.named name) = some subscription ∧
        subscription.key = name.key ∧
        (registry.only name.key).named name =
          registry.rank name.key (registry.named name) := by
  have count : (registry.only name.key).subscriptions.length =
      registry.subscriptions.countP (isOf name.key) := List.countP_eq_length_filter.symm
  by_cases inside : name.rank < registry.subscriptions.countP (isOf name.key)
  · right
    have below := List.findIdxNth_lt_length_of_lt_countP inside
    have chosen := List.pos_findIdxNth_getElem (h := below)
    refine ⟨_, List.getElem?_eq_getElem below, ?_, ?_⟩
    · simpa [isOf] using chosen
    · have first : (registry.only name.key).named name = name.rank :=
        findIdxNth_of_all _ (registry.all_only name.key) (by rw [count]; exact inside)
      have second : registry.rank name.key (registry.named name) = name.rank :=
        List.countPBefore_findIdxNth_of_lt_countP inside
      rw [first, second]
  · left
    have outside := Nat.le_of_not_lt inside
    have last : registry.named name = registry.subscriptions.length :=
      List.findIdxNth_eq_length_of_ge_countP outside
    have all : (registry.only name.key).subscriptions.countP (isOf name.key) =
        (registry.only name.key).subscriptions.length :=
      List.countP_eq_length.mpr (registry.all_only name.key)
    have lastOnly : (registry.only name.key).named name =
        (registry.only name.key).subscriptions.length := by
      apply List.findIdxNth_eq_length_of_ge_countP
      rw [all, count]
      exact outside
    rw [last, lastOnly]
    exact ⟨List.getElem?_eq_none (Nat.le_refl _), List.getElem?_eq_none (Nat.le_refl _)⟩

end Names

section Answers

variable {registry : Registry} {key : String}

/-- The entry in an answer to what is done under a key is one of the key. -/
theorem present_of_answer (owned : registry.Owned) (key : String) (act : KeyAct) {number : Nat}
    (answer : (registry.onKey key act).answer = .entry number) :
    ∃ subscription, (registry.onKey key act).state.subscription? number = some subscription ∧
      subscription.key = key := by
  by_cases asks : act.asks = true
  · have stands := stands_of_answer owned asks answer
    rcases Option.map_eq_some_iff.mp stands.2 with ⟨subscription, present, same⟩
    exact ⟨subscription, present, congrArg Prod.fst same⟩
  · cases act with
    | getOrCreate options refusal => exact absurd rfl asks
    | getStream options refusal => exact absurd rfl asks
    | build options settings refusal =>
        cases refusal with
        | some reason => cases answer
        | none =>
            cases answer
            refine ⟨Subscription.create key options settings, ?_, rfl⟩
            simp [onKey, schedule, subscription?]
    | get =>
        cases live : registry.get? key with
        | none =>
            simp only [onKey, live] at answer
            cases answer
        | some found =>
            simp only [onKey, live] at answer ⊢
            cases answer
            exact owned.present_of_get? live
    | _ => cases answer

theorem map_nameOf_only {reply : Reply Registry (Yield Nat)}
    (entries : ∀ number, reply.answer = .entry number →
      ∃ subscription, reply.state.subscription? number = some subscription ∧
        subscription.key = key) :
    (reply.answer.map (reply.state.rank key)).map (reply.state.only key).nameOf =
      reply.answer.map reply.state.nameOf := by
  cases answer : reply.answer with
  | said said => rfl
  | entry number =>
      rcases entries number answer with ⟨subscription, present, own⟩
      exact congrArg Yield.entry (nameOf_only present own)

/-- What comes of a use that names the key comes of it without the other keys, and leaves what the
registry then is to the key. -/
theorem useNamed_only (proper : registry.Proper) {use : Use EntryName}
    (named : use.key? = some key) :
    (registry.only key).useNamed use =
      ⟨(registry.useNamed use).answer, (registry.useNamed use).state.only key,
        (registry.useNamed use).events⟩ := by
  cases use with
  | onKey other act =>
      cases named
      have names := map_nameOf_only fun number answer =>
        present_of_answer proper.entries key act answer
      simp only [useNamed, Use.locate, Registry.use, onKey_only proper act]
      exact congrArg (Reply.mk · _ _) names
  | onEntry name act =>
      cases named
      rcases registry.named_cases name with
        ⟨absent, absentOnly⟩ | ⟨subscription, present, own, place⟩
      · simp only [useNamed, Use.locate, Registry.use, onEntry, absent, absentOnly]
        rfl
      · simp only [useNamed, Use.locate, Registry.use, place, onEntry_only proper present own act]
        rfl
  | register provider =>
      cases named
      have registered := onDirectory_only (·.register provider)
        (registry.directory.register_only provider)
      simp only [useNamed, Use.locate, Registry.use, registered]
      rfl
  | shutdown => cases named

/-- A use of another key is not seen. -/
theorem only_useNamed_of_ne (proper : registry.Proper) {use : Use EntryName} {other : String}
    (named : use.key? = some other) (foreign : other ≠ key) :
    (registry.useNamed use).state.only key = registry.only key := by
  cases use with
  | onKey found act =>
      cases named
      exact only_onKey_of_ne proper foreign act
  | onEntry name act =>
      cases named
      rcases registry.named_cases name with ⟨absent, _⟩ | ⟨subscription, present, own, _⟩
      · simp only [useNamed, Use.locate, Registry.use, onEntry, absent]
      · apply only_onEntry_of_ne proper present
        rw [own]
        exact foreign
  | register provider =>
      cases named
      exact only_onDirectory_of_ne (·.register provider)
        (Directory.only_register_of_ne proper.providers foreign)
  | shutdown => cases named

theorem keys_only (registry : Registry) (key : String) :
    (registry.only key).table.keys = registry.table.keys.filter (· = key) :=
  (registry.table.filter_keys_eq key (registry.rank key)).symm

/-- Deactivating keys deactivates those among them that are the key. -/
theorem deactivateAll_only (owned : registry.Owned) (key : String) (keys : List String) :
    ((registry.only key).deactivateAll (keys.filter (· = key))).state =
      (registry.deactivateAll keys).state.only key := by
  induction keys generalizing registry with
  | nil => rfl
  | cons first rest ih =>
      have later : (registry.deactivate first).state.Owned :=
        owned.turn (registry.turn_deactivate first)
      by_cases same : first = key
      · subst same
        have here : (first :: rest).filter (· = first) = first :: rest.filter (· = first) := by simp
        rw [here, deactivateAll, deactivateAll, deactivate_only owned]
        exact ih later
      · have there : (first :: rest).filter (· = key) = rest.filter (· = key) := by simp [same]
        rw [there, deactivateAll, ← only_deactivate_of_ne owned same]
        exact ih later

/-- A shutdown is a deactivation of the key, if the table holds an entry for it. -/
theorem shutdown_only (owned : registry.Owned) :
    ((registry.only key).useNamed .shutdown).state =
      (registry.useNamed .shutdown).state.only key := by
  have swept := deactivateAll_only owned key registry.table.keys
  rw [← keys_only] at swept
  exact swept

end Answers

section Calls

variable {registry : Registry} {key : String}

/-- Who is called is a provider of the key that was asked for. -/
theorem registration_of_call? {directory : Directory} (providers : directory.Owned)
    {options : OptionSet} {call : ProviderCall} (calls : directory.call? key options = some call) :
    ∃ registration, directory.registrations[call.provider]? = some registration ∧
      registration.provider.key = key := by
  simp only [Directory.call?] at calls
  split at calls
  · rename_i number found
    cases calls
    exact providers key number (Directory.bound_of_find found)
  · cases calls

theorem call?_only {directory : Directory} (providers : directory.Owned) (options : OptionSet) :
    (directory.only key).call? key options =
      (directory.call? key options).map fun call =>
        { call with provider := directory.rank key call.provider } := by
  simp only [Directory.call?, Directory.find_only providers]
  cases found : directory.find key with
  | error panic => rfl
  | ok place =>
      cases place with
      | none => rfl
      | some number =>
          rcases providers key number (Directory.bound_of_find found) with
            ⟨registration, present, own⟩
          have there : (directory.only key).registrations[directory.rank key number]? =
              some registration :=
            getElem?_filter_countPBefore _ present (Directory.isFor_of_key own)
          have calls : (directory.only key).calls (directory.rank key number) =
              directory.calls number := by
            simp only [Directory.calls, there, present]
          simp only [Except.map, Option.map_some, calls]

/-- The question of a use that names the key is about the key, and the same without the others. -/
theorem question?_only (proper : registry.Proper) {use : Use EntryName}
    (named : use.key? = some key) :
    (registry.only key).question? (use.locate (registry.only key)) =
        registry.question? (use.locate registry) ∧
      ∀ question, registry.question? (use.locate registry) = some question → question.1 = key := by
  have owned := proper.entries
  cases use with
  | onKey other act =>
      cases named
      cases act with
      | getSnapshot options refusal =>
          simp only [Use.locate, question?, getOrCreate_only owned, onlyReply]
          cases answer : (registry.getOrCreate key options refusal).answer with
          | error failure => exact ⟨rfl, by simp⟩
          | ok number =>
              rcases present_of_getOrCreate owned answer with ⟨subscription, present, own⟩
              have there := subscription?_only present own
              simp only [Except.map, optionsOf, keyOf, there, present, Option.map_some,
                Option.getD_some]
              refine ⟨trivial, ?_⟩
              rintro _ ⟨⟩
              exact own
      | peekSnapshot options =>
          simp only [Use.locate, question?, get?_only owned]
          cases live : registry.get? key with
          | none =>
              refine ⟨rfl, ?_⟩
              rintro _ ⟨⟩
              rfl
          | some number =>
              rcases owned.present_of_get? live with ⟨subscription, present, own⟩
              have there := subscription?_only present own
              simp only [Option.map_some, optionsOf, keyOf, there, present, Option.getD_some]
              refine ⟨trivial, ?_⟩
              rintro _ ⟨⟩
              exact own
      | _ => exact ⟨rfl, by simp [Use.locate, question?]⟩
  | onEntry name act =>
      cases named
      simp only [Use.locate, question?]
      rcases registry.named_cases name with
        ⟨absent, absentOnly⟩ | ⟨subscription, present, own, place⟩
      · simp [absent, absentOnly]
      · rw [place, subscription?_only present own, present]
        refine ⟨rfl, ?_⟩
        rintro question asks
        rw [Option.bind_some] at asks
        cases act <;> cases asks <;> exact own
  | register provider => exact ⟨rfl, by simp [Use.locate, question?]⟩
  | shutdown => cases named

theorem callTo?_only (proper : registry.Proper) {use : Use EntryName}
    (named : use.key? = some key) :
    (registry.only key).callTo? key use = registry.callTo? key use := by
  rcases question?_only proper named with ⟨same, about⟩
  have directory : (registry.only key).directory = registry.directory.only key := rfl
  simp only [callTo?, call?, same, directory]
  cases asks : registry.question? (use.locate registry) with
  | none => rfl
  | some question =>
      rcases question with ⟨asked, options⟩
      obtain rfl : key = asked := (about _ asks).symm
      simp only [Option.bind_some, call?_only proper.providers]
      cases calls : registry.directory.call? key options with
      | none => rfl
      | some call =>
          rcases registration_of_call? proper.providers calls with ⟨registration, present, own⟩
          have chosen := Directory.isFor_of_key own
          have there : (registry.directory.only key).registrations[
              registry.directory.rank key call.provider]? = some registration :=
            getElem?_filter_countPBefore _ present chosen
          have inside := (List.getElem?_eq_some_iff.mp there).1
          have place : (registry.directory.only key).rank key
              (registry.directory.rank key call.provider) =
                registry.directory.rank key call.provider := by
            apply countPBefore_of_all _ _ (Nat.le_of_lt inside)
            intro item member
            exact (List.mem_filter.mp member).2
          simp [Option.filter, present, there, chosen, place]

theorem callTo?_of_ne (proper : registry.Proper) {use : Use EntryName}
    (foreign : use.key? ≠ some key) : registry.callTo? key use = none := by
  have silent : ∀ question, registry.question? (use.locate registry) = some question →
      question.1 ≠ key := by
    intro question asks
    cases named : use.key? with
    | none =>
        cases use with
        | shutdown => cases asks
        | _ => cases named
    | some other =>
        rw [(question?_only proper named).2 question asks]
        rintro rfl
        exact foreign named
  simp only [callTo?, call?]
  cases asks : registry.question? (use.locate registry) with
  | none => rfl
  | some question =>
      rw [Option.bind_some]
      cases calls : registry.directory.call? question.1 question.2 with
      | none => rfl
      | some call =>
          rcases registration_of_call? proper.providers calls with ⟨registration, present, own⟩
          have passed : Directory.isFor key registration = false := by
            apply Directory.isFor_of_ne
            rw [own]
            exact silent question asks
          simp [Option.filter, present, passed]

end Calls

/-- Whether a use names a key, or is a shutdown, which concerns every key. -/
def Use.concerns (key : String) (use : Use EntryName) : Bool :=
  use.key?.all (· == key)

section Runs

variable {registry : Registry} {key : String}

/-- A run without the uses of other keys, from what the registry is to a key, shows of the key what
the whole run shows. -/
theorem only_run (proper : registry.Proper) (key : String) (uses : List (Use EntryName)) :
    (registry.only key).answersFor key (uses.filter (·.concerns key)) =
        registry.answersFor key uses ∧
      (registry.only key).callsTo key (uses.filter (·.concerns key)) =
        registry.callsTo key uses := by
  -- The registry left to the key goes along with the whole one: it makes the uses of the key, stays
  -- where it is in those of other keys, and is swept when the whole one is.
  induction uses generalizing registry with
  | nil => exact ⟨rfl, rfl⟩
  | cons use rest ih =>
      have later : (registry.useNamed use).state.Proper := proper.use (use.locate registry)
      rcases ih later with ⟨answers, calls⟩
      cases named : use.key? with
      | none =>
          cases use with
          | shutdown =>
              have kept : (Use.shutdown :: rest).filter (·.concerns key) =
                  .shutdown :: rest.filter (·.concerns key) := rfl
              rw [kept, answersFor, answersFor, callsTo, callsTo, shutdown_only proper.entries,
                answers, calls]
              exact ⟨rfl, rfl⟩
          | _ => cases named
      | some other =>
          by_cases same : other = key
          · subst same
            have kept : (use :: rest).filter (·.concerns other) =
                use :: rest.filter (·.concerns other) := by
              simp [Use.concerns, named]
            rw [kept, answersFor, answersFor, callsTo, callsTo, useNamed_only proper named,
              callTo?_only proper named]
            exact ⟨congrArg _ answers, congrArg _ calls⟩
          · have left : (use :: rest).filter (·.concerns key) = rest.filter (·.concerns key) := by
              simp [Use.concerns, named, same]
            have unseen := only_useNamed_of_ne proper named same
            have different : use.key? ≠ some key := by simp [named, same]
            rw [left, ← unseen, answers, calls, answersFor, callsTo,
              callTo?_of_ne proper different, if_neg different]
            exact ⟨rfl, rfl⟩

/-- Without the uses that name other keys a run shows of a key what it shows with them: the uses
that name the key get the same answers, in which entries go by their names, and log the same, and
the providers of the key are called in the same order, each with the same counts and options.
Shutdowns, which name no key, stay. -/
theorem keys_do_not_interfere (name : String) (settings : StreamerSettings) (key : String)
    (uses : List (Use EntryName)) :
    let made := (create name settings Directory.empty).state
    let own := uses.filter (·.concerns key)
    made.answersFor key own = made.answersFor key uses ∧
      made.callsTo key own = made.callsTo key uses := by
  intro made own
  have alone : made.only key = made := rfl
  have run := only_run (proper_create name settings) key uses
  rw [alone] at run
  exact run

end Runs

end Registry

end ConsoleFeed
