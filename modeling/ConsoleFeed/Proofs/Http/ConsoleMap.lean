import ConsoleFeed.Proofs.Http.Inquiries
import ConsoleFeed.Proofs.Provider.Asking
import ConsoleFeed.Proofs.Registry.Operations

/-!
# The service as a map

To its clients the service is one map from keys to option sets. A first snapshot or a first stream
puts the options that came with it under the key, new options replace those that are there, a
removal takes a key away, and every response is what the map says at that moment
(`requests_refine_map`). The ticks that come between the requests, and the clients that read their
streams, do not show.

The registry itself is not such a map: an entry that was cancelled through a handle stays in its
table, where it counts for some operations and not for others. Requests never lend a handle. So a
table that only they have used holds live entries only, each under its own key; this is what
`Mirrors` adds to the entries' having the options that the map says, and every step is checked
against it.
-/

namespace ConsoleFeed.Http

/-- A response shows the text with which a snapshot was taken, and taking it is all that happened to
the providers. -/
def Shows (key : String) (options : OptionSet) (before after : Directory) (response : Response) :
    Prop :=
  ∃ text, (before.takeSnapshot key options).answer = .ok text ∧
    (before.takeSnapshot key options).state = after ∧ response = .ofDocument text

/-- The map with options under a key, where it has the key already with those that it has. -/
def opened (map : KeyMap OptionSet) (key : String) (given : OptionSet) : KeyMap OptionSet :=
  if map.contains key then map else map.insert key given

namespace Inquiry

/-- The map after an inquiry. -/
def apply (map : KeyMap OptionSet) : Inquiry → KeyMap OptionSet
  | .list | .peek _ _ => map
  | .snapshot key given | .stream key given => opened map key given
  | .update key options => if map.contains key then map.insert key options else map
  | .remove key => map.erase key

/-- What the map says that the response to an inquiry is, with the registry before and after. -/
def Answers (map : KeyMap OptionSet) (before after : Registry) (response : Response) :
    Inquiry → Prop
  | .list =>
      response = .ofDocument (Document.array (map.keys.map .text)).compact ∧
        after.directory = before.directory
  | .snapshot key given | .peek key given =>
      Shows key ((map.find? key).getD given) before.directory after.directory response
  | .stream key _ =>
      (∃ entry receiver, after.get? key = some entry ∧
        response = ⟨200, some Response.eventStreamType, .eventStream entry receiver⟩) ∧
        after.directory = before.directory
  | .update key _ | .remove key =>
      response = .presence (map.contains key) ∧ after.directory = before.directory

end Inquiry

/-- A response as the method of a request wants it. -/
def Request.trim (request : Request) (response : Response) : Response :=
  if request.method == "HEAD" then { response with body := .text "" } else response

/-- Something that happens to a running server: a request comes in, a loop begins or ends a tick, or
a client reads its stream or leaves it. -/
inductive Turn where
  | request (request : Request) (inquiry : Inquiry) (asks : request.Asks inquiry) (task : String)
  | beginTick (number : Nat)
  | endTick (number : Nat) (options : OptionSet)
  | receive (number : Nat) (act : Channel.ReceiverAct)

namespace Turn

/-- What a turn does to the registry. -/
def step (registry : Registry) : Turn → Registry
  | .request asking _ _ task => (Service.handle registry task none asking).state
  | .beginTick number => ((registry.beginTick? number).map Prod.snd).getD registry
  | .endTick number options => (registry.endTick number options).state
  | .receive number act => (registry.perform (.receive number act)).state

/-- What a turn does to the map. -/
def apply (map : KeyMap OptionSet) : Turn → KeyMap OptionSet
  | .request _ inquiry _ _ => inquiry.apply map
  | _ => map

/-- The registry after turns. -/
def run (registry : Registry) (turns : List Turn) : Registry :=
  turns.foldl step registry

/-- The map after turns, from an empty one. -/
def chart (turns : List Turn) : KeyMap OptionSet :=
  turns.foldl apply KeyMap.empty

end Turn

/-- The table of a registry holds an entry wherever the map has a key, and nothing else. The entry
is a live one of that key, with the options that the map says. -/
structure Mirrors (registry : Registry) (map : KeyMap OptionSet) : Prop where
  holds : ∀ key, map.find? key = (registry.table.find? key).map registry.optionsOf
  live : ∀ key number, registry.table.find? key = some number → registry.IsLive key number
  succeed : registry.directory.LookupsSucceed

section Options

open Registry

theorem optionsOf_changing (registry : Registry) (number : Nat)
    {change : Subscription → Subscription}
    (keeps : ∀ subscription, (change subscription).feed.options = subscription.feed.options) :
    (registry.changing number change).optionsOf = registry.optionsOf := by
  funext other
  simp only [optionsOf, subscription?_changing]
  by_cases same : other = number
  · subst same
    cases registry.subscription? other <;> simp [keeps]
  · simp [same]

theorem optionsOf_changing_of_ne (registry : Registry) {number other : Nat}
    (different : other ≠ number) (change : Subscription → Subscription) :
    (registry.changing number change).optionsOf other = registry.optionsOf other := by
  simp [optionsOf, subscription?_changing, different]

theorem optionsOf_entered (registry : Registry) (key : String) (options : OptionSet) :
    (registry.entered key options).optionsOf registry.subscriptions.length = options := by
  rw [optionsOf, subscription?_entered_self]
  rfl

theorem optionsOf_entered_of_lt (registry : Registry) (key : String) (options : OptionSet)
    {number : Nat} (old : number < registry.subscriptions.length) :
    (registry.entered key options).optionsOf number = registry.optionsOf number := by
  rw [optionsOf, optionsOf, subscription?_entered, if_neg (by omega)]

end Options

namespace Mirrors

open Registry

variable {registry : Registry} {map : KeyMap OptionSet}

theorem isCancelled (mirrors : Mirrors registry map) {key : String} {number : Nat}
    (held : registry.table.find? key = some number) : registry.isCancelled number = false := by
  rcases mirrors.live key number held with ⟨subscription, present, _, uncancelled⟩
  simp [Registry.isCancelled, present, uncancelled]

theorem get? (mirrors : Mirrors registry map) (key : String) :
    registry.get? key = registry.table.find? key := by
  cases held : registry.table.find? key with
  | none => simp [Registry.get?, held]
  | some number => exact (registry.get?_eq_some_iff key number).mpr ⟨held, mirrors.isCancelled held⟩

theorem contains (mirrors : Mirrors registry map) (key : String) :
    map.contains key = registry.table.contains key := by
  rw [KeyMap.contains, KeyMap.contains, mirrors.holds key, Option.isSome_map]

theorem contains_of_held (mirrors : Mirrors registry map) {key : String} {number : Nat}
    (held : registry.table.find? key = some number) : map.contains key = true := by
  rw [mirrors.contains, KeyMap.contains, held]
  rfl

theorem contains_of_unheld (mirrors : Mirrors registry map) {key : String}
    (unheld : registry.table.find? key = none) : map.contains key = false := by
  rw [mirrors.contains, KeyMap.contains, unheld]
  rfl

/-- Entries under different keys are different. -/
theorem ne_of_ne (mirrors : Mirrors registry map) {key other : String} {number found : Nat}
    (held : registry.table.find? key = some number)
    (otherHeld : registry.table.find? other = some found) (different : other ≠ key) :
    found ≠ number := by
  rintro rfl
  rcases mirrors.live key found held with ⟨subscription, present, itsKey, _⟩
  rcases mirrors.live other found otherHeld with ⟨_, again, otherKey, _⟩
  cases present.symm.trans again
  exact different (otherKey.symm.trans itsKey)

theorem changing (mirrors : Mirrors registry map) (number : Nat)
    {change : Subscription → Subscription}
    (keepsKey : ∀ subscription, (change subscription).key = subscription.key)
    (keepsMark : ∀ subscription, (change subscription).isCancelled = subscription.isCancelled)
    (keepsOptions : ∀ subscription,
      (change subscription).feed.options = subscription.feed.options) :
    Mirrors (registry.changing number change) map where
  holds key := by
    rw [optionsOf_changing registry number keepsOptions]
    exact mirrors.holds key
  live key other held := by
    have same := registry.sameEntries_changing number keepsKey keepsMark
    rw [Registry.isLive_iff, same.standing, ← Registry.isLive_iff]
    exact mirrors.live key other held
  succeed := mirrors.succeed

theorem withDirectory (mirrors : Mirrors registry map) {directory : Directory}
    (succeed : directory.LookupsSucceed) :
    Mirrors { registry with directory := directory } map :=
  ⟨mirrors.holds, mirrors.live, succeed⟩

theorem entered (mirrors : Mirrors registry map) {key : String}
    (absent : registry.table.find? key = none) (given : OptionSet) :
    Mirrors (registry.entered key given) (map.insert key given) := by
  have old : ∀ {other number}, registry.table.find? other = some number →
      number < registry.subscriptions.length := by
    intro other number held
    rcases mirrors.live other number held with ⟨subscription, present, _⟩
    exact (List.getElem?_eq_some_iff.mp present).1
  have makes := registry.makesEntry_entered ((mirrors.get? key).trans absent) given
  refine ⟨?_, ?_, mirrors.succeed⟩
  · intro other
    rw [makes.table, KeyMap.find?_insert, KeyMap.find?_insert]
    by_cases same : other = key
    · simp [same, optionsOf_entered]
    · simp only [same, if_false]
      rw [mirrors.holds other]
      cases held : registry.table.find? other with
      | none => rfl
      | some number => simp [optionsOf_entered_of_lt registry key given (old held)]
  · intro other number held
    rw [makes.table, KeyMap.find?_insert] at held
    rw [Registry.isLive_iff, makes.standing]
    by_cases same : other = key
    · simp only [same, if_true, Option.some.injEq] at held
      simp [← held, same]
    · simp only [same, if_false] at held
      have below := old held
      have differs : number ≠ registry.subscriptions.length := by omega
      simp only [differs, if_false]
      exact (Registry.isLive_iff registry other number).mp (mirrors.live other number held)

theorem replaced (mirrors : Mirrors registry map) {key : String} {number : Nat}
    (held : registry.table.find? key = some number) (options : OptionSet) :
    Mirrors (registry.onSubscription number () (·.replaceOptions options)).state
      (map.insert key options) := by
  have same := registry.sameEntries_replaceOptions number options
  rcases mirrors.live key number held with ⟨subscription, present, _⟩
  refine ⟨?_, ?_, ?_⟩
  · intro other
    rw [same.table, KeyMap.find?_insert, state_onSubscription]
    by_cases here : other = key
    · subst here
      simp [held, optionsOf, subscription?_changing, present, Subscription.replaceOptions,
        Feed.replaceOptions]
    · simp only [here, if_false]
      rw [mirrors.holds other]
      cases otherHeld : registry.table.find? other with
      | none => rfl
      | some found =>
          have different := mirrors.ne_of_ne held otherHeld here
          simp [optionsOf_changing_of_ne registry different]
  · intro other found otherHeld
    rw [same.table] at otherHeld
    rw [Registry.isLive_iff, same.standing, ← Registry.isLive_iff]
    exact mirrors.live other found otherHeld
  · rw [directory_onSubscription]
    exact mirrors.succeed

theorem removed (mirrors : Mirrors registry map) {key : String} {number : Nat}
    (held : registry.table.find? key = some number) :
    Mirrors ((registry.without key).cancel number).state (map.erase key) := by
  have cancels := (registry.without key).cancelsEntry_cancel number
  have kept : ((registry.without key).cancel number).state.optionsOf = registry.optionsOf := by
    rw [cancel, state_onSubscription, optionsOf_changing _ _ (·.options_cancel _)]
    rfl
  refine ⟨?_, ?_, ?_⟩
  · intro other
    rw [cancels.table, kept, without, KeyMap.find?_erase, KeyMap.find?_erase]
    by_cases here : other = key
    · simp [here]
    · simp only [here, if_false]
      exact mirrors.holds other
  · intro other found otherHeld
    rw [cancels.table, without, KeyMap.find?_erase] at otherHeld
    by_cases here : other = key
    · simp [here] at otherHeld
    · simp only [here, if_false] at otherHeld
      have different := mirrors.ne_of_ne held otherHeld here
      rw [Registry.isLive_iff, cancels.standing, if_neg different, ← Registry.isLive_iff]
      exact mirrors.live other found otherHeld
  · rw [cancel, directory_onSubscription]
    exact mirrors.succeed

end Mirrors

theorem find?_opened (map : KeyMap OptionSet) (key : String) (given : OptionSet) :
    (opened map key given).find? key = some ((map.find? key).getD given) := by
  cases found : map.find? key with
  | none => simp [opened, KeyMap.contains, found, KeyMap.find?_insert]
  | some options => simp [opened, KeyMap.contains, found]

/-- What a reply does about an inquiry is what the map does. -/
structure Follows (registry : Registry) (map : KeyMap OptionSet) (inquiry : Inquiry)
    (reply : Reply Registry Response) : Prop where
  answers : inquiry.Answers map registry reply.state reply.answer
  mirrors : Mirrors reply.state (inquiry.apply map)

namespace Mirrors

open Registry

variable {registry : Registry} {map : KeyMap OptionSet}

theorem keyOf (mirrors : Mirrors registry map) {key : String} {number : Nat}
    (held : registry.table.find? key = some number) : registry.keyOf number = key := by
  rcases mirrors.live key number held with ⟨subscription, present, itsKey, _⟩
  simp [Registry.keyOf, present, itsKey]

theorem optionsOf (mirrors : Mirrors registry map) {key : String} {number : Nat}
    (held : registry.table.find? key = some number) :
    map.find? key = some (registry.optionsOf number) := by
  rw [mirrors.holds key, held]
  rfl

/-- Taking a snapshot answers a text, and changes nothing that the map says. -/
theorem shows (mirrors : Mirrors registry map) (key : String) (options : OptionSet) :
    ∃ text, (registry.onDirectory (·.takeSnapshot key options)).answer = .ok text ∧
      Shows key options registry.directory
        (registry.onDirectory (·.takeSnapshot key options)).state.directory (.ofDocument text) ∧
      Mirrors (registry.onDirectory (·.takeSnapshot key options)).state map := by
  rcases Directory.takeSnapshot_ok key options mirrors.succeed with ⟨⟨text, answer⟩, succeed⟩
  exact ⟨text, answer, ⟨text, answer, rfl, rfl⟩, mirrors.withDirectory succeed⟩

theorem getOrCreate (mirrors : Mirrors registry map) (key : String) (given : OptionSet) :
    ∃ number, (registry.getOrCreate key given none).answer = .ok number ∧
      (registry.getOrCreate key given none).state.table.find? key = some number ∧
      Mirrors (registry.getOrCreate key given none).state (opened map key given) := by
  rcases registry.getOrCreate_cases key given none with
    ⟨number, found, answer, state⟩ | ⟨_, _, refused, _⟩ | ⟨absent, _, answer, state⟩
  · rw [mirrors.get?] at found
    rw [opened, if_pos (mirrors.contains_of_held found), state]
    exact ⟨number, answer, found, mirrors⟩
  · cases refused
  · rw [mirrors.get?] at absent
    rw [opened, mirrors.contains_of_unheld absent, state]
    refine ⟨registry.subscriptions.length, answer, ?_, mirrors.entered absent given⟩
    simp [Registry.entered, KeyMap.find?_insert]

theorem activeKeys (mirrors : Mirrors registry map) : registry.activeKeys = map.keys := by
  have uncancelled : ∀ entry ∈ registry.table.entries, (!registry.isCancelled entry.2) = true := by
    intro entry member
    have held : registry.table.find? entry.1 = some entry.2 :=
      KeyMap.lookup_of_mem registry.table.ascending member
    rw [mirrors.isCancelled held]
    rfl
  rw [Registry.activeKeys, List.filter_eq_self.mpr uncancelled]
  exact (KeyMap.keys_eq_of_contains mirrors.contains).symm

theorem follows_list (mirrors : Mirrors registry map) :
    Follows registry map .list (Service.list registry) := by
  refine ⟨⟨?_, rfl⟩, mirrors⟩
  rw [Service.list, mirrors.activeKeys]

theorem follows_snapshot (mirrors : Mirrors registry map) (task : String) (key : String)
    (given : OptionSet) :
    Follows registry map (.snapshot key given) (Service.snapshot registry task none key given) := by
  rcases mirrors.getOrCreate key given with ⟨number, made, held, after⟩
  have options : (registry.getOrCreate key given none).state.optionsOf number =
      (map.find? key).getD given :=
    Option.some.inj ((after.optionsOf held).symm.trans (find?_opened map key given))
  rcases after.shows key ((map.find? key).getD given) with ⟨text, answer, shown, mirrored⟩
  rw [registry.directory_getOrCreate] at shown
  have taken : (registry.getOrCreate key given none).state.takeSnapshotOf number =
      (registry.getOrCreate key given none).state.onDirectory
        (·.takeSnapshot key ((map.find? key).getD given)) := by
    rw [takeSnapshotOf, after.keyOf held, options]
  rw [Service.snapshot, getSnapshot]
  simp only [made, taken, answer]
  exact ⟨shown, mirrored⟩

theorem follows_peek (mirrors : Mirrors registry map) (task : String) (key : String)
    (given : OptionSet) :
    Follows registry map (.peek key given) (Service.peek registry task key given) := by
  rcases mirrors.shows key ((map.find? key).getD given) with ⟨text, answer, shown, mirrored⟩
  have taken : registry.peekSnapshot key given =
      registry.onDirectory (·.takeSnapshot key ((map.find? key).getD given)) := by
    rw [peekSnapshot, mirrors.get?]
    cases held : registry.table.find? key with
    | none => simp [mirrors.holds, held]
    | some number => simp [takeSnapshotOf, mirrors.keyOf held, mirrors.optionsOf held]
  rw [Service.peek]
  simp only [taken, answer]
  exact ⟨shown, mirrored⟩

/-- An operation on the channel of a live entry finds it, and changes nothing that the map says. -/
theorem onChannel (mirrors : Mirrors registry map) {key : String} {number : Nat}
    (held : registry.table.find? key = some number) {Answer : Type}
    (operation : Channel → Answer × Channel) :
    ∃ answer state, registry.onChannel number operation = some (answer, state) ∧
      state.table = registry.table ∧ state.directory = registry.directory ∧
      Mirrors state map := by
  rcases mirrors.live key number held with ⟨subscription, present, _⟩
  let change : Subscription → Subscription := fun found =>
    found.withChannel (operation found.feed.channel).2
  have stored := registry.store_eq_changing number present change
  refine ⟨(operation subscription.feed.channel).1, registry.changing number change, ?_, rfl, rfl,
    mirrors.changing number (fun _ => rfl) (fun _ => rfl) (fun _ => rfl)⟩
  rw [← stored]
  simp [Registry.onChannel, present, change]

theorem follows_stream (mirrors : Mirrors registry map) (key : String) (given : OptionSet) :
    Follows registry map (.stream key given) (Service.stream registry none key given) := by
  rcases mirrors.getOrCreate key given with ⟨number, made, held, after⟩
  rcases after.onChannel held (fun channel => ((), channel.openStream)) with
    ⟨_, streaming, opening, sameTable, sameDirectory, mirrored⟩
  have stillHeld : streaming.table.find? key = some number := by
    rw [sameTable]
    exact held
  rcases mirrored.onChannel stillHeld Channel.intoReceiver with
    ⟨receiver, last, joining, lastTable, lastDirectory, lastMirrored⟩
  have lastHeld : last.get? key = some number := by
    rw [lastMirrored.get?, lastTable]
    exact stillHeld
  have untouched : last.directory = registry.directory := by
    rw [lastDirectory, sameDirectory, registry.directory_getOrCreate]
  rw [Service.stream, getStream]
  simp only [made, opening, Option.map_some, Option.getD_some, joining]
  exact ⟨⟨⟨number, receiver, lastHeld, rfl⟩, untouched⟩, lastMirrored⟩

theorem updateOptions (mirrors : Mirrors registry map) (key : String) (options : OptionSet) :
    (registry.updateOptions key options).answer = map.contains key ∧
      Mirrors (registry.updateOptions key options).state
        ((Inquiry.update key options).apply map) := by
  rw [Registry.updateOptions, updateLive, Inquiry.apply]
  cases held : registry.table.find? key with
  | none =>
      have absent := (mirrors.get? key).trans held
      simpa [absent, mirrors.contains_of_unheld held] using mirrors
  | some number =>
      have found := (mirrors.get? key).trans held
      simpa [found, mirrors.contains_of_held held] using mirrors.replaced held options

theorem deactivate (mirrors : Mirrors registry map) (key : String) :
    (registry.deactivate key).answer = map.contains key ∧
      Mirrors (registry.deactivate key).state (map.erase key) := by
  rw [Registry.deactivate]
  rcases registry.remove_entries key with ⟨same, unheld⟩ | ⟨number, taken, removes⟩
  · simp only [same]
    refine ⟨(mirrors.contains_of_unheld unheld).symm, ?_, mirrors.live, mirrors.succeed⟩
    intro other
    rw [KeyMap.find?_erase]
    by_cases here : other = key
    · simp [here, unheld]
    · simp only [here, if_false]
      exact mirrors.holds other
  · simp only [taken]
    exact ⟨(mirrors.contains_of_held removes.held).symm, mirrors.removed removes.held⟩

/-- The service does about every inquiry what the map does. -/
theorem follows (mirrors : Mirrors registry map) (task : String) (inquiry : Inquiry) :
    Follows registry map inquiry (inquiry.served registry task none) := by
  cases inquiry with
  | list => exact mirrors.follows_list
  | snapshot key given => exact mirrors.follows_snapshot task key given
  | peek key given => exact mirrors.follows_peek task key given
  | stream key given => exact mirrors.follows_stream key given
  | update key options =>
      rcases mirrors.updateOptions key options with ⟨answer, mirrored⟩
      refine ⟨⟨?_, registry.directory_updateOptions key options⟩, mirrored⟩
      rw [Inquiry.served, answer]
  | remove key =>
      rcases mirrors.deactivate key with ⟨answer, mirrored⟩
      refine ⟨⟨?_, registry.directory_deactivate key⟩, mirrored⟩
      rw [Inquiry.served, Service.deactivate, answer]

end Mirrors

section Turns

open Registry

variable {registry : Registry} {map : KeyMap OptionSet}

theorem Inquiry.Answers.later {inquiry : Inquiry} {before after later : Registry}
    {response : Response} (answers : inquiry.Answers map before after response)
    (sameEntries : ∀ key, later.get? key = after.get? key)
    (sameDirectory : later.directory = after.directory) :
    inquiry.Answers map before later response := by
  cases inquiry <;> simpa only [Inquiry.Answers, sameEntries, sameDirectory] using answers

/-- Taking the content away takes a receiver out of a channel at the most. -/
theorem withoutContent_cases (reply : Reply Registry Response) :
    (Service.withoutContent reply).answer = { reply.answer with body := .text "" } ∧
      ((Service.withoutContent reply).state = reply.state ∨
        ∃ entry receiver, (Service.withoutContent reply).state =
          reply.state.changing entry fun subscription =>
            subscription.withChannel (subscription.feed.channel.unsubscribe receiver)) := by
  unfold Service.withoutContent
  split
  · exact ⟨rfl, Or.inl rfl⟩
  · rename_i entry receiver _
    exact ⟨rfl, Or.inr ⟨entry, receiver, reply.state.state_onChannel entry _⟩⟩

namespace Mirrors

/-- A request is answered as the map says, and the map is mirrored afterwards. -/
theorem handle (mirrors : Mirrors registry map) {request : Request} {inquiry : Inquiry}
    (asks : request.Asks inquiry) (task : String) :
    (∃ full, inquiry.Answers map registry (Service.handle registry task none request).state full ∧
        (Service.handle registry task none request).answer = request.trim full) ∧
      Mirrors (Service.handle registry task none request).state (inquiry.apply map) := by
  rcases mirrors.follows task inquiry with ⟨answers, mirrored⟩
  rw [handle_of_asks asks]
  cases head : request.method == "HEAD" with
  | false => exact ⟨⟨_, answers, by simp [Request.trim, head]⟩, mirrored⟩
  | true =>
      simp only [if_true, Request.trim, head]
      rcases withoutContent_cases (inquiry.served registry task none) with
        ⟨answer, same | ⟨entry, receiver, left⟩⟩
      · rw [answer, same]
        exact ⟨⟨_, answers, rfl⟩, mirrored⟩
      · rw [answer, left]
        refine ⟨⟨_, answers.later ?_ rfl, rfl⟩,
          mirrored.changing entry (fun _ => rfl) (fun _ => rfl) (fun _ => rfl)⟩
        apply SameEntries.get?
        exact sameEntries_changing _ entry (fun _ => rfl) (fun _ => rfl)

theorem beginTick (mirrors : Mirrors registry map) (number : Nat) :
    Mirrors (((registry.beginTick? number).map Prod.snd).getD registry) map := by
  cases begun : registry.beginTick? number with
  | none => exact mirrors
  | some tick =>
      rcases registry.beginTick?_eq_some number begun with ⟨_, _, _, _, ticking⟩
      simp only [Option.map_some, Option.getD_some]
      rw [ticking]
      exact mirrors.changing number (fun _ => rfl) (fun _ => rfl) (fun _ => rfl)

theorem endTick (mirrors : Mirrors registry map) (number : Nat) (options : OptionSet) :
    Mirrors (registry.endTick number options).state map := by
  rcases Directory.takeSnapshot_ok (registry.keyOf number) options mirrors.succeed with
    ⟨⟨text, taken⟩, succeed⟩
  rw [registry.state_endTick number taken]
  apply withDirectory _ succeed
  apply mirrors.changing number
  · intro subscription
    exact (deliver_keeps subscription.feed text).1
  · intro subscription
    exact (deliver_keeps subscription.feed text).2
  · intro subscription
    simp only [delivered, Feed.deliver]
    split <;> rfl

theorem receive (mirrors : Mirrors registry map) (number : Nat) (act : Channel.ReceiverAct) :
    Mirrors (registry.perform (.receive number act)).state map := by
  rw [perform]
  dsimp only
  rw [state_onChannel]
  exact mirrors.changing number (fun _ => rfl) (fun _ => rfl) (fun _ => rfl)

theorem step (mirrors : Mirrors registry map) (turn : Turn) :
    Mirrors (turn.step registry) (turn.apply map) := by
  cases turn with
  | request request inquiry asks task => exact (mirrors.handle asks task).2
  | beginTick number => exact mirrors.beginTick number
  | endTick number options => exact mirrors.endTick number options
  | receive number act => exact mirrors.receive number act

theorem foldl (mirrors : Mirrors registry map) (turns : List Turn) :
    Mirrors (turns.foldl Turn.step registry) (turns.foldl Turn.apply map) := by
  induction turns generalizing registry map with
  | nil => exact mirrors
  | cons turn rest ih => exact ih (mirrors.step turn)

theorem create (name : String) (settings : StreamerSettings) {directory : Directory}
    (succeed : directory.LookupsSucceed) :
    Mirrors (Registry.create name settings directory).state KeyMap.empty where
  holds _ := rfl
  live _ _ held := by cases held
  succeed := succeed

/-- Deactivating keys of the map one after the other finds every one of them. -/
theorem deactivateAll (mirrors : Mirrors registry map) {keys : List String}
    (distinct : keys.Nodup) (present : ∀ key ∈ keys, map.contains key = true) :
    (registry.deactivateAll keys).answer = keys.length := by
  induction keys generalizing registry map with
  | nil => rfl
  | cons key rest ih =>
      rcases List.nodup_cons.mp distinct with ⟨fresh, restDistinct⟩
      rcases mirrors.deactivate key with ⟨answer, mirrored⟩
      have others : ∀ other ∈ rest, (map.erase key).contains other = true := by
        intro other member
        have different : other ≠ key := fun same => fresh (same ▸ member)
        have before := present other (List.mem_cons_of_mem key member)
        simpa [KeyMap.contains, KeyMap.find?_erase, different] using before
      have here := present key List.mem_cons_self
      simp only [Registry.deactivateAll, ih mirrored restDistinct others, answer, here, if_true,
        List.length_cons]
      omega

end Mirrors

/-- What a registry says about itself is what the map says, and nothing in its table is cancelled.
-/
structure Tells (registry : Registry) (map : KeyMap OptionSet) : Prop where
  keys : registry.activeKeys = map.keys
  size : registry.size = map.size
  options : ∀ key, (registry.get? key).map registry.optionsOf = map.find? key
  uncancelled : ∀ key number, registry.table.find? key = some number →
    registry.isCancelled number = false
  shutdown : registry.shutdown.answer = map.size

theorem Mirrors.tells (mirrors : Mirrors registry map) : Tells registry map := by
  have tableKeys : map.keys = registry.table.keys := KeyMap.keys_eq_of_contains mirrors.contains
  have size : map.keys.length = map.size := by simp [KeyMap.keys, KeyMap.size]
  refine ⟨mirrors.activeKeys, ?_, ?_, fun _ _ held => mirrors.isCancelled held, ?_⟩
  · rw [Registry.size, mirrors.activeKeys, size]
  · intro key
    rw [mirrors.get?, mirrors.holds]
  · rw [Registry.shutdown, ← tableKeys, ← size]
    apply mirrors.deactivateAll map.nodup_keys
    intro key member
    exact (map.contains_iff key).mpr member

/-- After any requests, with ticks and reads between them, the service is the map that they have
made: it answers every further request as the map says, it says of itself what the map says, and the
keys are in the order of their bytes. -/
theorem requests_refine_map (name : String) (settings : StreamerSettings) {directory : Directory}
    (succeed : directory.LookupsSucceed) (turns : List Turn) :
    let registry := Turn.run (Registry.create name settings directory).state turns
    let map := Turn.chart turns
    (∀ request inquiry, Request.Asks request inquiry → ∀ task,
        ∃ full,
          inquiry.Answers map registry (Service.handle registry task none request).state full ∧
          (Service.handle registry task none request).answer = request.trim full) ∧
      Tells registry map ∧
      map.keys.Pairwise fun first second => Utf8.encode first < Utf8.encode second := by
  have mirrors := (Mirrors.create name settings succeed).foldl turns
  refine ⟨?_, mirrors.tells, ?_⟩
  · intro request inquiry asks task
    exact (mirrors.handle asks task).1
  · exact (KeyMap.pairwise_keys _).imp fun below => Utf8.encode_lt below

theorem requests_refine_map_of_removal :
    let directory := (Directory.empty.register
      ⟨"console", fun count _ => .document (.ofNat count), none⟩).state
    let fresh := (Registry.create "streamer" .standard directory).state
    let path := "/consoles/" ++ Percent.encodeSegment "console" ++ Resource.snapshot.ending
    let opening : Request := ⟨"GET", ⟨path, some "view=full"⟩, none, []⟩
    let closing : Request := ⟨"DELETE", ⟨path, none⟩, none, []⟩
    directory.LookupsSucceed ∧
      ∃ asks : opening.Asks (.snapshot "console" opening.given),
        let turns := [.request opening _ asks "1", .beginTick 0, .endTick 0 opening.given]
        (Turn.run fresh turns).activeKeys = ["console"] ∧
          (Service.handle (Turn.run fresh turns) "2" none closing).answer = .bare 204 ∧
          (Service.handle fresh "3" none closing).answer = .bare 404 := by
  intro directory fresh path opening closing
  have succeed : directory.LookupsSucceed := by
    intro registration member
    cases List.mem_singleton.mp member
    rfl
  have named : Names (Percent.encodeSegment "console") "console" := names_encodeSegment (by decide)
  have asks : opening.Asks (.snapshot "console" opening.given) :=
    .snapshot (Or.inl rfl) ⟨_, named, rfl⟩
  have closes : closing.Asks (.remove "console") := .remove rfl ⟨_, named, rfl⟩
  refine ⟨succeed, asks, ?_⟩
  intro turns
  rcases requests_refine_map "streamer" .standard succeed turns with ⟨answered, tells, _⟩
  rcases answered closing _ closes "2" with ⟨_, ⟨present, _⟩, answer⟩
  rcases (requests_refine_map "streamer" .standard succeed []).1 closing _ closes "3" with
    ⟨_, ⟨absent, _⟩, refused⟩
  refine ⟨tells.keys, ?_, ?_⟩
  · rw [answer, present]
    rfl
  · rw [absent] at refused
    exact refused

end Turns

end ConsoleFeed.Http
