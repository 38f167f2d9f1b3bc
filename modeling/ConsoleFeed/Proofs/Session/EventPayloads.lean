import ConsoleFeed.Proofs.Document.Printing
import ConsoleFeed.Proofs.Http.EventFrames
import ConsoleFeed.Proofs.Session.Custody
import ConsoleFeed.Provider.Scripted

/-!
# The payloads of event streams

What a tick publishes is printed from a document, or is the text for no snapshot. Either is one line
without control characters, and it does not start with a space. Channels keep nothing but what ticks
published, so this is all that an event stream ever yields, and a client that reads the response
gets exactly the payloads that the stream yielded, one event for each, wherever comments stand
between them.
-/

namespace ConsoleFeed

/-- The text has no control character and does not start with a space. -/
structure Clean (text : String) : Prop where
  printable : Document.NoneBelow 0x20 text.toList
  start : text.toList.head? ≠ some ' '

section Payloads

theorem Clean.oneLine {text : String} (clean : Clean text) : EventStream.OneLine text :=
  ⟨fun member => absurd (clean.printable _ member) (by decide),
    fun member => absurd (clean.printable _ member) (by decide)⟩

theorem clean_emptySnapshot : Clean emptySnapshot :=
  ⟨by decide, by decide⟩

theorem clean_compact (document : Document) : Clean document.compact := by
  constructor
  · rw [Document.compact, String.toList_ofList]
    exact Document.noneBelow_characters document
  · rw [Document.compact, String.toList_ofList]
    exact Document.characters_head document

/-- Whatever a provider does, the payload made of it is clean. -/
theorem clean_payloadOf (outcome : Outcome) : Clean (Directory.payloadOf outcome.snapshot) := by
  cases outcome with
  | document value => cases value <;> first | exact clean_compact _ | exact clean_emptySnapshot
  | nothing | failed _ | unserializable _ | panicked _ => exact clean_emptySnapshot

theorem clean_takeSnapshot {directory : Directory} {key : String} {options : OptionSet}
    {text : String} (taken : (directory.takeSnapshot key options).answer = .ok text) :
    Clean text := by
  simp only [Directory.takeSnapshot, Directory.trySnapshot] at taken
  split at taken
  · cases taken
  · rename_i snapshot answer
    cases taken
    split at answer
    · cases answer
    · cases answer
      exact clean_emptySnapshot
    · cases answer
      exact clean_payloadOf _

end Payloads

namespace Channel

variable {channel : Channel}

theorem mem_kept_of_read? {publisherHeld : Bool} {id : Nat} {text : String} {later : Channel}
    (reads : channel.read? publisherHeld id = some (.payload text, later)) :
    text ∈ channel.kept := by
  rcases Option.map_eq_some_iff.mp reads with ⟨receiver, -, outcome⟩
  simp only [readAt, Prod.mk.injEq] at outcome
  rcases outcome with ⟨reading, -⟩
  split at reading
  · cases reading
  · split at reading
    · rename_i found
      cases reading
      exact List.mem_of_getElem? found
    · split at reading <;> cases reading

theorem kept_read? {publisherHeld : Bool} {id : Nat} {reading : Reading} {later : Channel}
    (reads : channel.read? publisherHeld id = some (reading, later)) :
    later.kept = channel.kept := by
  rcases Option.map_eq_some_iff.mp reads with ⟨receiver, -, outcome⟩
  cases outcome
  rfl

/-- An item is one of the payloads kept. -/
theorem mem_kept_of_nextItem? {publisherHeld : Bool} {id : Nat} {reply : Reply Channel StreamItem}
    (gives : channel.nextItem? publisherHeld id = some reply) {text : String}
    (item : reply.answer = .payload text) : text ∈ channel.kept := by
  simp only [nextItem?] at gives
  split at gives
  · cases gives
  · rename_i missed moved reads
    rcases Option.map_eq_some_iff.mp gives with ⟨⟨reading, later⟩, again, rfl⟩
    cases reading with
    | payload other =>
        cases item
        exact kept_read? reads ▸ mem_kept_of_read? again
    | empty | closed | lagged _ => cases item
  · rename_i reading moved _ reads
    cases gives
    cases reading with
    | payload other =>
        cases item
        exact mem_kept_of_read? reads
    | empty | closed | lagged _ => cases item

theorem kept_nextItem? {publisherHeld : Bool} {id : Nat} {reply : Reply Channel StreamItem}
    (gives : channel.nextItem? publisherHeld id = some reply) :
    reply.state.kept = channel.kept := by
  simp only [nextItem?] at gives
  split at gives
  · cases gives
  · rename_i missed moved reads
    rcases Option.map_eq_some_iff.mp gives with ⟨⟨reading, later⟩, again, rfl⟩
    exact (kept_read? again).trans (kept_read? reads)
  · rename_i reads
    cases gives
    exact kept_read? reads

/-- What is done with the ends of a channel leaves alone what it keeps. -/
theorem kept_act (publisherHeld : Bool) (act : EndAct) :
    (channel.act publisherHeld act).state.kept = channel.kept := by
  cases act with
  | read id =>
      simp only [Channel.act]
      split
      · rfl
      · rename_i reads
        exact kept_read? reads
  | next id =>
      simp only [Channel.act]
      split
      · rfl
      · rename_i gives
        exact kept_nextItem? gives
  | openStream | closeStream | subscribe | intoReceiver | leave => rfl

theorem mem_kept_publish {payload text : String}
    (member : text ∈ (channel.publish payload).2.kept) :
    text ∈ channel.kept ∨ text = payload := by
  simp only [publish] at member
  split at member
  · exact Or.inl member
  · rcases List.mem_append.mp (List.mem_of_mem_drop member) with older | new
    · exact Or.inl older
    · exact Or.inr (List.mem_singleton.mp new)

end Channel

namespace Registry

variable {registry : Registry}

/-- Whatever channels keep is clean. -/
def KeepsClean (registry : Registry) : Prop :=
  ∀ number channel, registry.channel? number = some channel → ∀ text ∈ channel.kept, Clean text

theorem clean_published? {number : Nat} {use : Use Nat} {text : String}
    (published : registry.published? number use = some text) : Clean text := by
  unfold published? at published
  split at published
  · split at published
    · rename_i options _
      cases taken : (registry.directory.takeSnapshot (registry.keyOf number) options).answer with
      | error panic =>
          rw [taken] at published
          cases published
      | ok payload =>
          rw [taken] at published
          cases published
          exact clean_takeSnapshot taken
    · cases published
  · cases published

theorem ChannelStep.clean {number : Nat} {before after : Channel} {use : Use Nat}
    {answer : Yield Nat} (step : ChannelStep registry number before use answer after)
    (clean : ∀ text ∈ before.kept, Clean text) : ∀ text ∈ after.kept, Clean text := by
  intro text member
  cases step with
  | kept _ _ same =>
      have kept : after.bare.kept = before.bare.kept := congrArg Channel.kept same
      exact clean text (kept ▸ member)
  | acted act => exact clean text (Channel.kept_act _ act ▸ member)
  | published told =>
      rcases Channel.mem_kept_publish member with older | rfl
      · exact clean text older
      · exact clean_published? told

theorem KeepsClean.use (clean : registry.KeepsClean) (use : Use Nat) :
    (registry.use use).state.KeepsClean := by
  intro number channel present
  cases earlier : registry.channel? number with
  | none =>
      rcases registry.created_use use earlier present with ⟨queueCapacity, created⟩
      have nothing : channel.kept = [] := congrArg Channel.kept created
      rw [nothing]
      exact nofun
  | some before =>
      rcases registry.channelStep_use use earlier with ⟨later, found, step⟩
      rw [present] at found
      cases found
      exact step.clean (clean number before earlier)

theorem KeepsClean.afterUses (clean : registry.KeepsClean) (uses : List (Use Nat)) :
    (registry.afterUses uses).KeepsClean := by
  induction uses generalizing registry with
  | nil => exact clean
  | cons use rest ih => exact ih (clean.use use)

end Registry

namespace Session

variable {session : Session}

/-- The payload that a step yields on an event stream. -/
def yields? (session : Session) (events : String) : Step → Option String
  | .nextEvent name =>
      if name = events then
        match (session.nextEvent? name).map Reply.answer with
        | some (.payload text) => some text
        | _ => none
      else none
  | _ => none

/-- The payloads that steps yield on an event stream, in their order. -/
def yielded (session : Session) (events : String) : List Step → List String
  | [] => []
  | step :: rest =>
      (session.yields? events step).toList ++ (session.perform step).yielded events rest

theorem clean_yields? (clean : session.registry.KeepsClean) {events : String} {step : Step}
    {text : String} (yields : session.yields? events step = some text) : Clean text := by
  unfold yields? at yields
  split at yields
  · split at yields
    · split at yields
      · rename_i name _ item answered
        cases yields
        rcases Option.map_eq_some_iff.mp answered with ⟨reply, gives, answer⟩
        rcases Option.bind_eq_some_iff.mp gives with ⟨receiving?, -, asked⟩
        cases receiving? with
        | none =>
            cases asked
            cases answer
        | some receiving =>
            rcases Option.map_eq_some_iff.mp asked with ⟨item, next, rfl⟩
            rcases Option.bind_eq_some_iff.mp next with ⟨channel, present, outcome⟩
            rcases Option.map_eq_some_iff.mp outcome with ⟨reply, given, rfl⟩
            exact clean receiving.channel channel present text
              (Channel.mem_kept_of_nextItem? given answer)
      · cases yields
    · cases yields
  · cases yields

theorem Keeps.keepsClean_perform (keeps : session.Keeps nothing)
    (clean : session.registry.KeepsClean) (step : Step) :
    (session.perform step).registry.KeepsClean := by
  rcases (keeps.perform step).reaches with ⟨uses, same⟩
  rw [same]
  exact clean.afterUses uses

theorem Keeps.keepsClean_run (keeps : session.Keeps nothing)
    (clean : session.registry.KeepsClean) (steps : List Step) :
    (session.run steps).registry.KeepsClean := by
  induction steps generalizing session with
  | nil => exact clean
  | cons step rest ih => exact ih (keeps.perform step).keeps (keeps.keepsClean_perform clean step)

theorem Keeps.clean_yielded (keeps : session.Keeps nothing) (clean : session.registry.KeepsClean)
    (events : String) (steps : List Step) : ∀ text ∈ session.yielded events steps, Clean text := by
  induction steps generalizing session with
  | nil => exact nofun
  | cons step rest ih =>
      intro text member
      rcases List.mem_append.mp member with here | later
      · exact clean_yields? clean (Option.mem_toList.mp here)
      · exact ih (keeps.perform step).keeps (keeps.keepsClean_perform clean step) text later

/-- In every run, what a tick publishes has no control character and does not start with a space, so
that its event can be built and has one `data` line; and whatever steps yield on an event stream,
its frames can be built, with any comments among them, and are read as the payloads that were
yielded. -/
theorem event_streams_carry_payloads (name : String) (settings : StreamerSettings)
    (directory : Directory) (earlier : List Step) :
    let session := (start (Registry.create name settings directory).state).run earlier
    (∀ number options text,
        session.registry.published? number (.onEntry number (.endTick options)) = some text →
        Clean text ∧
          (EventStream.Frame.event text).text? = some ("data: " ++ text ++ "\n\n")) ∧
      ∀ events steps (frames : List EventStream.Frame),
        frames.filterMap EventStream.Frame.payload? = session.yielded events steps →
        (∀ text, .comment text ∈ frames → EventStream.OneLine text) →
        ∃ body, EventStream.body? frames = some body ∧
          EventStream.decode (Utf8.encode body) = session.yielded events steps := by
  intro session
  have kept := keeps_start name settings directory
  have fresh : (start (Registry.create name settings directory).state).registry.KeepsClean := by
    intro number channel present
    cases present
  have keeps : session.Keeps nothing := kept.run earlier
  have clean : session.registry.KeepsClean := kept.keepsClean_run fresh earlier
  refine ⟨?_, ?_⟩
  · intro number options text published
    have cleanText := Registry.clean_published? published
    exact ⟨cleanText, EventStream.text?_event cleanText.oneLine⟩
  · intro events steps frames payloads comments
    have plain : ∀ frame ∈ frames, frame.IsPlain := by
      intro frame member
      cases frame with
      | event payload =>
          have yielded : payload ∈ session.yielded events steps :=
            payloads ▸ List.mem_filterMap.mpr ⟨_, member, rfl⟩
          exact (keeps.clean_yielded clean events steps payload yielded).oneLine
      | comment text => exact comments text member
    rw [← payloads]
    exact EventStream.decode_body plain

/-- A directory whose provider gives a text of two lines first, and fails from then on. -/
def twoLinesDirectory : Directory :=
  (Directory.empty.register
    ((Script.sequence [.fixed (.text " \r\n"), .failing "boom"]).provider "console")).state

/-- An event stream yields the text, its line break escaped, and then the text for no snapshot; with
comments before, between and after them, a client reads these two. -/
theorem event_streams_carry_payloads_among_comments :
    let session := (start (Registry.create "main" ⟨5000, 16⟩ twoLinesDirectory).state).run
      [.request "1" none ⟨"GET", ⟨"/consoles/console/stream", none⟩, none, []⟩ (some "events")]
    let steps : List Step := [.beginTick 0, .endTick 0 KeyMap.empty, .nextEvent "events",
      .beginTick 0, .endTick 0 KeyMap.empty, .nextEvent "events"]
    let frames : List EventStream.Frame :=
      [.comment "", .event "\" \\r\\n\"", .comment "", .comment "", .event emptySnapshot,
        .comment ""]
    session.registry.published? 0 (.onEntry 0 (.endTick KeyMap.empty)) = some "\" \\r\\n\"" ∧
      Clean "\" \\r\\n\"" ∧
      session.yielded "events" steps = ["\" \\r\\n\"", emptySnapshot] ∧
      ∃ body, EventStream.body? frames = some body ∧
        EventStream.decode (Utf8.encode body) = ["\" \\r\\n\"", emptySnapshot] := by
  intro session steps frames
  have published : session.registry.published? 0 (.onEntry 0 (.endTick KeyMap.empty)) =
      some "\" \\r\\n\"" := by decide +kernel
  have yielded : session.yielded "events" steps = ["\" \\r\\n\"", emptySnapshot] := by
    decide +kernel
  rcases event_streams_carry_payloads "main" ⟨5000, 16⟩ twoLinesDirectory
    [.request "1" none ⟨"GET", ⟨"/consoles/console/stream", none⟩, none, []⟩ (some "events")] with
    ⟨clean, carried⟩
  have read := carried "events" steps frames (by rw [yielded]; rfl) (by
    simp [frames, EventStream.OneLine])
  rw [yielded] at read
  exact ⟨published, (clean 0 _ _ published).1, yielded, read⟩

end Session

end ConsoleFeed
