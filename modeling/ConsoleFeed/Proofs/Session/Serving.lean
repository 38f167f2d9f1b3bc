import ConsoleFeed.Proofs.Session.StreamEnds

/-!
# What a server does in a session

A server answers requests, sends what the event streams of its responses yield, drops them when a
client goes away, and lets the loops tick. It names no handle of either kind, and requests make no
entry outside of the table. So an entry is retired as soon as the table does not hold it, and then
nothing but a tick on its way keeps its event streams from ending.

Apart from requests, all of this comes down to acts on entries that leave the table as it is. So an
event stream whose entry the table holds stays open (`Serving.streams_on`). One whose entry is
retired only ever gets shorter, and each sending takes something off it, or ends it.
-/

namespace ConsoleFeed.Http

section Requests

variable {registry : Registry}

theorem tabled_onChannel (tabled : registry.Tabled) {Answer : Type} (entry : Nat)
    (operation : Channel → Answer × Channel) :
    (((registry.onChannel entry operation).map Prod.snd).getD registry).Tabled :=
  tabled.of_sameEntries (registry.sameEntries_onChannel entry operation)

theorem tabled_stream (tabled : registry.Tabled) (refusal : Option StartRefusal) (key : String)
    (options : OptionSet) : (Service.stream registry refusal key options).state.Tabled := by
  have opened : (registry.getStream key options refusal).state.Tabled :=
    tabled.onKey key (.getStream options refusal) (by simp)
  simp only [Service.stream]
  split
  · exact opened
  · rename_i entry _
    have turned := tabled_onChannel opened entry Channel.intoReceiver
    split
    · exact opened
    · rename_i joined
      rw [joined] at turned
      exact turned

theorem tabled_update (tabled : registry.Tabled) (key : String) (request : Request) :
    (Service.update registry key request).state.Tabled := by
  simp only [Service.update]
  split
  · exact tabled
  · exact tabled.onKey key (.updateOptions _) (by simp)

theorem tabled_withoutContent {reply : Reply Registry Response} (tabled : reply.state.Tabled) :
    (Service.withoutContent reply).state.Tabled := by
  rcases reply with ⟨⟨status, contentType, body⟩, state, events⟩
  cases body with
  | text content => exact tabled
  | eventStream entry receiver => exact tabled_onChannel tabled entry _

/-- A request makes no entry that the table does not hold, and takes none out that is not cancelled.
-/
theorem tabled_handle (tabled : registry.Tabled) (task : String) (refusal : Option StartRefusal)
    (request : Request) : (Service.handle registry task refusal request).state.Tabled := by
  apply handle_cases (motive := fun reply => reply.state.Tabled)
  · intro status
    exact tabled
  · exact tabled
  · intro key options
    simp only [Service.snapshot]
    split <;> exact tabled.onKey key (.getSnapshot options refusal) (by simp)
  · intro key options
    simp only [Service.peek]
    split <;> exact tabled.onKey key (.peekSnapshot options) (by simp)
  · exact tabled_stream tabled refusal
  · intro key
    exact tabled_update tabled key request
  · intro key
    exact tabled.onKey key .deactivate (by simp)
  · intro reply
    exact tabled_withoutContent

end Requests

end ConsoleFeed.Http

namespace ConsoleFeed.Session

/-- The step sends on an event stream, drops one, or is one of a loop. -/
def Step.isQuiet : Step → Bool
  | .nextEvent _ | .dropEvents _ | .beginTick _ | .endTick _ _ => true
  | _ => false

/-- A registry changes by one act on an entry, which does not cancel it, or not at all. -/
inductive QuietMove (registry : Registry) : Registry → Prop
  | still : QuietMove registry registry
  | acted (entry : Nat) {act : Registry.EntryAct} (sparing : act.mayCancel = false) :
      QuietMove registry (registry.onEntry entry act).state

theorem QuietMove.sameEntries {registry later : Registry} (move : QuietMove registry later) :
    Registry.SameEntries registry later := by
  cases move with
  | still => exact .refl registry
  | acted entry sparing => exact registry.sameEntries_onEntry entry sparing

/-- Quiet moves publish nothing on a retired entry, so a receiver that stays has no more to read
afterwards than before. -/
theorem QuietMove.inbox_le {registry later : Registry} (move : QuietMove registry later)
    {number id : Nat} (retired : registry.Retired number) {before after : Channel}
    {unread left : List String} (present : registry.channel? number = some before)
    (serves : Channel.Serves before.bare id unread) (found : later.channel? number = some after)
    (stays : Channel.Serves after.bare id left) :
    after.capacity = before.capacity ∧ left.length ≤ unread.length := by
  cases move with
  | still =>
      cases present.symm.trans found
      rw [← serves.unread_bare, ← stays.unread_bare]
      exact ⟨rfl, Nat.le_refl _⟩
  | acted entry _ =>
      rename_i act _
      rcases registry.channelStep_use (.onEntry entry act) present with ⟨other, there, step⟩
      cases there.symm.trans found
      refine ⟨step.capacity present, ?_⟩
      have kept : (.onEntry entry act : Registry.Use Nat) ≠
          .onEntry number (.channel (.leave id)) := by
        intro leaves
        rw [leaves] at step
        rcases stays with ⟨all, receiver, _, listed, _⟩
        rw [(step.leaves serves).receiver?] at listed
        cases listed
      rcases step.serves serves kept with ⟨last, servesLast, order⟩
      have fewer := order.length_le
      rw [retired.published?_eq_none, List.length_append, List.length_append] at fewer
      rw [← stays.unread_bare, servesLast.unread_bare]
      exact Nat.le_trans (Nat.le_add_left _ _) fewer

/-- The later session has the same handles of both kinds, and its registry has moved quietly. -/
structure Quietly (session later : Session) : Prop where
  move : QuietMove session.registry later.registry
  handles : later.handles = session.handles
  streams : later.holdings.streams = session.holdings.streams

section Quiet

variable (session : Session)

theorem quietly_letGo (receiving : ReceivingEnd) :
    session.Quietly (session.holding (session.holdings.letGo receiving)) := by
  rw [session.holdings.letGo_eq receiving]
  exact ⟨.acted receiving.channel rfl, rfl, rfl⟩

theorem quietly_dropEventStream (name : String) :
    session.Quietly (session.dropEventStream name) := by
  simp only [Session.dropEventStream]
  cases session.eventStreams.find? name with
  | none => exact ⟨.still, rfl, rfl⟩
  | some receiving? =>
      cases receiving? with
      | none => exact ⟨.still, rfl, rfl⟩
      | some receiving =>
          have left := session.quietly_letGo receiving
          exact ⟨left.move, left.handles, left.streams⟩

theorem quietly_keepEventStream (name : Option String) (response : Http.Response) :
    session.Quietly (session.keepEventStream name response) := by
  simp only [Session.keepEventStream]
  split
  · split
    · rename_i own
      have dropped := session.quietly_dropEventStream own
      exact ⟨dropped.move, dropped.handles, dropped.streams⟩
    · exact session.quietly_letGo _
    · exact ⟨.still, rfl, rfl⟩
  · exact ⟨.still, rfl, rfl⟩

theorem quietly_nextEvent (events : String) :
    session.Quietly (session.perform (.nextEvent events)) := by
  simp only [Session.perform, Session.nextEvent?]
  cases session.eventStreams.find? events with
  | none => exact ⟨.still, rfl, rfl⟩
  | some receiving? =>
      cases receiving? with
      | none => exact ⟨.still, rfl, rfl⟩
      | some receiving =>
          simp only [Option.bind_some, Holdings.nextOfEnd?_eq]
          cases ((session.holdings.host.channel? receiving.channel).bind _) with
          | none => exact ⟨.still, rfl, rfl⟩
          | some reply => exact ⟨.acted receiving.channel rfl, rfl, rfl⟩

theorem quietly_perform {step : Step} (quiet : step.isQuiet = true) :
    session.Quietly (session.perform step) := by
  cases step with
  | nextEvent events => exact session.quietly_nextEvent events
  | dropEvents events => exact session.quietly_dropEventStream events
  | beginTick entry => exact ⟨.acted entry rfl, rfl, rfl⟩
  | endTick entry options => exact ⟨.acted entry rfl, rfl, rfl⟩
  | _ => cases quiet

theorem eventStreams_nextEvent (events : String) :
    (session.perform (.nextEvent events)).eventStreams = session.eventStreams := by
  simp only [Session.perform, Session.nextEvent?]
  cases session.eventStreams.find? events with
  | none => rfl
  | some receiving? =>
      cases receiving? with
      | none => rfl
      | some receiving =>
          simp only [Option.bind_some]
          cases session.holdings.nextOfEnd? receiving <;> rfl

/-- A response gives an event stream to no other name than its own. -/
theorem find?_keepEventStream_of_ne {name other : String} (different : other ≠ name)
    (response : Http.Response) :
    (session.keepEventStream (some name) response).eventStreams.find? other =
      session.eventStreams.find? other := by
  simp only [Session.keepEventStream]
  split
  · rw [KeyMap.find?_insert, if_neg different, eventStreams_dropEventStream, KeyMap.find?_erase,
      if_neg different]
  · rfl

/-- What is quiet opens no event stream. -/
theorem eventStreams_of_quiet {step : Step} (quiet : step.isQuiet = true) {name : String}
    {stream : Option ReceivingEnd}
    (found : (session.perform step).eventStreams.find? name = some stream) :
    session.eventStreams.find? name = some stream := by
  cases step with
  | nextEvent events =>
      rw [eventStreams_nextEvent] at found
      exact found
  | dropEvents events =>
      have erased : (session.perform (.dropEvents events)).eventStreams =
          session.eventStreams.erase events := session.eventStreams_dropEventStream events
      rw [erased, KeyMap.find?_erase] at found
      split at found
      · cases found
      · exact found
  | beginTick entry => exact found
  | endTick entry options => exact found
  | _ => cases quiet

end Quiet

/-- What is left for a receiver on a retired entry only gets less. -/
theorem Keeps.remaining_le {session : Session} (keeps : session.Keeps nothing) {step : Step}
    (quiet : step.isQuiet = true) {receiving : ReceivingEnd}
    (retired : session.registry.Retired receiving.channel) (named : session.Names receiving)
    (stays : (session.perform step).Names receiving) :
    ((session.perform step).remaining receiving).length ≤ (session.remaining receiving).length := by
  rcases keeps.listens named with ⟨before, unread, present, serves⟩
  rcases (keeps.perform step).keeps.listens stays with ⟨after, left, found, servesLater⟩
  have move := (session.quietly_perform quiet).move
  rcases move.inbox_le retired present serves found servesLater with ⟨capacity, fewer⟩
  have earlier := serves.remaining_length
  have later := servesLater.remaining_length
  simp only [Session.remaining, present, found, Option.elim_some]
  omega

/-- Nothing but event streams is held, and the table holds every entry that is not cancelled. -/
structure Serving (session : Session) : Prop where
  keeps : session.Keeps nothing
  tabled : session.registry.Tabled
  handles : session.handles = KeyMap.empty
  streams : session.holdings.streams = KeyMap.empty

theorem serving_start (name : String) (settings : StreamerSettings) (directory : Directory) :
    (start (Registry.create name settings directory).state).Serving :=
  ⟨keeps_start name settings directory, Registry.tabled_create name settings directory, rfl, rfl⟩

section Serving

variable {session : Session}

theorem Serving.quietly {later : Session} (serving : session.Serving) (keeps : later.Keeps nothing)
    (quietly : session.Quietly later) : later.Serving where
  keeps := keeps
  tabled := serving.tabled.of_sameEntries quietly.move.sameEntries
  handles := quietly.handles.trans serving.handles
  streams := quietly.streams.trans serving.streams

theorem Serving.perform (serving : session.Serving) {step : Step} (quiet : step.isQuiet = true) :
    (session.perform step).Serving :=
  serving.quietly (serving.keeps.perform step).keeps (session.quietly_perform quiet)

theorem Serving.request (serving : session.Serving) (task : String) (refusal : Option StartRefusal)
    (request : Http.Request) (name : Option String) :
    (session.perform (.request task refusal request name)).Serving := by
  let reply := Http.Service.handle session.registry task refusal request
  have quietly := (session.withRegistry reply.state).quietly_keepEventStream name reply.answer
  have tabled : reply.state.Tabled := Http.tabled_handle serving.tabled task refusal request
  exact ⟨(serving.keeps.perform (.request task refusal request name)).keeps,
    tabled.of_sameEntries quietly.move.sameEntries, quietly.handles.trans serving.handles,
    quietly.streams.trans serving.streams⟩

/-- What remains of a session once it was quiet: the table is the same, no event stream was opened,
what is retired or forgotten stays so, and the event streams of retired entries got no longer. -/
structure Onward (session later : Session) : Prop where
  table : later.registry.table = session.registry.table
  opened : ∀ name stream, later.eventStreams.find? name = some stream →
    session.eventStreams.find? name = some stream
  retired : ∀ number, session.registry.Retired number → later.registry.Retired number
  forgotten : ∀ number, session.Forgotten number → later.Forgotten number
  remaining : ∀ name receiving, session.registry.Retired receiving.channel →
    later.eventStreams.find? name = some (some receiving) →
      (later.remaining receiving).length ≤ (session.remaining receiving).length

theorem Onward.refl (session : Session) : session.Onward session :=
  ⟨rfl, fun _ _ => id, fun _ => id, fun _ => id, fun _ _ _ _ => Nat.le_refl _⟩

theorem Onward.trans {between later : Session} (first : session.Onward between)
    (second : between.Onward later) : session.Onward later where
  table := second.table.trans first.table
  opened name stream found := first.opened name stream (second.opened name stream found)
  retired number retired := second.retired number (first.retired number retired)
  forgotten number forgotten := second.forgotten number (first.forgotten number forgotten)
  remaining name receiving retired found :=
    Nat.le_trans (second.remaining name receiving (first.retired _ retired) found)
      (first.remaining name receiving retired (second.opened name _ found))

theorem Serving.onward_perform (serving : session.Serving) {step : Step}
    (quiet : step.isQuiet = true) : session.Onward (session.perform step) where
  table := (session.quietly_perform quiet).move.sameEntries.table
  opened _ _ found := session.eventStreams_of_quiet quiet found
  retired _ retired := serving.keeps.retired_perform retired step
  forgotten _ forgotten := serving.keeps.forgotten_perform forgotten step
  remaining name _ retired found :=
    serving.keeps.remaining_le quiet retired
      (Or.inr (Or.inr ⟨name, session.eventStreams_of_quiet quiet found⟩))
      (Or.inr (Or.inr ⟨name, found⟩))

theorem Serving.onward_run (serving : session.Serving) {steps : List Step}
    (quiet : ∀ step ∈ steps, step.isQuiet = true) :
    (session.run steps).Serving ∧ session.Onward (session.run steps) := by
  induction steps generalizing session with
  | nil => exact ⟨serving, .refl session⟩
  | cons step rest ih =>
      have first : step.isQuiet = true := quiet step List.mem_cons_self
      rcases ih (serving.perform first) (fun other member =>
        quiet other (List.mem_cons_of_mem _ member)) with ⟨later, onward⟩
      exact ⟨later, (serving.onward_perform first).trans onward⟩

/-- Nobody holds an entry. -/
theorem Serving.unheld (serving : session.Serving) (number : Nat) :
    ¬ (session.custody nothing).Has number := by
  intro held
  rcases custody_has_iff.mp held with ⟨name, found⟩ | ⟨name, found⟩
  · rw [serving.handles] at found
    cases found
  · rw [serving.streams] at found
    cases found

/-- The entry of an event stream is retired unless the table holds it. -/
theorem Serving.retired (serving : session.Serving) {receiving : ReceivingEnd}
    (named : session.Names receiving)
    (outside : session.registry.inTable receiving.channel = false) :
    session.registry.Retired receiving.channel := by
  rcases serving.keeps.listens named with ⟨channel, inbox, present, _⟩
  rcases Option.map_eq_some_iff.mp present with ⟨subscription, there, _⟩
  exact serving.tabled.retired (List.getElem?_eq_some_iff.mp there).1 outside

/-- A retired entry is forgotten once no tick of it is on its way. -/
theorem Serving.forgotten (serving : session.Serving) {number : Nat}
    (retired : session.registry.Retired number)
    (between : ∀ subscription, session.registry.subscription? number = some subscription →
      subscription.phase ≠ .ticking) : session.Forgotten number :=
  ⟨retired, serving.unheld number, Registry.Held.loopEnded serving.keeps retired between⟩

end Serving

end ConsoleFeed.Session
