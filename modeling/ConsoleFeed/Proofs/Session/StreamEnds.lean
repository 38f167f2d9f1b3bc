import ConsoleFeed.Proofs.Channel.Remaining
import ConsoleFeed.Proofs.Registry.Retirement
import ConsoleFeed.Proofs.Session.Custody

/-!
# When streams end

A receiver, and an item of a stream without lag reports, is told of the end if no payload is kept
for it that it has not read and everyone has let go of the entry (`LetGo`): the table does not hold
it, no handle of either kind has a name, and its loop has ended. Otherwise it is not told so. Until
then a receiver reads what is kept for it, after one report of lag at the most.

An entry that the table holds is not let go of. One that is deactivated is let go of for good as
soon as no handle on it has a name and no tick is on its way: a loop that is given the stop signal
between two ticks counts as ended, since it does nothing any more but see the signal.
-/

namespace ConsoleFeed

open Registry (Held)

namespace Holdings

/-- The receiver with a name reads a channel that keeps so many payloads and is open or not, and has
these payloads unread. -/
def Unread (holdings : Holdings Registry) (name : String) (receiving : ReceivingEnd)
    (capacity : Nat) (isOpen : Bool) (inbox : List String) : Prop :=
  holdings.receivers.find? name = some receiving ∧
    ∃ channel, holdings.host.channel? receiving.channel = some channel ∧
      channel.capacity = capacity ∧
      channel.isOpen (holdings.host.publisherHeld receiving.channel) = isOpen ∧
      Channel.Serves channel.bare receiving.receiver inbox

section Draining

variable {holdings : Holdings Registry} {name : String} {receiving : ReceivingEnd}
  {capacity : Nat} {isOpen : Bool} {inbox : List String}

/-- A read gives what the inbox gives, and leaves what the inbox leaves. -/
theorem Unread.read (unread : holdings.Unread name receiving capacity isOpen inbox) :
    ∃ later, holdings.read? name = some ((Inbox.read capacity isOpen inbox).1, later) ∧
      later.Unread name receiving capacity isOpen (Inbox.read capacity isOpen inbox).2 := by
  rcases unread with ⟨found, channel, present, rfl, rfl, serves⟩
  rcases serves.read_bare (holdings.host.publisherHeld receiving.channel) with
    ⟨position, reads, servesLater⟩
  rcases holdings.host.channel?_onEntry present (.read receiving.receiver) with ⟨presentLater, held⟩
  have moved : (channel.act (holdings.host.publisherHeld receiving.channel)
      (.read receiving.receiver)).state = channel.moveTo receiving.receiver position := by
    simp only [Channel.act, reads]
  rw [moved] at presentLater
  refine ⟨holdings.acting receiving.channel (.read receiving.receiver), ?_, found,
    channel.moveTo receiving.receiver position, presentLater, rfl, ?_, servesLater⟩
  · simp only [read?, found, Option.bind_some, readEnd?_eq, present, reads, Option.map_some]
  · exact congrArg (channel.moveTo receiving.receiver position).isOpen held

/-- Without lag the payloads are read in order, and then there is nothing, or the end. -/
theorem Unread.drains_of_kept (unread : holdings.Unread name receiving capacity isOpen inbox)
    (kept : inbox.length ≤ capacity) {bound : Nat} (enough : inbox.length < bound) :
    (holdings.drainWithin name bound).1 =
      inbox.map .payload ++ [if isOpen then .empty else .closed] := by
  induction inbox generalizing holdings bound with
  | nil =>
      cases bound with
      | zero => exact absurd enough (Nat.not_lt_zero _)
      | succ bound =>
          rcases unread.read with ⟨later, reads, _⟩
          rw [Inbox.read_nil] at reads
          simp only [drainWithin, reads]
          cases isOpen <;> rfl
  | cons text rest ih =>
      cases bound with
      | zero => exact absurd enough (Nat.not_lt_zero _)
      | succ bound =>
          rcases unread.read with ⟨later, reads, unreadLater⟩
          rw [Inbox.read_cons capacity isOpen kept] at reads unreadLater
          have others := ih unreadLater (Nat.le_of_succ_le kept) (Nat.lt_of_succ_lt_succ enough)
          simp only [drainWithin, reads, others]
          rfl

/-- One report of lag at the most comes before the last payloads, as many as the channel keeps. -/
theorem Unread.drains (unread : holdings.Unread name receiving capacity isOpen inbox)
    {bound : Nat} (enough : (inbox.drop (inbox.length - capacity)).length + 1 < bound) :
    (holdings.drainWithin name bound).1 =
      (if capacity < inbox.length then [.lagged (inbox.length - capacity)] else []) ++
        (inbox.drop (inbox.length - capacity)).map .payload ++
          [if isOpen then .empty else .closed] := by
  by_cases lagging : capacity < inbox.length
  · cases bound with
    | zero => exact absurd enough (Nat.not_lt_zero _)
    | succ bound =>
        rcases unread.read with ⟨later, reads, unreadLater⟩
        rw [Inbox.read_of_lagging _ _ _ lagging] at reads unreadLater
        have kept : (inbox.drop (inbox.length - capacity)).length ≤ capacity := by
          rw [List.length_drop]
          omega
        have others := unreadLater.drains_of_kept kept (Nat.lt_of_succ_lt_succ enough)
        simp only [drainWithin, reads, others, if_pos lagging]
        rfl
  · have whole : inbox.length - capacity = 0 := by omega
    rw [whole, List.drop_zero] at enough ⊢
    rw [if_neg lagging, unread.drains_of_kept (Nat.not_lt.mp lagging) (by omega)]
    rfl

end Draining

end Holdings

namespace Session

/-- The payloads still kept for a receiving end. -/
def remaining (session : Session) (receiving : ReceivingEnd) : List String :=
  (session.registry.channel? receiving.channel).elim [] (·.remaining receiving.receiver)

/-- The report of lag that a receiving end gets first, if it gets one. -/
def lagReports (session : Session) (receiving : ReceivingEnd) : List Reading :=
  (session.registry.channel? receiving.channel).elim [] (·.lagReports receiving.receiver)

/-- Everyone has let go of the entry: the table does not hold it, no handle and no stream handle on
it has a name, and its loop has ended, or was given the stop signal between two ticks. -/
structure LetGo (session : Session) (number : Nat) : Prop where
  table : ∀ key, session.registry.table.find? key ≠ some number
  handles : ∀ name, session.handles.find? name ≠ some number
  streams : ∀ name, session.holdings.streams.find? name ≠ some number
  loop : session.registry.LoopEnded number

/-- No payload is left for the receiving end, and no more can come. -/
structure AtEnd (session : Session) (receiving : ReceivingEnd) : Prop where
  read : session.remaining receiving = []
  letGo : session.LetGo receiving.channel

section Ending

variable {session : Session}

theorem letGo_iff_abandoned {number : Nat} :
    session.LetGo number ↔ session.registry.Abandoned (session.custody nothing) number := by
  have handles : number ∉ (session.custody nothing).handles ↔
      ∀ name, session.handles.find? name ≠ some number := by
    rw [← not_exists, ← KeyMap.mem_values_iff]
    rfl
  have streams : number ∉ (session.custody nothing).streams ↔
      ∀ name, session.holdings.streams.find? name ≠ some number := by
    rw [← not_exists, ← KeyMap.mem_values_iff]
    rfl
  constructor
  · intro letGo
    exact ⟨Registry.inTable_eq_false_iff.mpr letGo.table, handles.mpr letGo.handles,
      streams.mpr letGo.streams, letGo.loop⟩
  · intro abandoned
    exact ⟨Registry.inTable_eq_false_iff.mp abandoned.table, handles.mp abandoned.handles,
      streams.mp abandoned.streams, abandoned.loop⟩

/-- A receiving end hears this channel, has this inbox, and everyone has let go of its entry if the
channel is not open, and only then. -/
structure Hears (session : Session) (receiving : ReceivingEnd) (channel : Channel)
    (inbox : List String) (isOpen : Bool) : Prop where
  present : session.holdings.host.channel? receiving.channel = some channel
  serves : Channel.Serves channel.bare receiving.receiver inbox
  positive : 0 < channel.capacity
  standing : channel.isOpen (session.holdings.host.publisherHeld receiving.channel) = isOpen
  closed : isOpen = false ↔ session.LetGo receiving.channel

theorem Keeps.hears (keeps : session.Keeps nothing) {receiving : ReceivingEnd}
    (named : session.Names receiving) :
    ∃ channel inbox isOpen, session.Hears receiving channel inbox isOpen := by
  rcases keeps.listens named with ⟨channel, inbox, present, serves⟩
  rcases keeps.recorded receiving.channel channel present with ⟨positive, _⟩
  refine ⟨channel, inbox, _, present, serves, positive, rfl, ?_⟩
  rw [letGo_iff_abandoned]
  exact Held.isOpen_eq_false_iff keeps present

section Hearing

variable {receiving : ReceivingEnd} {channel : Channel} {inbox : List String} {isOpen : Bool}

theorem Hears.remaining (hears : session.Hears receiving channel inbox isOpen) :
    session.remaining receiving = inbox.drop (inbox.length - channel.capacity) := by
  have present : session.registry.channel? receiving.channel = some channel := hears.present
  rw [Session.remaining, present, Option.elim_some, hears.serves.remaining]

theorem Hears.lagReports (hears : session.Hears receiving channel inbox isOpen) :
    session.lagReports receiving = if channel.capacity < inbox.length then
      [.lagged (inbox.length - channel.capacity)] else [] := by
  have present : session.registry.channel? receiving.channel = some channel := hears.present
  rw [Session.lagReports, present, Option.elim_some, hears.serves.lagReports]

theorem Hears.atEnd_iff (hears : session.Hears receiving channel inbox isOpen) :
    session.AtEnd receiving ↔ inbox = [] ∧ isOpen = false := by
  have present : session.registry.channel? receiving.channel = some channel := hears.present
  have nothingLeft : session.remaining receiving = [] ↔ inbox = [] := by
    rw [Session.remaining, present, Option.elim_some]
    exact hears.serves.remaining_eq_nil_iff hears.positive
  rw [hears.closed, ← nothingLeft]
  exact ⟨fun atEnd => ⟨atEnd.read, atEnd.letGo⟩, fun both => ⟨both.1, both.2⟩⟩

theorem Hears.unread (hears : session.Hears receiving channel inbox isOpen) {name : String}
    (found : session.holdings.receivers.find? name = some receiving) :
    session.holdings.Unread name receiving channel.capacity isOpen inbox :=
  ⟨found, channel, hears.present, rfl, hears.standing, hears.serves⟩

/-- The next item is the next payload kept, and the end if there is none and the end has come. -/
theorem Hears.gives (hears : session.Hears receiving channel inbox isOpen) :
    ∃ reply, session.holdings.nextOfEnd? receiving = some reply ∧
      (reply.answer = .ended ↔ session.AtEnd receiving) ∧
      ∀ text rest, session.remaining receiving = text :: rest →
        reply.answer = .payload text ∧
          (session.holding reply.state).remaining receiving = rest := by
  rcases hears.serves.next_bare (session.holdings.host.publisherHeld receiving.channel)
    hears.positive with ⟨position, item, events, gives, cases⟩
  rcases session.holdings.host.channel?_onEntry hears.present (.next receiving.receiver) with
    ⟨later, _⟩
  simp only [Channel.act, gives] at later
  refine ⟨⟨item, session.holdings.acting receiving.channel (.next receiving.receiver), events⟩,
    ?_, ?_, ?_⟩
  · simp only [Holdings.nextOfEnd?_eq, hears.present, Option.bind_some, gives, Option.map_some]
  · rw [hears.atEnd_iff]
    rcases cases with ⟨rfl, _, rfl⟩ | ⟨text, rest, left, rfl, _⟩
    · rw [hears.standing]
      cases isOpen <;> simp
    · have unread : inbox ≠ [] := by
        rintro rfl
        rw [List.drop_nil] at left
        cases left
      simp [unread]
  · intro text rest left
    rw [hears.remaining] at left
    rcases cases with ⟨rfl, _, _⟩ | ⟨first, others, whole, rfl, serves⟩
    · rw [List.drop_nil] at left
      cases left
    · rw [left, List.cons.injEq] at whole
      rcases whole with ⟨rfl, rfl⟩
      refine ⟨rfl, ?_⟩
      -- After an item no more is unread than the channel keeps, so nothing is passed over again.
      have fits : rest.length - channel.capacity = 0 := by
        have length := congrArg List.length left
        simp only [List.length_drop, List.length_cons] at length
        omega
      have there : (session.holding (session.holdings.acting receiving.channel
          (.next receiving.receiver))).registry.channel? receiving.channel =
            some (channel.moveTo receiving.receiver position) := later
      rw [Session.remaining, there, Option.elim_some, serves.remaining]
      exact congrArg (List.drop · rest) fits

end Hearing

theorem Keeps.reads (keeps : session.Keeps nothing) {name : String} {receiving : ReceivingEnd}
    (found : session.holdings.receivers.find? name = some receiving) :
    ∃ reading holdings, session.holdings.read? name = some (reading, holdings) ∧
      (reading = .closed ↔ session.AtEnd receiving) := by
  rcases keeps.hears (Or.inl ⟨name, found⟩) with ⟨channel, inbox, isOpen, hears⟩
  rcases (hears.unread found).read with ⟨later, reads, _⟩
  refine ⟨_, later, reads, ?_⟩
  rw [Inbox.read_closed_iff, hears.atEnd_iff]

theorem Keeps.drains (keeps : session.Keeps nothing) {name : String} {receiving : ReceivingEnd}
    (found : session.holdings.receivers.find? name = some receiving) :
    ∃ last holdings, session.holdings.drain? name =
        some (session.lagReports receiving ++ (session.remaining receiving).map .payload ++ [last],
          holdings) ∧
      (last = .empty ∨ last = .closed) ∧ (last = .closed ↔ session.LetGo receiving.channel) := by
  rcases keeps.hears (Or.inl ⟨name, found⟩) with ⟨channel, inbox, isOpen, hears⟩
  -- Nobody can have more left to read than was ever published, so these reads get to the end.
  have enough : (inbox.drop (inbox.length - channel.capacity)).length + 1 <
      channel.published + 2 := by
    have few := hears.serves.remaining_le_published
    rw [hears.serves.remaining] at few
    omega
  have drains := (hears.unread found).drains enough
  rw [← hears.lagReports, ← hears.remaining] at drains
  have there : ChannelHost.channel? session.holdings.host receiving.channel = some channel :=
    hears.present
  refine ⟨if isOpen then .empty else .closed,
    (session.holdings.drainWithin name (channel.published + 2)).2, ?_, ?_, ?_⟩
  · simp only [Holdings.drain?, found, Option.bind_some, there, Option.map_some]
    rw [← drains]
  · cases isOpen <;> simp
  · rw [← hears.closed]
    cases isOpen <;> simp

end Ending

/-- Nobody will come to hold the entry again: it is retired, nobody holds it, and its loop has
ended. -/
structure Forgotten (session : Session) (number : Nat) : Prop where
  retired : session.registry.Retired number
  unheld : ¬ (session.custody nothing).Has number
  ended : session.registry.LoopEnded number

section Forgetting

variable {session : Session} {number : Nat}

theorem Forgotten.letGo (forgotten : session.Forgotten number) : session.LetGo number where
  table := forgotten.retired.outside
  handles name found := forgotten.unheld (custody_has_iff.mpr (Or.inl ⟨name, found⟩))
  streams _ found := forgotten.unheld (has_of_stream found)
  loop := forgotten.ended

theorem Keeps.retired_perform (keeps : session.Keeps nothing)
    (retired : session.registry.Retired number) (step : Step) :
    (session.perform step).registry.Retired number := by
  rcases (keeps.perform step).reaches with ⟨uses, same⟩
  rw [same]
  exact retired.afterUses uses

theorem Keeps.retired_run (keeps : session.Keeps nothing)
    (retired : session.registry.Retired number) (steps : List Step) :
    (session.run steps).registry.Retired number := by
  induction steps generalizing session with
  | nil => exact retired
  | cons step rest ih => exact ih (keeps.perform step).keeps (keeps.retired_perform retired step)

theorem Keeps.forgotten_perform (keeps : session.Keeps nothing)
    (forgotten : session.Forgotten number) (step : Step) :
    (session.perform step).Forgotten number where
  retired := keeps.retired_perform forgotten.retired step
  unheld held := by
    -- Only what can be done under a key gives an entry away again, and never a cancelled one.
    rcases forgotten.retired.cancelled with ⟨under, cancelled⟩
    rcases (keeps.perform step).holds number held with older | ⟨key, act, answer⟩
    · exact forgotten.unheld older
    · exact Registry.answer_ne_of_cancelled keeps.owned cancelled act answer
  ended := by
    rcases (keeps.perform step).reaches with ⟨uses, same⟩
    rw [same]
    exact forgotten.ended.afterUses forgotten.retired uses

theorem Keeps.forgotten_run (keeps : session.Keeps nothing)
    (forgotten : session.Forgotten number) (steps : List Step) :
    (session.run steps).Forgotten number := by
  induction steps generalizing session with
  | nil => exact forgotten
  | cons step rest ih =>
      exact ih (keeps.perform step).keeps (keeps.forgotten_perform forgotten step)

/-- No handle of either kind on the entry has a name, and no tick of it is on its way. -/
structure Dismissed (session : Session) (number : Nat) : Prop where
  handles : ∀ name, session.handles.find? name ≠ some number
  streams : ∀ name, session.holdings.streams.find? name ≠ some number
  quiet : ∀ subscription, session.registry.subscription? number = some subscription →
    subscription.phase ≠ .ticking

/-- A retired entry that nobody holds is let go of for good. -/
theorem Keeps.letGo_of_retired (keeps : session.Keeps nothing)
    (retired : session.registry.Retired number) (dismissed : session.Dismissed number)
    (later : List Step) : (session.run later).LetGo number := by
  have forgotten : session.Forgotten number := by
    refine ⟨retired, ?_, Held.loopEnded keeps retired dismissed.quiet⟩
    intro held
    rcases custody_has_iff.mp held with ⟨name, found⟩ | ⟨name, found⟩
    · exact dismissed.handles name found
    · exact dismissed.streams name found
  exact (keeps.forgotten_run forgotten later).letGo

end Forgetting

/-- What an item of a receiving end says, and what is left after it: the next payload if one is
kept, and the end if the receiving end is at its end, and only then. -/
structure ItemTells (session : Session) (receiving : ReceivingEnd) (item : StreamItem)
    (later : Session) : Prop where
  ended : item = .ended ↔ session.AtEnd receiving
  next : ∀ text rest, session.remaining receiving = text :: rest →
    item = .payload text ∧ later.remaining receiving = rest

/-- Every receiving end with a name can be read, and is told of the end just when it is there.
Reading with a receiver until nothing more is there gives one report of lag at the most, then every
payload kept for it, then the end if everyone has let go of the entry. -/
structure TellsEnds (session : Session) : Prop where
  receivers : ∀ name receiving, session.holdings.receivers.find? name = some receiving →
    ∃ reading holdings, session.holdings.read? name = some (reading, holdings) ∧
      (reading = .closed ↔ session.AtEnd receiving)
  drained : ∀ name receiving, session.holdings.receivers.find? name = some receiving →
    ∃ last holdings, session.holdings.drain? name =
        some (session.lagReports receiving ++ (session.remaining receiving).map .payload ++ [last],
          holdings) ∧
      (last = .empty ∨ last = .closed) ∧ (last = .closed ↔ session.LetGo receiving.channel)
  items : ∀ name receiving, session.holdings.items.find? name = some receiving →
    ∃ reply, session.holdings.next? name = some reply ∧
      session.ItemTells receiving reply.answer (session.holding reply.state)
  events : ∀ name receiving, session.eventStreams.find? name = some (some receiving) →
    ∃ reply, session.nextEvent? name = some reply ∧
      session.ItemTells receiving reply.answer reply.state

theorem Keeps.tellsEnds {session : Session} (keeps : session.Keeps nothing) :
    session.TellsEnds where
  receivers _ _ found := keeps.reads found
  drained _ _ found := keeps.drains found
  items name receiving found := by
    rcases keeps.hears (Or.inr (Or.inl ⟨name, found⟩)) with ⟨channel, inbox, isOpen, hears⟩
    rcases hears.gives with ⟨reply, gives, ended, next⟩
    refine ⟨reply, ?_, ended, next⟩
    rw [Holdings.next?, found, Option.bind_some, gives]
  events name receiving found := by
    rcases keeps.hears (Or.inr (Or.inr ⟨name, found⟩)) with ⟨channel, inbox, isOpen, hears⟩
    rcases hears.gives with ⟨reply, gives, ended, next⟩
    refine ⟨⟨reply.answer, session.holding reply.state, reply.events⟩, ?_, ended, next⟩
    rw [nextEvent?, found, Option.bind_some]
    simp only [gives, Option.map_some]
    rfl

/-- In every run, streams end when everyone has let go of the entry and not before; in particular
not while the entry is live. The loop of a cancelled entry has ended or is inside of a tick: one
that is between two ticks when it is signalled counts as ended from then on. A stream handle that is
turned into a stream is used up, and so does not keep that stream open. After a deactivation, with
no handle left and no tick on its way, every receiver reads what is kept for it and then the end,
whatever else is done. -/
theorem streams_end_when_let_go (name : String) (settings : StreamerSettings)
    (directory : Directory) (steps : List Step) :
    let session := (start (Registry.create name settings directory).state).run steps
    session.TellsEnds ∧
      (∀ key number, session.registry.get? key = some number → ¬ session.LetGo number) ∧
      (∀ number subscription, session.registry.subscription? number = some subscription →
        subscription.isCancelled = true →
          subscription.phase = .ticking ∨ session.registry.LoopEnded number) ∧
      (∀ stream items number, session.holdings.streams.find? stream = some number →
        ∃ holdings id, session.holdings.intoStream? stream items = some holdings ∧
          holdings.streams = session.holdings.streams.erase stream ∧
          holdings.items.find? items = some ⟨number, id⟩) ∧
      ∀ key number middle later, session.registry.table.find? key = some number →
        let deactivated := (session.perform (.onKey key .deactivate none)).run middle
        deactivated.Dismissed number →
        let last := deactivated.run later
        last.LetGo number ∧ last.TellsEnds ∧
          ∀ receiver receiving, last.holdings.receivers.find? receiver = some receiving →
            receiving.channel = number →
              ∃ holdings, last.holdings.drain? receiver =
                some (last.lagReports receiving ++ (last.remaining receiving).map .payload ++
                  [.closed], holdings) := by
  intro session
  have keeps : session.Keeps nothing := (keeps_start name settings directory).run steps
  refine ⟨keeps.tellsEnds, ?_, ?_, ?_, ?_⟩
  · intro key number live letGo
    exact letGo.table key ((session.registry.get?_eq_some_iff key number).mp live).1
  · intro number subscription present cancelled
    have signalled := keeps.stopped number subscription present cancelled
    cases phase : subscription.phase with
    | waiting => exact absurd phase signalled
    | ticking => exact .inl rfl
    | ended => exact .inr ⟨subscription, present, phase⟩
  · intro stream items number found
    have inUse := keeps.inUse number (has_of_stream found)
    rcases Registry.channel?_of_lt inUse with ⟨channel, present⟩
    refine ⟨_, channel.issued, Holdings.intoStream?_eq present found items, ?_, ?_⟩
    · exact (Holdings.names_dropItem _ items).2
    · rw [KeyMap.find?_insert, if_pos rfl]
  · intro key number middle later held deactivated dismissed last
    have keepsNow := (keeps.perform (.onKey key .deactivate none)).keeps
    have retired : (session.perform (.onKey key .deactivate none)).registry.Retired number :=
      Registry.retired_deactivate keeps.owned held
    have keepsThen : deactivated.Keeps nothing := keepsNow.run middle
    have letGo : last.LetGo number :=
      keepsThen.letGo_of_retired (keepsNow.retired_run retired middle) dismissed later
    have keepsLast : last.Keeps nothing := keepsThen.run later
    refine ⟨letGo, keepsLast.tellsEnds, ?_⟩
    rintro receiver receiving found rfl
    rcases keepsLast.drains found with ⟨reading, holdings, drains, _, closed⟩
    rw [closed.mpr letGo] at drains
    exact ⟨holdings, drains⟩

/-- A payload that was published before the deactivation is read before the end, once the stream
handle is dropped as well. -/
theorem streams_end_when_let_go_of_dismissed :
    let session := (start (Registry.create "main" .standard Directory.empty).state).run
      [.onKey "console" (.getStream KeyMap.empty none) (some "stream"),
        .subscribe "stream" "reader", .beginTick 0, .endTick 0 KeyMap.empty]
    let deactivated := (session.perform (.onKey "console" .deactivate none)).run
      [.dropStream "stream"]
    session.registry.table.find? "console" = some 0 ∧ deactivated.Dismissed 0 ∧
      deactivated.LetGo 0 ∧
      ∃ holdings, deactivated.holdings.drain? "reader" =
        some ([.payload "\x7b\x7d", .closed], holdings) := by
  intro session deactivated
  have held : session.registry.table.find? "console" = some 0 := by rfl
  have unnamed : deactivated.handles = KeyMap.empty := by rfl
  have dropped : deactivated.holdings.streams = KeyMap.empty := by rfl
  have dismissed : deactivated.Dismissed 0 := by
    refine ⟨?_, ?_, ?_⟩
    · rw [unnamed]
      exact fun _ => nofun
    · rw [dropped]
      exact fun _ => nofun
    · intro subscription present ticking
      cases present
      cases ticking
  rcases streams_end_when_let_go "main" .standard Directory.empty
    [.onKey "console" (.getStream KeyMap.empty none) (some "stream"),
      .subscribe "stream" "reader", .beginTick 0, .endTick 0 KeyMap.empty] with ⟨-, -, -, -, ends⟩
  rcases ends "console" 0 [.dropStream "stream"] [] held dismissed with ⟨letGo, -, drained⟩
  rcases drained "reader" ⟨0, 0⟩ rfl rfl with ⟨holdings, reads⟩
  exact ⟨held, dismissed, letGo, holdings, reads⟩

end Session

end ConsoleFeed
