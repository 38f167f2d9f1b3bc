import ConsoleFeed.Proofs.KeyMap
import ConsoleFeed.Proofs.Registry.EntryChannels
import ConsoleFeed.Session

/-!
# The steps of a session

What can be done in a session: operations under a key, whose entry or stream may be given a name;
what is done with a handle, a stream handle or a receiving end that has a name; requests to the
service, whose event stream may be given a name; providers coming and going; and the ticks of the
loops, taken in two steps. An entry that was made outside of the table and is given no name is let
go of at once.

What a session does with an end of a channel, its registry does as an act on the entry
(`Holdings.acting`). Letting go of what has a name is the same whether the name is taken away first
or last.
-/

namespace ConsoleFeed

namespace Session

/-- Something that is done with a handle that has a name. -/
inductive HandleAct where
  | cancel
  | replaceOptions (options : OptionSet)
  | snapshot
  | trySnapshot
  | clone (name : String)
  | openStream (name : String)
  | drop

/-- A step of a session. -/
inductive Step where
  | onKey (key : String) (act : Registry.KeyAct) (name : Option String)
  | onHandle (handle : String) (act : HandleAct)
  | cloneStream (stream name : String)
  | dropStream (stream : String)
  | subscribe (stream name : String)
  | resubscribe (receiver name : String)
  | intoStream (stream name : String)
  | read (receiver : String)
  | next (items : String)
  | dropReceiver (receiver : String)
  | dropItems (items : String)
  | request (task : String) (refusal : Option StartRefusal) (request : Http.Request)
      (name : Option String)
  | nextEvent (events : String)
  | dropEvents (events : String)
  | register (provider : Provider)
  | shutdown
  | beginTick (entry : Nat)
  | endTick (entry : Nat) (options : OptionSet)

/-- The session with other holdings. -/
def holding (session : Session) (holdings : Holdings Registry) : Session :=
  { session with holdings := holdings }

/-- Gives a name to the entry, or the stream handle, that an operation under a key came to. -/
def keep (session : Session) (act : Registry.KeyAct) (name : Option String) (entry : Nat) :
    Session :=
  match act, name with
  | .getStream _ _, _ => session.holding (session.holdings.nameStream name entry)
  | .build _ _ _, none => session.withRegistry ((session.registry.lend entry).giveBack entry).state
  | _, _ => (session.nameHandle name entry).state

/-- The session after something that was done with a handle on an entry. -/
def onHandle (session : Session) (handle : String) (entry : Nat) : HandleAct → Session
  | .cancel => session.withRegistry (session.registry.onEntry entry .cancel).state
  | .replaceOptions options =>
      session.withRegistry (session.registry.onEntry entry (.replaceOptions options)).state
  | .snapshot => session.withRegistry (session.registry.onEntry entry .snapshot).state
  | .trySnapshot => session.withRegistry (session.registry.onEntry entry .trySnapshot).state
  | .clone name => (session.nameHandle (some name) entry).state
  | .openStream name => session.holding (session.holdings.openStream name entry)
  | .drop => (session.dropHandle handle).state

/-- The session with other holdings, if there are any. -/
def withHoldings (session : Session) (holdings? : Option (Holdings Registry)) : Session :=
  holdings?.elim session session.holding

/-- The session after a step. -/
def perform (session : Session) : Step → Session
  | .onKey key act name =>
      let reply := session.registry.onKey key act
      let after := session.withRegistry reply.state
      match reply.answer with
      | .entry entry => after.keep act name entry
      | .said _ => after
  | .onHandle handle act =>
      (session.handles.find? handle).elim session fun entry => session.onHandle handle entry act
  | .cloneStream stream name =>
      session.withHoldings
        ((session.holdings.streams.find? stream).map (session.holdings.openStream name))
  | .dropStream stream => session.holding (session.holdings.dropStream stream)
  | .subscribe stream name =>
      session.withHoldings
        ((session.holdings.streams.find? stream).map (session.holdings.subscribe name))
  | .resubscribe receiver name =>
      session.withHoldings ((session.holdings.receivers.find? receiver).map fun receiving =>
        session.holdings.subscribe name receiving.channel)
  | .intoStream stream name => session.withHoldings (session.holdings.intoStream? stream name)
  | .read receiver => session.withHoldings ((session.holdings.read? receiver).map Prod.snd)
  | .next items => session.withHoldings ((session.holdings.next? items).map Reply.state)
  | .dropReceiver receiver => session.holding (session.holdings.dropReceiver receiver)
  | .dropItems items => session.holding (session.holdings.dropItem items)
  | .request task refusal request name =>
      let reply := Http.Service.handle session.registry task refusal request
      (session.withRegistry reply.state).keepEventStream name reply.answer
  | .nextEvent events => ((session.nextEvent? events).map Reply.state).getD session
  | .dropEvents events => session.dropEventStream events
  | .register provider =>
      session.withRegistry (session.registry.onDirectory (·.register provider)).state
  | .shutdown => session.withRegistry session.registry.shutdown.state
  | .beginTick entry => session.withRegistry (session.registry.onEntry entry .beginTick).state
  | .endTick entry options =>
      session.withRegistry (session.registry.onEntry entry (.endTick options)).state

/-- The session after steps, one after the other. -/
def run (session : Session) (steps : List Step) : Session :=
  steps.foldl perform session

end Session

namespace Holdings

variable (holdings : Holdings Registry) (number : Nat)

/-- The holdings after an act on an end of an entry's channel. -/
def acting (act : Channel.EndAct) : Holdings Registry :=
  { holdings with host := (holdings.host.onEntry number (.channel act)).state }

/-- An operation on a channel is an act on the entry that does the same to the channel. -/
theorem onChannel_eq {Answer : Type} (operation : Channel → Answer × Channel)
    (act : Channel.EndAct)
    (same : ∀ channel publisherHeld,
      (Channel.act channel publisherHeld act).state = (operation channel).2) :
    holdings.onChannel number operation =
      (holdings.host.channel? number).map fun channel =>
        ((operation channel).1, holdings.acting number act) := by
  cases present : holdings.host.subscription? number with
  | none =>
      simp only [onChannel, ChannelHost.channel?, Registry.channel?, present]
      rfl
  | some subscription =>
      simp only [onChannel, ChannelHost.channel?, Registry.channel?, present, acting,
        Registry.onEntry, Registry.actOn, same]
      rfl

theorem change_eq (operation : Channel → Channel) (act : Channel.EndAct)
    (same : ∀ channel publisherHeld,
      (Channel.act channel publisherHeld act).state = operation channel) :
    holdings.change number operation = holdings.acting number act := by
  have acts : holdings.onChannel number (fun channel => ((), operation channel)) =
      (holdings.host.channel? number).map fun channel => ((), holdings.acting number act) :=
    holdings.onChannel_eq number _ act same
  rw [change, acts]
  cases present : holdings.host.subscription? number with
  | none => simp [Registry.channel?, present, acting, Registry.onEntry]
  | some subscription => simp [Registry.channel?, present]

theorem closeStream_eq :
    holdings.change number Channel.closeStream = holdings.acting number .closeStream :=
  holdings.change_eq number _ .closeStream fun _ _ => rfl

theorem openStream_eq :
    holdings.change number Channel.openStream = holdings.acting number .openStream :=
  holdings.change_eq number _ .openStream fun _ _ => rfl

theorem letGo_eq (receiving : ReceivingEnd) :
    holdings.letGo receiving = holdings.acting receiving.channel (.leave receiving.receiver) :=
  holdings.change_eq receiving.channel _ (.leave receiving.receiver) fun _ _ => rfl

/-- A read is the act of reading on the entry. -/
theorem readEnd?_eq (receiving : ReceivingEnd) :
    holdings.readEnd? receiving =
      ((holdings.host.channel? receiving.channel).bind fun channel =>
        channel.read? (holdings.host.publisherHeld receiving.channel) receiving.receiver).map
          fun outcome =>
            (outcome.1, holdings.acting receiving.channel (.read receiving.receiver)) := by
  cases present : holdings.host.subscription? receiving.channel with
  | none =>
      simp only [readEnd?, ChannelHost.channel?, Registry.channel?, present]
      rfl
  | some subscription =>
      simp only [readEnd?, ChannelHost.channel?, Registry.channel?, ChannelHost.publisherHeld,
        present, acting, Registry.onEntry, Registry.actOn, Channel.act, Option.map_some,
        Option.bind_some]
      cases subscription.feed.channel.read?
        (holdings.host.publisherHeld receiving.channel) receiving.receiver <;> rfl

/-- Asking for the next item is the act of doing so on the entry. -/
theorem nextOfEnd?_eq (receiving : ReceivingEnd) :
    holdings.nextOfEnd? receiving =
      ((holdings.host.channel? receiving.channel).bind fun channel =>
        channel.nextItem? (holdings.host.publisherHeld receiving.channel) receiving.receiver).map
          fun reply =>
            ⟨reply.answer, holdings.acting receiving.channel (.next receiving.receiver),
              reply.events⟩ := by
  cases present : holdings.host.subscription? receiving.channel with
  | none =>
      simp only [nextOfEnd?, ChannelHost.channel?, Registry.channel?, present]
      rfl
  | some subscription =>
      simp only [nextOfEnd?, ChannelHost.channel?, Registry.channel?, ChannelHost.publisherHeld,
        present, acting, Registry.onEntry, Registry.actOn, Channel.act, Option.map_some,
        Option.bind_some]
      cases subscription.feed.channel.nextItem?
        (holdings.host.publisherHeld receiving.channel) receiving.receiver <;> rfl

section Dropping

variable (name : String)

theorem dropStream_eq :
    holdings.dropStream name =
      (holdings.streams.find? name).elim holdings fun number =>
        Holdings.acting { holdings with streams := holdings.streams.erase name } number
          .closeStream := by
  simp only [dropStream]
  cases holdings.streams.find? name with
  | none => rfl
  | some number =>
      simp only [closeStream_eq]
      rfl

theorem dropReceiver_eq :
    holdings.dropReceiver name =
      (holdings.receivers.find? name).elim holdings fun receiving =>
        Holdings.letGo { holdings with receivers := holdings.receivers.erase name } receiving := by
  simp only [dropReceiver]
  cases holdings.receivers.find? name with
  | none => rfl
  | some receiving =>
      simp only [letGo_eq]
      rfl

theorem dropItem_eq :
    holdings.dropItem name =
      (holdings.items.find? name).elim holdings fun receiving =>
        Holdings.letGo { holdings with items := holdings.items.erase name } receiving := by
  simp only [dropItem]
  cases holdings.items.find? name with
  | none => rfl
  | some receiving =>
      simp only [letGo_eq]
      rfl

theorem streams_dropStream :
    (holdings.dropStream name).streams = holdings.streams.erase name := by
  rw [dropStream_eq]
  cases found : holdings.streams.find? name with
  | none => exact (KeyMap.erase_of_absent _ found).symm
  | some number => rfl

theorem receivers_dropReceiver :
    (holdings.dropReceiver name).receivers = holdings.receivers.erase name := by
  rw [dropReceiver_eq]
  cases found : holdings.receivers.find? name with
  | none => exact (KeyMap.erase_of_absent _ found).symm
  | some receiving =>
      rw [Option.elim_some, letGo_eq]
      rfl

theorem names_dropItem :
    (holdings.dropItem name).items = holdings.items.erase name ∧
      (holdings.dropItem name).streams = holdings.streams := by
  rw [dropItem_eq]
  cases found : holdings.items.find? name with
  | none => exact ⟨(KeyMap.erase_of_absent _ found).symm, rfl⟩
  | some receiving =>
      rw [Option.elim_some, letGo_eq]
      exact ⟨rfl, rfl⟩

end Dropping

section Joining

variable {holdings} {number} {channel : Channel}
  (present : holdings.host.channel? number = some channel)
include present

theorem subscribe_eq (name : String) :
    let joined := holdings.acting number .subscribe
    holdings.subscribe name number =
      { joined.dropReceiver name with
        receivers := (joined.dropReceiver name).receivers.insert name
          ⟨number, channel.issued⟩ } := by
  have joins := holdings.onChannel_eq number Channel.subscribe .subscribe fun _ _ => rfl
  simp only [subscribe, joins, present, Option.map_some]
  rfl

theorem intoStream?_eq {stream : String} (found : holdings.streams.find? stream = some number)
    (name : String) :
    let released : Holdings Registry :=
      { holdings with streams := holdings.streams.erase stream }
    let turned := released.acting number .intoReceiver
    holdings.intoStream? stream name = some
      { turned.dropItem name with
        items := (turned.dropItem name).items.insert name ⟨number, channel.issued⟩ } := by
  intro released turned
  have turns : released.onChannel number Channel.intoReceiver = some (channel.issued, turned) := by
    rw [released.onChannel_eq number Channel.intoReceiver .intoReceiver fun _ _ => rfl]
    exact congrArg (Option.map _) present
  simp only [intoStream?, found, Option.bind_some]
  exact congrArg (Option.map _) turns

end Joining

end Holdings

namespace Session

variable (session : Session) (name : String)

theorem handles_dropHandle :
    (session.dropHandle name).state.handles = session.handles.erase name := by
  simp only [dropHandle]
  cases found : session.handles.find? name with
  | none => exact (KeyMap.erase_of_absent _ found).symm
  | some number => rfl

theorem eventStreams_dropEventStream :
    (session.dropEventStream name).eventStreams = session.eventStreams.erase name := by
  simp only [dropEventStream]
  cases found : session.eventStreams.find? name with
  | none => exact (KeyMap.erase_of_absent _ found).symm
  | some receiving? => rfl

end Session

end ConsoleFeed
