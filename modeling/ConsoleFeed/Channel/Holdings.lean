import ConsoleFeed.Channel.Basic

/-!
# Named ends of channels

Whoever works with channels holds ends of them: stream handles, receivers, and streams without lag
reports. Here they are held by name, each kind with names of its own. Giving a name again lets go of
what it named before, after the new end was made. Turning a stream handle into a stream uses the
handle up.

The channels themselves are somewhere else, by number; all that is asked of that place is to give a
channel, to take it back, and to say whether its publisher is still there.
-/

namespace ConsoleFeed

/-- A place that has channels by number. -/
class ChannelHost (Host : Type) where
  channel? : Host → Nat → Option Channel
  withChannel : Host → Nat → Channel → Host
  publisherHeld : Host → Nat → Bool

/-- The end of a channel that a receiver is: the channel's number and the receiver's name within it.
-/
structure ReceivingEnd where
  channel : Nat
  receiver : Nat
deriving DecidableEq

/-- Named ends of the channels of a place. -/
structure Holdings (Host : Type) where
  host : Host
  streams : KeyMap Nat
  receivers : KeyMap ReceivingEnd
  items : KeyMap ReceivingEnd

namespace Holdings

variable {Host : Type} [ChannelHost Host]

/-- Nothing is held yet. -/
def ofHost (host : Host) : Holdings Host :=
  ⟨host, KeyMap.empty, KeyMap.empty, KeyMap.empty⟩

/-- Carries an operation on a channel out where the channel is. -/
def onChannel {Answer : Type} (holdings : Holdings Host) (number : Nat)
    (operation : Channel → Answer × Channel) : Option (Answer × Holdings Host) :=
  (ChannelHost.channel? holdings.host number).map fun channel =>
    let (answer, changed) := operation channel
    (answer, { holdings with host := ChannelHost.withChannel holdings.host number changed })

/-- Changes a channel where it is. -/
def change (holdings : Holdings Host) (number : Nat) (operation : Channel → Channel) :
    Holdings Host :=
  match holdings.onChannel number fun channel => ((), operation channel) with
  | some (_, changed) => changed
  | none => holdings

/-- How many are subscribed to a channel. -/
def subscribers (holdings : Holdings Host) (number : Nat) : Nat :=
  ((ChannelHost.channel? holdings.host number).map Channel.subscribers).getD 0

/-- Lets go of a receiving end. -/
def letGo (holdings : Holdings Host) (receiving : ReceivingEnd) : Holdings Host :=
  holdings.change receiving.channel (·.unsubscribe receiving.receiver)

/-- Gives up the stream handle with a name. -/
def dropStream (holdings : Holdings Host) (name : String) : Holdings Host :=
  match holdings.streams.find? name with
  | none => holdings
  | some number =>
      { holdings.change number Channel.closeStream with streams := holdings.streams.erase name }

/-- Names a stream handle that is open already; without a name it is given up at once. -/
def nameStream (holdings : Holdings Host) (name : Option String) (number : Nat) : Holdings Host :=
  match name with
  | none => holdings.change number Channel.closeStream
  | some name =>
      let dropped := holdings.dropStream name
      { dropped with streams := dropped.streams.insert name number }

/-- Opens a stream handle on a channel. -/
def openStream (holdings : Holdings Host) (name : String) (number : Nat) : Holdings Host :=
  (holdings.change number Channel.openStream).nameStream (some name) number

/-- Takes away the receiver with a name. -/
def dropReceiver (holdings : Holdings Host) (name : String) : Holdings Host :=
  match holdings.receivers.find? name with
  | none => holdings
  | some receiving => { holdings.letGo receiving with receivers := holdings.receivers.erase name }

/-- Takes away the stream without lag reports that has a name. -/
def dropItem (holdings : Holdings Host) (name : String) : Holdings Host :=
  match holdings.items.find? name with
  | none => holdings
  | some receiving => { holdings.letGo receiving with items := holdings.items.erase name }

/-- Subscribes a receiver to a channel. -/
def subscribe (holdings : Holdings Host) (name : String) (number : Nat) : Holdings Host :=
  match holdings.onChannel number Channel.subscribe with
  | none => holdings
  | some (receiver, subscribed) =>
      let dropped := subscribed.dropReceiver name
      { dropped with receivers := dropped.receivers.insert name ⟨number, receiver⟩ }

/-- Turns the stream handle with a name into a stream without lag reports. -/
def intoStream? (holdings : Holdings Host) (stream name : String) : Option (Holdings Host) :=
  (holdings.streams.find? stream).bind fun number =>
    let released := { holdings with streams := holdings.streams.erase stream }
    (released.onChannel number Channel.intoReceiver).map fun (receiver, turned) =>
      let dropped := turned.dropItem name
      { dropped with items := dropped.items.insert name ⟨number, receiver⟩ }

/-- Reads with a receiving end. -/
def readEnd? (holdings : Holdings Host) (receiving : ReceivingEnd) :
    Option (Reading × Holdings Host) :=
  let held := ChannelHost.publisherHeld holdings.host receiving.channel
  (ChannelHost.channel? holdings.host receiving.channel).bind fun channel =>
    (channel.read? held receiving.receiver).map fun (reading, changed) =>
      (reading,
        { holdings with host := ChannelHost.withChannel holdings.host receiving.channel changed })

/-- Reads the next item with a receiving end. -/
def nextOfEnd? (holdings : Holdings Host) (receiving : ReceivingEnd) :
    Option (Reply (Holdings Host) StreamItem) :=
  let held := ChannelHost.publisherHeld holdings.host receiving.channel
  (ChannelHost.channel? holdings.host receiving.channel).bind fun channel =>
    (channel.nextItem? held receiving.receiver).map fun reply =>
      { answer := reply.answer
        state :=
          { holdings with
            host := ChannelHost.withChannel holdings.host receiving.channel reply.state }
        events := reply.events }

/-- Reads with the receiver with a name. -/
def read? (holdings : Holdings Host) (name : String) : Option (Reading × Holdings Host) :=
  (holdings.receivers.find? name).bind holdings.readEnd?

/-- Reads the next item of the stream with a name. -/
def next? (holdings : Holdings Host) (name : String) :
    Option (Reply (Holdings Host) StreamItem) :=
  (holdings.items.find? name).bind holdings.nextOfEnd?

/-- Reads with a receiver until nothing more is there, or the channel has ended, at most `bound`
times. -/
def drainWithin (holdings : Holdings Host) (name : String) : Nat → List Reading × Holdings Host
  | 0 => ([], holdings)
  | bound + 1 =>
      match holdings.read? name with
      | none => ([], holdings)
      | some (.empty, later) => ([.empty], later)
      | some (.closed, later) => ([.closed], later)
      | some (reading, later) =>
          let (readings, last) := drainWithin later name bound
          (reading :: readings, last)

/-- Reads with a receiver until nothing more is there, or the channel has ended: at most one report
of lag, every payload, and the end. -/
def drain? (holdings : Holdings Host) (name : String) : Option (List Reading × Holdings Host) :=
  (holdings.receivers.find? name).bind fun receiving =>
    (ChannelHost.channel? holdings.host receiving.channel).map fun channel =>
      holdings.drainWithin name (channel.published + 2)

end Holdings

end ConsoleFeed
