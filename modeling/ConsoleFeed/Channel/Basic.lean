import ConsoleFeed.Event

/-!
# Channels

A channel hands every payload to everyone who is subscribed when it is published. It keeps the last
payloads, as many as its capacity says, and each receiver keeps the position of the payload that it
reads next. A receiver that falls further behind than the channel keeps is told how many payloads it
lost and goes on with the oldest one kept. Publishing never waits, and with nobody subscribed it
keeps nothing.

The capacity asked for is raised to a power of two. A channel is open as long as its publisher or
one of its stream handles is left; the channel counts the handles, and whoever owns the publisher
says whether it is still there. A closed channel can be read to its end.
-/

namespace ConsoleFeed

/-- Someone who reads a channel: the position of the payload to be read next. -/
structure Receiver where
  id : Nat
  next : Nat
deriving DecidableEq

/-- A channel. `kept` are the last payloads, oldest first; `published` is how many there were in
all, `issued` how many receivers, and `streams` how many stream handles are left. -/
structure Channel where
  capacity : Nat
  kept : List String
  published : Nat
  receivers : List Receiver
  issued : Nat
  streams : Nat
deriving DecidableEq

/-- What a receiver reads. -/
inductive Reading where
  | payload (text : String)
  | empty
  | closed
  | lagged (missed : Nat)
deriving DecidableEq

/-- What the next item of a stream without lag reports is. -/
inductive StreamItem where
  | payload (text : String)
  | pending
  | ended
deriving DecidableEq

namespace Channel

/-- The least power of two that is not below a number. -/
def roundedCapacity (queueCapacity : Nat) : Nat :=
  if queueCapacity ≤ 1 then 1 else Nat.pow 2 ((queueCapacity - 1).log2 + 1)

theorem le_roundedCapacity (queueCapacity : Nat) :
    queueCapacity ≤ roundedCapacity queueCapacity := by
  have below : queueCapacity - 1 < 2 ^ ((queueCapacity - 1).log2 + 1) := Nat.lt_log2_self
  unfold roundedCapacity
  split
  · assumption
  · exact Nat.le_of_pred_lt below

theorem isPowerOfTwo_roundedCapacity (queueCapacity : Nat) :
    (roundedCapacity queueCapacity).isPowerOfTwo := by
  unfold roundedCapacity
  split
  · exact Nat.isPowerOfTwo_one
  · exact ⟨_, rfl⟩

theorem roundedCapacity_le {queueCapacity bound : Nat} (power : bound.isPowerOfTwo)
    (above : queueCapacity ≤ bound) : roundedCapacity queueCapacity ≤ bound := by
  obtain ⟨exponent, rfl⟩ := power
  have positive : 0 < 2 ^ exponent := Nat.two_pow_pos exponent
  unfold roundedCapacity
  split
  · exact positive
  · have fewer : (queueCapacity - 1).log2 < exponent := by
      rw [Nat.log2_lt (by omega)]
      omega
    exact Nat.pow_le_pow_right (by decide) fewer

/-- A channel that keeps at least as many payloads as asked for. -/
def create (queueCapacity : Nat) : Channel :=
  ⟨roundedCapacity queueCapacity, [], 0, [], 0, 0⟩

/-- How many are subscribed. -/
def subscribers (channel : Channel) : Nat :=
  channel.receivers.length

/-- The position of the oldest payload kept. -/
def oldest (channel : Channel) : Nat :=
  channel.published - channel.kept.length

/-- Publishes a payload. The answer is how many receivers it is kept for. -/
def publish (channel : Channel) (payload : String) : Nat × Channel :=
  if channel.receivers.isEmpty then (0, channel)
  else
    let all := channel.kept ++ [payload]
    (channel.subscribers,
      { channel with
        kept := all.drop (all.length - channel.capacity)
        published := channel.published + 1 })

/-- Subscribes a receiver, which starts behind everything published so far. The answer is its name
within the channel. -/
def subscribe (channel : Channel) : Nat × Channel :=
  (channel.issued,
    { channel with
      receivers := channel.receivers ++ [⟨channel.issued, channel.published⟩]
      issued := channel.issued + 1 })

/-- The receiver with a name. -/
def receiver? (channel : Channel) (id : Nat) : Option Receiver :=
  channel.receivers.find? (fun receiver => receiver.id == id)

/-- Takes a receiver away. -/
def unsubscribe (channel : Channel) (id : Nat) : Channel :=
  { channel with receivers := channel.receivers.filter (fun receiver => receiver.id != id) }

/-- Moves a receiver to a position. -/
def moveTo (channel : Channel) (id position : Nat) : Channel :=
  { channel with
    receivers := channel.receivers.map fun receiver =>
      if receiver.id = id then { receiver with next := position } else receiver }

/-- Opens a stream handle. -/
def openStream (channel : Channel) : Channel :=
  { channel with streams := channel.streams + 1 }

/-- Gives a stream handle up. -/
def closeStream (channel : Channel) : Channel :=
  { channel with streams := channel.streams - 1 }

/-- Whether more payloads may come. -/
def isOpen (channel : Channel) (publisherHeld : Bool) : Bool :=
  publisherHeld || 0 < channel.streams

/-- What a receiver that stands at a position reads, and where it stands afterwards. -/
def readAt (channel : Channel) (publisherHeld : Bool) (position : Nat) : Reading × Nat :=
  if position < channel.oldest then (.lagged (channel.oldest - position), channel.oldest)
  else
    match channel.kept[position - channel.oldest]? with
    | some text => (.payload text, position + 1)
    | none => (if channel.isOpen publisherHeld then .empty else .closed, position)

/-- Reads with a receiver; nothing if there is no such receiver. -/
def read? (channel : Channel) (publisherHeld : Bool) (id : Nat) : Option (Reading × Channel) :=
  (channel.receiver? id).map fun receiver =>
    let (reading, position) := channel.readAt publisherHeld receiver.next
    (reading, channel.moveTo id position)

/-- The item that a reading is, once reports of lag are left out. -/
def itemOf : Reading → StreamItem
  | .payload text => .payload text
  | .empty => .pending
  | .closed => .ended
  | .lagged _ => .pending

/-- The next item of a stream that leaves reports of lag out: after a report it reads once more, and
then there is a payload, since a receiver lags only behind payloads that are kept. -/
def nextItem? (channel : Channel) (publisherHeld : Bool) (id : Nat) :
    Option (Reply Channel StreamItem) :=
  match channel.read? publisherHeld id with
  | none => none
  | some (.lagged missed, moved) =>
      (moved.read? publisherHeld id).map fun (reading, later) =>
        ⟨itemOf reading, later, [.receiverLagged missed]⟩
  | some (reading, moved) => some ⟨itemOf reading, moved, []⟩

/-- Turns a stream handle into a receiver. The handle is gone afterwards, so it does not keep the
channel open. -/
def intoReceiver (channel : Channel) : Nat × Channel :=
  let (id, subscribed) := channel.subscribe
  (id, subscribed.closeStream)

end Channel

end ConsoleFeed
