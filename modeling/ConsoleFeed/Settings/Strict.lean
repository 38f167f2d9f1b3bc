import ConsoleFeed.Document.Basic
import ConsoleFeed.Settings.Basic

/-!
# Settings as documents

The settings of a streamer can be given as a document whose numbers are taken exactly: an object of
which every member is known, or an array with the interval first and the queue size second. A number
must be whole and in range; what is not given is as it is by default.
-/

namespace ConsoleFeed.StreamerSettings

/-- A number of 64 bits. -/
def exact64? : Document → Option UInt64
  | .integer (.ofNat number) => if number < UInt64.size then some (UInt64.ofNat number) else none
  | _ => none

/-- A number of 16 bits. -/
def exact16? : Document → Option UInt16
  | .integer (.ofNat number) => if number < UInt16.size then some (UInt16.ofNat number) else none
  | _ => none

/-- The settings with one member taken over. -/
def withMember? (settings : StreamerSettings) (member : String × Document) :
    Option StreamerSettings :=
  match member.1 with
  | "update_interval_ms" =>
      (exact64? member.2).map fun value => { settings with updateIntervalMs := value }
  | "message_queue_size" =>
      (exact16? member.2).map fun value => { settings with messageQueueSize := value }
  | _ => none

/-- The settings that a document gives. -/
def ofDocument? : Document → Option StreamerSettings
  | .object members => members.foldlM withMember? standard
  | .array items =>
      if items.length ≤ 2 then
        (["update_interval_ms", "message_queue_size"].zip items).foldlM withMember? standard
      else none
  | _ => none

/-- The settings as a document. -/
def toDocument (settings : StreamerSettings) : Document :=
  .ofMembers [("update_interval_ms", .ofNat settings.updateIntervalMs.toNat),
    ("message_queue_size", .ofNat settings.messageQueueSize.toNat)]

end ConsoleFeed.StreamerSettings
