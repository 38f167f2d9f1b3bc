import ConsoleFeed.Document.Printer

/-!
# Outcomes of a provider

A provider that is asked for a snapshot may give a document, may have nothing to show, may report a
failure, may give something that cannot be written as a document, or may panic. This file says what
snapshot, if any, each outcome is. A panic is absorbed here: it becomes a failure like the others,
with the text it carried, or `none` if what it carried was no text. A null document is no snapshot.
-/

namespace ConsoleFeed

/-- What a panic carried. -/
inductive PanicPayload where
  | text (message : String)
  | untold

/-- What is said where a text is missing. -/
def missingText : String := "none"

/-- The text of a panic. -/
def PanicPayload.message : PanicPayload → String
  | .text message => message
  | .untold => missingText

/-- What a provider does when it is asked for a snapshot. -/
inductive Outcome where
  | document (value : Document)
  | nothing
  | failed (message : String)
  | unserializable (fault : String)
  | panicked (payload : PanicPayload)

/-- Why there is no snapshot although one was asked for. -/
inductive SnapshotError where
  | failed (message : String)
  | panicked (message : String)
  | unserializable (fault : String)
deriving DecidableEq

namespace SnapshotError

/-- What the error says. -/
def message : SnapshotError → String
  | .failed message => "snapshot provider failed: " ++ message
  | .panicked message => "snapshot provider panicked: " ++ message
  | .unserializable fault => "unable to serialize snapshot: " ++ fault

/-- The name of the kind of error. -/
def kind : SnapshotError → String
  | .failed _ => "Failed"
  | .panicked _ => "Panicked"
  | .unserializable _ => "Serialize"

/-- Whether another error lies below this one. -/
def hasSource : SnapshotError → Bool
  | .unserializable _ => true
  | _ => false

end SnapshotError

/-- A snapshot: the text of a document, nothing, or an error. -/
abbrev Snapshot := Except SnapshotError (Option String)

/-- The snapshot that an outcome is. -/
def Outcome.snapshot : Outcome → Snapshot
  | .document .null => .ok none
  | .document value => .ok (some value.compact)
  | .nothing => .ok none
  | .failed message => .error (.failed message)
  | .unserializable fault => .error (.unserializable fault)
  | .panicked payload => .error (.panicked payload.message)

end ConsoleFeed
