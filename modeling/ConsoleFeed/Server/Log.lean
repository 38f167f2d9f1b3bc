import ConsoleFeed.Document.Printer
import ConsoleFeed.Event
import ConsoleFeed.Text.Visible

/-!
# The log

The program writes a line for everything that it logs: the level, the message, and then the fields,
first the event's name and the component. A text field stands between quotes; a fault and other
shown values stand as they are. What is below the level of information is not written.
-/

namespace ConsoleFeed

/-- A line of the log. -/
structure LogEntry where
  level : Level
  message : String
  name : String
  component : String
  fields : List (String × String)
deriving DecidableEq

namespace LogEntry

/-- How a field's value stands in a line. A fault is shown as it is. -/
def shown (field : String × Document) : String × String :=
  (field.1, match field.2 with
    | .text value => if field.1 = "err" then value else Visible.quoted value
    | other => other.compact)

/-- The entry for an event. -/
def ofEvent (event : Event) : LogEntry :=
  ⟨event.level, event.message, event.name, event.component, event.fields.map shown⟩

/-- Whether the entry is written. -/
def isWritten (entry : LogEntry) : Bool :=
  match entry.level with
  | .trace | .debug => false
  | .info | .warn | .error => true

/-- The entries that are written for events. -/
def ofEvents (events : List Event) : List LogEntry :=
  (events.map ofEvent).filter isWritten

/-- The line for an entry. -/
def line (entry : LogEntry) : String :=
  " ".intercalate (entry.level.text :: entry.message ::
    (("event", Visible.quoted entry.name) :: ("component", Visible.quoted entry.component) ::
      entry.fields).map fun field => field.1 ++ "=" ++ field.2)

end LogEntry

end ConsoleFeed
