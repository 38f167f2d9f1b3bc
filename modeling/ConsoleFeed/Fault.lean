import ConsoleFeed.Text.Visible

/-!
# Faults of the system

The system below can refuse a runtime, a thread or a file. A fault has a kind; it may carry a text
of its own, and faults that the operating system numbers carry its number and text. A subscription
that cannot be scheduled reports the fault together with its key.
-/

namespace ConsoleFeed

/-- What sort of thing went wrong. -/
inductive FaultKind where
  | notFound
  | permissionDenied
  | alreadyExists
  | wouldBlock
  | invalidInput
  | invalidData
  | timedOut
  | interrupted
  | unsupported
  | unexpectedEnd
  | outOfMemory
  | isDirectory
  | notDirectory
  | invalidFilename
  | other
deriving DecidableEq

namespace FaultKind

/-- The name of the kind, as it is shown in the inner form of a fault. -/
def name : FaultKind → String
  | .notFound => "NotFound"
  | .permissionDenied => "PermissionDenied"
  | .alreadyExists => "AlreadyExists"
  | .wouldBlock => "WouldBlock"
  | .invalidInput => "InvalidInput"
  | .invalidData => "InvalidData"
  | .timedOut => "TimedOut"
  | .interrupted => "Interrupted"
  | .unsupported => "Unsupported"
  | .unexpectedEnd => "UnexpectedEof"
  | .outOfMemory => "OutOfMemory"
  | .isDirectory => "IsADirectory"
  | .notDirectory => "NotADirectory"
  | .invalidFilename => "InvalidFilename"
  | .other => "Other"

/-- What a fault says that has no text of its own. -/
def message : FaultKind → String
  | .notFound => "entity not found"
  | .permissionDenied => "permission denied"
  | .alreadyExists => "entity already exists"
  | .wouldBlock => "operation would block"
  | .invalidInput => "invalid input parameter"
  | .invalidData => "invalid data"
  | .timedOut => "timed out"
  | .interrupted => "operation interrupted"
  | .unsupported => "unsupported"
  | .unexpectedEnd => "unexpected end of file"
  | .outOfMemory => "out of memory"
  | .isDirectory => "is a directory"
  | .notDirectory => "not a directory"
  | .invalidFilename => "invalid filename"
  | .other => "other error"

/-- The kinds, each of which a name stands for. -/
def all : List FaultKind :=
  [.notFound, .permissionDenied, .alreadyExists, .wouldBlock, .invalidInput, .invalidData,
    .timedOut, .interrupted, .unsupported, .unexpectedEnd, .outOfMemory, .other]

/-- The kind with a name; a name that is not known stands for any other fault. -/
def named (name : String) : FaultKind :=
  (all.find? (fun kind => kind.name == name)).getD .other

end FaultKind

/-- A fault of the system. -/
inductive SystemFault where
  | bare (kind : FaultKind)
  | described (kind : FaultKind) (text : String)
  | constant (kind : FaultKind) (text : String)
  | numbered (kind : FaultKind) (number : Nat) (text : String)
deriving DecidableEq

namespace SystemFault

/-- What the fault says. -/
def message : SystemFault → String
  | .bare kind => kind.message
  | .described _ text => text
  | .constant _ text => text
  | .numbered _ number text => text ++ " (os error " ++ toString number ++ ")"

/-- The inner form of the fault. -/
def inner : SystemFault → String
  | .bare kind => "Kind(" ++ kind.name ++ ")"
  | .described kind text =>
      "Custom \x7b kind: " ++ kind.name ++ ", error: " ++ Visible.quoted text ++ " \x7d"
  | .constant kind text =>
      "Error \x7b kind: " ++ kind.name ++ ", message: " ++ Visible.quoted text ++ " \x7d"
  | .numbered kind number text =>
      "Os \x7b code: " ++ toString number ++ ", kind: " ++ kind.name ++ ", message: " ++
        Visible.quoted text ++ " \x7d"

/-- No more threads can be had. -/
def noMoreThreads : SystemFault := .numbered .wouldBlock 11 "Resource temporarily unavailable"

end SystemFault

/-- Why a tick loop cannot be started: there is no runtime to be had for it, or no thread. -/
inductive StartRefusal where
  | runtime (fault : SystemFault)
  | thread (fault : SystemFault)
deriving DecidableEq

/-- The fault that the refusal is. -/
def StartRefusal.fault : StartRefusal → SystemFault
  | .runtime fault | .thread fault => fault

/-- Where a fault is given and no more is said, it is the thread that is refused. -/
instance : Coe (Option SystemFault) (Option StartRefusal) := ⟨Option.map .thread⟩

/-- A subscription could not be scheduled. -/
structure SchedulingFailure where
  key : String
  cause : SystemFault
deriving DecidableEq

namespace SchedulingFailure

/-- What the failure says. -/
def message (failure : SchedulingFailure) : String :=
  "Unable to schedule updates for subscription " ++ failure.key ++ ": " ++ failure.cause.message

/-- The inner form of the failure. -/
def inner (failure : SchedulingFailure) : String :=
  "Scheduler(" ++ Visible.quoted failure.key ++ ", " ++ failure.cause.inner ++ ")"

end SchedulingFailure

end ConsoleFeed
