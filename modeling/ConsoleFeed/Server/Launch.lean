import ConsoleFeed.Server.Address
import ConsoleFeed.Server.Basic
import ConsoleFeed.Server.Log
import ConsoleFeed.Settings.File

/-!
# From the command line to a server

A run reads the command line, loads the settings, makes the streamer with the built-in consoles, and
listens. It ends early if one of these fails: a fault of the settings is met before anything is
logged, and one of the address after the streamer was made.
-/

namespace ConsoleFeed

/-- Why a run ends before the server listens. -/
inductive LaunchFailure where
  | usage (stop : UsageStop)
  | settings (failure : LoadFailure)
  | address (fault : SystemFault)
deriving DecidableEq

namespace LaunchFailure

/-- The code with which a program exits that broke down. -/
def breakdownCode : Nat := 101

/-- The code with which the program exits then. -/
def exitCode : LaunchFailure → Nat
  | .usage stop => stop.exitCode
  | .settings failure => if failure.isBreakdown then breakdownCode else 1
  | .address _ => 1

/-- The line with which the program reports the failure, unless it broke down. How to use the
command line is told elsewhere. -/
def report? : LaunchFailure → Option String
  | .usage _ => none
  | .settings failure => if failure.isBreakdown then none else some ("Error: " ++ failure.inner)
  | .address fault => some ("Error: " ++ fault.inner)

end LaunchFailure

/-- A server that can listen, and where. -/
structure Listener where
  server : Server
  address : ListenAddress

/-- The beginning of a run: what was logged, and whether the server can listen. -/
structure Launch where
  log : List LogEntry
  outcome : Except LaunchFailure Listener

namespace LogEntry

/-- The server logs something. -/
def ofServer (message name : String) (fields : List (String × String)) : LogEntry :=
  ⟨.info, message, name, "server", fields⟩

/-- The settings were loaded, from a file if one is named. -/
def settingsLoaded (settingsFile : Option String) (settings : ServerSettings) : LogEntry :=
  ofServer "configuration loaded" "server_config_loaded"
    [("config_file", match settingsFile with
        | some path => "Some(" ++ Visible.quoted path ++ ")"
        | none => "None"),
      ("update_interval_ms", toString settings.streamer.updateIntervalMs.toNat),
      ("message_queue_size", toString settings.streamer.messageQueueSize.toNat),
      ("bind_address", Visible.quoted settings.http.bindAddress)]

/-- The server listens at an address, in which the system's choice stands for a number that was left
to it. -/
def listening (address : String) : LogEntry :=
  ofServer "listening" "server_listening"
    [("streamer", Visible.quoted Server.streamerName), ("local_addr", address)]

/-- The server has stopped. -/
def stopped (deactivated : Nat) : LogEntry :=
  ofServer "server stopped" "server_stopped" [("deactivated", toString deactivated)]

end LogEntry

namespace Launch

/-- Begins a run. -/
def start (arguments : List String) (readFile : FileReader) (machine : Machine) : Launch :=
  match Arguments.read arguments with
  | .error stop => ⟨[], .error (.usage stop)⟩
  | .ok given =>
      match given.settings readFile with
      | .error failure => ⟨[], .error (.settings failure)⟩
      | .ok settings =>
          let started := Server.start settings.streamer machine
          let log :=
            .settingsLoaded given.settingsFile settings :: LogEntry.ofEvents started.events
          match ListenAddress.read settings.http.bindAddress with
          | .error fault => ⟨log, .error (.address fault)⟩
          | .ok address => ⟨log, .ok ⟨started.state, address⟩⟩

end Launch

end ConsoleFeed
