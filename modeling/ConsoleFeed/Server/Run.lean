import ConsoleFeed.Server.Launch

/-!
# A whole run

A run begins with the command line. Once the server listens, clients come one after the other, each
with one request; a client goes away when it has its response. Then the interrupt arrives and the
server stops.

A connection may break before its request has arrived. The server does not notice that, and the
client has no response.
-/

namespace ConsoleFeed

/-- What a run leaves behind: the code with which it exits, its log, the clients' responses, and the
line that reports why it failed. -/
structure RunRecord where
  exitCode : Nat
  log : List LogEntry
  responses : List (Option Http.Response)
  report : Option String

namespace Server

/-- Serves clients one after the other; `none` stands for a connection that breaks. -/
def serve (server : Server) : List (Option Http.Request) →
    Reply Server (List (Option Http.Response))
  | [] => ⟨[], server, []⟩
  | request? :: rest =>
      match request?.bind (server.accept? none) with
      | none =>
          let others := serve server rest
          ⟨none :: others.answer, others.state, others.events⟩
      | some reply =>
          let others := serve (reply.state.disconnect server.connections) rest
          ⟨some reply.answer :: others.answer, others.state, reply.events ++ others.events⟩

end Server

namespace RunRecord

/-- The record of a run that failed or was not wanted. -/
def ofFailure (log : List LogEntry) (failure : LaunchFailure) : RunRecord :=
  ⟨failure.exitCode, log, [], failure.report?⟩

/-- Carries a run out. `shown` gives the address in the log, with the socket that the system chose.
There is no record of a run that an open event stream keeps from stopping. -/
def ofRun? (arguments : List String) (readFile : FileReader) (machine : Machine)
    (shown : ListenAddress → String) (requests : List (Option Http.Request)) : Option RunRecord :=
  let launch := Launch.start arguments readFile machine
  match launch.outcome with
  | .error failure => some (ofFailure launch.log failure)
  | .ok listener =>
      let served := listener.server.serve requests
      served.state.interrupt.stop?.map fun swept =>
        let log :=
          launch.log ++ .listening (shown listener.address) :: LogEntry.ofEvents served.events ++
            LogEntry.ofEvents swept.events ++ [.stopped swept.answer]
        ⟨0, log, served.answer, none⟩

end RunRecord

end ConsoleFeed
