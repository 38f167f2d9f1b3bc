import ConsoleFeed.Provider.Builtin
import ConsoleFeed.Session

/-!
# The server

A server answers requests, each on a connection of its own, over a registry with the built-in
consoles. An event stream keeps its connection open after the response has begun: until its channel
ends, or until the client goes away.

An interrupt makes the server accept no further connection. It stops when no connection is open any
more, and only then deactivates what is in the registry.
-/

namespace ConsoleFeed

/-- A server at work, with the number of connections that it has accepted. An open event stream is
held under its connection's number. -/
structure Server where
  session : Session
  connections : Nat
  interrupted : Bool

namespace Server

/-- The name of the server's streamer. -/
def streamerName : String := "console-streamer-server"

/-- A server that has accepted nothing yet. -/
def start (settings : StreamerSettings) (machine : Machine) : Reply Server Unit :=
  let registered := Directory.empty.registerAll (Builtin.providers machine)
  let created := Registry.create streamerName settings registered.state
  ⟨(), ⟨Session.start created.state, 0, false⟩, registered.events ++ created.events⟩

/-- The name under which a connection's event stream is held. -/
def streamName (connection : Nat) : String := toString connection

/-- Answers a request on a new connection, unless the server was interrupted. -/
def accept? (server : Server) (refusal : Option StartRefusal) (request : Http.Request) :
    Option (Reply Server Http.Response) :=
  if server.interrupted then none
  else
    let name := streamName server.connections
    let reply := Http.Service.handle server.session.registry name refusal request
    let session :=
      (server.session.withRegistry reply.state).keepEventStream (some name) reply.answer
    some ⟨reply.answer, { server with session := session, connections := server.connections + 1 },
      reply.events⟩

/-- The client of a connection goes away. -/
def disconnect (server : Server) (connection : Nat) : Server :=
  { server with session := server.session.dropEventStream (streamName connection) }

/-- Sends what the event stream of a connection yields next. At its end the connection is closed. -/
def send? (server : Server) (connection : Nat) : Option (Reply Server StreamItem) :=
  (server.session.nextEvent? (streamName connection)).map fun reply =>
    let sent := { server with session := reply.state }
    ⟨reply.answer, if reply.answer = .ended then sent.disconnect connection else sent,
      reply.events⟩

/-- Lets the subscription with a number make one tick; the answer is whether its loop goes on. -/
def tick? (server : Server) (entry : Nat) : Option (Reply Server Bool) :=
  (server.session.registry.tick? entry).map fun reply =>
    ⟨reply.answer, { server with session := server.session.withRegistry reply.state },
      reply.events⟩

/-- The interrupt arrives. -/
def interrupt (server : Server) : Server := { server with interrupted := true }

/-- Whether an event stream keeps a connection open. -/
def isStreaming (server : Server) : Bool :=
  server.session.eventStreams.entries.any fun stream => stream.2.isSome

/-- Stops the server, once it may stop; the answer is how many subscriptions were deactivated. -/
def stop? (server : Server) : Option (Reply Server Nat) :=
  if server.interrupted && !server.isStreaming then
    let swept := server.session.registry.shutdown
    some ⟨swept.answer, { server with session := server.session.withRegistry swept.state },
      swept.events⟩
  else none

end Server

end ConsoleFeed
