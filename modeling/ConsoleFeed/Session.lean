import ConsoleFeed.Http.Service

/-!
# Sessions

A session works with a registry over a longer time: it holds handles on subscriptions and ends of
their channels by name, and it keeps the event streams that HTTP requests have opened. Naming a
handle anew gives the old one back after the new one was lent. An event stream whose response
carries no content has ended from the start.
-/

namespace ConsoleFeed

/-- A registry with what is held of it by name. `inTick` is set while a tick is held between reading
the options and taking the snapshot. -/
structure Session where
  holdings : Holdings Registry
  handles : KeyMap Nat
  eventStreams : KeyMap (Option ReceivingEnd)
  inTick : Bool

namespace Session

/-- Nothing is held yet. -/
def start (registry : Registry) : Session :=
  ⟨Holdings.ofHost registry, KeyMap.empty, KeyMap.empty, false⟩

/-- The registry that the session works with. -/
def registry (session : Session) : Registry := session.holdings.host

/-- The session with the registry in another state. -/
def withRegistry (session : Session) (registry : Registry) : Session :=
  { session with holdings := { session.holdings with host := registry } }

/-- Gives the handle with a name back. -/
def dropHandle (session : Session) (name : String) : Reply Session Unit :=
  match session.handles.find? name with
  | none => ⟨(), session, []⟩
  | some entry =>
      let returned := session.registry.giveBack entry
      ⟨(), { session.withRegistry returned.state with handles := session.handles.erase name },
        returned.events⟩

/-- Lends a handle on a subscription if it gets a name. -/
def nameHandle (session : Session) (name : Option String) (entry : Nat) : Reply Session Unit :=
  match name with
  | none => ⟨(), session, []⟩
  | some name =>
      let dropped := (session.withRegistry (session.registry.lend entry)).dropHandle name
      ⟨(), { dropped.state with handles := dropped.state.handles.insert name entry },
        dropped.events⟩

/-- Lets go of the event stream with a name. -/
def dropEventStream (session : Session) (name : String) : Session :=
  match session.eventStreams.find? name with
  | none => session
  | some receiving? =>
      let holdings := match receiving? with
        | some receiving => session.holdings.letGo receiving
        | none => session.holdings
      { session with holdings := holdings, eventStreams := session.eventStreams.erase name }

/-- Keeps the event stream of a response if it gets a name, and lets go of it otherwise. -/
def keepEventStream (session : Session) (name : Option String) (response : Http.Response) :
    Session :=
  let receiving? : Option ReceivingEnd := match response.body with
    | .eventStream entry receiver => some ⟨entry, receiver⟩
    | .text _ => none
  if response.contentType = some Http.Response.eventStreamType then
    match name, receiving? with
    | some name, _ =>
        let dropped := session.dropEventStream name
        { dropped with eventStreams := dropped.eventStreams.insert name receiving? }
    | none, some receiving => { session with holdings := session.holdings.letGo receiving }
    | none, none => session
  else session

/-- The next event of the event stream with a name. -/
def nextEvent? (session : Session) (name : String) : Option (Reply Session StreamItem) :=
  (session.eventStreams.find? name).bind fun
    | none => some ⟨.ended, session, []⟩
    | some receiving =>
        (session.holdings.nextOfEnd? receiving).map fun reply =>
          ⟨reply.answer, { session with holdings := reply.state }, reply.events⟩

/-- Begins a tick, during which no other tick can begin. -/
def beginTick? (session : Session) (entry : Nat) : Option (OptionSet × Session) :=
  if session.inTick || session.registry.isCancelled entry then none
  else
    (session.registry.beginTick? entry).map fun (options, registry) =>
      (options, { session.withRegistry registry with inTick := true })

/-- Ends the tick that was begun. -/
def endTick (session : Session) (entry : Nat) (options : OptionSet) : Reply Session Bool :=
  let ended := session.registry.endTick entry options
  ⟨ended.answer, { session.withRegistry ended.state with inTick := false }, ended.events⟩

end Session

end ConsoleFeed
