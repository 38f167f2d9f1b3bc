import ConsoleFeed.Document.Reader
import ConsoleFeed.Http.EventStream
import ConsoleFeed.Http.MediaType
import ConsoleFeed.Http.Query
import ConsoleFeed.Registry.Snapshots

/-!
# The HTTP service

The service gives access to a registry over HTTP. Consoles are listed, read, streamed, given other
options and deactivated; a console's key is one segment of the path. This file finds the route of a
request, does what it asks for, and says the response.

A request is refused before anything is done if no route has its path, if the route does not take
its method, if the segment of the key is no text, or if a body that should be an object of options
is not one. So a response below 500 that is no success leaves the registry as it was.
-/

namespace ConsoleFeed.Http

/-- A request. -/
structure Request where
  method : String
  target : Target
  contentType : Option String
  body : List UInt8

namespace Request

/-- Whether a text can be a method: one token. -/
def isMethod (method : String) : Bool :=
  !method.isEmpty && method.toList.all MediaType.inToken

/-- The request with a method, a target, a declared media type and a body, if it can be made at all.
-/
def make? (method target : String) (contentType : Option String) (body : List UInt8) :
    Option Request :=
  (Target.read? target).bind fun target =>
    if isMethod method && contentType.all MediaType.isHeaderValue then
      some ⟨method, target, contentType, body⟩
    else none

end Request

/-- What a console is asked for. -/
inductive Resource where
  | snapshot
  | peek
  | stream
  | options
deriving DecidableEq

/-- The place that a path leads to. -/
inductive Route where
  | consoles
  | console (segment : String) (resource : Resource)
deriving DecidableEq

namespace Route

/-- The route of a path. The segment of a console may be empty only if something follows it. -/
def ofPath? (path : String) : Option Route :=
  match Pieces.split '/' path.toList with
  | [[], ['c', 'o', 'n', 's', 'o', 'l', 'e', 's']] => some .consoles
  | [[], ['c', 'o', 'n', 's', 'o', 'l', 'e', 's'], segment] =>
      if segment.isEmpty then none else some (.console (String.ofList segment) .snapshot)
  | [[], ['c', 'o', 'n', 's', 'o', 'l', 'e', 's'], segment, ['p', 'e', 'e', 'k']] =>
      some (.console (String.ofList segment) .peek)
  | [[], ['c', 'o', 'n', 's', 'o', 'l', 'e', 's'], segment, ['s', 't', 'r', 'e', 'a', 'm']] =>
      some (.console (String.ofList segment) .stream)
  | [[], ['c', 'o', 'n', 's', 'o', 'l', 'e', 's'], segment, ['o', 'p', 't', 'i', 'o', 'n', 's']] =>
      some (.console (String.ofList segment) .options)
  | _ => none

end Route

/-- A failure inside of the service. -/
inductive ServiceError where
  | unscheduled (failure : SchedulingFailure)
  | internalFault (message : String)

namespace ServiceError

/-- What the error says. -/
def message : ServiceError → String
  | .unscheduled failure => failure.message
  | .internalFault message => "Internal error: " ++ message

/-- The inner form of the error. -/
def inner : ServiceError → String
  | .unscheduled failure => "Streamer(" ++ failure.inner ++ ")"
  | .internalFault message => "Internal(" ++ Visible.quoted message ++ ")"

/-- The code by which clients tell errors apart. -/
def code : ServiceError → String
  | .unscheduled _ => "SCHEDULER_UNAVAILABLE"
  | .internalFault _ => "INTERNAL_ERROR"

/-- The body of the response. -/
def body (error : ServiceError) : String :=
  (Document.object [("code", .text error.code), ("error", .text error.message)]).compact

/-- What is logged about the error. -/
def event (error : ServiceError) : Event := .requestFailed error.code error.message

/-- The error of a request whose work was ended by a panic; `task` names the piece of work. -/
def ofPanic (task : String) (panic : LookupPanic) : ServiceError :=
  .internalFault ("task " ++ task ++ " panicked with message " ++ Visible.quoted panic.message)

end ServiceError

/-- What a response carries. -/
inductive Body where
  | text (content : String)
  | eventStream (entry receiver : Nat)
deriving DecidableEq

/-- A response. -/
structure Response where
  status : Nat
  contentType : Option String
  body : Body
deriving DecidableEq

namespace Response

/-- The media type of documents. -/
def documentType : String := "application/json"

/-- The media type of event streams. -/
def eventStreamType : String := "text/event-stream"

/-- A response with the text of a document. -/
def ofDocument (text : String) : Response := ⟨200, some documentType, .text text⟩

/-- A response that is its status alone: what was done needs no content, or the request is refused.
-/
def bare (status : Nat) : Response := ⟨status, none, .text ""⟩

/-- The response that says whether there was something to act on. -/
def presence (present : Bool) : Response := bare (if present then 204 else 404)

/-- The response to a failure inside of the service. -/
def ofError (error : ServiceError) : Response := ⟨500, some documentType, .text error.body⟩

end Response

namespace Service

/-- The most bytes that a body may have. -/
def bodyLimit : Nat := 2097152

/-- The answer to a request that failed inside of the service. -/
def failed (registry : Registry) (error : ServiceError) (earlier : List Event) :
    Reply Registry Response :=
  ⟨.ofError error, registry, earlier ++ [error.event]⟩

/-- Reads a body that should be an object of options; what it is refused with otherwise. -/
def readOptions (contentType : Option String) (body : List UInt8) : Except Response OptionSet :=
  if !contentType.any MediaType.declaresDocument then .error (.bare 415)
  else if bodyLimit < body.length then .error (.bare 413)
  else
    let (text, isWhole) := Utf8.decodeLeading body
    match Document.readMap text with
    | .ok options => if isWhole then .ok options else .error (.bare 400)
    | .error .notAnObject => .error (.bare 422)
    | .error _ => .error (.bare 400)

/-- Lists the consoles. -/
def list (registry : Registry) : Reply Registry Response :=
  ⟨.ofDocument (Document.array (registry.activeKeys.map .text)).compact, registry, []⟩

/-- Takes a snapshot of a console. -/
def snapshot (registry : Registry) (task : String) (refusal : Option StartRefusal) (key : String)
    (options : OptionSet) : Reply Registry Response :=
  let taken := registry.getSnapshot key options refusal
  match taken.answer with
  | .ok text => ⟨.ofDocument text, taken.state, taken.events⟩
  | .error (.unscheduled failure) => failed taken.state (.unscheduled failure) taken.events
  | .error (.panicked panic) => failed taken.state (.ofPanic task panic) taken.events

/-- Takes a snapshot of a console without registering it. -/
def peek (registry : Registry) (task : String) (key : String) (options : OptionSet) :
    Reply Registry Response :=
  let taken := registry.peekSnapshot key options
  match taken.answer with
  | .ok text => ⟨.ofDocument text, taken.state, taken.events⟩
  | .error panic => failed taken.state (.ofPanic task panic) taken.events

/-- Opens an event stream on a console. -/
def stream (registry : Registry) (refusal : Option StartRefusal) (key : String)
    (options : OptionSet) : Reply Registry Response :=
  let opened := registry.getStream key options refusal
  match opened.answer with
  | .error failure => failed opened.state (.unscheduled failure) opened.events
  | .ok entry =>
      match opened.state.onChannel entry Channel.intoReceiver with
      | none => ⟨.bare 500, opened.state, opened.events⟩
      | some (receiver, state) =>
          ⟨⟨200, some Response.eventStreamType, .eventStream entry receiver⟩, state,
            opened.events ++ [.eventStreamOpened key]⟩

/-- Gives a console other options. -/
def update (registry : Registry) (key : String) (request : Request) : Reply Registry Response :=
  match readOptions request.contentType request.body with
  | .error response => ⟨response, registry, []⟩
  | .ok options =>
      let updated := registry.updateOptions key options
      ⟨.presence updated.answer, updated.state, updated.events⟩

/-- Deactivates a console. -/
def deactivate (registry : Registry) (key : String) : Reply Registry Response :=
  let removed := registry.deactivate key
  ⟨.presence removed.answer, removed.state, removed.events⟩

/-- Does what a request to a console asks for. A method is told apart only on its route. -/
def onConsole (registry : Registry) (task : String) (refusal : Option StartRefusal)
    (request : Request) (resource : Resource) (segment : String) : Reply Registry Response :=
  let isRead := request.method == "GET" || request.method == "HEAD"
  let allowed := match resource with
    | .snapshot => isRead || request.method == "DELETE"
    | .options => request.method == "PUT"
    | _ => isRead
  if !allowed then ⟨.bare 405, registry, []⟩
  else
    match Percent.decodeSegment? segment with
    | none => ⟨.bare 400, registry, []⟩
    | some key =>
        let options := Query.options (request.target.query.getD "")
        match resource with
        | .snapshot =>
            if isRead then snapshot registry task refusal key options else deactivate registry key
        | .peek => peek registry task key options
        | .stream => stream registry refusal key options
        | .options => update registry key request

/-- Takes the content away from the response to a request that asks for none; an event stream is not
read then. -/
def withoutContent (reply : Reply Registry Response) : Reply Registry Response :=
  match reply.answer.body with
  | .text _ => { reply with answer := { reply.answer with body := .text "" } }
  | .eventStream entry receiver =>
      let closed :=
        (reply.state.onChannel entry fun channel => ((), channel.unsubscribe receiver)).map Prod.snd
      { reply with
        answer := { reply.answer with body := .text "" }
        state := closed.getD reply.state }

/-- Answers a request. `task` names the piece of work that it is given to, and `refusal` is the
system's reason not to give what a new loop needs, if it has one. -/
def handle (registry : Registry) (task : String) (refusal : Option StartRefusal)
    (request : Request) : Reply Registry Response :=
  let reply := match Route.ofPath? request.target.path with
    | none => ⟨.bare 404, registry, []⟩
    | some .consoles =>
        if request.method == "GET" || request.method == "HEAD" then list registry
        else ⟨.bare 405, registry, []⟩
    | some (.console segment resource) =>
        onConsole registry task refusal request resource segment
  if request.method == "HEAD" then withoutContent reply else reply

end Service

end ConsoleFeed.Http
