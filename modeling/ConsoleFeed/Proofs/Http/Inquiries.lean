import ConsoleFeed.Proofs.Http.Addresses

/-!
# What requests ask for

A request that the service takes asks for one of six things: the list of the consoles, a snapshot of
one, a look at one, an event stream on one, other options for one, or the end of one. `Asks` says
which requests ask for what: which method, which path, and which body. A request for options carries
an object within the limit, and it is declared to be one.

What the service does about such a request is a matter of the inquiry alone (`handle_of_asks`):
nothing else that the request carries is looked at, and if the method is `HEAD` the response is
the same one without its content.
-/

namespace ConsoleFeed.Http

/-- What a request asks for. A snapshot, a look and a stream come with options for the case that
there are none yet. -/
inductive Inquiry where
  | list
  | snapshot (key : String) (given : OptionSet)
  | peek (key : String) (given : OptionSet)
  | stream (key : String) (given : OptionSet)
  | update (key : String) (options : OptionSet)
  | remove (key : String)

namespace Request

variable (request : Request)

/-- The request reads, and may do without the content of the response. -/
def IsRead : Prop :=
  request.method = "GET" ∨ request.method = "HEAD"

/-- The request is for a resource of the console with a key. -/
def IsFor (resource : Resource) (key : String) : Prop :=
  ∃ segment, Names segment key ∧
    request.target.path = "/consoles/" ++ segment ++ resource.ending

/-- The options that the query of the request gives. -/
def given : OptionSet :=
  Query.options (request.target.query.getD "")

/-- The body of the request is an object of options, and is declared to be one. -/
structure Carries (options : OptionSet) : Prop where
  declared : request.contentType.any MediaType.declaresDocument = true
  fits : request.body.length ≤ Service.bodyLimit
  object : ∃ text, Utf8.decode? request.body = some text ∧ Document.readMap text = .ok options

/-- The request asks for this. -/
inductive Asks : Inquiry → Prop where
  | list (isRead : request.IsRead) (path : request.target.path = "/consoles") : Asks .list
  | snapshot {key : String} (isRead : request.IsRead) (isFor : request.IsFor .snapshot key) :
      Asks (.snapshot key request.given)
  | peek {key : String} (isRead : request.IsRead) (isFor : request.IsFor .peek key) :
      Asks (.peek key request.given)
  | stream {key : String} (isRead : request.IsRead) (isFor : request.IsFor .stream key) :
      Asks (.stream key request.given)
  | update {key : String} {options : OptionSet} (method : request.method = "PUT")
      (isFor : request.IsFor .options key) (carries : request.Carries options) :
      Asks (.update key options)
  | remove {key : String} (method : request.method = "DELETE")
      (isFor : request.IsFor .snapshot key) : Asks (.remove key)

end Request

/-- What the service does about an inquiry. -/
def Inquiry.served (registry : Registry) (task : String) (refusal : Option StartRefusal) :
    Inquiry → Reply Registry Response
  | .list => Service.list registry
  | .snapshot key given => Service.snapshot registry task refusal key given
  | .peek key given => Service.peek registry task key given
  | .stream key given => Service.stream registry refusal key given
  | .update key options =>
      let updated := registry.updateOptions key options
      ⟨.presence updated.answer, updated.state, updated.events⟩
  | .remove key => Service.deactivate registry key

section Serving

variable {request : Request}

theorem readOptions_of_carries {options : OptionSet} (carries : request.Carries options) :
    Service.readOptions request.contentType request.body = .ok options := by
  rcases carries.object with ⟨text, decoded, read⟩
  have fits := Nat.not_lt.mpr carries.fits
  simp [Service.readOptions, carries.declared, fits, Utf8.decodeLeading, decoded, read]

theorem ofPath?_of_isFor {resource : Resource} {key : String}
    (isFor : request.IsFor resource key) :
    ∃ segment, Percent.decodeSegment? segment = some key ∧
      Route.ofPath? request.target.path = some (.console segment resource) := by
  rcases isFor with ⟨segment, names, path⟩
  refine ⟨segment, names.decoded, ?_⟩
  rw [path]
  exact Route.ofPath?_ending names resource

/-- A request gets what it asks for, without the content if it asks for none. -/
theorem handle_of_asks {inquiry : Inquiry} (asks : request.Asks inquiry) (registry : Registry)
    (task : String) (refusal : Option StartRefusal) :
    Service.handle registry task refusal request =
      if request.method == "HEAD" then
        Service.withoutContent (inquiry.served registry task refusal)
      else inquiry.served registry task refusal := by
  cases asks with
  | list isRead path =>
      have route : Route.ofPath? "/consoles" = some .consoles := by rfl
      rcases isRead with method | method <;>
        simp [Service.handle, Inquiry.served, path, route, method]
  | snapshot isRead isFor | peek isRead isFor | stream isRead isFor =>
      rcases ofPath?_of_isFor isFor with ⟨segment, decoded, route⟩
      rcases isRead with method | method <;>
        simp [Service.handle, Service.onConsole, Inquiry.served, Request.given, route, decoded,
          method]
  | update method isFor carries =>
      rcases ofPath?_of_isFor isFor with ⟨segment, decoded, route⟩
      have options := readOptions_of_carries carries
      simp [Service.handle, Service.onConsole, Service.update, Inquiry.served, route, decoded,
        method, options]
  | remove method isFor =>
      rcases ofPath?_of_isFor isFor with ⟨segment, decoded, route⟩
      simp [Service.handle, Service.onConsole, Inquiry.served, route, decoded, method]

end Serving

end ConsoleFeed.Http
