import ConsoleFeed.Proofs.Document.Printing
import ConsoleFeed.Proofs.Http.Custody
import ConsoleFeed.Proofs.Http.Inquiries
import ConsoleFeed.Proofs.Registry.FailedCreation
import ConsoleFeed.Session

/-!
# Refusals

A request is refused if its response has a status from 400 to 499, or if it is the response for a
thread that the system did not give. A request that is refused has changed nothing, whatever is
wrong with it and whatever state the registry is in: entries that were cancelled through a handle
but are still in the table are no exception.

Each handler either answers before it has done anything or gives a response that is no refusal. The
response to a panic has the status of one for a thread refused, so the two are told apart by the
code in the body, which has to be read back for it. A response to `HEAD` has no body; there the log
tells them apart.
-/

namespace ConsoleFeed.Http

/-- The body is a document that tells a code. -/
def Body.TellsCode (body : Body) (code : String) : Prop :=
  ∃ text document, body = .text text ∧ Document.read text = .ok document ∧
    document.member? "code" = some (.text code)

/-- A failure with a code is logged. -/
def LogsCode (events : List Event) (code : String) : Prop :=
  ∃ message, .requestFailed code message ∈ events

/-- The request is refused. -/
inductive Refused (reply : Reply Registry Response) : Prop
  | client (lower : 400 ≤ reply.answer.status) (upper : reply.answer.status < 500)
  | unscheduled (status : reply.answer.status = 500)
      (code : reply.answer.body.TellsCode "SCHEDULER_UNAVAILABLE" ∨
        LogsCode reply.events "SCHEDULER_UNAVAILABLE")

section Codes

theorem not_tellsCode_empty (code : String) : ¬ Body.TellsCode (.text "") code := by
  rintro ⟨text, document, same, read, -⟩
  cases same
  have malformed : Document.read "" = .error .malformed := by rfl
  rw [malformed] at read
  cases read

/-- What the body of an error is read as. -/
def ServiceError.told (error : ServiceError) : KeyMap String :=
  ⟨[("code", error.code), ("error", error.message)], by
    apply List.pairwise_pair.mpr
    dsimp only
    decide⟩

theorem read_body (error : ServiceError) :
    Document.read error.body = .ok (.object (error.told.mapValues .text).entries) :=
  Document.read_of_isText (Document.isText_compact_object error.told)

/-- The body of an error tells the error's code and no other. -/
theorem tellsCode_body_iff (error : ServiceError) (code : String) :
    Body.TellsCode (.text error.body) code ↔ code = error.code := by
  constructor
  · rintro ⟨text, document, same, read, member⟩
    cases same
    rw [read_body] at read
    cases read
    have found : some (Document.text error.code) = some (.text code) := member
    cases found
    rfl
  · rintro rfl
    exact ⟨_, _, rfl, read_body error, rfl⟩

/-- The response for a loop that could not be started is a refusal. -/
theorem refused_unscheduled (registry : Registry) (failure : SchedulingFailure)
    (events : List Event) : Refused (Service.failed registry (.unscheduled failure) events) :=
  .unscheduled rfl (.inl ((tellsCode_body_iff (.unscheduled failure) _).mpr rfl))

end Codes

section Handlers

variable {registry : Registry}

/-- If the request is refused then the registry is as it was, and there is no event stream. -/
structure Spares (registry : Registry) (reply : Reply Registry Response) : Prop where
  unchanged : Refused reply → reply.state = registry
  closed : Refused reply → reply.answer.contentType ≠ some Response.eventStreamType ∧
    ∃ text, reply.answer.body = .text text

theorem spares_of_unchanged {reply : Reply Registry Response} (unchanged : reply.state = registry)
    (contentType : reply.answer.contentType ≠ some Response.eventStreamType) (text : String)
    (body : reply.answer.body = .text text) : Spares registry reply :=
  ⟨fun _ => unchanged, fun _ => ⟨contentType, text, body⟩⟩

theorem spares_of_success {reply : Reply Registry Response} (success : reply.answer.status < 300) :
    Spares registry reply := by
  have taken : ¬ Refused reply := by
    rintro (lower | status)
    · omega
    · omega
  exact ⟨fun refused => absurd refused taken, fun refused => absurd refused taken⟩

/-- The registry's own events are none of the service's. -/
def Inner (events : List Event) : Prop :=
  ∀ code, ¬ LogsCode events code

theorem Inner.append {first second : List Event} (firstInner : Inner first)
    (secondInner : Inner second) : Inner (first ++ second) := by
  rintro code ⟨message, member⟩
  rcases List.mem_append.mp member with here | there
  · exact firstInner code ⟨message, here⟩
  · exact secondInner code ⟨message, there⟩

theorem inner_getOrCreate (registry : Registry) (key : String) (options : OptionSet)
    (refusal : Option StartRefusal) : Inner (registry.getOrCreate key options refusal).events := by
  intro code
  simp only [Registry.getOrCreate, Registry.findOrMake]
  cases registry.get? key with
  | some found => simp [LogsCode]
  | none =>
      rcases refusal with _ | (_ | _) <;>
        simp [LogsCode, Registry.schedule, StartRefusal.event]

theorem inner_takeSnapshot (directory : Directory) (key : String) (options : OptionSet) :
    Inner (directory.takeSnapshot key options).events := by
  have lookedUp : Inner (directory.trySnapshot key options).events := by
    intro code
    simp only [Directory.trySnapshot]
    split <;> simp [LogsCode]
  simp only [Directory.takeSnapshot]
  split
  · exact lookedUp
  · apply lookedUp.append
    rename_i snapshot _
    intro code
    rcases snapshot with _ | _ | _ <;> simp [LogsCode, Directory.snapshotEvent]

theorem inner_takeSnapshotOf (registry : Registry) (number : Nat) :
    Inner (registry.takeSnapshotOf number).events :=
  inner_takeSnapshot registry.directory _ _

theorem inner_getSnapshot (registry : Registry) (key : String) (options : OptionSet)
    (refusal : Option StartRefusal) : Inner (registry.getSnapshot key options refusal).events := by
  have made := inner_getOrCreate registry key options refusal
  simp only [Registry.getSnapshot]
  split
  · exact made
  · exact made.append (inner_takeSnapshotOf _ _)

theorem inner_getStream (registry : Registry) (key : String) (options : OptionSet)
    (refusal : Option StartRefusal) : Inner (registry.getStream key options refusal).events := by
  have made := inner_getOrCreate registry key options refusal
  simp only [Registry.getStream]
  split <;> exact made

theorem inner_peekSnapshot (registry : Registry) (key : String) (options : OptionSet) :
    Inner (registry.peekSnapshot key options).events := by
  simp only [Registry.peekSnapshot]
  split
  · exact inner_takeSnapshotOf registry _
  · exact inner_takeSnapshot registry.directory key options

/-- A failure that is not about a thread is no refusal. -/
theorem spares_failed_internal (state : Registry) (message : String) {events : List Event}
    (inner : Inner events) :
    Spares registry (Service.failed state (.internalFault message) events) := by
  have taken : ¬ Refused (Service.failed state (.internalFault message) events) := by
    rintro (⟨-, upper⟩ | ⟨-, told | ⟨text, member⟩⟩)
    · exact absurd upper (by decide : ¬ 500 < 500)
    · have same : "SCHEDULER_UNAVAILABLE" = "INTERNAL_ERROR" :=
        (tellsCode_body_iff (.internalFault message) _).mp told
      exact absurd same (by decide)
    · rcases List.mem_append.mp member with earlier | last
      · exact inner _ ⟨text, earlier⟩
      · simp [ServiceError.event, ServiceError.code] at last
  exact ⟨fun refused => absurd refused taken, fun refused => absurd refused taken⟩

theorem spares_failed_unchanged (error : ServiceError) (events : List Event) :
    Spares registry (Service.failed registry error events) :=
  spares_of_unchanged rfl (by decide : some Response.documentType ≠ some Response.eventStreamType)
    error.body rfl

theorem spares_bare (status : Nat) (events : List Event) :
    Spares registry ⟨.bare status, registry, events⟩ :=
  spares_of_unchanged rfl nofun "" rfl

/-- Neither is a failure that has no code. -/
theorem spares_bare_internal (state : Registry) {events : List Event} (inner : Inner events) :
    Spares registry ⟨.bare 500, state, events⟩ := by
  have taken : ¬ Refused (⟨.bare 500, state, events⟩ : Reply Registry Response) := by
    rintro (⟨-, upper⟩ | ⟨-, told | logged⟩)
    · exact absurd upper (by decide : ¬ 500 < 500)
    · exact not_tellsCode_empty _ told
    · exact inner _ logged
  exact ⟨fun refused => absurd refused taken, fun refused => absurd refused taken⟩

theorem spares_snapshot (registry : Registry) (task : String) (refusal : Option StartRefusal)
    (key : String) (options : OptionSet) :
    Spares registry (Service.snapshot registry task refusal key options) := by
  have inner := inner_getSnapshot registry key options refusal
  simp only [Service.snapshot]
  split
  · exact spares_of_success (by decide : 200 < 300)
  · rename_i failure answer
    have failed : (registry.perform (.getSnapshot key options refusal)).answer =
        .failed failure := by
      simp only [Registry.perform, answer, Registry.snapshotAnswer]
    rcases Registry.perform_failed failed with ⟨_, _, _, _, whole⟩
    have same : (registry.getSnapshot key options refusal).state = registry :=
      congrArg Reply.state whole
    rw [same]
    exact spares_failed_unchanged _ _
  · exact spares_failed_internal _ _ inner

theorem spares_peek (registry : Registry) (task : String) (key : String) (options : OptionSet) :
    Spares registry (Service.peek registry task key options) := by
  have inner := inner_peekSnapshot registry key options
  simp only [Service.peek]
  split
  · exact spares_of_success (by decide : 200 < 300)
  · exact spares_failed_internal _ _ inner

theorem spares_stream (registry : Registry) (refusal : Option StartRefusal) (key : String)
    (options : OptionSet) : Spares registry (Service.stream registry refusal key options) := by
  simp only [Service.stream]
  split
  · rename_i failure answer
    have failed : (registry.perform (.getStream key options refusal)).answer =
        .failed failure := by
      simp only [Registry.perform, answer, Registry.entryAnswer]
    rcases Registry.perform_failed failed with ⟨_, _, _, _, whole⟩
    have same : (registry.getStream key options refusal).state = registry :=
      congrArg Reply.state whole
    rw [same]
    exact spares_failed_unchanged _ _
  · split
    · exact spares_bare_internal _ (inner_getStream registry key options refusal)
    · exact spares_of_success (by decide : 200 < 300)

theorem spares_update (registry : Registry) (key : String) (request : Request) :
    Spares registry (Service.update registry key request) := by
  simp only [Service.update]
  cases read : Service.readOptions request.contentType request.body with
  | error response =>
      rcases readOptions_refusal read with ⟨status, rfl⟩
      exact spares_bare status []
  | ok options =>
      cases found : registry.get? key with
      | none =>
          simp only [Registry.updateOptions, Registry.updateLive, found]
          exact spares_bare 404 _
      | some number =>
          simp only [Registry.updateOptions, Registry.updateLive, found]
          exact spares_of_success (by decide : 204 < 300)

theorem spares_deactivate (registry : Registry) (key : String) :
    Spares registry (Service.deactivate registry key) := by
  simp only [Service.deactivate, Registry.deactivate, Registry.remove]
  cases registry.table.find? key with
  | none => exact spares_bare 404 _
  | some number => exact spares_of_success (by decide : 204 < 300)

/-- Without its content the response refuses no more than with it. -/
theorem Refused.of_withoutContent {reply : Reply Registry Response}
    (refused : Refused (Service.withoutContent reply)) : Refused reply := by
  rcases reply with ⟨⟨status, contentType, body⟩, state, events⟩
  cases body with
  | text content =>
      rcases refused with ⟨lower, upper⟩ | ⟨same, told | logged⟩
      · exact .client lower upper
      · exact absurd told (not_tellsCode_empty _)
      · exact .unscheduled same (.inr logged)
  | eventStream entry receiver =>
      rcases refused with ⟨lower, upper⟩ | ⟨same, told | logged⟩
      · exact .client lower upper
      · exact absurd told (not_tellsCode_empty _)
      · exact .unscheduled same (.inr logged)

theorem Spares.withoutContent {reply : Reply Registry Response} (spares : Spares registry reply) :
    Spares registry (Service.withoutContent reply) := by
  have whole : ∀ refused : Refused (Service.withoutContent reply),
      Service.withoutContent reply =
        { reply with answer := { reply.answer with body := .text "" } } := by
    intro refused
    rcases (spares.closed refused.of_withoutContent).2 with ⟨text, body⟩
    simp only [Service.withoutContent, body]
  constructor
  · intro refused
    rw [whole refused]
    exact spares.unchanged refused.of_withoutContent
  · intro refused
    rw [whole refused]
    exact ⟨(spares.closed refused.of_withoutContent).1, "", rfl⟩

theorem spares_handle (registry : Registry) (task : String) (refusal : Option StartRefusal)
    (request : Request) : Spares registry (Service.handle registry task refusal request) := by
  apply handle_cases
  · intro status
    exact spares_bare status []
  · exact spares_of_success (by decide : 200 < 300)
  · exact spares_snapshot registry task refusal
  · exact spares_peek registry task
  · exact spares_stream registry refusal
  · intro key
    exact spares_update registry key request
  · exact spares_deactivate registry
  · intro reply spares
    exact spares.withoutContent

end Handlers

/-- A request that is refused changes nothing. Whatever the request is and whatever has been done to
the registry, the registry is afterwards what it was, with its table, its entries, their options and
their channels, and with the calls of every provider; and the session that keeps the event streams
of responses has nothing new to keep. -/
theorem refused_request_changes_nothing (session : Session) (task : String)
    (refusal : Option StartRefusal) (request : Request) (name : Option String) :
    let reply := Service.handle session.registry task refusal request
    Refused reply → reply.state = session.registry ∧
      (session.withRegistry reply.state).keepEventStream name reply.answer = session := by
  intro reply refused
  have spares := spares_handle session.registry task refusal request
  have same : reply.state = session.registry := spares.unchanged refused
  refine ⟨same, ?_⟩
  have closed : reply.answer.contentType ≠ some Response.eventStreamType :=
    (spares.closed refused).1
  simp only [Session.keepEventStream, if_neg closed, same]
  rfl

theorem refused_request_changes_nothing_of_cancelled :
    let empty := (Registry.create "streamer" .standard Directory.empty).state
    let entered := (empty.getOrCreate "console" KeyMap.empty none).state
    let session := Session.start (entered.cancel 0).state
    let path := "/consoles/" ++ Percent.encodeSegment "console"
    let put : Request := ⟨"PUT", ⟨path ++ Resource.options.ending, none⟩,
      some Response.documentType, Utf8.encode emptySnapshot⟩
    let get : Request := ⟨"GET", ⟨path ++ Resource.stream.ending, none⟩, none, []⟩
    let refusal : StartRefusal := .thread (.bare .wouldBlock)
    session.registry.table.find? "console" = some 0 ∧
      (Service.handle session.registry "1" none put).answer = .bare 404 ∧
      (Service.handle session.registry "1" none put).state = session.registry ∧
      (Service.handle session.registry "2" (some refusal) get).answer.status = 500 ∧
      (Service.handle session.registry "2" (some refusal) get).state =
        session.registry := by
  intro empty entered session path put get refusal
  have named : Names (Percent.encodeSegment "console") "console" := names_encodeSegment (by decide)
  have putAsks : put.Asks (.update "console" KeyMap.empty) :=
    .update rfl ⟨_, named, rfl⟩
      { declared := by decide
        fits := by decide
        object := ⟨emptySnapshot, Utf8.decode?_encode _, by rfl⟩ }
  have getAsks : get.Asks (.stream "console" get.given) := .stream (Or.inl rfl) ⟨_, named, rfl⟩
  have missed : (Service.handle session.registry "1" none put).answer = .bare 404 := by
    rw [handle_of_asks putAsks]
    rfl
  have failed : Service.handle session.registry "2" (some refusal) get =
      Service.failed session.registry (.unscheduled ⟨"console", .bare .wouldBlock⟩)
        (session.registry.failureEvents refusal ⟨"console", .bare .wouldBlock⟩) :=
    handle_of_asks getAsks session.registry "2" (some refusal)
  refine ⟨rfl, missed, ?_, ?_, ?_⟩
  · apply (refused_request_changes_nothing session "1" none put none _).1
    apply Refused.client <;> rw [missed] <;> decide
  · rw [failed]
    rfl
  · apply (refused_request_changes_nothing session "2" (some refusal) get none _).1
    rw [failed]
    exact refused_unscheduled session.registry _ _

end ConsoleFeed.Http
