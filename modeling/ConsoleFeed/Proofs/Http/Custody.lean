import ConsoleFeed.Http.Service
import ConsoleFeed.Proofs.Registry.Custody

/-!
# What a request puts in hands

A request uses the registry. Most requests leave nothing in anyone's hands. A response with an event
stream carries a receiver that has joined the console's channel; the stream handle that it was made
from is used up. If the response is to have no content, the receiver has left again.

What holds of whatever the service can do for a request holds of its answer (`handle_cases`), so
that a property of answers is looked at once for each of these things.
-/

namespace ConsoleFeed.Http

open Registry (Custody Held)

section Answering

variable {registry : Registry} {task : String} {refusal : Option StartRefusal} {request : Request}
  {motive : Reply Registry Response → Prop}

theorem onConsole_cases (resource : Resource) (segment : String)
    (refused : ∀ status, motive ⟨.bare status, registry, []⟩)
    (snapshot : ∀ key options, motive (Service.snapshot registry task refusal key options))
    (peek : ∀ key options, motive (Service.peek registry task key options))
    (stream : ∀ key options, motive (Service.stream registry refusal key options))
    (update : ∀ key, motive (Service.update registry key request))
    (deactivate : ∀ key, motive (Service.deactivate registry key)) :
    motive (Service.onConsole registry task refusal request resource segment) := by
  unfold Service.onConsole
  apply iteInduction
  · intro _
    exact refused 405
  · intro _
    cases Percent.decodeSegment? segment with
    | none => exact refused 400
    | some key =>
        cases resource with
        | snapshot =>
            apply iteInduction
            · intro _
              exact snapshot key _
            · intro _
              exact deactivate key
        | peek => exact peek key _
        | stream => exact stream key _
        | options => exact update key

/-- What holds of everything that the service can do for a request, with and without content, holds
of its answer. -/
theorem handle_cases (refused : ∀ status, motive ⟨.bare status, registry, []⟩)
    (list : motive (Service.list registry))
    (snapshot : ∀ key options, motive (Service.snapshot registry task refusal key options))
    (peek : ∀ key options, motive (Service.peek registry task key options))
    (stream : ∀ key options, motive (Service.stream registry refusal key options))
    (update : ∀ key, motive (Service.update registry key request))
    (deactivate : ∀ key, motive (Service.deactivate registry key))
    (withoutContent : ∀ reply, motive reply → motive (Service.withoutContent reply)) :
    motive (Service.handle registry task refusal request) := by
  have trimmed : ∀ (head : Bool) reply, motive reply →
      motive (if head then Service.withoutContent reply else reply) := by
    intro head reply whole
    cases head with
    | true => exact withoutContent reply whole
    | false => exact whole
  unfold Service.handle
  apply trimmed
  split
  · exact refused 404
  · apply iteInduction
    · intro _
      exact list
    · intro _
      exact refused 405
  · exact onConsole_cases _ _ refused snapshot peek stream update deactivate

end Answering

/-- A registry in which something is held has been used for a response; afterwards it agrees with
what was held, and with the receiver of an event stream besides. -/
structure Served (registry : Registry) (custody : Custody) (reply : Reply Registry Response) :
    Prop where
  reaches : registry.Reaches reply.state
  held : match reply.answer.body with
    | .text _ => reply.state.Held custody
    | .eventStream entry receiver =>
        reply.answer.contentType = some Response.eventStreamType ∧
          reply.state.Held ⟨custody.handles, custody.streams, ⟨entry, receiver⟩ :: custody.ends⟩

section Serving

variable {registry : Registry} {custody : Custody}

/-- What the registry does with the channel of an entry is an act on the entry. -/
theorem onChannel_eq_onEntry {Answer : Type} {entry : Nat} {channel : Channel}
    (present : registry.channel? entry = some channel)
    (act : Channel.EndAct) {operation : Channel → Answer × Channel}
    (same : ∀ publisherHeld, (channel.act publisherHeld act).state = (operation channel).2) :
    registry.onChannel entry operation =
      some ((operation channel).1, (registry.onEntry entry (.channel act)).state) := by
  rcases Option.map_eq_some_iff.mp present with ⟨subscription, found, rfl⟩
  simp only [Registry.onChannel, found, Option.map_some, Registry.onEntry, Registry.actOn, same,
    ChannelHost.withChannel]

/-- A response with a text, to something that was done under a key. -/
theorem served_onKey (held : registry.Held custody) (key : String) (act : Registry.KeyAct)
    (closed : ∀ options refusal, act ≠ .getStream options refusal) (status : Nat)
    (contentType : Option String) (content : String) (events : List Event) :
    Served registry custody
      ⟨⟨status, contentType, .text content⟩, (registry.onKey key act).state, events⟩ :=
  ⟨registry.reaches_onKey key act, held.onKey key act closed⟩

theorem served_refusal (held : registry.Held custody) (status : Nat) (events : List Event) :
    Served registry custody ⟨.bare status, registry, events⟩ :=
  ⟨.refl registry, held⟩

theorem served_stream (held : registry.Held custody) (refusal : Option StartRefusal)
    (key : String) (options : OptionSet) :
    Served registry custody (Service.stream registry refusal key options) := by
  rcases custody with ⟨handles, streams, ends⟩
  have reaches := registry.reaches_onKey key (.getStream options refusal)
  cases asked : (registry.getStream key options refusal).answer with
  | error failure =>
      have told : (registry.onKey key (.getStream options refusal)).answer =
          .said (.unscheduled failure) := by
        simp only [Registry.onKey, asked, Registry.Yield.ofEntry]
      simp only [Service.stream, asked]
      exact ⟨reaches, held.said told⟩
  | ok entry =>
      have answer : (registry.onKey key (.getStream options refusal)).answer = .entry entry := by
        simp only [Registry.onKey, asked, Registry.Yield.ofEntry]
      have stream := held.getStream answer
      rcases Registry.channel?_of_lt (stream.inUse entry (Or.inr List.mem_cons_self)) with
        ⟨channel, present⟩
      have turned : (registry.getStream key options refusal).state.onChannel entry
          Channel.intoReceiver = _ := onChannel_eq_onEntry present .intoReceiver fun _ => rfl
      simp only [Service.stream, asked, turned]
      exact ⟨reaches.trans (Registry.reaches_onEntry _ entry (.channel .intoReceiver)), rfl,
        (stream.intoReceiver present).2⟩

/-- A body that is no object of options is refused without content. -/
theorem readOptions_refusal {contentType : Option String} {body : List UInt8}
    {response : Response} (refused : Service.readOptions contentType body = .error response) :
    ∃ status, response = .bare status := by
  simp only [Service.readOptions] at refused
  split at refused
  · cases refused
    exact ⟨_, rfl⟩
  · split at refused
    · cases refused
      exact ⟨_, rfl⟩
    · split at refused
      · split at refused <;> cases refused
        exact ⟨_, rfl⟩
      · cases refused
        exact ⟨_, rfl⟩
      · cases refused
        exact ⟨_, rfl⟩

theorem served_update (held : registry.Held custody) (key : String) (request : Request) :
    Served registry custody (Service.update registry key request) := by
  simp only [Service.update]
  cases read : Service.readOptions request.contentType request.body with
  | error response =>
      rcases readOptions_refusal read with ⟨status, rfl⟩
      exact served_refusal held status []
  | ok options => exact served_onKey held key (.updateOptions options) (by simp) _ _ _ _

theorem served_snapshot (held : registry.Held custody) (task : String)
    (refusal : Option StartRefusal) (key : String) (options : OptionSet) :
    Served registry custody (Service.snapshot registry task refusal key options) := by
  simp only [Service.snapshot]
  split <;> exact served_onKey held key (.getSnapshot options refusal) (by simp) _ _ _ _

theorem served_peek (held : registry.Held custody) (task : String) (key : String)
    (options : OptionSet) : Served registry custody (Service.peek registry task key options) := by
  simp only [Service.peek]
  split <;> exact served_onKey held key (.peekSnapshot options) (by simp) _ _ _ _

theorem Served.withoutContent {reply : Reply Registry Response}
    (served : Served registry custody reply) :
    Served registry custody (Service.withoutContent reply) := by
  rcases reply with ⟨⟨status, contentType, body⟩, state, events⟩
  cases body with
  | text content => exact ⟨served.reaches, served.held⟩
  | eventStream entry receiver =>
      rcases served with ⟨reaches, _, joined⟩
      rcases joined.listening _ List.mem_cons_self with ⟨channel, inbox, present, _⟩
      have left : state.onChannel entry (fun channel => ((), channel.unsubscribe receiver)) = _ :=
        onChannel_eq_onEntry present (.leave receiver) fun _ => rfl
      simp only [Service.withoutContent, left]
      exact ⟨reaches.trans (state.reaches_onEntry entry (.channel (.leave receiver))), joined.leave⟩

/-- A request uses the registry and leaves it in agreement with what is held. -/
theorem served_handle (held : registry.Held custody) (task : String)
    (refusal : Option StartRefusal) (request : Request) :
    Served registry custody (Service.handle registry task refusal request) := by
  apply handle_cases
  · intro status
    exact served_refusal held status []
  · exact ⟨.refl registry, held⟩
  · exact served_snapshot held task refusal
  · exact served_peek held task
  · exact served_stream held refusal
  · intro key
    exact served_update held key request
  · intro key
    exact served_onKey held key .deactivate (by simp) _ _ _ _
  · intro reply served
    exact served.withoutContent

end Serving

end ConsoleFeed.Http
