import ConsoleFeed.Document.Basic

/-!
# Events

Everything that happens is logged as an event. An event is kept as what happened; its name, the part
it comes from, its level, its message and its fields follow from that, so that no two places can
word the same event differently.
-/

namespace ConsoleFeed

/-- How much an event matters. -/
inductive Level where
  | trace
  | debug
  | info
  | warn
  | error
deriving DecidableEq

/-- How a level is written. -/
def Level.text : Level → String
  | .trace => "TRACE"
  | .debug => "DEBUG"
  | .info => "INFO"
  | .warn => "WARN"
  | .error => "ERROR"

/-- Why a subscription was cancelled. -/
inductive CancelReason where
  | cancelled
  | handleDropped
deriving DecidableEq

/-- How a reason is written. -/
def CancelReason.text : CancelReason → String
  | .cancelled => "cancelled"
  | .handleDropped => "handle_dropped"

/-- Why a tick loop ended. -/
inductive StopReason where
  | stopSignal
  | cancelled
deriving DecidableEq

/-- How a reason is written. -/
def StopReason.text : StopReason → String
  | .stopSignal => "stop_signal"
  | .cancelled => "cancelled"

/-- Something that happened. -/
inductive Event where
  | streamerCreated (streamer : String) (intervalMs queueSize : Nat)
  | subscriptionReused (streamer key : String)
  | creationFailed (streamer key fault : String)
  | updateMissed (streamer key optionKeys : String)
  | deactivated (streamer key : String) (subscribers : Nat)
  | deactivationMissed (streamer key : String)
  | shutDown (streamer : String) (deactivated : Nat)
  | subscriptionCreated (key optionKeys : String)
  | optionsReplaced (key optionKeys : String)
  | subscriptionCancelled (key : String) (reason : CancelReason)
  | providerMissing (key : String)
  | snapshotProduced (key preview : String)
  | snapshotEmpty (key : String)
  | snapshotFailed (key fault : String)
  | tickPublished (key : String) (subscribers : Nat)
  | tickUnheard (key : String)
  | tickDiscarded (key : String)
  | tickerStarted (key : String) (periodMs : Nat)
  | tickerStopped (key : String) (reason : StopReason)
  | receiverLagged (missed : Nat)
  | providerRegistered (key : String)
  | providerReplaced (key : String)
  | providerUnregistered (key : String)
  | threadRequested
  | threadStarted
  | runtimeRefused (fault : String)
  | threadRefused (fault : String)
  | requestFailed (code fault : String)
  | eventStreamOpened (key : String)
deriving DecidableEq

namespace Event

/-- The name of the event. -/
def name : Event → String
  | .streamerCreated .. => "streamer_create"
  | .subscriptionReused .. => "subscription_reuse"
  | .creationFailed .. => "subscription_create_failed"
  | .updateMissed .. => "subscription_options_update_missing"
  | .deactivated .. => "subscription_deactivate"
  | .deactivationMissed .. => "subscription_deactivate_missing"
  | .shutDown .. => "registry_shutdown"
  | .subscriptionCreated .. => "subscription_create"
  | .optionsReplaced .. => "subscription_options_update"
  | .subscriptionCancelled .. => "subscription_cancel"
  | .providerMissing .. => "snapshot_provider_missing"
  | .snapshotProduced .. => "snapshot_ok"
  | .snapshotEmpty .. => "snapshot_empty"
  | .snapshotFailed .. => "snapshot_failed"
  | .tickPublished .. => "tick_publish"
  | .tickUnheard .. => "tick_no_subscribers"
  | .tickDiscarded .. => "tick_discarded_after_cancel"
  | .tickerStarted .. => "ticker_start"
  | .tickerStopped .. => "ticker_stop"
  | .receiverLagged .. => "stream_recv_lagged"
  | .providerRegistered .. => "provider_register"
  | .providerReplaced .. => "provider_replace"
  | .providerUnregistered .. => "provider_unregister"
  | .threadRequested => "runtime_spawn_start"
  | .threadStarted => "runtime_spawn_ok"
  | .runtimeRefused .. => "runtime_build_failed"
  | .threadRefused .. => "runtime_spawn_failed"
  | .requestFailed .. => "http_request_failed"
  | .eventStreamOpened .. => "http_stream_open"

/-- The part that the event comes from. -/
def component : Event → String
  | .streamerCreated .. | .subscriptionReused .. | .creationFailed .. | .updateMissed ..
  | .deactivated .. | .deactivationMissed .. | .shutDown .. => "console_streamer"
  | .subscriptionCreated .. | .optionsReplaced .. | .subscriptionCancelled .. => "subscription"
  | .providerMissing .. | .snapshotProduced .. | .snapshotEmpty .. | .snapshotFailed .. =>
      "snapshot_invocation"
  | .tickPublished .. | .tickUnheard .. | .tickDiscarded .. | .tickerStarted ..
  | .tickerStopped .. => "ticker"
  | .receiverLagged .. => "multicast"
  | .providerRegistered .. | .providerReplaced .. | .providerUnregistered .. => "provider_registry"
  | .threadRequested | .threadStarted | .runtimeRefused .. | .threadRefused .. => "tick_runtime"
  | .requestFailed .. | .eventStreamOpened .. => "http"

/-- How much the event matters. -/
def level : Event → Level
  | .streamerCreated .. | .shutDown .. | .tickerStarted .. | .tickerStopped .. => .info
  | .creationFailed .. | .receiverLagged .. | .runtimeRefused .. | .threadRefused .. => .warn
  | .requestFailed .. => .error
  | .providerMissing .. | .snapshotEmpty .. | .tickPublished .. | .tickUnheard .. => .trace
  | _ => .debug

/-- What the event says. -/
def message : Event → String
  | .streamerCreated .. => "console streamer created"
  | .subscriptionReused .. => "existing subscription reused"
  | .creationFailed .. => "unable to create subscription"
  | .updateMissed .. => "no subscription to update"
  | .deactivated .. => "subscription deactivated"
  | .deactivationMissed .. => "no subscription to deactivate"
  | .shutDown .. => "console streamer shut down"
  | .subscriptionCreated .. => "subscription created"
  | .optionsReplaced .. => "subscription options replaced"
  | .subscriptionCancelled .. => "subscription cancelled"
  | .providerMissing .. => "no provider registered for key"
  | .snapshotProduced .. => "snapshot produced"
  | .snapshotEmpty .. => "snapshot empty"
  | .snapshotFailed .. => "error calling snapshot provider"
  | .tickPublished .. => "payload published"
  | .tickUnheard .. => "no subscribers; payload dropped"
  | .tickDiscarded .. => "subscription cancelled during tick; payload discarded"
  | .tickerStarted .. => "ticker started"
  | .tickerStopped .. => "ticker stopped"
  | .receiverLagged .. => "subscriber lagged; oldest payloads dropped"
  | .providerRegistered .. | .providerReplaced .. => "provider registered"
  | .providerUnregistered .. => "provider unregistered"
  | .threadRequested => "spawning tick runtime"
  | .threadStarted => "tick runtime spawned"
  | .runtimeRefused .. => "unable to build tick runtime"
  | .threadRefused .. => "unable to spawn tick runtime thread"
  | .requestFailed .. => "request failed"
  | .eventStreamOpened .. => "server-sent event stream opened"

/-- The fields that the event has besides its name and its component. -/
def fields : Event → List (String × Document)
  | .streamerCreated streamer intervalMs queueSize =>
      [("streamer", .text streamer), ("update_interval_ms", .ofNat intervalMs),
        ("message_queue_size", .ofNat queueSize)]
  | .subscriptionReused streamer key => [("streamer", .text streamer), ("key", .text key)]
  | .creationFailed streamer key fault =>
      [("streamer", .text streamer), ("key", .text key), ("err", .text fault)]
  | .updateMissed streamer key optionKeys =>
      [("streamer", .text streamer), ("key", .text key), ("option_keys", .text optionKeys)]
  | .deactivated streamer key subscribers =>
      [("streamer", .text streamer), ("key", .text key), ("subscribers", .ofNat subscribers)]
  | .deactivationMissed streamer key => [("streamer", .text streamer), ("key", .text key)]
  | .shutDown streamer count =>
      [("streamer", .text streamer), ("deactivated", .ofNat count)]
  | .subscriptionCreated key optionKeys => [("key", .text key), ("option_keys", .text optionKeys)]
  | .optionsReplaced key optionKeys => [("key", .text key), ("option_keys", .text optionKeys)]
  | .subscriptionCancelled key reason => [("key", .text key), ("reason", .text reason.text)]
  | .providerMissing key => [("key", .text key)]
  | .snapshotProduced key preview => [("key", .text key), ("payload", .text preview)]
  | .snapshotEmpty key => [("key", .text key)]
  | .snapshotFailed key fault => [("key", .text key), ("err", .text fault)]
  | .tickPublished key subscribers => [("key", .text key), ("subscribers", .ofNat subscribers)]
  | .tickUnheard key => [("key", .text key)]
  | .tickDiscarded key => [("key", .text key)]
  | .tickerStarted key periodMs => [("key", .text key), ("period_ms", .ofNat periodMs)]
  | .tickerStopped key reason => [("key", .text key), ("reason", .text reason.text)]
  | .receiverLagged missed => [("err", .text ("channel lagged by " ++ toString missed))]
  | .providerRegistered key => [("key", .text key)]
  | .providerReplaced key => [("key", .text key)]
  | .providerUnregistered key => [("key", .text key)]
  | .threadRequested => []
  | .threadStarted => []
  | .runtimeRefused fault | .threadRefused fault => [("err", .text fault)]
  | .requestFailed code fault => [("code", .text code), ("err", .text fault)]
  | .eventStreamOpened key => [("key", .text key)]

/-- The event as a document. -/
def record (event : Event) : Document :=
  .ofMembers (("event", .text event.name) :: ("component", .text event.component) ::
    ("level", .text event.level.text) :: ("message", .text event.message) :: event.fields)

end Event

/-- What an operation yields: its answer, the state that it leaves, and what it logged, in order. -/
structure Reply (State Answer : Type) where
  answer : Answer
  state : State
  events : List Event

end ConsoleFeed
