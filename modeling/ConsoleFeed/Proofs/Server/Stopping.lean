import Mathlib.Data.Nat.Pairing
import ConsoleFeed.Proofs.Server.Steps
import ConsoleFeed.Server.Run

/-!
# When a server stops

An interrupted server stops when no connection carries an event stream any more, and only then
empties its table. But an event stream does not end as long as the table holds its entry. So a
server that is interrupted while a client listens to a console that is still there cannot stop by
itself: it waits for the client to go away. If there is no such client, it does stop, and nobody has
to do anything.

Either way an argument about deeds is carried over to schedules. What keeps the server is kept by
every deed. What lets it stop comes about in three parts. A tick that is on its way ends, and then
the entry is forgotten. What is left of an event stream gets less with each sending, until it ends.
And one event stream after the other ends, because none is opened any more.
-/

namespace ConsoleFeed.Server

/-- The event stream that a connection carries. -/
def stream? (server : Server) (connection : Nat) : Option ReceivingEnd :=
  (server.session.eventStreams.find? (streamName connection)).join

/-- No connection carries an event stream. -/
def IsIdle (server : Server) : Prop :=
  ∀ connection, server.stream? connection = none

/-- The table holds the entry of no event stream that a connection carries. -/
def IsFree (server : Server) : Prop :=
  ∀ connection receiving, server.stream? connection = some receiving →
    server.session.registry.inTable receiving.channel = false

section Streams

variable {server later : Server} {connection : Nat} {receiving : ReceivingEnd}

theorem stream?_eq_some_iff : server.stream? connection = some receiving ↔
    server.session.eventStreams.find? (streamName connection) = some (some receiving) :=
  Option.join_eq_some_iff

/-- Whoever goes away takes along the event stream of that connection, and no other. -/
theorem stream?_disconnect (server : Server) (gone connection : Nat) :
    (server.disconnect gone).stream? connection =
      if streamName connection = streamName gone then none else server.stream? connection := by
  have erased : (server.disconnect gone).session.eventStreams =
      server.session.eventStreams.erase (streamName gone) :=
    server.session.eventStreams_dropEventStream _
  rw [stream?, erased, KeyMap.find?_erase]
  split <;> rfl

theorem names_of_stream (carried : server.stream? connection = some receiving) :
    server.session.Names receiving :=
  Or.inr (Or.inr ⟨_, stream?_eq_some_iff.mp carried⟩)

theorem stream_of_onward (onward : server.session.Onward later.session)
    (carried : later.stream? connection = some receiving) :
    server.stream? connection = some receiving :=
  stream?_eq_some_iff.mpr (onward.opened _ _ (stream?_eq_some_iff.mp carried))

/-- What is done quietly leaves an event stream, or takes it away. -/
theorem stream_cases (onward : server.session.Onward later.session)
    (carried : server.stream? connection = some receiving) :
    later.stream? connection = none ∨ later.stream? connection = some receiving := by
  cases found : later.stream? connection with
  | none => exact Or.inl rfl
  | some other =>
      have older := stream_of_onward onward found
      rw [carried] at older
      exact Or.inr older.symm

theorem inTable_of_onward (onward : server.session.Onward later.session) (number : Nat) :
    later.session.registry.inTable number = server.session.registry.inTable number := by
  simp only [Registry.inTable, onward.table]

theorem IsFree.onward (free : server.IsFree) (onward : server.session.Onward later.session) :
    later.IsFree := by
  intro connection receiving carried
  rw [inTable_of_onward onward]
  exact free connection receiving (stream_of_onward onward carried)

theorem Serving.isStreaming_iff (serving : server.Serving) :
    server.isStreaming = true ↔
      ∃ connection receiving, server.stream? connection = some receiving := by
  simp only [isStreaming, List.any_eq_true, stream?_eq_some_iff]
  constructor
  · rintro ⟨⟨name, stream⟩, member, carries⟩
    have found := (KeyMap.mem_entries_iff _).mp member
    rcases serving.named name stream found with ⟨connection, rfl⟩
    rcases Option.isSome_iff_exists.mp carries with ⟨receiving, rfl⟩
    exact ⟨connection, receiving, found⟩
  · rintro ⟨connection, receiving, found⟩
    exact ⟨_, (KeyMap.mem_entries_iff _).mpr found, rfl⟩

/-- A server can stop if it was interrupted and no connection carries an event stream. -/
theorem Serving.stop?_isSome_iff (serving : server.Serving) :
    server.stop?.isSome ↔ server.interrupted = true ∧ server.IsIdle := by
  have quiet : server.isStreaming = false ↔ server.IsIdle := by
    rw [← Bool.not_eq_true, serving.isStreaming_iff]
    simp [IsIdle, Option.eq_none_iff_forall_not_mem]
  rw [← quiet, stop?]
  cases server.interrupted <;> cases server.isStreaming <;> simp

end Streams

section Waiting

variable {server : Server} {connection : Nat} {receiving : ReceivingEnd}

/-- An event stream does not end while the table holds its entry. -/
theorem Serving.stream_act (serving : server.Serving)
    (carried : server.stream? connection = some receiving)
    (held : server.session.registry.inTable receiving.channel = true) (deed : Deed) :
    (server.act deed).stream? connection = some receiving := by
  cases deed with
  | beginTick entry => exact carried
  | endTick entry options =>
      simp only [Server.act]
      split <;> exact carried
  | send other =>
      simp only [Server.act, send?]
      cases yields : server.session.nextEvent? (streamName other) with
      | none => exact carried
      | some reply =>
          simp only [Option.map_some, Option.getD_some]
          have sent : stream? { server with session := reply.state } connection =
              some receiving := by
            have kept := server.session.eventStreams_nextEvent (streamName other)
            simp only [Session.perform, yields, Option.map_some, Option.getD_some] at kept
            simp only [stream?, kept]
            exact carried
          split
          · rename_i ended
            have different : streamName connection ≠ streamName other := by
              intro same
              rw [← same] at yields
              rcases serving.session.keeps.tellsEnds.events _ _
                (stream?_eq_some_iff.mp carried) with ⟨told, gives, tells⟩
              rw [yields] at gives
              cases gives
              -- the end is told only once everyone has let go of the entry
              have unheld := Registry.inTable_eq_false_iff.mpr (tells.ended.mp ended).letGo.table
              rw [held] at unheld
              cases unheld
            rw [stream?_disconnect, if_neg different]
            exact sent
          · exact sent

theorem Serving.stream_following (serving : server.Serving)
    (carried : server.stream? connection = some receiving)
    (held : server.session.registry.inTable receiving.channel = true) (schedule : Nat → Deed)
    (count : Nat) : (server.following schedule count).stream? connection = some receiving := by
  induction count with
  | zero => exact carried
  | succ count ih =>
      rcases serving.following schedule count with ⟨between, onward, _⟩
      rw [← inTable_of_onward onward] at held
      exact between.stream_act ih held (schedule count)

end Waiting

section Ending

variable {server : Server} {connection : Nat} {receiving : ReceivingEnd} {schedule : Nat → Deed}

/-- After the end of a tick no tick of the entry is on its way. -/
theorem isTicking_endTick (server : Server) (entry : Nat) (options : OptionSet) :
    (server.act (.endTick entry options)).isTicking entry = false := by
  simp only [Server.act]
  cases ticking : server.isTicking entry with
  | false => exact ticking
  | true =>
      rcases (Option.any_eq_true _ _).mp ticking with ⟨subscription, present, _⟩
      rcases Registry.subscription?_endTick present options with ⟨later, found, phase⟩
      have there :
          (server.inSession (.endTick entry options)).session.registry.subscription? entry =
            some later := found
      rw [if_pos rfl, isTicking, there, Option.any_some]
      exact beq_false_of_ne phase

theorem Serving.forgotten_endTick (serving : server.Serving) {entry : Nat}
    (retired : server.session.registry.Retired entry) (options : OptionSet) :
    (server.act (.endTick entry options)).session.Forgotten entry := by
  rcases serving.act (.endTick entry options) with ⟨later, onward, _⟩
  apply later.session.forgotten (onward.retired entry retired)
  intro subscription present ticking
  have quiet := isTicking_endTick server entry options
  rw [isTicking, present, Option.any_some, ticking] at quiet
  cases quiet

/-- A sending on the event stream of a forgotten entry takes something off it, or ends it. -/
theorem Serving.send_forgotten (serving : server.Serving)
    (carried : server.stream? connection = some receiving)
    (forgotten : server.session.Forgotten receiving.channel) :
    (server.act (.send connection)).stream? connection = none ∨
      ((server.act (.send connection)).session.remaining receiving).length <
        (server.session.remaining receiving).length := by
  have found := stream?_eq_some_iff.mp carried
  rcases serving.session.keeps.tellsEnds.events _ _ found with ⟨reply, gives, tells⟩
  cases left : server.session.remaining receiving with
  | nil =>
      left
      have ended : reply.answer = .ended := tells.ended.mpr ⟨left, forgotten.letGo⟩
      simp only [Server.act, send?, gives, Option.map_some, Option.getD_some, if_pos ended]
      rw [stream?_disconnect, if_pos rfl]
  | cons text rest =>
      right
      rcases tells.next text rest left with ⟨payload, later⟩
      have goesOn : (server.act (.send connection)).session = reply.state := by
        simp only [Server.act, send?, gives, Option.map_some, Option.getD_some]
        rw [if_neg]
        rw [payload]
        simp
      rw [goesOn, later]
      exact Nat.lt_succ_self _

/-- The event stream of a forgotten entry ends. -/
theorem Serving.ends_of_forgotten (serving : server.Serving) (fair : Fair schedule)
    (carried : server.stream? connection = some receiving)
    (forgotten : server.session.Forgotten receiving.channel) :
    ∃ count, (server.following schedule count).stream? connection = none := by
  generalize size : (server.session.remaining receiving).length = bound
  induction bound using Nat.strongRecOn generalizing server schedule with
  | ind bound ih =>
    rcases fair.sends connection 0 with ⟨moment, _, sent⟩
    rcases serving.following schedule moment with ⟨between, onward, _⟩
    rcases stream_cases onward carried with ended | carriedThen
    · exact ⟨moment, ended⟩
    · have fewer := onward.remaining _ _ forgotten.retired (stream?_eq_some_iff.mp carriedThen)
      have sending := between.send_forgotten carriedThen (onward.forgotten _ forgotten)
      have next : (server.following schedule moment).act (.send connection) =
          server.following schedule (moment + 1) := by
        rw [Server.following, sent]
      rw [next] at sending
      rcases serving.following schedule (moment + 1) with ⟨later, onwardLater, _⟩
      rcases sending with ended | less
      · exact ⟨moment + 1, ended⟩
      · rcases stream_cases onwardLater carried with ended | carriedLater
        · exact ⟨moment + 1, ended⟩
        · exact comes_about (·.stream? connection = none) (moment + 1)
            (ih _ (by omega) later (fair.later (moment + 1)) carriedLater
              (onwardLater.forgotten _ forgotten) rfl)

/-- The event stream of an entry that the table does not hold ends. -/
theorem Serving.stream_ends (serving : server.Serving) (fair : Fair schedule)
    (carried : server.stream? connection = some receiving)
    (outside : server.session.registry.inTable receiving.channel = false) :
    ∃ count, (server.following schedule count).stream? connection = none := by
  have retired := serving.session.retired (names_of_stream carried) outside
  rcases fair.ticks receiving.channel 0 with ⟨moment, options, _, ended⟩
  rcases serving.following schedule moment with ⟨between, onward, _⟩
  rcases serving.following schedule (moment + 1) with ⟨later, onwardLater, _⟩
  have forgotten :
      (server.following schedule (moment + 1)).session.Forgotten receiving.channel := by
    rw [Server.following, ended]
    exact between.forgotten_endTick (onward.retired _ retired) options
  rcases stream_cases onwardLater carried with none | carriedLater
  · exact ⟨moment + 1, none⟩
  · exact comes_about (·.stream? connection = none) (moment + 1)
      (later.ends_of_forgotten (fair.later (moment + 1)) carriedLater forgotten)

/-- If the table holds no entry of an event stream, all event streams end. -/
theorem Serving.streams_end (serving : server.Serving) (fair : Fair schedule)
    (free : server.IsFree) (names : List String)
    (only : ∀ connection receiving, server.stream? connection = some receiving →
      streamName connection ∈ names) :
    ∃ count, (server.following schedule count).IsIdle := by
  induction names generalizing server schedule with
  | nil =>
      refine ⟨0, ?_⟩
      intro connection
      rw [Option.eq_none_iff_forall_ne_some]
      intro receiving carried
      cases only connection receiving carried
  | cons name rest ih =>
      have first : ∃ count, ∀ connection, streamName connection = name →
          (server.following schedule count).stream? connection = none := by
        by_cases there : ∃ connection receiving,
          streamName connection = name ∧ server.stream? connection = some receiving
        · rcases there with ⟨connection, receiving, rfl, carried⟩
          rcases serving.stream_ends fair carried (free connection receiving carried) with
            ⟨count, ended⟩
          refine ⟨count, ?_⟩
          intro other same
          rw [stream?, same]
          exact ended
        · refine ⟨0, ?_⟩
          intro connection same
          rw [Option.eq_none_iff_forall_ne_some]
          intro receiving carried
          exact there ⟨connection, receiving, same, carried⟩
      rcases first with ⟨count, ended⟩
      rcases serving.following schedule count with ⟨later, onward, _⟩
      have fewer : ∀ connection receiving,
          (server.following schedule count).stream? connection = some receiving →
            streamName connection ∈ rest := by
        intro connection receiving carried
        rcases List.mem_cons.mp (only connection receiving (stream_of_onward onward carried)) with
          here | there
        · rw [ended connection here] at carried
          cases carried
        · exact there
      exact comes_about IsIdle count (ih later (fair.later count) (free.onward onward) fewer)

end Ending

section Stopping

variable {server : Server} {schedule : Nat → Deed}

/-- A server that was interrupted comes to stop if the table holds the entry of no event stream that
is open, and only then. -/
theorem Serving.stops_iff (serving : server.Serving) (interrupted : server.interrupted = true)
    (fair : Fair schedule) :
    (∃ count, (server.following schedule count).stop?.isSome) ↔ server.IsFree := by
  constructor
  · rintro ⟨count, stops⟩ connection receiving carried
    rw [← Bool.not_eq_true]
    intro held
    have none := ((serving.following schedule count).1.stop?_isSome_iff.mp stops).2 connection
    rw [serving.stream_following carried held schedule count] at none
    cases none
  · intro free
    have listed : ∀ connection receiving, server.stream? connection = some receiving →
        streamName connection ∈ server.session.eventStreams.keys := by
      intro connection receiving carried
      apply (KeyMap.contains_iff _ _).mp
      rw [KeyMap.contains, stream?_eq_some_iff.mp carried]
      rfl
    rcases serving.streams_end fair free _ listed with ⟨count, none⟩
    rcases serving.following schedule count with ⟨later, _, same⟩
    exact ⟨count, later.stop?_isSome_iff.mpr ⟨same.trans interrupted, none⟩⟩

/-- The server stops with everything deactivated, and says how much there was. -/
structure StopsWith (server : Server) (stopped : Reply Server Nat) : Prop where
  answer : stopped.answer = server.session.registry.table.size
  logged : .shutDown server.session.registry.name stopped.answer ∈ stopped.events
  table : ∀ key, stopped.state.session.registry.table.find? key = none
  retired : ∀ number < stopped.state.session.registry.subscriptions.length,
    stopped.state.session.registry.Retired number

theorem Serving.stopsWith (serving : server.Serving) {stopped : Reply Server Nat}
    (stops : server.stop? = some stopped) : server.StopsWith stopped := by
  rcases server.session.registry.shutdown_table with ⟨emptied, counted⟩
  simp only [stop?] at stops
  split at stops
  · cases stops
    refine ⟨counted, List.mem_append_right _ List.mem_cons_self, emptied, ?_⟩
    intro number inUse
    exact serving.session.tabled.retired_shutdown inUse
  · cases stops

/-- The deeds in turn: every connection is sent to, and every tick ends, again and again. -/
def inTurn (moment : Nat) : Deed :=
  if moment.unpair.1 % 2 = 0 then .send (moment.unpair.1 / 2)
  else .endTick (moment.unpair.1 / 2) KeyMap.empty

theorem fair_inTurn : Fair inTurn where
  sends connection moment := by
    refine ⟨Nat.pair (2 * connection) moment, Nat.right_le_pair _ _, ?_⟩
    simp [inTurn]
  ticks entry moment := by
    refine ⟨Nat.pair (2 * entry + 1) moment, KeyMap.empty, Nat.right_le_pair _ _, ?_⟩
    rw [inTurn, Nat.unpair_pair, if_neg (by omega)]
    congr
    omega

/-- In every run, a server that was interrupted stops by itself unless a client listens to a console
that the table holds. Then it does not stop, whatever it does by itself, and what the client listens
to does not end. If it stops, it deactivates everything and says how much there was. -/
theorem interrupted_server_stops_iff_free (settings : StreamerSettings) (machine : Machine)
    (steps : List Step) :
    let server := (start settings machine).state.run steps
    server.interrupted = true →
      (∀ schedule, Fair schedule →
        ((∃ count, (server.following schedule count).stop?.isSome) ↔ server.IsFree)) ∧
      ∀ schedule count,
        let later := server.following schedule count
        (∀ connection receiving, server.stream? connection = some receiving →
          server.session.registry.inTable receiving.channel = true →
            later.stop? = none ∧ later.stream? connection = some receiving) ∧
        ∀ stopped, later.stop? = some stopped → later.StopsWith stopped := by
  intro server interrupted
  have serving : server.Serving := (serving_start settings machine).run steps
  refine ⟨fun schedule fair => serving.stops_iff interrupted fair, ?_⟩
  intro schedule count later
  have servingLater : later.Serving := (serving.following schedule count).1
  refine ⟨?_, fun stopped => servingLater.stopsWith⟩
  intro connection receiving carried held
  have stays := serving.stream_following carried held schedule count
  refine ⟨?_, stays⟩
  rw [← Option.not_isSome_iff_eq_none, servingLater.stop?_isSome_iff]
  rintro ⟨_, none⟩
  rw [none connection] at stays
  cases stays

/-- A request for the event stream of a console. -/
def listening : Http.Request := ⟨"GET", ⟨"/consoles/echo/stream", none⟩, none, []⟩

/-- A request that deactivates the console. -/
def deactivating : Http.Request := ⟨"DELETE", ⟨"/consoles/echo", none⟩, none, []⟩

theorem interrupted_server_stops_iff_free_of_deactivated :
    let server := (start .standard ⟨1, 1, 0, []⟩).state.run
      [.accept none listening, .accept none deactivating, .interrupt]
    server.interrupted = true ∧ server.stream? 0 = some ⟨0, 0⟩ ∧
      ∃ count, (server.following inTurn count).stop?.isSome := by
  intro server
  have emptied : server.session.registry.table = KeyMap.empty := by rfl
  refine ⟨rfl, rfl, ?_⟩
  apply ((interrupted_server_stops_iff_free .standard ⟨1, 1, 0, []⟩ _ rfl).1 inTurn fair_inTurn).mpr
  intro connection receiving _
  have outside : server.session.registry.inTable receiving.channel = false := by
    rw [Registry.inTable, emptied]
    rfl
  exact outside

/-- A client listens and the interrupt arrives. Whatever the server does by itself, it cannot stop;
it can as soon as the client goes away. -/
theorem interrupted_server_waits_for_client :
    let server := (start .standard ⟨1, 1, 0, []⟩).state.run [.accept none listening, .interrupt]
    server.interrupted = true ∧
      ∀ schedule count, (server.following schedule count).stop? = none ∧
        ((server.following schedule count).disconnect 0).stop?.isSome := by
  intro server
  have serving : server.Serving := (serving_start .standard ⟨1, 1, 0, []⟩).run _
  have only : server.session.eventStreams =
      KeyMap.empty.insert (streamName 0) (some ⟨0, 0⟩) := by rfl
  refine ⟨rfl, ?_⟩
  intro schedule count
  rcases serving.following schedule count with ⟨later, onward, same⟩
  constructor
  · rw [← Option.not_isSome_iff_eq_none, later.stop?_isSome_iff]
    rintro ⟨_, none⟩
    have carried : server.stream? 0 = some ⟨0, 0⟩ := rfl
    have stays := serving.stream_following carried rfl schedule count
    rw [none 0] at stays
    cases stays
  · apply (later.disconnect 0).stop?_isSome_iff.mpr
    refine ⟨same, ?_⟩
    intro connection
    rw [stream?_disconnect]
    split
    · rfl
    · rename_i other
      rw [Option.eq_none_iff_forall_ne_some]
      intro receiving carried
      have older := stream?_eq_some_iff.mp (stream_of_onward onward carried)
      rw [only, KeyMap.find?_insert, if_neg other] at older
      cases older

end Stopping

section WholeRuns

variable {server : Server}

/-- A client that goes away when it has its response leaves nothing behind. -/
theorem Serving.idle_visit (serving : server.Serving) (idle : server.IsIdle)
    {refusal : Option StartRefusal} {request : Http.Request} {reply : Reply Server Http.Response}
    (accepted : server.accept? refusal request = some reply) :
    (reply.state.disconnect server.connections).Serving ∧
      (reply.state.disconnect server.connections).IsIdle := by
  have taken : server.perform (.accept refusal request) = reply.state := by
    simp only [Server.perform, accepted, Option.map_some, Option.getD_some]
  refine ⟨taken ▸ (serving.accept refusal request).disconnect server.connections, ?_⟩
  intro connection
  rw [stream?_disconnect]
  split
  · rfl
  · rename_i other
    simp only [accept?] at accepted
    split at accepted
    · cases accepted
    · cases accepted
      simp only [stream?]
      rw [Session.find?_keepEventStream_of_ne _ other]
      exact idle connection

theorem Serving.idle_serve (serving : server.Serving) (idle : server.IsIdle)
    (requests : List (Option Http.Request)) :
    (server.serve requests).state.Serving ∧ (server.serve requests).state.IsIdle := by
  induction requests generalizing server with
  | nil => exact ⟨serving, idle⟩
  | cons request? rest ih =>
      cases accepted : request?.bind (server.accept? none) with
      | none =>
          simp only [serve, accepted]
          exact ih serving idle
      | some reply =>
          rcases Option.bind_eq_some_iff.mp accepted with ⟨request, -, answered⟩
          rcases serving.idle_visit idle answered with ⟨later, idleLater⟩
          simp only [serve, accepted]
          exact ih later idleLater

theorem launched_eq {arguments : List String} {readFile : FileReader} {machine : Machine}
    {listener : Listener}
    (launched : (Launch.start arguments readFile machine).outcome = .ok listener) :
    ∃ settings, listener.server = (start settings machine).state := by
  simp only [Launch.start] at launched
  split at launched
  · cases launched
  · split at launched
    · cases launched
    · split at launched <;> cases launched
      exact ⟨_, rfl⟩

/-- A run in which every client goes away when it has its response ends with the server's stop, and
the log says so last. -/
theorem run_stops {arguments : List String} {readFile : FileReader} {machine : Machine}
    {listener : Listener}
    (launched : (Launch.start arguments readFile machine).outcome = .ok listener)
    (shown : ListenAddress → String) (requests : List (Option Http.Request)) :
    ∃ record deactivated,
      RunRecord.ofRun? arguments readFile machine shown requests = some record ∧
        record.exitCode = 0 ∧ record.log.getLast? = some (.stopped deactivated) := by
  rcases launched_eq launched with ⟨settings, started⟩
  have serving : listener.server.Serving := started ▸ serving_start settings machine
  have idle : listener.server.IsIdle := by
    intro connection
    rw [started]
    rfl
  rcases serving.idle_serve idle requests with ⟨later, idleLater⟩
  have stops : (listener.server.serve requests).state.interrupt.stop?.isSome :=
    (later.perform .interrupt).stop?_isSome_iff.mpr ⟨rfl, idleLater⟩
  rcases Option.isSome_iff_exists.mp stops with ⟨swept, stopped⟩
  have recorded : ∃ earlier, RunRecord.ofRun? arguments readFile machine shown requests =
      some ⟨0, earlier ++ [.stopped swept.answer], (listener.server.serve requests).answer,
        none⟩ := by
    simp only [RunRecord.ofRun?, launched, stopped, Option.map_some]
    exact ⟨_, rfl⟩
  rcases recorded with ⟨earlier, same⟩
  exact ⟨_, swept.answer, same, rfl, List.getLast?_concat⟩

end WholeRuns

end ConsoleFeed.Server
