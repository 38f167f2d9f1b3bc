import ConsoleFeed.Proofs.Session.Serving
import ConsoleFeed.Server.Basic

/-!
# The steps of a server

Clients connect, each with a request, and go away, and the interrupt arrives. Everything else a
server does by itself (`Deed`): it sends what the event streams yield, and its loops begin ticks and
end them. A tick may take its time, so anything can come between its beginning and its end.

A schedule says what the server does by itself, one deed after the other, without end. It is fair if
every connection is sent to again and again, and every tick ends at some time. That is what the
system does as long as no provider keeps a tick for ever and every client that is still there reads.

In a session that a server works with nothing but event streams is held, under the names of
connections (`Serving`).
-/

namespace ConsoleFeed.Server

/-- Something that a server does by itself. A tick is given the options that it began with when it
ends; which these are is left open here. -/
inductive Deed where
  | send (connection : Nat)
  | beginTick (entry : Nat)
  | endTick (entry : Nat) (options : OptionSet)

/-- A step of a server. -/
inductive Step where
  | accept (refusal : Option StartRefusal) (request : Http.Request)
  | disconnect (connection : Nat)
  | interrupt
  | own (deed : Deed)

/-- Whether a tick of an entry is on its way. -/
def isTicking (server : Server) (entry : Nat) : Bool :=
  (server.session.registry.subscription? entry).any fun subscription =>
    subscription.phase == .ticking

/-- The server after a step of its session. -/
def inSession (server : Server) (step : Session.Step) : Server :=
  { server with session := server.session.perform step }

/-- The server after a deed. A loop ends a tick only if one is on its way. -/
def act (server : Server) : Deed → Server
  | .send connection => ((server.send? connection).map Reply.state).getD server
  | .beginTick entry => server.inSession (.beginTick entry)
  | .endTick entry options =>
      if server.isTicking entry then server.inSession (.endTick entry options) else server

/-- The server after a step. An interrupted server accepts nothing. -/
def perform (server : Server) : Step → Server
  | .accept refusal request => ((server.accept? refusal request).map Reply.state).getD server
  | .disconnect connection => server.disconnect connection
  | .interrupt => server.interrupt
  | .own deed => server.act deed

/-- The server after steps, one after the other. -/
def run (server : Server) (steps : List Step) : Server :=
  steps.foldl perform server

/-- The server after so many deeds of a schedule. -/
def following (server : Server) (schedule : Nat → Deed) : Nat → Server
  | 0 => server
  | count + 1 => (server.following schedule count).act (schedule count)

/-- Every connection is sent to again and again, and no tick goes on for ever. -/
structure Fair (schedule : Nat → Deed) : Prop where
  sends : ∀ connection moment, ∃ later, moment ≤ later ∧ schedule later = .send connection
  ticks : ∀ entry moment, ∃ later options,
    moment ≤ later ∧ schedule later = .endTick entry options

theorem Fair.later {schedule : Nat → Deed} (fair : Fair schedule) (start : Nat) :
    Fair fun moment => schedule (start + moment) where
  sends connection moment := by
    rcases fair.sends connection (start + moment) with ⟨later, after, sent⟩
    refine ⟨later - start, by omega, ?_⟩
    rw [Nat.add_sub_cancel' (by omega)]
    exact sent
  ticks entry moment := by
    rcases fair.ticks entry (start + moment) with ⟨later, options, after, ended⟩
    refine ⟨later - start, options, by omega, ?_⟩
    rw [Nat.add_sub_cancel' (by omega)]
    exact ended

section Deeds

variable (server : Server)

theorem following_add (schedule : Nat → Deed) (first second : Nat) :
    server.following schedule (first + second) =
      (server.following schedule first).following (fun moment => schedule (first + moment))
        second := by
  induction second with
  | zero => rfl
  | succ second ih =>
      rw [Nat.add_succ, following, following, ih]

/-- What comes about after some deeds of a schedule comes about. -/
theorem comes_about {server : Server} {schedule : Nat → Deed} (Holds : Server → Prop) (moment : Nat)
    (later : ∃ count, Holds ((server.following schedule moment).following
      (fun more => schedule (moment + more)) count)) :
    ∃ count, Holds (server.following schedule count) := by
  rcases later with ⟨count, holds⟩
  refine ⟨moment + count, ?_⟩
  rw [following_add]
  exact holds

/-- A whole tick is a tick that begins and a tick that ends. -/
theorem tick?_eq (entry : Nat) :
    (server.tick? entry).map Reply.state =
      (server.session.registry.beginTick? entry).map fun (options, _) =>
        (server.act (.beginTick entry)).act (.endTick entry options) := by
  cases begun : server.session.registry.beginTick? entry with
  | none => simp only [tick?, Registry.tick?, begun, Option.map_none]
  | some taken =>
      rcases taken with ⟨options, registry⟩
      rcases Registry.beginTick?_eq_some _ entry begun with ⟨subscription, present, _, _, same⟩
      have first : (server.session.registry.onEntry entry .beginTick).state = registry := by
        simp only [Registry.onEntry, present, Registry.actOn, begun]
      have there : registry.subscription? entry = some { subscription with phase := .ticking } := by
        rw [same, Registry.subscription?_changing, if_pos rfl, present]
        rfl
      have began : server.act (.beginTick entry) =
          { server with session := server.session.withRegistry registry } := by
        simp only [act, inSession, Session.perform, first]
      have ticking :
          isTicking { server with session := server.session.withRegistry registry } entry =
            true := by
        have found : (server.session.withRegistry registry).registry.subscription? entry =
            some { subscription with phase := .ticking } := there
        rw [isTicking, found]
        rfl
      have ended : (registry.onEntry entry (.endTick options)).state =
          (registry.endTick entry options).state := by
        simp only [Registry.onEntry, there, Registry.actOn]
      have acted : (server.act (.beginTick entry)).act (.endTick entry options) =
          { server with
            session := server.session.withRegistry (registry.endTick entry options).state } := by
        rw [began, ← ended]
        exact if_pos ticking
      simp only [Option.map_some, acted, tick?, Registry.tick?, begun]

/-- The session of a server takes quiet steps in a deed, and nothing else changes. -/
theorem act_eq (deed : Deed) : ∃ steps : List Session.Step,
    (∀ step ∈ steps, step.isQuiet = true) ∧
      server.act deed = { server with session := server.session.run steps } := by
  cases deed with
  | send connection =>
      simp only [act, send?]
      cases yields : server.session.nextEvent? (streamName connection) with
      | none => exact ⟨[], by simp, rfl⟩
      | some reply =>
          have next :
              server.session.perform (.nextEvent (streamName connection)) = reply.state := by
            simp only [Session.perform, yields, Option.map_some, Option.getD_some]
          by_cases ended : reply.answer = .ended
          · refine ⟨[.nextEvent (streamName connection), .dropEvents (streamName connection)],
              by simp [Session.Step.isQuiet], ?_⟩
            simp only [Option.map_some, Option.getD_some, if_pos ended, Session.run, List.foldl,
              next]
            rfl
          · refine ⟨[.nextEvent (streamName connection)], by simp [Session.Step.isQuiet], ?_⟩
            simp only [Option.map_some, Option.getD_some, if_neg ended, Session.run, List.foldl,
              next]
  | beginTick entry => exact ⟨[.beginTick entry], by simp [Session.Step.isQuiet], rfl⟩
  | endTick entry options =>
      simp only [act]
      split
      · exact ⟨[.endTick entry options], by simp [Session.Step.isQuiet], rfl⟩
      · exact ⟨[], by simp, rfl⟩

end Deeds

/-- Nothing but event streams is held, each under the name of a connection. -/
structure Serving (server : Server) : Prop where
  session : server.session.Serving
  named : ∀ name stream, server.session.eventStreams.find? name = some stream →
    ∃ connection, name = streamName connection

theorem serving_start (settings : StreamerSettings) (machine : Machine) :
    (start settings machine).state.Serving := by
  refine ⟨Session.serving_start _ _ _, ?_⟩
  intro name stream found
  cases found

section Runs

variable {server : Server}

theorem Serving.act (serving : server.Serving) (deed : Deed) :
    (server.act deed).Serving ∧ server.session.Onward (server.act deed).session ∧
      (server.act deed).interrupted = server.interrupted := by
  rcases server.act_eq deed with ⟨steps, quiet, same⟩
  rcases serving.session.onward_run quiet with ⟨later, onward⟩
  rw [same]
  refine ⟨⟨later, ?_⟩, onward, rfl⟩
  intro name stream found
  exact serving.named name stream (onward.opened name stream found)

theorem Serving.disconnect (serving : server.Serving) (connection : Nat) :
    (server.disconnect connection).Serving := by
  have quiet : (Session.Step.dropEvents (streamName connection)).isQuiet = true := rfl
  refine ⟨serving.session.perform quiet, ?_⟩
  intro name stream found
  exact serving.named name stream (server.session.eventStreams_of_quiet quiet found)

theorem Serving.accept (serving : server.Serving) (refusal : Option StartRefusal)
    (request : Http.Request) : (server.perform (.accept refusal request)).Serving := by
  simp only [perform, accept?]
  split
  · exact serving
  · refine ⟨serving.session.request (streamName server.connections) refusal request
      (some (streamName server.connections)), ?_⟩
    intro name stream found
    by_cases own : name = streamName server.connections
    · exact ⟨_, own⟩
    · have older := found
      simp only [Option.map_some, Option.getD_some] at older
      rw [Session.find?_keepEventStream_of_ne _ own] at older
      exact serving.named name stream older

theorem Serving.perform (serving : server.Serving) (step : Step) :
    (server.perform step).Serving := by
  cases step with
  | accept refusal request => exact serving.accept refusal request
  | disconnect connection => exact serving.disconnect connection
  | interrupt => exact ⟨serving.session, serving.named⟩
  | own deed => exact (serving.act deed).1

theorem Serving.run (serving : server.Serving) (steps : List Step) :
    (server.run steps).Serving := by
  induction steps generalizing server with
  | nil => exact serving
  | cons step rest ih => exact ih (serving.perform step)

theorem Serving.following (serving : server.Serving) (schedule : Nat → Deed) (count : Nat) :
    (server.following schedule count).Serving ∧
      server.session.Onward (server.following schedule count).session ∧
        (server.following schedule count).interrupted = server.interrupted := by
  induction count with
  | zero => exact ⟨serving, .refl _, rfl⟩
  | succ count ih =>
      rcases ih with ⟨between, onward, same⟩
      rcases between.act (schedule count) with ⟨later, further, sameLater⟩
      exact ⟨later, onward.trans further, sameLater.trans same⟩

end Runs

end ConsoleFeed.Server
