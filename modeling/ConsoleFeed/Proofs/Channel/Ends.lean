import ConsoleFeed.Proofs.Channel.FanOut

/-!
# The ends of a channel

Besides receivers a channel has stream handles. A handle takes no part in what is published and
read; it only keeps the channel open. So a channel with handles does to its receivers what it does
without any, `bare`, while whatever is left of handles counts as part of the publisher. This file
carries the account of a receiver over to the acts on all ends of a channel: what a receiver takes
out comes off its inbox, no other end touches that, and it is told that the channel has ended if its
inbox is empty and the channel is not open, and only then.
-/

namespace ConsoleFeed.Channel

/-- Something that is done with the ends of a channel. -/
inductive EndAct where
  | openStream
  | closeStream
  | subscribe
  | intoReceiver
  | read (id : Nat)
  | next (id : Nat)
  | leave (id : Nat)

/-- What is said in answer. -/
inductive EndAnswer where
  | nothing
  | joined (receiver : Nat)
  | reading (reading : Option Reading)
  | item (item : Option StreamItem)

/-- What comes of an act on the ends of a channel. -/
def act (channel : Channel) (publisherHeld : Bool) : EndAct → Reply Channel EndAnswer
  | .openStream => ⟨.nothing, channel.openStream, []⟩
  | .closeStream => ⟨.nothing, channel.closeStream, []⟩
  | .subscribe => ⟨.joined channel.subscribe.1, channel.subscribe.2, []⟩
  | .intoReceiver => ⟨.joined channel.intoReceiver.1, channel.intoReceiver.2, []⟩
  | .read id =>
      match channel.read? publisherHeld id with
      | none => ⟨.reading none, channel, []⟩
      | some (reading, later) => ⟨.reading (some reading), later, []⟩
  | .next id =>
      match channel.nextItem? publisherHeld id with
      | none => ⟨.item none, channel, []⟩
      | some reply => ⟨.item (some reply.answer), reply.state, reply.events⟩
  | .leave id => ⟨.nothing, channel.unsubscribe id, []⟩

/-- The payload that an answer gives. -/
def EndAnswer.payload? : EndAnswer → Option String
  | .reading (some (.payload text)) | .item (some (.payload text)) => some text
  | _ => none

/-- The receiver that an act reads with. -/
def EndAct.reader? : EndAct → Option Nat
  | .read id | .next id => some id
  | _ => none

/-- The receiver that reads or leaves in an act. -/
def EndAct.actor? : EndAct → Option Nat
  | .read id | .next id | .leave id => some id
  | _ => none

/-- The payload that a receiver takes out in an act that has this answer. -/
def EndAct.taken? (id : Nat) (act : EndAct) (answer : EndAnswer) : Option String :=
  if act.reader? = some id then answer.payload? else none

/-- The channel without its stream handles. -/
def bare (channel : Channel) : Channel :=
  { channel with streams := 0 }

/-- What is left of handles counts as part of the publisher. -/
theorem readAt_bare (channel : Channel) (publisherHeld : Bool) (position : Nat) :
    channel.readAt publisherHeld position =
      channel.bare.readAt (channel.isOpen publisherHeld) position := by
  simp only [readAt, bare, oldest, isOpen, Nat.lt_irrefl, decide_false, Bool.or_false]
  rfl

section Serving

variable {channel : Channel} {id : Nat} {inbox : List String}

/-- A receiver of a channel with handles reads what its inbox gives, and only moves on. -/
theorem Serves.read_bare (serves : Serves channel.bare id inbox) (publisherHeld : Bool) :
    ∃ position, channel.read? publisherHeld id =
        some ((Inbox.read channel.capacity (channel.isOpen publisherHeld) inbox).1,
          channel.moveTo id position) ∧
      Serves (channel.moveTo id position).bare id
        (Inbox.read channel.capacity (channel.isOpen publisherHeld) inbox).2 := by
  have same := serves.read (channel.isOpen publisherHeld)
  rcases serves with ⟨all, receiver, _, found, _⟩
  rcases same with ⟨after, reads, later⟩
  have present : channel.receiver? id = some receiver := found
  rw [read?_eq, found, Option.map_some, Option.some.injEq, Prod.mk.injEq] at reads
  rcases reads with ⟨reading, rfl⟩
  refine ⟨(channel.readAt publisherHeld receiver.next).2, ?_, ?_⟩
  · rw [read?_eq, present, Option.map_some, readAt_bare, reading]
    rfl
  · rw [readAt_bare]
    exact later

theorem moveTo_moveTo (channel : Channel) (id first second : Nat) :
    (channel.moveTo id first).moveTo id second = channel.moveTo id second := by
  simp only [moveTo, List.map_map]
  congr 1
  apply List.map_congr_left
  intro receiver _
  by_cases same : receiver.id = id <;> simp [same]

/-- The next item of a stream is what its inbox gives, once what the channel no longer keeps is left
out. -/
theorem Serves.next_bare (serves : Serves channel.bare id inbox) (publisherHeld : Bool)
    (positive : 0 < channel.capacity) :
    ∃ position item events, channel.nextItem? publisherHeld id =
        some ⟨item, channel.moveTo id position, events⟩ ∧
      ((inbox = [] ∧ Serves (channel.moveTo id position).bare id [] ∧
          item = if channel.isOpen publisherHeld then .pending else .ended) ∨
        ∃ text rest, inbox.drop (inbox.length - channel.capacity) = text :: rest ∧
          item = .payload text ∧ Serves (channel.moveTo id position).bare id rest) := by
  rcases serves.read_bare publisherHeld with ⟨position, reads, later⟩
  by_cases lagging : channel.capacity < inbox.length
  · rw [Inbox.read_of_lagging _ _ _ lagging] at reads later
    have length : (inbox.drop (inbox.length - channel.capacity)).length = channel.capacity := by
      rw [List.length_drop]
      omega
    rcases later.read_bare publisherHeld with ⟨second, readsAgain, last⟩
    cases left : inbox.drop (inbox.length - channel.capacity) with
    | nil =>
        rw [left, List.length_nil] at length
        omega
    | cons text rest =>
        rw [left, List.length_cons] at length
        have fewer : rest.length < channel.capacity := by omega
        have result : Inbox.read channel.capacity (channel.isOpen publisherHeld) (text :: rest) =
            (.payload text, rest) := Inbox.read_cons _ _ fewer
        have same : Inbox.read (channel.moveTo id position).capacity
            ((channel.moveTo id position).isOpen publisherHeld) (text :: rest) =
              (.payload text, rest) := result
        rw [left, same, moveTo_moveTo] at readsAgain last
        refine ⟨second, .payload text, [.receiverLagged (inbox.length - channel.capacity)], ?_,
          Or.inr ⟨text, rest, rfl, rfl, last⟩⟩
        simp only [nextItem?, reads, readsAgain]
        rfl
  · cases inbox with
    | nil =>
        rw [Inbox.read_nil] at reads later
        refine ⟨position, if channel.isOpen publisherHeld then .pending else .ended, [], ?_,
          Or.inl ⟨rfl, later, rfl⟩⟩
        simp only [nextItem?, reads]
        cases channel.isOpen publisherHeld <;> rfl
    | cons text rest =>
        have kept : rest.length < channel.capacity := by
          simp only [List.length_cons] at lagging
          omega
        rw [Inbox.read_cons _ _ kept] at reads later
        have whole : (text :: rest).length - channel.capacity = 0 := by
          simp only [List.length_cons]
          omega
        refine ⟨position, .payload text, [], ?_, Or.inr ⟨text, rest, ?_, rfl, later⟩⟩
        · simp only [nextItem?, reads]
          rfl
        · rw [whole, List.drop_zero]

end Serving

/-- What an act is to the channel without its handles: acts of receivers. A stream without lag
reports reads a second time after a report. -/
def EndAct.onBare (channel : Channel) (publisherHeld : Bool) : EndAct → List Act
  | .openStream | .closeStream => []
  | .subscribe | .intoReceiver => [.receiver .subscribe]
  | .read id => [.receiver (.read id (channel.isOpen publisherHeld))]
  | .next id =>
      let read := .receiver (.read id (channel.isOpen publisherHeld))
      match channel.read? publisherHeld id with
      | some (.lagged _, _) => [read, read]
      | _ => [read]
  | .leave id => [.receiver (.leave id)]

section Acts

variable (channel : Channel) (publisherHeld : Bool)

theorem read?_bare (id : Nat) :
    channel.bare.read? (channel.isOpen publisherHeld) id =
      (channel.read? publisherHeld id).map fun outcome => (outcome.1, outcome.2.bare) := by
  have same : channel.bare.receiver? id = channel.receiver? id := rfl
  rw [read?_eq, read?_eq, same, Option.map_map]
  apply Option.map_congr
  intro receiver _
  simp only [Function.comp_apply, readAt_bare channel publisherHeld]
  rfl

/-- A receiver that has read can read again, and the channel is as open as it was. -/
theorem read?_again {id : Nat} {reading : Reading} {later : Channel}
    (reads : channel.read? publisherHeld id = some (reading, later)) :
    later.isOpen publisherHeld = channel.isOpen publisherHeld ∧
      (later.read? publisherHeld id).isSome := by
  rw [read?_eq] at reads
  rcases Option.map_eq_some_iff.mp reads with ⟨receiver, found, same⟩
  cases same
  refine ⟨rfl, ?_⟩
  rw [read?_eq, receiver?_moveTo, found]
  rfl

theorem received_bare (other : Nat) :
    channel.bare.received (.read other (channel.isOpen publisherHeld)) =
      (channel.read? publisherHeld other).elim channel.bare fun outcome => outcome.2.bare := by
  simp only [received, read?_bare]
  cases channel.read? publisherHeld other <;> rfl

theorem reading?_bare (id other : Nat) :
    channel.bare.reading? id (.receiver (.read other (channel.isOpen publisherHeld))) =
      if other = id then (channel.read? publisherHeld other).map Prod.fst else none := by
  simp only [reading?, read?_bare]
  by_cases same : other = id
  · simp only [same, if_true, Option.map_map]
    rfl
  · simp only [same, if_false]

theorem payload?_reading (reading : Reading) :
    EndAnswer.payload? (.reading (some reading)) = reading.payload? := by
  cases reading <;> rfl

theorem payload?_item (reading : Reading) :
    EndAnswer.payload? (.item (some (itemOf reading))) = reading.payload? := by
  cases reading <;> rfl

/-- What an act does to the channel without its handles, and what a receiver takes out in it. -/
theorem bare_act (act : EndAct) :
    (channel.act publisherHeld act).state.bare =
        channel.bare.run (act.onBare channel publisherHeld) ∧
      ∀ id, Reading.payloads (channel.bare.readings id (act.onBare channel publisherHeld)) =
        (act.taken? id (channel.act publisherHeld act).answer).toList := by
  cases act with
  | openStream => exact ⟨rfl, fun id => rfl⟩
  | closeStream => exact ⟨rfl, fun id => rfl⟩
  | subscribe => exact ⟨rfl, fun id => rfl⟩
  | intoReceiver => exact ⟨rfl, fun id => rfl⟩
  | leave other => exact ⟨rfl, fun id => rfl⟩
  | read other =>
      have state := channel.received_bare publisherHeld other
      have taken := fun id => channel.reading?_bare publisherHeld id other
      simp only [Channel.act, EndAct.onBare, run, List.foldl, perform, readings, state, taken,
        EndAct.taken?, EndAct.reader?, Option.some.injEq, List.append_nil]
      cases channel.read? publisherHeld other with
      | none =>
          refine ⟨rfl, fun id => ?_⟩
          by_cases same : other = id <;> simp [same, EndAnswer.payload?]
      | some outcome =>
          refine ⟨rfl, fun id => ?_⟩
          by_cases same : other = id <;>
            simp [same, payload?_reading, Reading.payloads_cons]
  | next other =>
      have state := channel.received_bare publisherHeld other
      have taken := fun id => channel.reading?_bare publisherHeld id other
      simp only [Channel.act, EndAct.onBare, nextItem?, EndAct.taken?, EndAct.reader?,
        Option.some.injEq]
      cases reads : channel.read? publisherHeld other with
      | none =>
          simp only [run, List.foldl, perform, readings, state, taken, reads, List.append_nil]
          refine ⟨rfl, fun id => ?_⟩
          by_cases same : other = id <;> simp [same, EndAnswer.payload?]
      | some outcome =>
          rcases outcome with ⟨reading, later⟩
          rw [reads] at state taken
          cases reading
          case lagged missed =>
              rcases channel.read?_again publisherHeld reads with ⟨sameOpen, again⟩
              rcases Option.isSome_iff_exists.mp again with ⟨⟨second, last⟩, readsAgain⟩
              have stateAgain := later.received_bare publisherHeld other
              have takenAgain := fun id => later.reading?_bare publisherHeld id other
              rw [sameOpen, readsAgain] at stateAgain takenAgain
              simp only [run, List.foldl, perform, readings, state, taken, List.append_nil,
                Option.elim_some, stateAgain, takenAgain, readsAgain, Option.map_some]
              refine ⟨trivial, fun id => ?_⟩
              by_cases same : other = id <;>
                simp [same, payload?_item, Reading.payloads_cons, Reading.payload?]
          all_goals
            simp only [run, List.foldl, perform, readings, state, taken, List.append_nil]
            refine ⟨rfl, fun id => ?_⟩
            by_cases same : other = id <;> simp [same, payload?_item, Reading.payloads_cons]

/-- No payload is published in an act on an end, and only leaving takes a receiver away. -/
theorem onBare_quiet (act : EndAct) :
    publishedIn (act.onBare channel publisherHeld) = [] ∧
      ∀ id, act ≠ .leave id → .receiver (.leave id) ∉ act.onBare channel publisherHeld := by
  cases act with
  | next other =>
      simp only [EndAct.onBare]
      split <;> simp [publishedIn]
  | leave other =>
      refine ⟨rfl, fun id stays => ?_⟩
      simpa [EndAct.onBare, eq_comm] using stays
  | _ => simp [EndAct.onBare, publishedIn]

/-- What is not done by a receiver is no reading and no leaving of this receiver. -/
theorem onBare_waiting {act : EndAct} {id : Nat} (other : act.actor? ≠ some id) :
    .receiver (.leave id) ∉ act.onBare channel publisherHeld ∧
      ∀ held, .receiver (.read id held) ∉ act.onBare channel publisherHeld := by
  cases act with
  | read reader | leave reader =>
      have different : reader ≠ id := fun same => other (congrArg some same)
      simp [EndAct.onBare, Ne.symm different]
  | next reader =>
      have different : reader ≠ id := fun same => other (congrArg some same)
      simp only [EndAct.onBare]
      split <;> simp [Ne.symm different]
  | _ => simp [EndAct.onBare]

variable {channel} {id : Nat} {inbox : List String}

/-- What a receiver takes out in an act comes off its inbox. -/
theorem Serves.act (serves : Serves channel.bare id inbox) (publisherHeld : Bool) {act : EndAct}
    (stays : act ≠ .leave id) :
    ∃ left, Serves (channel.act publisherHeld act).state.bare id left ∧
      ((act.taken? id (channel.act publisherHeld act).answer).toList ++ left).Sublist inbox := by
  rcases channel.bare_act publisherHeld act with ⟨state, taken⟩
  rcases channel.onBare_quiet publisherHeld act with ⟨quiet, leaves⟩
  rcases serves.run (leaves id stays) with ⟨readings, later⟩
  have order := Inbox.readings_sublist channel.bare.capacity inbox
    (sights id (act.onBare channel publisherHeld))
  rw [← readings, taken, payloads_sights, quiet, List.append_nil] at order
  exact ⟨_, state ▸ later, order⟩

theorem Records.act {all : List String} (records : Records channel.bare all)
    (publisherHeld : Bool) (act : EndAct) :
    ∃ later, Records (channel.act publisherHeld act).state.bare later := by
  rw [(channel.bare_act publisherHeld act).1]
  exact records.run _

theorem capacity_act (channel : Channel) (publisherHeld : Bool) (act : EndAct) :
    (channel.act publisherHeld act).state.capacity = channel.capacity := by
  have same := congrArg Channel.capacity (channel.bare_act publisherHeld act).1
  rw [capacity_run] at same
  exact same

theorem bare_publish (channel : Channel) (text : String) :
    (channel.publish text).2.bare = (channel.bare.publish text).2 := by
  cases unheard : channel.receivers.isEmpty <;> simp [Channel.publish, bare, unheard, subscribers]

theorem capacity_publish (channel : Channel) (text : String) :
    (channel.publish text).2.capacity = channel.capacity :=
  capacity_perform (.publish text)

end Acts

/-- The channel had a receiver of this name, and has it no more. -/
def Away (channel : Channel) (id : Nat) : Prop :=
  id < channel.issued ∧ id ∉ channel.receivers.map Receiver.id

section Leaving

variable {channel : Channel} {id : Nat}

theorem Away.receiver? (away : Away channel id) : channel.receiver? id = none := by
  apply List.find?_eq_none.mpr
  intro receiver member named
  exact away.2 (List.mem_map.mpr ⟨receiver, member, by simpa using named⟩)

/-- Names are not given again, so whoever has left stays away. -/
theorem Away.perform (away : Away channel id) (act : Act) : Away (channel.perform act) id := by
  rcases away with ⟨older, absent⟩
  cases act with
  | publish text =>
      have issued : (channel.publish text).2.issued = channel.issued := by
        simp only [Channel.publish]
        split <;> rfl
      refine ⟨issued ▸ older, ?_⟩
      rw [Channel.perform, receivers_publish]
      exact absent
  | receiver act =>
      cases act with
      | subscribe =>
          refine ⟨Nat.lt_succ_of_lt older, ?_⟩
          simp only [Channel.perform, received, subscribe, List.map_append, List.mem_append,
            not_or]
          exact ⟨absent, by simpa using Nat.ne_of_lt older⟩
      | leave other =>
          refine ⟨older, ?_⟩
          intro member
          rcases List.mem_map.mp member with ⟨receiver, kept, named⟩
          exact absent (List.mem_map.mpr ⟨receiver, (List.mem_filter.mp kept).1, named⟩)
      | read other publisherHeld =>
          simp only [Channel.perform, received, read?_eq]
          cases channel.receiver? other with
          | none => exact ⟨older, absent⟩
          | some receiver =>
              refine ⟨older, ?_⟩
              rw [Option.map_some, Option.map_some, Option.getD_some, map_id_moveTo]
              exact absent

theorem Away.run (away : Away channel id) (acts : List Act) :
    Away (channel.run acts) id ∧ channel.readings id acts = [] := by
  induction acts generalizing channel with
  | nil => exact ⟨away, rfl⟩
  | cons act rest ih =>
      rcases ih (away.perform act) with ⟨later, nothing⟩
      refine ⟨later, ?_⟩
      have now : channel.reading? id act = none := by
        simp only [reading?]
        split
        · split
          · rw [read?_eq, away.receiver?]
            rfl
          · rfl
        · rfl
      rw [readings, now, nothing]
      rfl

theorem Away.act (away : Away channel.bare id) (publisherHeld : Bool) (act : EndAct) :
    Away (channel.act publisherHeld act).state.bare id ∧
      act.taken? id (channel.act publisherHeld act).answer = none := by
  rcases channel.bare_act publisherHeld act with ⟨state, taken⟩
  rcases away.run (act.onBare channel publisherHeld) with ⟨later, nothing⟩
  refine ⟨state ▸ later, ?_⟩
  have none := taken id
  rw [nothing] at none
  exact Option.toList_eq_nil_iff.mp none.symm

/-- A receiver that leaves is away from then on. -/
theorem Serves.leave {inbox : List String} (serves : Serves channel.bare id inbox)
    (publisherHeld : Bool) : Away (channel.act publisherHeld (.leave id)).state.bare id := by
  rcases serves with ⟨all, receiver, records, found, _⟩
  rcases mem_of_receiver? found with ⟨member, named⟩
  refine ⟨?_, ?_⟩
  · have older := records.named receiver member
    rw [named] at older
    exact older
  · intro member
    rcases List.mem_map.mp member with ⟨other, kept, same⟩
    have different := (List.mem_filter.mp kept).2
    rw [same] at different
    simp at different

end Leaving

end ConsoleFeed.Channel
