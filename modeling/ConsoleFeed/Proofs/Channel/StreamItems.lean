import ConsoleFeed.Channel.Broadcast
import ConsoleFeed.Proofs.Channel.Ends
import Mathlib.Data.List.Permutation

/-!
# Streams beside receivers

A stream without lag reports is a receiver of which the reports are left out. This file sets the two
side by side: reading past reports is a loop, `readPast?`, which goes on for as long as it is told
of lag, and the next item of a stream is what this loop ends with, its reports turned into events
(`nextItem?_eq_readPast?`).

A stream and a receiver that were made at the same point have the same inbox from then on, whatever
is published and whatever the other ends of the channel do (`Abreast`), as long as each `next` of
the stream comes with a reading past the reports by the receiver. So they yield the same. That the
loop ends after one report is a fact about the channel; that a payload follows is one about inboxes.
-/

namespace ConsoleFeed

namespace Inbox

/-- The reports that come before anything else is read. -/
def reports (capacity : Nat) (unread : List String) : List Nat :=
  if capacity < unread.length then [unread.length - capacity] else []

/-- What is read once the reports are over, and what is unread afterwards. -/
def readPast (capacity : Nat) (publisherHeld : Bool) (unread : List String) :
    Reading × List String :=
  read capacity publisherHeld (unread.drop (unread.length - capacity))

section ReadPast

variable (capacity : Nat) (publisherHeld : Bool) (unread : List String)

theorem readPast_of_kept (kept : unread.length ≤ capacity) :
    readPast capacity publisherHeld unread = read capacity publisherHeld unread := by
  rw [readPast, Nat.sub_eq_zero_of_le kept, List.drop_zero]

/-- No report follows a report. -/
theorem readPast_ne_lagged (missed : Nat) :
    (readPast capacity publisherHeld unread).1 ≠ .lagged missed := by
  intro told
  have more := ((read_lagged_iff _ _ _ missed).mp told).1
  rw [List.length_drop] at more
  omega

/-- If the channel keeps anything at all, a payload follows a report. -/
theorem payload_of_reports (positive : 0 < capacity) (told : reports capacity unread ≠ []) :
    ∃ text, (readPast capacity publisherHeld unread).1 = .payload text := by
  have lagging : capacity < unread.length := by
    apply Decidable.byContradiction
    intro kept
    exact told (if_neg kept)
  have length : (unread.drop (unread.length - capacity)).length = capacity := by
    rw [List.length_drop]
    omega
  rcases read_cases capacity publisherHeld (unread.drop (unread.length - capacity)) with
    ⟨more, _⟩ | ⟨nothing, _⟩ | ⟨text, rest, _, _, result⟩
  · omega
  · rw [nothing, List.length_nil] at length
    omega
  · exact ⟨text, congrArg Prod.fst result⟩

theorem length_reports_le : (reports capacity unread).length ≤ 1 := by
  unfold reports
  split <;> simp

end ReadPast

end Inbox

namespace Channel

section Reports

variable {channel moved : Channel} {publisherHeld : Bool} {id missed : Nat} {reading : Reading}

/-- Lag is reported to whoever stands before the oldest payload kept, and leaves him there. -/
theorem readAt_of_lagged {position : Nat}
    (told : (channel.readAt publisherHeld position).1 = .lagged missed) :
    position < channel.oldest ∧ (channel.readAt publisherHeld position).2 = channel.oldest := by
  unfold readAt at told ⊢
  by_cases behind : position < channel.oldest
  · rw [if_pos behind]
    exact ⟨behind, rfl⟩
  · rw [if_neg behind] at told
    cases kept : channel.kept[position - channel.oldest]? with
    | some text => simp [kept] at told
    | none => cases isOpen : channel.isOpen publisherHeld <;> simp [kept, isOpen] at told

theorem moved_of_lagged (reads : channel.read? publisherHeld id = some (.lagged missed, moved)) :
    ∃ receiver, channel.receiver? id = some receiver ∧ receiver.next < channel.oldest ∧
      moved = channel.moveTo id channel.oldest := by
  rw [read?_eq] at reads
  rcases Option.map_eq_some_iff.mp reads with ⟨receiver, found, same⟩
  rcases readAt_of_lagged (congrArg Prod.fst same) with ⟨behind, there⟩
  have moves := congrArg Prod.snd same
  rw [there] at moves
  exact ⟨receiver, found, behind, moves.symm⟩

theorem receiver?_moved {receiver : Receiver} (found : channel.receiver? id = some receiver)
    (position : Nat) :
    (channel.moveTo id position).receiver? id = some { receiver with next := position } := by
  rw [receiver?_moveTo, found, Option.map_some, if_pos (mem_of_receiver? found).2]

/-- Reads with a receiver for as long as it is told of lag: what it was told, what it read then, and
the channel afterwards. -/
def readPast? (channel : Channel) (publisherHeld : Bool) (id : Nat) :
    Option (List Nat × Reading × Channel) :=
  match _reads : channel.read? publisherHeld id with
  | none => none
  | some (.lagged missed, moved) =>
      (moved.readPast? publisherHeld id).map fun past => (missed :: past.1, past.2)
  | some (reading, later) => some ([], reading, later)
termination_by (channel.receiver? id).elim 0 fun receiver => channel.oldest - receiver.next
decreasing_by
  rcases moved_of_lagged _reads with ⟨receiver, found, behind, rfl⟩
  rw [receiver?_moved found, found]
  change channel.oldest - channel.oldest < channel.oldest - receiver.next
  omega

theorem readPast?_of_none (reads : channel.read? publisherHeld id = none) :
    channel.readPast? publisherHeld id = none := by
  rw [readPast?]
  split <;> simp_all

theorem readPast?_of_lagged
    (reads : channel.read? publisherHeld id = some (.lagged missed, moved)) :
    channel.readPast? publisherHeld id =
      (moved.readPast? publisherHeld id).map fun past => (missed :: past.1, past.2) := by
  rw [readPast?]
  split <;> simp_all

theorem readPast?_of_told (reads : channel.read? publisherHeld id = some (reading, moved))
    (told : ∀ missed, reading ≠ .lagged missed) :
    channel.readPast? publisherHeld id = some ([], reading, moved) := by
  rw [readPast?]
  split
  case h_1 nothing => simp [reads] at nothing
  case h_2 lagged =>
      rw [reads] at lagged
      cases lagged
      exact absurd rfl (told _)
  case h_3 again =>
      rw [reads] at again
      cases again
      rfl

/-- After a report the next read gives something else. -/
theorem read?_after_lagged
    (reads : channel.read? publisherHeld id = some (.lagged missed, moved)) :
    ∃ reading later, moved.read? publisherHeld id = some (reading, later) ∧
      ∀ missed, reading ≠ .lagged missed := by
  rcases moved_of_lagged reads with ⟨receiver, found, _, rfl⟩
  refine ⟨_, _, by rw [read?_eq, receiver?_moved found, Option.map_some], ?_⟩
  intro again told
  have reread : (channel.moveTo id channel.oldest).read? publisherHeld id = _ :=
    read?_eq publisherHeld id
  rw [receiver?_moved found, Option.map_some, told] at reread
  rcases moved_of_lagged reread with ⟨second, foundAgain, behind, _⟩
  rw [receiver?_moved found] at foundAgain
  cases foundAgain
  exact Nat.lt_irrefl channel.oldest behind

/-- The next item of a stream is what reading past the reports ends with, and the reports are what
it logs. -/
theorem nextItem?_eq_readPast? (channel : Channel) (publisherHeld : Bool) (id : Nat) :
    channel.nextItem? publisherHeld id =
      (channel.readPast? publisherHeld id).map fun past =>
        ⟨itemOf past.2.1, past.2.2, past.1.map .receiverLagged⟩ := by
  cases reads : channel.read? publisherHeld id with
  | none =>
      rw [readPast?_of_none reads]
      simp only [nextItem?, reads]
      rfl
  | some outcome =>
      rcases outcome with ⟨reading, moved⟩
      cases reading
      case lagged missed =>
          rcases read?_after_lagged reads with ⟨reading, later, readsAgain, told⟩
          rw [readPast?_of_lagged reads, readPast?_of_told readsAgain told]
          simp only [nextItem?, reads, readsAgain]
          rfl
      all_goals
        rw [readPast?_of_told reads (by simp)]
        simp only [nextItem?, reads]
        rfl

end Reports

section Serving

variable {channel : Channel} {id other : Nat} {inbox rest : List String}

/-- Reading past the reports gives what the receiver's inbox gives, and only moves the receiver on.
-/
theorem Serves.readPast (serves : Serves channel.bare id inbox) (publisherHeld : Bool) :
    ∃ position, channel.readPast? publisherHeld id =
        some (Inbox.reports channel.capacity inbox,
          (Inbox.readPast channel.capacity (channel.isOpen publisherHeld) inbox).1,
          channel.moveTo id position) ∧
      Serves (channel.moveTo id position).bare id
        (Inbox.readPast channel.capacity (channel.isOpen publisherHeld) inbox).2 := by
  have told := Inbox.readPast_ne_lagged channel.capacity (channel.isOpen publisherHeld) inbox
  rcases serves.read_bare publisherHeld with ⟨position, reads, later⟩
  by_cases lagging : channel.capacity < inbox.length
  · rw [Inbox.read_of_lagging _ _ _ lagging] at reads later
    rcases later.read_bare publisherHeld with ⟨second, readsAgain, last⟩
    rw [moveTo_moveTo] at readsAgain last
    refine ⟨second, ?_, last⟩
    rw [readPast?_of_lagged reads, readPast?_of_told readsAgain told, Inbox.reports,
      if_pos lagging]
    rfl
  · rw [← Inbox.readPast_of_kept _ _ _ (Nat.le_of_not_lt lagging)] at reads later
    refine ⟨position, ?_, later⟩
    rw [readPast?_of_told reads told, Inbox.reports, if_neg lagging]

/-- A receiver keeps its inbox while another one moves on. -/
theorem Serves.moveTo_of_ne {position : Nat} (serves : Serves channel.bare id inbox)
    (moved : Serves (channel.moveTo other position).bare other rest) (different : id ≠ other) :
    Serves (channel.moveTo other position).bare id inbox := by
  rcases serves with ⟨all, receiver, records, found, unread⟩
  rcases moved with ⟨same, _, recordsMoved, _, _⟩
  have length : same.length = all.length := recordsMoved.published.symm.trans records.published
  refine ⟨all, receiver, ?_, ?_, unread⟩
  · refine ⟨records.published, records.kept, ?_, recordsMoved.named, recordsMoved.distinct, rfl⟩
    intro receiver member
    exact length ▸ recordsMoved.behind receiver member
  · have named := (mem_of_receiver? found).2
    have kept : (channel.moveTo other position).receiver? id = some receiver := by
      have present : channel.receiver? id = some receiver := found
      rw [receiver?_moveTo, present, Option.map_some, named, if_neg different]
    exact kept

/-- An act of another end leaves the inbox alone. -/
theorem Serves.act_of_other (serves : Serves channel.bare id inbox) (publisherHeld : Bool)
    {act : EndAct} (elsewhere : act.reader? ≠ some id) (stays : act ≠ .leave id) :
    Serves (channel.act publisherHeld act).state.bare id inbox := by
  have unseen : sights id (act.onBare channel publisherHeld) = [] := by
    cases act with
    | read reader =>
        have different : reader ≠ id := fun same => elsewhere (congrArg some same)
        simp [EndAct.onBare, sights, sight?, different]
    | next reader =>
        have different : reader ≠ id := fun same => elsewhere (congrArg some same)
        simp only [EndAct.onBare]
        split <;> simp [sights, sight?, different]
    | _ => simp [EndAct.onBare, sights, sight?]
  have later := (serves.run ((channel.onBare_quiet publisherHeld act).2 id stays)).2
  rw [unseen] at later
  exact (channel.bare_act publisherHeld act).1 ▸ later

/-- Two receivers that join one after the other start with the same inbox. -/
theorem Records.serves_twice {all : List String} (records : Records channel all) :
    Serves channel.subscribe.2.subscribe.2 channel.issued [] ∧
      Serves channel.subscribe.2.subscribe.2 (channel.issued + 1) [] := by
  have stays : Act.receiver .subscribe ≠ .receiver (.leave channel.issued) := by simp
  exact ⟨(records.serves_subscribe.perform stays).2, records.subscribe.serves_subscribe⟩

end Serving

/-- Two receivers with the same inbox. -/
structure Abreast (channel : Channel) (first second : Nat) : Prop where
  apart : first ≠ second
  positive : 0 < channel.capacity
  shared : ∃ inbox, Serves channel.bare first inbox ∧ Serves channel.bare second inbox

section Abreast

variable {channel : Channel} {first second : Nat}

theorem Abreast.symm (abreast : Abreast channel first second) : Abreast channel second first := by
  rcases abreast with ⟨apart, positive, inbox, serves, servesSecond⟩
  exact ⟨apart.symm, positive, inbox, servesSecond, serves⟩

theorem Abreast.publish (abreast : Abreast channel first second) (payload : String) :
    Abreast (channel.publish payload).2 first second := by
  have offered : ∀ {id : Nat} {inbox : List String}, Serves channel.bare id inbox →
      Serves (channel.publish payload).2.bare id (inbox ++ [payload]) := by
    intro id inbox serves
    have stays : Act.publish payload ≠ .receiver (.leave id) := by simp
    rw [bare_publish]
    exact (serves.perform stays).2
  rcases abreast with ⟨apart, positive, inbox, serves, servesSecond⟩
  exact ⟨apart, (capacity_publish channel payload).symm ▸ positive, inbox ++ [payload],
    offered serves, offered servesSecond⟩

theorem Abreast.act (abreast : Abreast channel first second) (publisherHeld : Bool) {act : EndAct}
    (spared : act.reader? ≠ some first ∧ act ≠ .leave first)
    (sparedSecond : act.reader? ≠ some second ∧ act ≠ .leave second) :
    Abreast (channel.act publisherHeld act).state first second := by
  rcases abreast with ⟨apart, positive, inbox, serves, servesSecond⟩
  exact ⟨apart, (channel.capacity_act publisherHeld act).symm ▸ positive, inbox,
    serves.act_of_other publisherHeld spared.1 spared.2,
    servesSecond.act_of_other publisherHeld sparedSecond.1 sparedSecond.2⟩

/-- One after the other reads past the reports and finds the same. -/
theorem Abreast.readPast (abreast : Abreast channel first second) (publisherHeld : Bool) :
    ∃ inbox later last, channel.readPast? publisherHeld first =
        some (Inbox.reports channel.capacity inbox,
          (Inbox.readPast channel.capacity (channel.isOpen publisherHeld) inbox).1, later) ∧
      later.readPast? publisherHeld second =
        some (Inbox.reports channel.capacity inbox,
          (Inbox.readPast channel.capacity (channel.isOpen publisherHeld) inbox).1, last) ∧
      Abreast last first second := by
  rcases abreast with ⟨apart, positive, inbox, serves, servesSecond⟩
  rcases serves.readPast publisherHeld with ⟨position, reads, later⟩
  have waiting := servesSecond.moveTo_of_ne later apart.symm
  rcases waiting.readPast publisherHeld with ⟨positionSecond, readsSecond, laterSecond⟩
  exact ⟨inbox, _, _, reads, readsSecond, apart, positive, _,
    later.moveTo_of_ne laterSecond apart, laterSecond⟩

end Abreast

end Channel

/-- The payload that an item gives. -/
def StreamItem.payload? : StreamItem → Option String
  | .payload text => some text
  | _ => none

namespace Broadcast

open Channel

/-- Something that happens to a broadcast. Only its publisher can publish. -/
inductive Happening where
  | publish (payload : String)
  | publisherLeaves
  | ends (act : EndAct)

/-- The broadcast after something that happened to it. -/
def after (broadcast : Broadcast) : Happening → Broadcast
  | .publish payload =>
      if broadcast.publisherHeld then
        { broadcast with channel := (broadcast.channel.publish payload).2 }
      else broadcast
  | .publisherLeaves => { broadcast with publisherHeld := false }
  | .ends act =>
      { broadcast with channel := (broadcast.channel.act broadcast.publisherHeld act).state }

/-- The broadcast after things that happened to it, one after the other. -/
def afterAll (broadcast : Broadcast) (happenings : List Happening) : Broadcast :=
  happenings.foldl after broadcast

/-- A receiver neither reads nor leaves in what happens. -/
def Happening.Spares (id : Nat) : Happening → Prop
  | .ends act => act.reader? ≠ some id ∧ act ≠ .leave id
  | _ => True

/-- A stream and a receiver of a broadcast. -/
structure Pair where
  stream : Nat
  receiver : Nat
  broadcast : Broadcast

/-- Turns a stream handle into a stream and subscribes a receiver, in either order. -/
def pair (broadcast : Broadcast) (streamFirst : Bool) : Pair :=
  if streamFirst then
    let turned := broadcast.channel.intoReceiver
    let subscribed := turned.2.subscribe
    ⟨turned.1, subscribed.1, { broadcast with channel := subscribed.2 }⟩
  else
    let subscribed := broadcast.channel.subscribe
    let turned := subscribed.2.intoReceiver
    ⟨turned.1, subscribed.1, { broadcast with channel := turned.2 }⟩

/-- What comes of a `next` of the stream and the reads of the receiver that go with it. -/
structure Turn where
  item : StreamItem
  events : List Event
  reports : List Nat
  reading : Reading

/-- Something that happens to the broadcast of a pair, or a turn of the pair. -/
inductive Moment where
  | happens (happening : Happening)
  | turn (streamFirst : Bool)

/-- The stream gives its next item and the receiver reads past its reports, in either order. -/
def Pair.turn? (pair : Pair) (streamFirst : Bool) : Option (Turn × Pair) :=
  let held := pair.broadcast.publisherHeld
  if streamFirst then
    (pair.broadcast.channel.nextItem? held pair.stream).bind fun reply =>
      (reply.state.readPast? held pair.receiver).map fun past =>
        (⟨reply.answer, reply.events, past.1, past.2.1⟩,
          { pair with broadcast := ⟨past.2.2, held⟩ })
  else
    (pair.broadcast.channel.readPast? held pair.receiver).bind fun past =>
      (past.2.2.nextItem? held pair.stream).map fun reply =>
        (⟨reply.answer, reply.events, past.1, past.2.1⟩,
          { pair with broadcast := ⟨reply.state, held⟩ })

/-- The turns that a pair takes in the course of moments. -/
def Pair.turns (pair : Pair) : List Moment → List (Option Turn)
  | [] => []
  | .happens happening :: rest =>
      { pair with broadcast := pair.broadcast.after happening : Pair }.turns rest
  | .turn streamFirst :: rest =>
      match pair.turn? streamFirst with
      | none => none :: pair.turns rest
      | some (turn, later) => some turn :: later.turns rest

/-- Neither of a pair reads or leaves but in its turns. -/
def Pair.Spared (pair : Pair) (moments : List Moment) : Prop :=
  ∀ happening, .happens happening ∈ moments →
    happening.Spares pair.stream ∧ happening.Spares pair.receiver

/-- How many turns there are in the course of moments. -/
def turnCount (moments : List Moment) : Nat :=
  moments.countP fun moment =>
    match moment with
    | .turn _ => true
    | .happens _ => false

/-- The two of a pair yield the same in a turn, but for one report that only the receiver gives.
That report is logged instead, and a payload follows it. -/
structure Turn.Agrees (turn : Turn) : Prop where
  payload : ∀ text, turn.item = .payload text ↔ turn.reading = .payload text
  pending : turn.item = .pending ↔ turn.reading = .empty
  ended : turn.item = .ended ↔ turn.reading = .closed
  skips : turn.reports.length ≤ 1
  logs : turn.events = turn.reports.map .receiverLagged
  follows : turn.reports ≠ [] → ∃ text, turn.item = .payload text

section Turns

variable {pair later : Pair} {turn : Turn}

/-- What an inbox gives, with its reports left out and with them. -/
theorem agrees_of_inbox {capacity : Nat} (positive : 0 < capacity) (publisherHeld : Bool)
    (inbox : List String) :
    let reading := (Inbox.readPast capacity publisherHeld inbox).1
    let reports := Inbox.reports capacity inbox
    Turn.Agrees ⟨itemOf reading, reports.map .receiverLagged, reports, reading⟩ := by
  intro reading reports
  have told : ∀ missed, reading ≠ .lagged missed := Inbox.readPast_ne_lagged _ _ _
  refine ⟨?_, ?_, ?_, Inbox.length_reports_le _ _, rfl, ?_⟩
  · intro text
    cases reading <;> simp [itemOf]
  · cases read : reading <;> simp_all [itemOf]
  · cases reading <;> simp [itemOf]
  · intro lagged
    rcases Inbox.payload_of_reports capacity publisherHeld inbox positive lagged with ⟨text, same⟩
    exact ⟨text, congrArg itemOf same⟩

/-- A pair that is abreast takes its turn, agrees in it, and is abreast afterwards. -/
theorem exists_turn
    (abreast : Abreast pair.broadcast.channel pair.stream pair.receiver) (streamFirst : Bool) :
    ∃ turn later, pair.turn? streamFirst = some (turn, later) ∧ turn.Agrees ∧
      later.stream = pair.stream ∧ later.receiver = pair.receiver ∧
      Abreast later.broadcast.channel later.stream later.receiver := by
  cases streamFirst with
  | true =>
      rcases abreast.readPast pair.broadcast.publisherHeld with
        ⟨inbox, later, last, reads, readsSecond, abreastLater⟩
      refine ⟨_, { pair with broadcast := ⟨last, pair.broadcast.publisherHeld⟩ }, ?_,
        agrees_of_inbox abreast.positive
          (pair.broadcast.channel.isOpen pair.broadcast.publisherHeld) inbox, rfl, rfl,
        abreastLater⟩
      simp only [Pair.turn?, nextItem?_eq_readPast?, reads, if_true, Option.map_some,
        Option.bind_some, readsSecond]
  | false =>
      rcases abreast.symm.readPast pair.broadcast.publisherHeld with
        ⟨inbox, later, last, reads, readsSecond, abreastLater⟩
      refine ⟨_, { pair with broadcast := ⟨last, pair.broadcast.publisherHeld⟩ }, ?_,
        agrees_of_inbox abreast.positive
          (pair.broadcast.channel.isOpen pair.broadcast.publisherHeld) inbox, rfl, rfl,
        abreastLater.symm⟩
      simp [Pair.turn?, nextItem?_eq_readPast?, reads, readsSecond]

theorem abreast_after (abreast : Abreast pair.broadcast.channel pair.stream pair.receiver)
    {happening : Happening} (spared : happening.Spares pair.stream)
    (sparedSecond : happening.Spares pair.receiver) :
    Abreast (pair.broadcast.after happening).channel pair.stream pair.receiver := by
  cases happening with
  | publish payload =>
      simp only [after]
      split
      · exact abreast.publish payload
      · exact abreast
  | publisherLeaves => exact abreast
  | ends act => exact abreast.act pair.broadcast.publisherHeld spared sparedSecond

/-- A pair that is abreast takes every turn, and agrees in each. -/
theorem exists_turns (abreast : Abreast pair.broadcast.channel pair.stream pair.receiver)
    {moments : List Moment} (spared : pair.Spared moments) :
    ∃ turns : List Turn, pair.turns moments = turns.map some ∧
      turns.length = turnCount moments ∧ ∀ turn ∈ turns, turn.Agrees := by
  induction moments generalizing pair with
  | nil => exact ⟨[], rfl, rfl, by simp⟩
  | cons moment rest ih =>
      have sparedLater : pair.Spared rest := fun happening member =>
        spared happening (List.mem_cons_of_mem moment member)
      cases moment with
      | happens happening =>
          rcases spared happening List.mem_cons_self with ⟨sparesStream, sparesReceiver⟩
          exact ih (abreast_after abreast sparesStream sparesReceiver) sparedLater
      | turn streamFirst =>
          rcases exists_turn abreast streamFirst with
            ⟨turn, later, taken, agrees, sameStream, sameReceiver, abreastLater⟩
          have sparedThen : later.Spared rest := by
            rw [Pair.Spared, sameStream, sameReceiver]
            exact sparedLater
          rcases ih abreastLater sparedThen with ⟨turns, same, count, agree⟩
          refine ⟨turn :: turns, ?_, ?_, ?_⟩
          · rw [Pair.turns, taken, List.map_cons, ← same]
          · simp [turnCount, count]
          · intro other member
            rcases List.mem_cons.mp member with rfl | member
            · exact agrees
            · exact agree other member

theorem Turn.Agrees.payload?_eq (agrees : turn.Agrees) :
    turn.item.payload? = turn.reading.payload? := by
  cases item : turn.item with
  | payload text => rw [(agrees.payload text).mp item]; rfl
  | pending => rw [agrees.pending.mp item]; rfl
  | ended => rw [agrees.ended.mp item]; rfl

end Turns

section Past

/-- The channel of a broadcast keeps something, and the last of what was published. -/
def Kept (broadcast : Broadcast) : Prop :=
  0 < broadcast.channel.capacity ∧ ∃ all, Records broadcast.channel.bare all

variable {broadcast : Broadcast}

theorem kept_create (queueCapacity : Nat) : (create queueCapacity).Kept :=
  ⟨roundedCapacity_pos queueCapacity, [], records_create queueCapacity⟩

theorem Kept.after (kept : broadcast.Kept) (happening : Happening) :
    (broadcast.after happening).Kept := by
  rcases kept with ⟨positive, all, records⟩
  cases happening with
  | publish payload =>
      simp only [Broadcast.after]
      split
      · rcases records.perform (.publish payload) with ⟨later, recordsLater⟩
        exact ⟨(capacity_publish broadcast.channel payload).symm ▸ positive, later,
          bare_publish broadcast.channel payload ▸ recordsLater⟩
      · exact ⟨positive, all, records⟩
  | publisherLeaves => exact ⟨positive, all, records⟩
  | ends act =>
      exact ⟨(broadcast.channel.capacity_act broadcast.publisherHeld act).symm ▸ positive,
        records.act broadcast.publisherHeld act⟩

theorem Kept.afterAll (kept : broadcast.Kept) (happenings : List Happening) :
    (broadcast.afterAll happenings).Kept := by
  induction happenings generalizing broadcast with
  | nil => exact kept
  | cons happening rest ih => exact ih (kept.after happening)

/-- A stream and a receiver that were made at the same point are abreast. -/
theorem Kept.abreast_pair (kept : broadcast.Kept) (streamFirst : Bool) :
    let pair := broadcast.pair streamFirst
    Abreast pair.broadcast.channel pair.stream pair.receiver := by
  rcases kept with ⟨positive, all, records⟩
  rcases records.serves_twice with ⟨older, younger⟩
  cases streamFirst with
  | true => exact ⟨Nat.ne_of_lt (Nat.lt_succ_self _), positive, [], older, younger⟩
  | false => exact ⟨Nat.ne_of_gt (Nat.lt_succ_self _), positive, [], younger, older⟩

end Past

/-- Whatever happened to a channel, turning a stream handle into a stream uses the handle up and
adds a subscriber; and a stream and a receiver made at the same point yield the same from then on,
whatever happens, if each `next` goes with reads past the reports: the same payloads in the same
order, and nothing or the end at the same time. In each turn at most one report is left out, which
is logged, and a payload follows it. -/
theorem stream_is_receiver_without_reports (queueCapacity : Nat) (past : List Happening)
    (streamFirst : Bool) (moments : List Moment)
    (handle : 0 < ((create queueCapacity).afterAll past).channel.streams)
    (spared : (((create queueCapacity).afterAll past).pair streamFirst).Spared moments) :
    let before := (create queueCapacity).afterAll past
    let turned := before.channel.intoReceiver.2
    (turned.streams + 1 = before.channel.streams ∧
      turned.subscribers = before.channel.subscribers + 1 ∧
      turned.isOpen before.publisherHeld =
        (before.publisherHeld || decide (1 < before.channel.streams))) ∧
    ∃ turns : List Turn, (before.pair streamFirst).turns moments = turns.map some ∧
      turns.length = turnCount moments ∧ (∀ turn ∈ turns, turn.Agrees) ∧
      turns.filterMap (·.item.payload?) = Reading.payloads (turns.map Turn.reading) := by
  intro before turned
  refine ⟨⟨?_, ?_, ?_⟩, ?_⟩
  · exact Nat.sub_add_cancel handle
  · simp [turned, intoReceiver, subscribe, closeStream, subscribers]
  · have left : (0 < before.channel.streams - 1) ↔ 1 < before.channel.streams := by omega
    simp [turned, intoReceiver, subscribe, closeStream, isOpen, left]
  · have kept : before.Kept := (kept_create queueCapacity).afterAll past
    rcases exists_turns (kept.abreast_pair streamFirst) spared with ⟨turns, same, count, agree⟩
    refine ⟨turns, same, count, agree, ?_⟩
    rw [Reading.payloads, List.filterMap_map]
    exact List.filterMap_congr fun turn member => (agree turn member).payload?_eq

/-- Of two payloads a channel that keeps one gives the second, after one report; of a third one the
pair learns although the publisher has left, and then of the end. -/
theorem stream_is_receiver_without_reports_of_lagging :
    let before := (create 1).afterAll [.ends .openStream]
    let moments : List Moment := [.happens (.publish "first"), .happens (.publish "second"),
      .turn true, .turn false, .happens (.ends (.read 5)), .happens (.publish "third"),
      .happens .publisherLeaves, .turn false, .turn true]
    let turns : List Turn := [⟨.payload "second", [.receiverLagged 1], [1], .payload "second"⟩,
      ⟨.pending, [], [], .empty⟩, ⟨.payload "third", [], [], .payload "third"⟩,
      ⟨.ended, [], [], .closed⟩]
    0 < before.channel.streams ∧ (before.pair true).Spared moments ∧
      (before.pair true).turns moments = turns.map some ∧ ∀ turn ∈ turns, turn.Agrees := by
  intro before moments turns
  have handle : 0 < before.channel.streams := by decide
  have spared : (before.pair true).Spared moments := by
    intro happening member
    simp only [moments, List.mem_cons, Moment.happens.injEq, reduceCtorEq, false_or, or_false,
      List.not_mem_nil] at member
    rcases member with rfl | rfl | rfl | rfl | rfl
    case inr.inr.inl => exact ⟨⟨by decide, by simp⟩, by decide, by simp⟩
    all_goals exact ⟨trivial, trivial⟩
  have taken : (before.pair true).turns moments = turns.map some := by cbv
  refine ⟨handle, spared, taken, ?_⟩
  rcases (stream_is_receiver_without_reports 1 [.ends .openStream] true moments handle spared).2
    with ⟨those, same, _, agree, _⟩
  have equal : turns = those := by
    apply List.map_injective_iff.mpr fun _ _ => Option.some.inj
    exact taken.symm.trans same
  exact equal ▸ agree

end Broadcast

end ConsoleFeed
