import ConsoleFeed.Proofs.Channel.Inbox
import ConsoleFeed.Settings.Basic

/-!
# What each receiver gets of a channel

Receivers join a channel, read at their own pace, fall behind and leave, while payloads are
published. This file accounts for what each of them gets, for every sequence of such acts.

The channel keeps only its last payloads and counts them all, so the account is given over the list
of all payloads that were ever kept (`Records`): a receiver's unread payloads are that list from its
position on. Over this list each act of a channel does to one receiver what the receiver's inbox
does, and an act of another receiver does nothing to it (`Serves.perform`). What holds of inboxes
then holds of receivers.
-/

namespace ConsoleFeed.Channel

/-- Something that a receiver does: it joins, it reads, or it leaves. -/
inductive ReceiverAct where
  | subscribe
  | read (id : Nat) (publisherHeld : Bool)
  | leave (id : Nat)

/-- Something that happens to a channel. -/
inductive Act where
  | publish (payload : String)
  | receiver (act : ReceiverAct)

/-- The channel after something that a receiver did. -/
def received (channel : Channel) : ReceiverAct → Channel
  | .subscribe => channel.subscribe.2
  | .read id publisherHeld => ((channel.read? publisherHeld id).map Prod.snd).getD channel
  | .leave id => channel.unsubscribe id

/-- The channel after something that happened to it. -/
def perform (channel : Channel) : Act → Channel
  | .publish payload => (channel.publish payload).2
  | .receiver act => channel.received act

/-- The channel after acts, one after the other. -/
def run (channel : Channel) (acts : List Act) : Channel :=
  acts.foldl perform channel

/-- What a receiver reads in an act, if it is one of its reads. -/
def reading? (channel : Channel) (id : Nat) : Act → Option Reading
  | .receiver (.read reader publisherHeld) =>
      if reader = id then (channel.read? publisherHeld id).map Prod.fst else none
  | _ => none

/-- What a receiver reads in the course of acts. -/
def readings (channel : Channel) (id : Nat) : List Act → List Reading
  | [] => []
  | act :: rest => (channel.reading? id act).toList ++ (channel.perform act).readings id rest

/-- How many payloads a receiver has yet to read or to lose. -/
def unread (channel : Channel) (id : Nat) : Nat :=
  (channel.receiver? id).elim 0 fun receiver => channel.published - receiver.next

/-- What a receiver sees of an act. -/
def sight? (id : Nat) : Act → Option Sight
  | .publish payload => some (.offered payload)
  | .receiver (.read reader publisherHeld) =>
      if reader = id then some (.reads publisherHeld) else none
  | _ => none

/-- What a receiver sees of acts. -/
def sights (id : Nat) (acts : List Act) : List Sight :=
  acts.filterMap (sight? id)

/-- The payloads that are published in acts. -/
def publishedIn (acts : List Act) : List String :=
  acts.filterMap fun act =>
    match act with
    | .publish payload => some payload
    | .receiver _ => none

/-- The receivers that have joined in acts and have not left, given those that were there before and
how many had joined. -/
def present (issued : Nat) (before : List Nat) : List Act → List Nat
  | [] => before
  | .receiver .subscribe :: rest => present (issued + 1) (before ++ [issued]) rest
  | .receiver (.leave id) :: rest => present issued (before.filter (· != id)) rest
  | _ :: rest => present issued before rest

/-- The channel keeps the last of all these payloads, its receivers stand among them, and their
names are its own and distinct. Only the publisher holds it open. -/
structure Records (channel : Channel) (all : List String) : Prop where
  published : channel.published = all.length
  kept : channel.kept = all.drop (all.length - channel.capacity)
  behind : ∀ receiver ∈ channel.receivers, receiver.next ≤ all.length
  named : ∀ receiver ∈ channel.receivers, receiver.id < channel.issued
  distinct : (channel.receivers.map Receiver.id).Nodup
  noStream : channel.streams = 0

theorem roundedCapacity_pos (queueCapacity : Nat) : 0 < roundedCapacity queueCapacity := by
  unfold roundedCapacity
  split
  · exact Nat.one_pos
  · exact Nat.two_pow_pos _

theorem records_create (queueCapacity : Nat) : Records (create queueCapacity) [] := by
  refine ⟨rfl, ?_, ?_, ?_, ?_, rfl⟩ <;> simp [create]

section Reading

variable {channel : Channel} {all : List String} {id : Nat} {receiver : Receiver}

theorem mem_of_receiver? (found : channel.receiver? id = some receiver) :
    receiver ∈ channel.receivers ∧ receiver.id = id := by
  have named := List.find?_some found
  exact ⟨List.mem_of_find?_eq_some found, by simpa using named⟩

/-- The oldest payload kept stands so far from the end as the channel's capacity says. -/
theorem Records.oldest (records : Records channel all) :
    channel.oldest = all.length - channel.capacity := by
  rw [Channel.oldest, records.published, records.kept, List.length_drop]
  omega

/-- A read at a position is a read of the inbox that holds everything from that position on. -/
theorem Records.readAt (records : Records channel all) (publisherHeld : Bool)
    {position : Nat} (inside : position ≤ all.length) :
    (channel.readAt publisherHeld position).1 =
        (Inbox.read channel.capacity publisherHeld (all.drop position)).1 ∧
      (channel.readAt publisherHeld position).2 ≤ all.length ∧
      all.drop (channel.readAt publisherHeld position).2 =
        (Inbox.read channel.capacity publisherHeld (all.drop position)).2 := by
  have oldest := records.oldest
  by_cases lagging : position < channel.oldest
  · have long : channel.capacity < (all.drop position).length := by
      rw [List.length_drop]
      omega
    have missed : channel.oldest - position = (all.drop position).length - channel.capacity := by
      rw [List.length_drop]
      omega
    rw [Inbox.read_of_lagging _ _ _ long, Channel.readAt, if_pos lagging, ← missed,
      List.drop_drop]
    refine ⟨rfl, by omega, ?_⟩
    congr 1
    omega
  · have behind : channel.oldest ≤ position := Nat.le_of_not_lt lagging
    have sameItem : channel.kept[position - channel.oldest]? = (all.drop position)[0]? := by
      rw [records.kept, ← oldest, List.getElem?_drop, List.getElem?_drop]
      congr 1
      omega
    rw [Channel.readAt, if_neg lagging, sameItem]
    cases here : all.drop position with
    | nil => simp [Inbox.read, isOpen, records.noStream, here, inside]
    | cons text rest =>
        have count : (all.drop position).length = rest.length + 1 := by simp [here]
        rw [List.length_drop] at count
        have fewer : rest.length < channel.capacity := by omega
        rw [Inbox.read_cons _ _ fewer]
        refine ⟨rfl, ?_, ?_⟩
        · change position + 1 ≤ all.length
          omega
        · change all.drop (position + 1) = rest
          rw [← List.drop_drop, here]
          rfl

end Reading

section Acts

variable {channel : Channel} {all : List String}

theorem publish_of_heard (payload : String) (heard : channel.receivers ≠ []) :
    channel.publish payload =
      (channel.subscribers,
        { channel with
          kept := (channel.kept ++ [payload]).drop
            ((channel.kept ++ [payload]).length - channel.capacity)
          published := channel.published + 1 }) := by
  simp [publish, heard]

theorem receivers_publish (payload : String) :
    (channel.publish payload).2.receivers = channel.receivers := by
  by_cases heard : channel.receivers = []
  · simp [publish, heard]
  · rw [publish_of_heard payload heard]

theorem Records.publish (records : Records channel all) (payload : String)
    (heard : channel.receivers ≠ []) :
    Records (channel.publish payload).2 (all ++ [payload]) := by
  rw [publish_of_heard payload heard]
  refine ⟨?_, ?_, ?_, records.named, records.distinct, records.noStream⟩
  · simp [records.published]
  · change (channel.kept ++ [payload]).drop _ = (all ++ [payload]).drop _
    have whole : channel.kept ++ [payload] =
        (all ++ [payload]).drop (all.length - channel.capacity) := by
      rw [records.kept, List.drop_append_of_le_length (Nat.sub_le _ _)]
    rw [whole, List.drop_drop, List.length_drop]
    congr 1
    simp only [List.length_append, List.length_cons, List.length_nil]
    omega
  · intro receiver member
    have inside := records.behind receiver member
    simp only [List.length_append, List.length_cons, List.length_nil]
    omega

theorem Records.subscribe (records : Records channel all) :
    Records channel.subscribe.2 all := by
  refine ⟨records.published, records.kept, ?_, ?_, ?_, records.noStream⟩
  · intro receiver member
    rcases List.mem_append.mp member with old | new
    · exact records.behind receiver old
    · rw [List.mem_singleton.mp new]
      exact Nat.le_of_eq records.published
  · intro receiver member
    change receiver.id < channel.issued + 1
    rcases List.mem_append.mp member with old | new
    · exact Nat.lt_succ_of_lt (records.named receiver old)
    · rw [List.mem_singleton.mp new]
      exact Nat.lt_succ_self channel.issued
  · rw [Channel.subscribe, List.map_append]
    refine List.nodup_append.mpr ⟨records.distinct, by simp, ?_⟩
    intro old oldMember new newMember
    rcases List.mem_map.mp oldMember with ⟨receiver, member, rfl⟩
    have below := records.named receiver member
    simp only [List.map_cons, List.map_nil, List.mem_singleton] at newMember
    omega

theorem map_id_moveTo (id position : Nat) :
    (channel.moveTo id position).receivers.map Receiver.id =
      channel.receivers.map Receiver.id := by
  simp only [moveTo, List.map_map]
  apply List.map_congr_left
  intro receiver _
  simp only [Function.comp]
  split <;> rfl

theorem Records.moveTo (records : Records channel all) (id : Nat) {position : Nat}
    (inside : position ≤ all.length) : Records (channel.moveTo id position) all := by
  have moved : ∀ receiver ∈ (channel.moveTo id position).receivers,
      receiver.next ≤ all.length ∧ receiver.id < channel.issued := by
    intro receiver member
    simp only [Channel.moveTo, List.mem_map] at member
    rcases member with ⟨old, oldMember, rfl⟩
    split
    · exact ⟨inside, records.named old oldMember⟩
    · exact ⟨records.behind old oldMember, records.named old oldMember⟩
  refine ⟨records.published, records.kept, fun receiver member => (moved receiver member).1,
    fun receiver member => (moved receiver member).2, ?_, records.noStream⟩
  rw [map_id_moveTo]
  exact records.distinct

theorem Records.unsubscribe (records : Records channel all) (id : Nat) :
    Records (channel.unsubscribe id) all := by
  refine ⟨records.published, records.kept, ?_, ?_, ?_, records.noStream⟩
  · intro receiver member
    exact records.behind receiver (List.mem_filter.mp member).1
  · intro receiver member
    exact records.named receiver (List.mem_filter.mp member).1
  · exact records.distinct.sublist (List.Sublist.map _ List.filter_sublist)

/-- A read leaves the receiver where `readAt` says, and is nothing without that receiver. -/
theorem read?_eq (publisherHeld : Bool) (id : Nat) :
    channel.read? publisherHeld id = (channel.receiver? id).map fun receiver =>
      ((channel.readAt publisherHeld receiver.next).1,
        channel.moveTo id (channel.readAt publisherHeld receiver.next).2) :=
  rfl

theorem Records.received (records : Records channel all) (act : ReceiverAct) :
    Records (channel.received act) all := by
  cases act with
  | subscribe => exact records.subscribe
  | leave id => exact records.unsubscribe id
  | read id publisherHeld =>
      simp only [Channel.received, read?_eq]
      cases found : channel.receiver? id with
      | none => exact records
      | some receiver =>
          have inside := records.behind receiver (mem_of_receiver? found).1
          exact records.moveTo id (records.readAt publisherHeld inside).2.1

theorem Records.perform (records : Records channel all) (act : Act) :
    ∃ later, Records (channel.perform act) later := by
  cases act with
  | receiver act => exact ⟨all, records.received act⟩
  | publish payload =>
      by_cases heard : channel.receivers = []
      · refine ⟨all, ?_⟩
        simpa [Channel.perform, Channel.publish, heard] using records
      · exact ⟨all ++ [payload], records.publish payload heard⟩

theorem capacity_received (act : ReceiverAct) :
    (channel.received act).capacity = channel.capacity := by
  cases act with
  | subscribe => rfl
  | leave id => rfl
  | read id publisherHeld =>
      simp only [Channel.received, read?_eq]
      cases channel.receiver? id <;> rfl

theorem capacity_perform (act : Act) : (channel.perform act).capacity = channel.capacity := by
  cases act with
  | receiver act => exact capacity_received act
  | publish payload =>
      simp only [Channel.perform, Channel.publish]
      split <;> rfl

@[simp]
theorem capacity_run (acts : List Act) : (channel.run acts).capacity = channel.capacity := by
  induction acts generalizing channel with
  | nil => rfl
  | cons act rest ih => exact ih.trans (capacity_perform act)

end Acts

section Receivers

variable {channel : Channel} {id other : Nat} {receiver : Receiver}

theorem receiver?_publish (payload : String) :
    (channel.publish payload).2.receiver? id = channel.receiver? id := by
  rw [receiver?, receivers_publish, receiver?]

theorem receiver?_subscribe (found : channel.receiver? id = some receiver) :
    channel.subscribe.2.receiver? id = some receiver := by
  rw [receiver?] at found
  simp [receiver?, subscribe, found]

theorem receiver?_moveTo (position : Nat) :
    (channel.moveTo other position).receiver? id = (channel.receiver? id).map fun receiver =>
      if receiver.id = other then { receiver with next := position } else receiver := by
  rw [receiver?, moveTo, List.find?_map, receiver?]
  congr 2
  funext receiver
  simp only [Function.comp]
  split <;> rfl

theorem receiver?_unsubscribe (different : other ≠ id) :
    (channel.unsubscribe other).receiver? id = channel.receiver? id := by
  rw [receiver?, unsubscribe, List.find?_filter, receiver?]
  congr 1
  funext receiver
  by_cases same : receiver.id = id
  · simp [same, Ne.symm different]
  · simp [same]

theorem receiver?_read_of_ne (publisherHeld : Bool) (different : other ≠ id)
    (found : channel.receiver? id = some receiver) :
    (channel.received (.read other publisherHeld)).receiver? id = some receiver := by
  have named := (mem_of_receiver? found).2
  simp only [Channel.received, read?_eq]
  cases channel.receiver? other with
  | none => exact found
  | some reader =>
      rw [Option.map_some, Option.map_some, Option.getD_some, receiver?_moveTo, found]
      simp [named, Ne.symm different]

end Receivers

/-- The channel has the receiver, and these are its unread payloads. -/
def Serves (channel : Channel) (id : Nat) (inbox : List String) : Prop :=
  ∃ all receiver, Records channel all ∧ channel.receiver? id = some receiver ∧
    all.drop receiver.next = inbox

section Serving

variable {channel : Channel} {id : Nat} {inbox : List String}

theorem Records.serves_subscribe {all : List String} (records : Records channel all) :
    Serves channel.subscribe.2 channel.subscribe.1 [] := by
  refine ⟨all, ⟨channel.issued, channel.published⟩, records.subscribe, ?_, ?_⟩
  · have fresh : channel.receivers.find? (fun receiver => receiver.id == channel.issued) =
        none := by
      rw [List.find?_eq_none]
      intro receiver member
      have below := records.named receiver member
      simp only [beq_iff_eq]
      omega
    simp [receiver?, Channel.subscribe, fresh]
  · simp [records.published]

theorem Serves.unread (serves : Serves channel id inbox) :
    channel.unread id = inbox.length := by
  rcases serves with ⟨all, receiver, records, found, rfl⟩
  simp [Channel.unread, found, records.published]

theorem Serves.read (serves : Serves channel id inbox) (publisherHeld : Bool) :
    ∃ after, channel.read? publisherHeld id =
        some ((Inbox.read channel.capacity publisherHeld inbox).1, after) ∧
      Serves after id (Inbox.read channel.capacity publisherHeld inbox).2 := by
  rcases serves with ⟨all, receiver, records, found, rfl⟩
  rcases mem_of_receiver? found with ⟨member, named⟩
  rcases records.readAt publisherHeld (records.behind receiver member) with ⟨same, inside, rest⟩
  refine ⟨_, by rw [read?_eq, found, Option.map_some, same], all,
    { receiver with next := (channel.readAt publisherHeld receiver.next).2 },
    records.moveTo id inside, ?_, rest⟩
  rw [receiver?_moveTo, found]
  simp [named]

/-- An act does to a receiver what the sight of it does to the receiver's inbox. -/
theorem Serves.perform (serves : Serves channel id inbox) {act : Act}
    (stays : act ≠ .receiver (.leave id)) :
    (channel.reading? id act).toList =
        Inbox.readings channel.capacity inbox (sight? id act).toList ∧
      Serves (channel.perform act) id
        (Inbox.left channel.capacity inbox (sight? id act).toList) := by
  cases act with
  | publish payload =>
      refine ⟨rfl, ?_⟩
      rcases serves with ⟨all, receiver, records, found, rfl⟩
      have member := (mem_of_receiver? found).1
      have heard : channel.receivers ≠ [] := List.ne_nil_of_mem member
      refine ⟨all ++ [payload], receiver, records.publish payload heard, ?_, ?_⟩
      · rw [Channel.perform, receiver?_publish]
        exact found
      · exact List.drop_append_of_le_length (records.behind receiver member)
  | receiver act =>
      cases act with
      | subscribe =>
          refine ⟨rfl, ?_⟩
          rcases serves with ⟨all, receiver, records, found, rfl⟩
          exact ⟨all, receiver, records.subscribe, receiver?_subscribe found, rfl⟩
      | leave other =>
          refine ⟨rfl, ?_⟩
          have different : other ≠ id := by
            intro same
            exact stays (by rw [same])
          rcases serves with ⟨all, receiver, records, found, rfl⟩
          refine ⟨all, receiver, records.unsubscribe other, ?_, rfl⟩
          rw [Channel.perform, Channel.received, receiver?_unsubscribe different]
          exact found
      | read other publisherHeld =>
          by_cases same : other = id
          · subst same
            rcases serves.read publisherHeld with ⟨after, reads, later⟩
            simp only [reading?, sight?, Channel.perform, Channel.received, reads, if_true,
              Option.map_some, Option.toList_some, Option.getD_some]
            exact ⟨rfl, later⟩
          · simp only [reading?, sight?, same, if_false]
            refine ⟨rfl, ?_⟩
            rcases serves with ⟨all, receiver, records, found, rfl⟩
            exact ⟨all, receiver, records.received (.read other publisherHeld),
              receiver?_read_of_ne publisherHeld same found, rfl⟩

/-- What a receiver reads in the course of acts is what its inbox gives, by its own sight of them.
-/
theorem Serves.run (serves : Serves channel id inbox) {acts : List Act}
    (stays : .receiver (.leave id) ∉ acts) :
    channel.readings id acts = Inbox.readings channel.capacity inbox (sights id acts) ∧
      Serves (channel.run acts) id (Inbox.left channel.capacity inbox (sights id acts)) := by
  induction acts generalizing channel inbox with
  | nil => exact ⟨rfl, serves⟩
  | cons act rest ih =>
      have staysNow : act ≠ .receiver (.leave id) := by
        rintro rfl
        exact stays List.mem_cons_self
      have staysLater : .receiver (.leave id) ∉ rest := by
        intro member
        exact stays (List.mem_cons_of_mem act member)
      rcases serves.perform staysNow with ⟨now, servesLater⟩
      rcases ih servesLater staysLater with ⟨later, servesLast⟩
      rw [capacity_perform] at later servesLast
      have parts : sights id (act :: rest) = (sight? id act).toList ++ sights id rest := by
        cases seen : sight? id act <;> simp [sights, seen]
      refine ⟨?_, ?_⟩
      · rw [readings, now, later, parts, Inbox.readings_append]
      · rw [parts, Inbox.left_append]
        exact servesLast

end Serving

theorem Records.run {channel : Channel} {all : List String} (records : Records channel all)
    (acts : List Act) : ∃ later, Records (channel.run acts) later := by
  induction acts generalizing channel all with
  | nil => exact ⟨all, records⟩
  | cons act rest ih =>
      rcases records.perform act with ⟨later, recordsLater⟩
      exact ih recordsLater

/-- The receivers of a channel are those that have joined and have not left. -/
theorem map_id_run (channel : Channel) (acts : List Act) :
    (channel.run acts).receivers.map Receiver.id =
      present channel.issued (channel.receivers.map Receiver.id) acts := by
  induction acts generalizing channel with
  | nil => rfl
  | cons act rest ih =>
      have later := ih (channel.perform act)
      rw [run, List.foldl_cons, ← run, later]
      cases act with
      | publish payload =>
          have issued : (channel.publish payload).2.issued = channel.issued := by
            simp only [Channel.publish]
            split <;> rfl
          simp only [perform, receivers_publish, issued, present]
      | receiver act =>
          cases act with
          | subscribe => simp [perform, received, subscribe, present]
          | leave id =>
              simp only [perform, received, unsubscribe, present, List.filter_map]
              rfl
          | read id publisherHeld =>
              simp only [perform, received, read?_eq, present]
              cases channel.receiver? id with
              | none => rfl
              | some receiver =>
                  rw [Option.map_some, Option.map_some, Option.getD_some, map_id_moveTo]
                  rfl

theorem publish_count (channel : Channel) (payload : String) :
    (channel.publish payload).1 = channel.receivers.length := by
  by_cases heard : channel.receivers = []
  · simp [publish, heard]
  · rw [publish_of_heard payload heard, subscribers]

theorem payloads_sights (id : Nat) (acts : List Act) :
    Sight.payloads (sights id acts) = publishedIn acts := by
  simp only [Sight.payloads, sights, publishedIn, List.filterMap_filterMap]
  congr 1
  funext act
  rcases act with payload | (_ | ⟨reader, publisherHeld⟩ | other)
  · rfl
  · rfl
  · by_cases same : reader = id <;> simp [sight?, same, Sight.payload?]
  · rfl

/-- A receiver that neither reads nor leaves has all that is published left to read besides. -/
theorem Serves.run_waiting {channel : Channel} {id : Nat} {inbox : List String}
    (serves : Serves channel id inbox) {acts : List Act}
    (stays : .receiver (.leave id) ∉ acts)
    (waits : ∀ publisherHeld, .receiver (.read id publisherHeld) ∉ acts) :
    Serves (channel.run acts) id (inbox ++ publishedIn acts) := by
  have later := (serves.run stays).2
  rw [Inbox.left_of_waiting, payloads_sights] at later
  · exact later
  · intro publisherHeld member
    rcases List.mem_filterMap.mp member with ⟨act, isAct, seen⟩
    unfold sight? at seen
    split at seen
    · cases seen
    · split at seen
      · rename_i reader held same
        cases same
        exact waits held isAct
      · cases seen
    · cases seen

/-- The account of a receiver of a channel that keeps so many payloads, after acts during which it
has stayed. What it has read, and then the payloads that are unread, are in this order among those
published. Every payload is read, reported as lost or unread. A read reports lag if more is unread
than the channel keeps, and says how much more. With nothing published in between, the reads that
follow give the last payloads in order, after at most that one report. -/
structure Account (capacity : Nat) (joined : Channel) (id : Nat) (acts : List Act) : Prop where
  inOrder : (Reading.payloads (joined.readings id acts) ++
    (publishedIn acts).drop ((publishedIn acts).length - (joined.run acts).unread id)).Sublist
      (publishedIn acts)
  complete : (Reading.payloads (joined.readings id acts)).length +
    Reading.missedIn (joined.readings id acts) + (joined.run acts).unread id =
      (publishedIn acts).length
  lag : ∀ publisherHeld, ∃ reading after,
    (joined.run acts).read? publisherHeld id = some (reading, after) ∧
      ∀ missed, reading = .lagged missed ↔
        capacity < (joined.run acts).unread id ∧ missed = (joined.run acts).unread id - capacity
  drains : ∀ more, .receiver (.leave id) ∉ more → publishedIn more = [] →
    (capacity < (joined.run acts).unread id →
      ((joined.run acts).readings id more).take (capacity + 1) =
        (.lagged ((joined.run acts).unread id - capacity) ::
          ((publishedIn acts).drop ((publishedIn acts).length - capacity)).map
            Reading.payload).take (sights id more).length) ∧
    ((joined.run acts).unread id ≤ capacity →
      ((joined.run acts).readings id more).take ((joined.run acts).unread id) =
        (((publishedIn acts).drop
          ((publishedIn acts).length - (joined.run acts).unread id)).map
            Reading.payload).take (sights id more).length)

theorem drop_of_suffix {left whole : List String} (suffix : left <:+ whole) {count : Nat}
    (within : count ≤ left.length) :
    left.drop (left.length - count) = whole.drop (whole.length - count) := by
  rcases suffix with ⟨gone, rfl⟩
  have past : (gone ++ left).length - count = gone.length + (left.length - count) := by
    rw [List.length_append]
    omega
  rw [past, ← List.drop_drop, List.drop_left]

theorem Serves.account {joined : Channel} {id : Nat} (serves : Serves joined id [])
    {acts : List Act} (stays : .receiver (.leave id) ∉ acts) :
    Account joined.capacity joined id acts := by
  rcases serves.run stays with ⟨readings, servesNow⟩
  have inOrder := Inbox.readings_sublist joined.capacity [] (sights id acts)
  have complete := Inbox.readings_count joined.capacity [] (sights id acts)
  have suffix := Inbox.left_suffix joined.capacity [] (sights id acts)
  simp only [List.nil_append, List.length_nil, Nat.zero_add, payloads_sights, ← readings]
    at inOrder complete suffix
  generalize Inbox.left joined.capacity [] (sights id acts) = inbox
    at servesNow inOrder complete suffix
  have unread := servesNow.unread
  have last : ∀ {count}, count ≤ inbox.length → inbox.drop (inbox.length - count) =
      (publishedIn acts).drop ((publishedIn acts).length - count) :=
    fun within => drop_of_suffix suffix within
  have whole := last (Nat.le_refl inbox.length)
  rw [Nat.sub_self, List.drop_zero] at whole
  refine ⟨?_, ?_, ?_, ?_⟩
  · rw [unread, ← whole]
    exact inOrder
  · rw [unread]
    exact complete
  · intro publisherHeld
    rcases servesNow.read publisherHeld with ⟨after, reads, _⟩
    refine ⟨_, after, reads, ?_⟩
    intro missed
    rw [unread, capacity_run]
    exact Inbox.read_lagged_iff joined.capacity publisherHeld inbox missed
  · intro more staysLater quiet
    have later := (servesNow.run staysLater).1
    have silent : Sight.payloads (sights id more) = [] := (payloads_sights id more).trans quiet
    rw [capacity_run] at later
    rw [later, unread]
    constructor
    · intro lagging
      rw [← last (Nat.le_of_lt lagging)]
      exact Inbox.readings_of_lagging lagging silent
    · intro kept
      rw [← whole]
      exact Inbox.readings_of_kept kept silent

/-- Whatever happens on a subscription's channel, publishing answers how many receivers there are;
the account of a receiver that joins is kept as long as it stays; so much as was asked for as a
queue can be unread without any lag; and what a receiver reads depends on what it sees, the payloads
and its own reads, and on nothing that other receivers do or that was before it joined. -/
theorem fan_out_accounts (settings : StreamerSettings) (past later : List Act)
    (stays : .receiver (.leave ((create settings.queueCapacity).run past).subscribe.1) ∉ later) :
    let before := (create settings.queueCapacity).run past
    (∀ payload, (before.publish payload).1 = (present 0 [] past).length) ∧
    Account (roundedCapacity settings.queueCapacity) before.subscribe.2 before.subscribe.1 later ∧
    (∀ publisherHeld missed after, (before.subscribe.2.run later).unread before.subscribe.1 ≤
        settings.queueCapacity →
      (before.subscribe.2.run later).read? publisherHeld before.subscribe.1 ≠
        some (.lagged missed, after)) ∧
    ∀ otherPast otherLater,
      let other := (create settings.queueCapacity).run otherPast
      .receiver (.leave other.subscribe.1) ∉ otherLater →
      sights other.subscribe.1 otherLater = sights before.subscribe.1 later →
      other.subscribe.2.readings other.subscribe.1 otherLater =
        before.subscribe.2.readings before.subscribe.1 later := by
  intro before
  have capacity : ∀ acts, ((create settings.queueCapacity).run acts).subscribe.2.capacity =
      roundedCapacity settings.queueCapacity :=
    fun acts => capacity_run acts
  have serves : ∀ acts, Serves ((create settings.queueCapacity).run acts).subscribe.2
      ((create settings.queueCapacity).run acts).subscribe.1 [] := by
    intro acts
    rcases (records_create settings.queueCapacity).run acts with ⟨all, records⟩
    exact records.serves_subscribe
  have account : Account (roundedCapacity settings.queueCapacity) before.subscribe.2
      before.subscribe.1 later := by
    rw [← capacity past]
    exact (serves past).account stays
  refine ⟨?_, account, ?_, ?_⟩
  · intro payload
    have listeners := map_id_run (create settings.queueCapacity) past
    rw [publish_count, ← List.length_map Receiver.id, listeners]
    rfl
  · intro publisherHeld missed after few reads
    rcases account.lag publisherHeld with ⟨reading, _, readsSo, lagging⟩
    rw [reads] at readsSo
    cases readsSo
    have enough := le_roundedCapacity settings.queueCapacity
    have more := ((lagging missed).mp rfl).1
    omega
  · intro otherPast otherLater other otherStays same
    rw [((serves otherPast).run otherStays).1, ((serves past).run stays).1, capacity, capacity,
      same]

/-- A receiver of a channel that keeps one payload misses the first of two. -/
theorem fan_out_accounts_of_lagging :
    let settings : StreamerSettings := ⟨5000, 1⟩
    let joined := ((create settings.queueCapacity).run [.publish "early"]).subscribe.2
    let acts := [.publish "first", .publish "second", .receiver (.read 0 true),
      .receiver (.read 0 true)]
    joined.readings 0 acts = [.lagged 1, .payload "second"] ∧ Account 1 joined 0 acts := by
  refine ⟨by decide, ?_⟩
  refine (fan_out_accounts ⟨5000, 1⟩ [.publish "early"] _ ?_).2.1
  simp

end ConsoleFeed.Channel
