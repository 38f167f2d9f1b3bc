import ConsoleFeed.Proofs.Channel.Ends

/-!
# What a receiver has left to read

A channel keeps the last payloads. Those among them that a receiver has not read are left for it
(`remaining`), and if it has not read more than the channel keeps, a report of lag comes before them
(`lagReports`). Seen from the receiver's inbox, the first are its last payloads, as many as the
capacity says. So a receiver is told that the channel has ended if nothing remains for it and the
channel is not open, and only then.
-/

namespace ConsoleFeed.Channel

/-- The payloads kept that a receiver has not read. -/
def remaining (channel : Channel) (id : Nat) : List String :=
  channel.kept.drop (channel.kept.length - channel.unread id)

/-- The report that a receiver gets first if it has more to read than the channel keeps. -/
def lagReports (channel : Channel) (id : Nat) : List Reading :=
  if channel.kept.length < channel.unread id then
    [.lagged (channel.unread id - channel.kept.length)]
  else []

section Remaining

variable {channel : Channel} {id : Nat} {inbox : List String}

theorem Serves.unread_bare (serves : Serves channel.bare id inbox) :
    channel.unread id = inbox.length :=
  serves.unread

/-- The inbox and the payloads kept end in the same way, and either is what all payloads end in. -/
theorem Serves.kept_length (serves : Serves channel.bare id inbox) :
    ∃ all : List String, inbox <:+ all ∧ channel.kept <:+ all ∧
      channel.kept.length = min channel.capacity all.length := by
  rcases serves with ⟨all, receiver, records, _, rfl⟩
  have kept : channel.kept = all.drop (all.length - channel.capacity) := records.kept
  refine ⟨all, List.drop_suffix _ _, kept ▸ List.drop_suffix _ _, ?_⟩
  rw [kept, List.length_drop]
  omega

theorem Serves.remaining (serves : Serves channel.bare id inbox) :
    channel.remaining id = inbox.drop (inbox.length - channel.capacity) := by
  rcases serves.kept_length with ⟨all, ofInbox, ofKept, length⟩
  have shorter := ofInbox.length_le
  -- both lists are cut to what both of them have
  let count := min channel.kept.length inbox.length
  have first : channel.kept.length - channel.unread id = channel.kept.length - count := by
    rw [serves.unread_bare]
    omega
  have second : inbox.length - channel.capacity = inbox.length - count := by omega
  rw [Channel.remaining, first, second, drop_of_suffix ofKept (by omega),
    drop_of_suffix ofInbox (by omega)]

theorem Serves.remaining_length (serves : Serves channel.bare id inbox) :
    (channel.remaining id).length = min channel.capacity inbox.length := by
  rw [serves.remaining, List.length_drop]
  omega

theorem Serves.lagReports (serves : Serves channel.bare id inbox) :
    channel.lagReports id = if channel.capacity < inbox.length then
      [.lagged (inbox.length - channel.capacity)] else [] := by
  rcases serves.kept_length with ⟨all, ofInbox, _, length⟩
  have shorter := ofInbox.length_le
  rw [Channel.lagReports, serves.unread_bare]
  by_cases lagging : channel.capacity < inbox.length
  · have whole : channel.kept.length = channel.capacity := by omega
    rw [whole, if_pos lagging]
  · rw [if_neg lagging, if_neg (by omega)]

theorem Serves.remaining_eq_nil_iff (serves : Serves channel.bare id inbox)
    (positive : 0 < channel.capacity) : channel.remaining id = [] ↔ inbox = [] := by
  rw [serves.remaining, List.drop_eq_nil_iff, ← List.length_eq_zero_iff]
  omega

theorem Serves.remaining_le_published (serves : Serves channel.bare id inbox) :
    (channel.remaining id).length ≤ channel.published := by
  rcases serves with ⟨all, receiver, records, _, _⟩
  have kept : channel.kept = all.drop (all.length - channel.capacity) := records.kept
  have published : channel.published = all.length := records.published
  rw [Channel.remaining, List.length_drop, kept, List.length_drop, published]
  omega

end Remaining

end ConsoleFeed.Channel

namespace ConsoleFeed.Inbox

/-- A receiver is told of the end if its inbox is empty and no more can come, and only then. -/
theorem read_closed_iff (capacity : Nat) (publisherHeld : Bool) (unread : List String) :
    (read capacity publisherHeld unread).1 = .closed ↔ unread = [] ∧ publisherHeld = false := by
  rcases read_cases capacity publisherHeld unread with
    ⟨lagging, result⟩ | ⟨rfl, _⟩ | ⟨text, rest, rfl, _, result⟩
  · rw [result]
    constructor
    · intro told
      cases told
    · rintro ⟨rfl, _⟩
      exact absurd lagging (Nat.not_lt_zero capacity)
  · cases publisherHeld <;> simp
  · simp [result]

end ConsoleFeed.Inbox
