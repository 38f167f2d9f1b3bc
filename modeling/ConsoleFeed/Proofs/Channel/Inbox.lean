import ConsoleFeed.Channel.Basic
import Mathlib.Algebra.GroupWithZero.Nat

/-!
# The inbox of one receiver

A channel keeps one sequence of payloads for all of its receivers, and each of them a position in
it. Seen by one receiver there is only an inbox: what is published goes in at the end, and a read
takes what is at the front, or, if more payloads are unread than the channel keeps, drops the oldest
ones down to that number and says how many they were.

This file defines the inbox and proves what holds of it for every sequence of payloads and reads.
What is read and what is left unread are, in this order, among what was offered; the payloads read,
those reported as lost and those unread add up to all that were offered; and with nothing offered in
between, reads give back what the inbox holds, after at most one report.
-/

namespace ConsoleFeed

/-- What happens to a receiver: a payload is offered to it, or it reads. -/
inductive Sight where
  | offered (payload : String)
  | reads (publisherHeld : Bool)

namespace Sight

def payload? : Sight → Option String
  | .offered payload => some payload
  | .reads _ => none

/-- The payloads that were offered, in order. -/
def payloads (sights : List Sight) : List String :=
  sights.filterMap payload?

@[simp]
theorem payloads_nil : payloads [] = [] := rfl

@[simp]
theorem payloads_offered (payload : String) (rest : List Sight) :
    payloads (.offered payload :: rest) = payload :: payloads rest := rfl

@[simp]
theorem payloads_reads (publisherHeld : Bool) (rest : List Sight) :
    payloads (.reads publisherHeld :: rest) = payloads rest := rfl

end Sight

namespace Reading

def payload? : Reading → Option String
  | .payload text => some text
  | _ => none

/-- How many payloads are reported as lost. -/
def missed : Reading → Nat
  | .lagged missed => missed
  | _ => 0

/-- The payloads that were read, in order. -/
def payloads (readings : List Reading) : List String :=
  readings.filterMap payload?

/-- How many payloads were reported as lost in all. -/
def missedIn (readings : List Reading) : Nat :=
  (readings.map missed).sum

@[simp]
theorem payloads_nil : payloads [] = [] := rfl

theorem payloads_cons (reading : Reading) (rest : List Reading) :
    payloads (reading :: rest) = reading.payload?.toList ++ payloads rest := by
  cases reading <;> rfl

@[simp]
theorem missedIn_nil : missedIn [] = 0 := rfl

theorem missedIn_cons (reading : Reading) (rest : List Reading) :
    missedIn (reading :: rest) = reading.missed + missedIn rest := by
  simp [missedIn]

end Reading

namespace Inbox

/-- What a receiver reads that has these payloads unread, and what is unread afterwards. -/
def read (capacity : Nat) (publisherHeld : Bool) (unread : List String) :
    Reading × List String :=
  if capacity < unread.length then
    (.lagged (unread.length - capacity), unread.drop (unread.length - capacity))
  else
    match unread with
    | [] => (if publisherHeld then .empty else .closed, [])
    | text :: rest => (.payload text, rest)

/-- What a receiver reads that starts with these payloads unread. -/
def readings (capacity : Nat) : List String → List Sight → List Reading
  | _, [] => []
  | unread, .offered payload :: rest => readings capacity (unread ++ [payload]) rest
  | unread, .reads publisherHeld :: rest =>
      (read capacity publisherHeld unread).1 ::
        readings capacity (read capacity publisherHeld unread).2 rest

/-- What is unread at the end. -/
def left (capacity : Nat) : List String → List Sight → List String
  | unread, [] => unread
  | unread, .offered payload :: rest => left capacity (unread ++ [payload]) rest
  | unread, .reads publisherHeld :: rest =>
      left capacity (read capacity publisherHeld unread).2 rest

section Reads

variable (capacity : Nat) (publisherHeld : Bool) (unread : List String)

theorem read_of_lagging (lagging : capacity < unread.length) :
    read capacity publisherHeld unread =
      (.lagged (unread.length - capacity), unread.drop (unread.length - capacity)) :=
  if_pos lagging

@[simp]
theorem read_nil :
    read capacity publisherHeld [] = (if publisherHeld then .empty else .closed, []) := by
  simp [read]

theorem read_cons {text : String} {rest : List String} (kept : rest.length < capacity) :
    read capacity publisherHeld (text :: rest) = (.payload text, rest) := by
  have fits : ¬ capacity < (text :: rest).length := by
    simp only [List.length_cons]
    omega
  rw [read, if_neg fits]

/-- The four things that a read can be, by what is unread. -/
theorem read_cases :
    (capacity < unread.length ∧ read capacity publisherHeld unread =
        (.lagged (unread.length - capacity), unread.drop (unread.length - capacity))) ∨
      (unread = [] ∧ ((read capacity publisherHeld unread) = (.empty, []) ∨
        (read capacity publisherHeld unread) = (.closed, []))) ∨
      ∃ text rest, unread = text :: rest ∧ rest.length < capacity ∧
        read capacity publisherHeld unread = (.payload text, rest) := by
  by_cases lagging : capacity < unread.length
  · exact Or.inl ⟨lagging, read_of_lagging capacity publisherHeld unread lagging⟩
  · right
    cases unread with
    | nil =>
        left
        refine ⟨rfl, ?_⟩
        cases publisherHeld <;> simp
    | cons text rest =>
        right
        have kept : rest.length < capacity := by
          simp only [List.length_cons] at lagging
          omega
        exact ⟨text, rest, rfl, kept, read_cons capacity publisherHeld kept⟩

/-- A read reports lag if more is unread than the channel keeps, and only then. -/
theorem read_lagged_iff (missed : Nat) :
    (read capacity publisherHeld unread).1 = .lagged missed ↔
      capacity < unread.length ∧ missed = unread.length - capacity := by
  rcases read_cases capacity publisherHeld unread with
    ⟨lagging, result⟩ | ⟨rfl, result | result⟩ | ⟨text, rest, rfl, kept, result⟩
  · simp [result, lagging, eq_comm]
  · simp [result]
  · simp [result]
  · simp only [result, reduceCtorEq, List.length_cons, false_iff, not_and]
    omega

/-- What a read takes, and what it leaves, are parts of what was unread, in this order. -/
theorem read_sublist :
    ((read capacity publisherHeld unread).1.payload?.toList ++
      (read capacity publisherHeld unread).2).Sublist unread := by
  rcases read_cases capacity publisherHeld unread with
    ⟨_, result⟩ | ⟨rfl, result | result⟩ | ⟨text, rest, rfl, _, result⟩
  · simpa [result, Reading.payload?] using List.drop_sublist _ unread
  · simp [result, Reading.payload?]
  · simp [result, Reading.payload?]
  · simp [result, Reading.payload?]

theorem read_suffix : (read capacity publisherHeld unread).2 <:+ unread := by
  rcases read_cases capacity publisherHeld unread with
    ⟨_, result⟩ | ⟨rfl, result | result⟩ | ⟨text, rest, rfl, _, result⟩
  · rw [result]
    exact List.drop_suffix _ unread
  · simp [result]
  · simp [result]
  · rw [result]
    exact List.suffix_cons text rest

theorem read_count :
    (read capacity publisherHeld unread).1.payload?.toList.length +
        (read capacity publisherHeld unread).1.missed +
        (read capacity publisherHeld unread).2.length = unread.length := by
  rcases read_cases capacity publisherHeld unread with
    ⟨lagging, result⟩ | ⟨rfl, result | result⟩ | ⟨text, rest, rfl, _, result⟩
  · simp only [result, Reading.payload?, Reading.missed, Option.toList_none, List.length_nil,
      List.length_drop]
    omega
  · simp [result, Reading.payload?, Reading.missed]
  · simp [result, Reading.payload?, Reading.missed]
  · simp only [result, Reading.payload?, Reading.missed, Option.toList_some, List.length_cons,
      List.length_nil]
    omega

end Reads

section Runs

variable (capacity : Nat) (unread : List String) (sights : List Sight)

/-- What is read and what is left are parts of what was unread or offered, in this order. -/
theorem readings_sublist :
    (Reading.payloads (readings capacity unread sights) ++ left capacity unread sights).Sublist
      (unread ++ Sight.payloads sights) := by
  induction sights generalizing unread with
  | nil => simp [readings, left]
  | cons sight rest ih =>
      cases sight with
      | offered payload =>
          have later := ih (unread ++ [payload])
          simpa [readings, left] using later
      | reads publisherHeld =>
          have now := (read_sublist capacity publisherHeld unread).append_right
            (Sight.payloads rest)
          have later := (ih (read capacity publisherHeld unread).2).append_left
            (read capacity publisherHeld unread).1.payload?.toList
          rw [List.append_assoc] at now
          simpa [readings, left, Reading.payloads_cons] using later.trans now

/-- What is left unread are the last of the payloads that were unread or offered. -/
theorem left_suffix : left capacity unread sights <:+ unread ++ Sight.payloads sights := by
  induction sights generalizing unread with
  | nil => simp [left]
  | cons sight rest ih =>
      cases sight with
      | offered payload =>
          have later := ih (unread ++ [payload])
          simpa [left] using later
      | reads publisherHeld =>
          rcases read_suffix capacity publisherHeld unread with ⟨gone, whole⟩
          have later := ih (read capacity publisherHeld unread).2
          have longer : (read capacity publisherHeld unread).2 ++ Sight.payloads rest <:+
              unread ++ Sight.payloads rest :=
            ⟨gone, by rw [← List.append_assoc, whole]⟩
          simpa [left] using later.trans longer

variable {sights} in
/-- Without a read, everything that is offered is left. -/
theorem left_of_waiting (waits : ∀ publisherHeld, .reads publisherHeld ∉ sights) :
    left capacity unread sights = unread ++ Sight.payloads sights := by
  induction sights generalizing unread with
  | nil => simp [left]
  | cons sight rest ih =>
      cases sight with
      | offered payload =>
          have later := ih (unread ++ [payload]) fun publisherHeld member =>
            waits publisherHeld (List.mem_cons_of_mem _ member)
          simpa [left] using later
      | reads publisherHeld => exact absurd List.mem_cons_self (waits publisherHeld)

/-- Every payload is read, reported as lost, or unread. -/
theorem readings_count :
    (Reading.payloads (readings capacity unread sights)).length +
        Reading.missedIn (readings capacity unread sights) +
        (left capacity unread sights).length =
      unread.length + (Sight.payloads sights).length := by
  induction sights generalizing unread with
  | nil => simp [readings, left]
  | cons sight rest ih =>
      cases sight with
      | offered payload =>
          have later := ih (unread ++ [payload])
          simp only [List.length_append, List.length_cons, List.length_nil] at later
          simp only [readings, left, Sight.payloads_offered, List.length_cons]
          omega
      | reads publisherHeld =>
          have now := read_count capacity publisherHeld unread
          have later := ih (read capacity publisherHeld unread).2
          simp only [readings, left, Sight.payloads_reads, Reading.payloads_cons,
            Reading.missedIn_cons, List.length_append]
          omega

theorem readings_append (more : List Sight) :
    readings capacity unread (sights ++ more) =
      readings capacity unread sights ++ readings capacity (left capacity unread sights) more := by
  induction sights generalizing unread with
  | nil => rfl
  | cons sight rest ih => cases sight <;> simp [readings, left, ih]

theorem left_append (more : List Sight) :
    left capacity unread (sights ++ more) = left capacity (left capacity unread sights) more := by
  induction sights generalizing unread with
  | nil => rfl
  | cons sight rest ih => cases sight <;> simp [left, ih]

end Runs

section Draining

variable {capacity : Nat}

/-- With nothing offered in between, reads give back what is unread, as long as the channel keeps
it all. -/
theorem readings_of_kept {unread : List String} {sights : List Sight}
    (kept : unread.length ≤ capacity) (quiet : Sight.payloads sights = []) :
    (readings capacity unread sights).take unread.length =
      (unread.map Reading.payload).take sights.length := by
  induction sights generalizing unread with
  | nil => simp [readings]
  | cons sight rest ih =>
      cases sight with
      | offered payload => simp at quiet
      | reads publisherHeld =>
          cases unread with
          | nil => simp
          | cons text more =>
              have fewer : more.length < capacity := by
                simp only [List.length_cons] at kept
                omega
              have later := ih (Nat.le_of_lt fewer) quiet
              simp [readings, read_cons capacity publisherHeld fewer, later]

/-- With nothing offered in between, a receiver that has fallen behind reads one report, and then
the last payloads, as many as the channel keeps. -/
theorem readings_of_lagging {unread : List String} {sights : List Sight}
    (lagging : capacity < unread.length) (quiet : Sight.payloads sights = []) :
    (readings capacity unread sights).take (capacity + 1) =
      (.lagged (unread.length - capacity) ::
        (unread.drop (unread.length - capacity)).map Reading.payload).take sights.length := by
  cases sights with
  | nil => simp [readings]
  | cons sight rest =>
      cases sight with
      | offered payload => simp at quiet
      | reads publisherHeld =>
          have exact_length : (unread.drop (unread.length - capacity)).length = capacity := by
            rw [List.length_drop]
            omega
          have later :
              (readings capacity (unread.drop (unread.length - capacity)) rest).take
                  (unread.drop (unread.length - capacity)).length =
                ((unread.drop (unread.length - capacity)).map Reading.payload).take rest.length :=
            readings_of_kept (Nat.le_of_eq exact_length) quiet
          rw [exact_length] at later
          simp [readings, read_of_lagging capacity publisherHeld unread lagging, later]

end Draining

end Inbox

end ConsoleFeed
