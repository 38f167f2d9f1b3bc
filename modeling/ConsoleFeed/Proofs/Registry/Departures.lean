import ConsoleFeed.Proofs.KeyMap
import ConsoleFeed.Proofs.Registry.OneLiveEntry

/-!
# How entries leave the table

An entry gets into the table when it is made, and leaves it when a deactivation takes it out, or
when a caller that asks for its key puts another one in its place. This file keeps a history beside
a run: what was asked, which entries left the table by whose step, and which removals were reported.
What left is read off the table before and after a move, and not off the calls, so the history says
what happened and not what a call means to do.

Then it says what one step does: to the table, where what was in it and what came into it is what
has left it and what is in it, and to a call, which keeps account of the entry that it has in hand.
-/

namespace ConsoleFeed.SharedRegistry

open Registry

/-- An entry that has left the table: by whose step, and what the table held for its key afterwards.
`cancelled` says whether the entry was cancelled when it left. -/
structure Departure where
  caller : Option Nat
  key : String
  number : Nat
  successor : Option Nat
  cancelled : Bool

/-- A report that an entry was removed. -/
structure Report where
  caller : Option Nat
  entry : String × Nat
deriving DecidableEq

/-- The entry that has left. -/
def Departure.entry (departure : Departure) : String × Nat :=
  (departure.key, departure.number)

/-- The report that is due on a removal. -/
def Departure.report (departure : Departure) : Report :=
  ⟨departure.caller, departure.entry⟩

/-- The departures without another entry in the place of the one that left. -/
def removals (departures : List Departure) : List Departure :=
  departures.filter fun departure => departure.successor.isNone

/-- The departures because another entry was put in the place. -/
def replacements (departures : List Departure) : List Departure :=
  departures.filter fun departure => departure.successor.isSome

/-- The caller whose step a move is. -/
def Move.caller? : Move → Option Nat
  | .advance caller _ => some caller
  | _ => none

/-- The request that a move makes. -/
def Move.request? : Move → Option Request
  | .invoke request => some request
  | _ => none

/-- The entries that are in the table before a step and not in it, under that key, afterwards. -/
def departing (before after : Registry) (caller : Option Nat) : List Departure :=
  (before.table.entries.filter fun entry => after.table.find? entry.1 ≠ some entry.2).map
    fun entry =>
      ⟨caller, entry.1, entry.2, after.table.find? entry.1, before.isCancelled entry.2⟩

namespace Deactivation

/-- The key that a deactivation is for, until it has finished. -/
def key? : Deactivation → Option String
  | .removing key | .cancelling key _ | .reporting key _ => some key
  | .finished _ => none

/-- The entry that a deactivation has removed and has yet to report. -/
def inHand? : Deactivation → Option (String × Nat)
  | .cancelling key number | .reporting key number => some (key, number)
  | _ => none

/-- The entry that the next step of a deactivation reports. -/
def reporting? : Deactivation → Option (String × Nat)
  | .reporting key number => some (key, number)
  | _ => none

end Deactivation

/-- The deactivation that a call is in the middle of. -/
def Call.deactivation? : Call → Option Deactivation
  | .deactivating deactivation | .sweeping deactivation _ _ => some deactivation
  | _ => none

/-- The entry that a call has removed and has yet to report. -/
def Call.inHand? (call : Call) : Option (String × Nat) :=
  call.deactivation?.bind Deactivation.inHand?

/-- The entry that the next step of a call reports. -/
def Call.reporting? (call : Call) : Option (String × Nat) :=
  call.deactivation?.bind Deactivation.reporting?

/-- The reports that a move makes. -/
def reporting (shared : SharedRegistry) (move : Move) : List Report :=
  ((move.caller?.bind fun caller => shared.calls[caller]?).bind Call.reporting?).toList.map
    fun entry => ⟨move.caller?, entry⟩

/-- What has happened in a run. -/
structure History where
  requests : List Request
  departures : List Departure
  reports : List Report

namespace History

/-- Nothing has happened yet. -/
def empty : History := ⟨[], [], []⟩

/-- What has happened after one more move. -/
def next (history : History) (shared : SharedRegistry) (move : Move) : History where
  requests := history.requests ++ move.request?.toList
  departures := history.departures ++
    departing shared.registry (shared.perform move).registry move.caller?
  reports := history.reports ++ shared.reporting move

/-- What has happened after moves, one after the other. -/
def after (history : History) (shared : SharedRegistry) : List Move → History
  | [] => history
  | move :: rest => after (history.next shared move) (shared.perform move) rest

/-- The entries that a caller has removed. -/
def removedBy (history : History) (caller : Nat) : List (String × Nat) :=
  ((removals history.departures).filter fun departure => departure.caller = some caller).map
    Departure.entry

/-- The entries that a caller has reported as removed. -/
def reportedBy (history : History) (caller : Nat) : List (String × Nat) :=
  (history.reports.filter fun report => report.caller = some caller).map Report.entry

end History

/-- The entries that were made, in the order in which they were. -/
def roll (registry : Registry) : List (String × Nat) :=
  (List.range registry.subscriptions.length).map fun number => (registry.keyOf number, number)

section Roll

variable {before after : Registry}

theorem keyOf_eq_standing? (registry : Registry) (number : Nat) :
    registry.keyOf number = ((registry.standing? number).map Prod.fst).getD "" := by
  simp only [keyOf, standing?, Option.map_map]
  rfl

theorem roll_of_standing (length : after.subscriptions.length = before.subscriptions.length)
    (standing : ∀ number, (after.standing? number).map Prod.fst =
      (before.standing? number).map Prod.fst) : roll after = roll before := by
  simp only [roll, length, keyOf_eq_standing?, standing]

theorem roll_of_makes {key : String} (makes : MakesEntry key before after) :
    roll after = roll before ++ [(key, before.subscriptions.length)] := by
  simp only [roll, makes.length, List.range_succ, List.map_append]
  congr 1
  · apply List.map_congr_left
    intro number member
    have older : number ≠ before.subscriptions.length := by
      have below := List.mem_range.mp member
      omega
    simp only [keyOf_eq_standing?, makes.standing, older, if_false]
  · simp [keyOf_eq_standing?, makes.standing]

theorem roll_of_cancels {number : Nat} (cancels : CancelsEntry number before after) :
    roll after = roll before := by
  apply roll_of_standing cancels.length
  intro other
  simp only [cancels.standing]
  split
  · rename_i same
    simp only [same, Option.map_map]
    rfl
  · rfl

theorem nodup_roll (registry : Registry) : ((roll registry).map Prod.snd).Nodup := by
  simpa [roll, Function.comp_def] using List.nodup_range

end Roll

section Departing

variable {before after : Registry} (caller : Option Nat)

theorem departing_of_table_eq (same : after.table = before.table) :
    departing before after caller = [] := by
  have stays : (before.table.entries.filter fun entry =>
      after.table.find? entry.1 ≠ some entry.2) = [] := by
    apply List.filter_eq_nil_iff.mpr
    intro entry member
    simpa [same] using before.table.mem_entries_iff.mp member
  simp only [departing, stays, List.map_nil]

theorem departing_of_removes {key : String} {number : Nat}
    (removes : RemovesEntry key number before after) :
    departing before after caller =
      [⟨caller, key, number, none, before.isCancelled number⟩] := by
  have leaving : (before.table.entries.filter fun entry =>
      after.table.find? entry.1 ≠ some entry.2) = before.table.entriesOf key := by
    rw [← before.table.filter_entries_eq]
    apply List.filter_congr
    intro entry member
    have held := before.table.mem_entries_iff.mp member
    by_cases same : entry.1 = key
    · simp [removes.table, KeyMap.find?_erase, same]
    · simp [removes.table, KeyMap.find?_erase, same, held]
  simp only [departing, leaving, KeyMap.entriesOf, removes.held]
  simp [removes.table, KeyMap.find?_erase]

/-- Whoever makes an entry puts it in the place of a cancelled one, if of any. -/
theorem departing_of_makes {key : String} (makes : MakesEntry key before after)
    (inUse : ∀ number, before.table.find? key = some number →
      number < before.subscriptions.length) :
    departing before after caller = (before.table.entriesOf key).map fun entry =>
      ⟨caller, key, entry.2, some before.subscriptions.length, true⟩ := by
  have leaving : (before.table.entries.filter fun entry =>
      after.table.find? entry.1 ≠ some entry.2) = before.table.entriesOf key := by
    rw [← before.table.filter_entries_eq]
    apply List.filter_congr
    intro entry member
    have held := before.table.mem_entries_iff.mp member
    by_cases same : entry.1 = key
    · have below := inUse entry.2 (same ▸ held)
      have different : before.subscriptions.length ≠ entry.2 := by omega
      simp [makes.table, KeyMap.find?_insert, same, different]
    · simp [makes.table, KeyMap.find?_insert, same, held]
  simp only [departing, leaving]
  apply List.map_congr_left
  intro entry member
  rcases before.table.mem_entriesOf_iff.mp member with ⟨rfl, held⟩
  have cancelled := (before.get?_eq_none_iff entry.1).mp makes.absent entry.2 held
  simp [makes.table, KeyMap.find?_insert, cancelled]

/-- What was in the table and what has come into it is what has left it and what is in it. -/
theorem departing_balance {pending later : Option (String × Nat)}
    (progress : Progress before pending after later)
    (inUse : ∀ key number, before.table.find? key = some number →
      number < before.subscriptions.length) :
    ∃ fresh, roll after = roll before ++ fresh ∧
      ((departing before after caller).map Departure.entry ++ after.table.entries).Perm
        (before.table.entries ++ fresh) := by
  cases progress with
  | kept idle free same =>
      refine ⟨[], ?_, ?_⟩
      · rw [List.append_nil]
        exact roll_of_standing same.length fun number => congrArg _ (same.standing number)
      · rw [departing_of_table_eq caller same.table, same.table]
        simp
  | made key idle free makes =>
      refine ⟨[(key, before.subscriptions.length)], roll_of_makes makes, ?_⟩
      have left : (departing before after caller).map Departure.entry =
          before.table.entriesOf key := by
        rw [departing_of_makes caller makes (inUse key)]
        simp [KeyMap.entriesOf, Departure.entry, Function.comp_def]
      rw [left, makes.table]
      have inserted := (before.table.entries_insert_perm key
        before.subscriptions.length).append_left (before.table.entriesOf key)
      have erased := (before.table.entries_perm_erase key).symm.cons
        (key, before.subscriptions.length)
      apply inserted.trans
      apply List.perm_middle.trans
      exact erased.trans (List.perm_append_singleton _ _).symm
  | removed key number idle taken removes =>
      refine ⟨[], ?_, ?_⟩
      · rw [List.append_nil]
        exact roll_of_standing removes.length fun number => congrArg _ (removes.standing number)
      · rw [departing_of_removes caller removes, removes.table]
        have erased := before.table.entries_perm_erase key
        simp only [KeyMap.entriesOf, removes.held] at erased
        simpa [Departure.entry] using erased.symm
  | cancelled number own free cancels =>
      refine ⟨[], ?_, ?_⟩
      · rw [List.append_nil]
        exact roll_of_cancels cancels
      · rw [departing_of_table_eq caller cancels.table, cancels.table]
        simp

end Departing

/-- The key for which a request may make an entry. -/
def Request.wanted? : Request → Option String
  | .getOrCreate key _ | .getSnapshot key _ | .getStream key _ => some key
  | _ => none

/-- The answer of a request agrees with how many removals were reported for it. -/
def Request.Reports (answer : Answer) (reported : Nat) : Request → Prop
  | .deactivate _ => answer = .flag (reported == 1) ∧ reported ≤ 1
  | .shutdown => answer = .count reported
  | _ => reported = 0

/-- A call is one that a request has come to, with a number of removals reported on the way. -/
def Call.Pursues (request : Request) (reported : Nat) : Call → Prop
  | .looking key _ _ | .entering key _ _ => request.wanted? = some key ∧ reported = 0
  | .holding _ _ | .asking _ _ | .leaving _ _ => request.wanted?.isSome ∧ reported = 0
  | .updating _ _ | .replacing _ _ =>
      (∃ key options, request = .updateOptions key options) ∧ reported = 0
  | .deactivating deactivation =>
      (∃ key, request = .deactivate key ∧ deactivation.key? = some key) ∧ reported = 0
  | .listing _ => request = .shutdown ∧ reported = 0
  | .sweeping deactivation _ count =>
      request = .shutdown ∧ deactivation.key?.isSome ∧ reported = count
  | .done answer => request.Reports answer reported

/-- What the request of a caller has to do with an entry that left the table in the caller's step.
-/
def Departure.DueTo (departure : Departure) (request : Request) : Prop :=
  match departure.successor with
  | none => request = .deactivate departure.key ∨ request = .shutdown
  | some _ => request.wanted? = some departure.key ∧ departure.cancelled = true

theorem Request.pursues_call (request : Request) : request.call.Pursues request 0 := by
  cases request <;> simp [Request.call, Call.Pursues, Request.wanted?, Deactivation.key?]

theorem Request.reports_of_wanted {request : Request} (wanted : request.wanted?.isSome)
    (answer : Answer) : request.Reports answer 0 := by
  cases request <;> simp_all [Request.wanted?, Request.Reports]

theorem Call.Pursues.reported_add_inHand_le {call : Call} {key : String} {reported : Nat}
    (pursues : call.Pursues (.deactivate key) reported) :
    reported + call.inHand?.toList.length ≤ 1 := by
  cases call with
  | looking key options wish => cases pursues.1
  | entering key options wish => cases pursues.1
  | holding number wish => cases pursues.1
  | asking number options => cases pursues.1
  | leaving number answer => cases pursues.1
  | updating key options =>
      rcases pursues with ⟨⟨_, _, absurd⟩, _⟩
      cases absurd
  | replacing number options =>
      rcases pursues with ⟨⟨_, _, absurd⟩, _⟩
      cases absurd
  | deactivating deactivation =>
      rcases pursues with ⟨_, rfl⟩
      cases held : deactivation.inHand? <;> simp [inHand?, deactivation?, held]
  | listing keys => cases pursues.1
  | sweeping deactivation keys count => cases pursues.1
  | done answer => simpa [inHand?, deactivation?] using pursues.2

section Steps

variable (registry : Registry) (caller : Option Nat)

theorem table_giveBack (number : Nat) :
    (registry.giveBack number).state.table = registry.table := by
  rcases registry.giveBack_entries number with same | ⟨cancels, _⟩
  · exact same.table
  · exact cancels.table

/-- A step of a deactivation takes out at most the entry of its key, which it then has in hand. -/
theorem Deactivation.departing_step (deactivation : Deactivation) :
    let after := (deactivation.step registry).state
    deactivation.inHand?.toList ++
          (removals (departing registry after caller)).map Departure.entry =
        deactivation.reporting?.toList ++ (deactivation.step registry).answer.inHand?.toList ∧
      ∀ departure ∈ departing registry after caller, departure.caller = caller ∧
        departure.successor = none ∧ deactivation.key? = some departure.key := by
  cases deactivation with
  | removing key =>
      rcases registry.remove_entries key with ⟨absent, _⟩ | ⟨number, found, removes⟩
      · simp only [step, absent]
        rw [departing_of_table_eq caller rfl]
        simp [removals, inHand?, reporting?]
      · simp only [step, found]
        rw [departing_of_removes caller (removes.trans_same (sameEntries_lend _ number))]
        simp [removals, inHand?, reporting?, key?, Departure.entry]
  | cancelling key number =>
      have kept := (registry.cancelsEntry_cancel number).table
      simp only [step]
      rw [departing_of_table_eq caller kept]
      simp [removals, inHand?, reporting?]
  | reporting key number =>
      simp only [step]
      rw [departing_of_table_eq caller (table_giveBack registry number)]
      simp [removals, inHand?, reporting?]
  | finished found =>
      simp only [step]
      rw [departing_of_table_eq caller rfl]
      simp [removals, inHand?, reporting?]

/-- A deactivation goes on with its key, or finishes with whether it reports a removal. -/
theorem Deactivation.answer_step {deactivation : Deactivation} {key : String}
    (unfinished : deactivation.key? = some key) :
    ((deactivation.step registry).answer.key? = some key ∧ deactivation.reporting? = none) ∨
      ∃ found, (deactivation.step registry).answer = .finished found ∧
        deactivation.reporting?.toList.length = if found then 1 else 0 := by
  cases deactivation with
  | removing other =>
      cases unfinished
      cases held : registry.table.find? key with
      | none =>
          right
          exact ⟨false, by simp [step, remove, held], rfl⟩
      | some number =>
          left
          exact ⟨by simp [step, remove, held, key?], rfl⟩
  | cancelling other number => exact Or.inl ⟨unfinished, rfl⟩
  | reporting other number => exact Or.inr ⟨true, rfl, rfl⟩
  | finished found => cases unfinished

/-- What a step of a call does that pursues a request: the call stays one of that request, with one
more removal reported if the step reports one; it keeps account of what it has in hand; and what
leaves the table is something that the request is after. -/
structure Handles (request : Request) (reported : Nat) (call later : Call) (before after : Registry)
    (caller : Option Nat) : Prop where
  pursues : later.Pursues request (reported + call.reporting?.toList.length)
  custody : call.inHand?.toList ++ (removals (departing before after caller)).map Departure.entry =
    call.reporting?.toList ++ later.inHand?.toList
  due : ∀ departure ∈ departing before after caller, departure.caller = caller ∧
    departure.DueTo request

variable {registry caller} {request : Request} {reported : Nat}

/-- A step that leaves the table alone, outside of a deactivation. -/
theorem Handles.quiet {call later : Call} {after : Registry} (kept : after.table = registry.table)
    (idle : call.deactivation? = none) (free : later.inHand? = none)
    (pursues : later.Pursues request reported) :
    Handles request reported call later registry after caller where
  pursues := by simpa [Call.reporting?, idle] using pursues
  custody := by
    rw [departing_of_table_eq caller kept]
    simp [removals, Call.inHand?, Call.reporting?, idle, ← free]
  due := by
    rw [departing_of_table_eq caller kept]
    simp

/-- A step of the deactivation that a call is in the middle of. -/
theorem Handles.within {call later : Call} {deactivation : Deactivation} {key : String}
    (inside : call.deactivation? = some deactivation) (unfinished : deactivation.key? = some key)
    (asked : request = .deactivate key ∨ request = .shutdown)
    (hand : later.inHand? = (deactivation.step registry).answer.inHand?)
    (pursues : later.Pursues request (reported + deactivation.reporting?.toList.length)) :
    Handles request reported call later registry (deactivation.step registry).state caller := by
  rcases deactivation.departing_step registry caller with ⟨custody, due⟩
  refine ⟨?_, ?_, ?_⟩
  · simpa only [Call.reporting?, inside, Option.bind_some] using pursues
  · simpa only [Call.inHand?, Call.reporting?, inside, Option.bind_some, ← hand] using custody
  · intro departure member
    rcases due departure member with ⟨own, alone, same⟩
    rw [unfinished] at same
    cases same
    exact ⟨own, by simpa only [Departure.DueTo, alone] using asked⟩

theorem sweepOn_pursues (state : Registry) (count : Nat) (keys : List String) :
    (Call.sweepOn state count keys).answer.Pursues .shutdown count := by
  cases keys <;> simp [Call.sweepOn, Call.Pursues, Request.Reports, Deactivation.key?]

theorem sweepOn_inHand (state : Registry) (count : Nat) (keys : List String) :
    (Call.sweepOn state count keys).answer.inHand? = none := by
  cases keys <;> rfl

/-- A call that enters the table leaves it alone, or makes an entry, which may take the place of a
cancelled one. -/
theorem Call.handles_entering {key : String} (wanted : request.wanted? = some key)
    (options : OptionSet) (wish : Wish) (refusal : Option StartRefusal)
    (inUse : ∀ number, registry.table.find? key = some number →
      number < registry.subscriptions.length) :
    Handles request 0 (.entering key options wish)
      ((Call.entering key options wish).step registry refusal).answer registry
      ((Call.entering key options wish).step registry refusal).state caller := by
  have wishes : request.wanted?.isSome := by simp [wanted]
  rcases registry.getOrCreate_cases key options refusal with
    ⟨found, _, answer, same⟩ | ⟨reason, _, _, answer, same⟩ | ⟨absent, _, answer, made⟩
  · simp only [step, answer, same]
    exact .quiet (registry.sameEntries_lend found).table rfl rfl ⟨wishes, rfl⟩
  · simp only [step, answer, same]
    exact .quiet rfl rfl rfl (Request.reports_of_wanted wishes _)
  · simp only [step, answer, made]
    have makes := (registry.makesEntry_entered absent options).trans_same
      (sameEntries_lend _ registry.subscriptions.length)
    have left := departing_of_makes caller makes inUse
    refine ⟨⟨wishes, rfl⟩, ?_, ?_⟩
    -- A replacement is no removal, so it is in nobody's hand and nobody reports it.
    · rw [left]
      simp [removals, List.filter_map, Function.comp_def, inHand?, reporting?, deactivation?]
    · intro departure member
      rw [left] at member
      rcases List.mem_map.mp member with ⟨entry, _, rfl⟩
      exact ⟨rfl, wanted, rfl⟩

theorem Call.step_deactivating {deactivation : Deactivation} {key : String}
    (goesOn : (deactivation.step registry).answer.key? = some key) (refusal : Option StartRefusal) :
    (Call.deactivating deactivation).step registry refusal =
      ⟨.deactivating (deactivation.step registry).answer, (deactivation.step registry).state,
        (deactivation.step registry).events⟩ := by
  simp only [step]
  split
  · rename_i found finished
    rw [finished] at goesOn
    cases goesOn
  · rfl

theorem Call.step_sweeping {deactivation : Deactivation} {key : String}
    (goesOn : (deactivation.step registry).answer.key? = some key) (keys : List String)
    (count : Nat) (refusal : Option StartRefusal) :
    (Call.sweeping deactivation keys count).step registry refusal =
      ⟨.sweeping (deactivation.step registry).answer keys count, (deactivation.step registry).state,
        (deactivation.step registry).events⟩ := by
  simp only [step]
  split
  · rename_i found finished
    rw [finished] at goesOn
    cases goesOn
  · rfl

/-- A deactivation that was asked for directly answers whether it reports a removal. -/
theorem Call.handles_deactivating {deactivation : Deactivation} {key : String}
    (unfinished : deactivation.key? = some key) (refusal : Option StartRefusal) :
    Handles (.deactivate key) 0 (.deactivating deactivation)
      ((Call.deactivating deactivation).step registry refusal).answer registry
      ((Call.deactivating deactivation).step registry refusal).state caller := by
  have within := @Handles.within registry caller (.deactivate key) 0 (.deactivating deactivation)
  rcases deactivation.answer_step registry unfinished with
    ⟨goesOn, silent⟩ | ⟨found, finished, reports⟩
  · rw [step_deactivating goesOn refusal]
    apply within rfl unfinished (.inl rfl) rfl
    exact ⟨⟨key, rfl, goesOn⟩, by simp [silent]⟩
  · simp only [step, finished]
    apply within rfl unfinished (.inl rfl)
    · rw [finished]
      rfl
    · rw [reports]
      cases found <;> exact ⟨rfl, by decide⟩

/-- A shutdown counts a removal just when the deactivation that it is in the middle of reports it.
-/
theorem Call.handles_sweeping {deactivation : Deactivation}
    (unfinished : deactivation.key?.isSome) (keys : List String) (count : Nat)
    (refusal : Option StartRefusal) :
    Handles .shutdown count (.sweeping deactivation keys count)
      ((Call.sweeping deactivation keys count).step registry refusal).answer registry
      ((Call.sweeping deactivation keys count).step registry refusal).state caller := by
  rcases Option.isSome_iff_exists.mp unfinished with ⟨key, keyed⟩
  have within := @Handles.within registry caller .shutdown count (.sweeping deactivation keys count)
  rcases deactivation.answer_step registry keyed with
    ⟨goesOn, silent⟩ | ⟨found, finished, reports⟩
  · rw [step_sweeping goesOn keys count refusal]
    apply within rfl keyed (.inr rfl) rfl
    exact ⟨rfl, by simp [goesOn], by simp [silent]⟩
  · have state := (Call.sweepOn_entries (deactivation.step registry).state
      (count + if found then 1 else 0) keys).1
    simp only [step, finished, state]
    apply within rfl keyed (.inr rfl)
    · rw [finished, sweepOn_inHand]
      rfl
    · rw [reports]
      exact sweepOn_pursues _ _ _

theorem Call.handles_step {call : Call} (refusal : Option StartRefusal)
    (pursues : call.Pursues request reported)
    (inUse : ∀ key number, registry.table.find? key = some number →
      number < registry.subscriptions.length) :
    Handles request reported call (call.step registry refusal).answer registry
      (call.step registry refusal).state caller := by
  cases call with
  | looking key options wish =>
      rcases pursues with ⟨wanted, none_yet⟩
      cases live : registry.get? key with
      | some number =>
          simp only [step, live]
          exact .quiet (registry.sameEntries_lend number).table rfl rfl ⟨by simp [wanted], none_yet⟩
      | none =>
          simp only [step, live]
          exact .quiet rfl rfl rfl ⟨wanted, none_yet⟩
  | entering key options wish =>
      rcases pursues with ⟨wanted, rfl⟩
      exact handles_entering wanted options wish refusal (inUse key)
  | holding number wish =>
      rcases pursues with ⟨wishes, rfl⟩
      cases wish with
      | handle => exact .quiet rfl rfl rfl (Request.reports_of_wanted wishes _)
      | snapshot => exact .quiet rfl rfl rfl ⟨wishes, rfl⟩
      | stream =>
          exact .quiet (registry.sameEntries_onChannel number _).table rfl rfl ⟨wishes, rfl⟩
  | asking number options => exact .quiet rfl rfl rfl pursues
  | leaving number answer =>
      rcases pursues with ⟨wishes, rfl⟩
      exact .quiet (table_giveBack registry number) rfl rfl (Request.reports_of_wanted wishes _)
  | updating key options =>
      rcases pursues with ⟨⟨_, _, rfl⟩, rfl⟩
      cases live : registry.get? key with
      | some number =>
          simp only [step, live]
          exact .quiet rfl rfl rfl ⟨⟨_, _, rfl⟩, rfl⟩
      | none =>
          simp only [step, live]
          exact .quiet rfl rfl rfl rfl
  | replacing number options =>
      rcases pursues with ⟨⟨_, _, rfl⟩, rfl⟩
      exact .quiet (registry.sameEntries_replaceOptions number options).table rfl rfl rfl
  | deactivating deactivation =>
      rcases pursues with ⟨⟨key, rfl, unfinished⟩, rfl⟩
      exact handles_deactivating unfinished refusal
  | listing keys =>
      rcases pursues with ⟨rfl, rfl⟩
      rcases Call.sweepOn_entries registry 0 keys with ⟨same, _⟩
      exact .quiet (by simp only [step, same]) rfl (sweepOn_inHand registry 0 keys)
        (sweepOn_pursues registry 0 keys)
  | sweeping deactivation keys count =>
      rcases pursues with ⟨rfl, unfinished, rfl⟩
      exact handles_sweeping unfinished keys reported refusal
  | done answer => exact .quiet rfl rfl rfl pursues

end Steps

end ConsoleFeed.SharedRegistry
