import ConsoleFeed.Proofs.Registry.Departures
import Mathlib.Algebra.BigOperators.Group.List.Basic
import Mathlib.Algebra.GroupWithZero.Nat

/-!
# Every entry leaves the table once

Two accounts are kept along a run. The first is of entries: those that have left and those in the
table are, up to order, those that were made. The second is of each call: the entries that it has
removed are those that it has reported, in the same order, and then the one that it has in hand. A
shutdown reports by counting, a deactivation by its answer, and no other call removes or reports
anything. From the second account follows that nothing is counted twice, although a shutdown works
from a list of keys that may be out of date.
-/

namespace ConsoleFeed.SharedRegistry

open Registry

/-- A shutdown lists a key, or nothing happens. -/
theorem perform_list (shared : SharedRegistry) (caller : Nat) (key : String) :
    shared.perform (.list caller key) = shared ∨
      ∃ keys, shared.calls[caller]? = some (.listing keys) ∧
        shared.perform (.list caller key) =
          ⟨shared.registry, shared.calls.set caller (.listing (keys ++ [key]))⟩ := by
  simp only [perform]
  split
  · rename_i keys present
    split
    · exact Or.inr ⟨keys, present, rfl⟩
    · exact Or.inl rfl
  · exact Or.inl rfl

/-- The accounts of a shared registry and what has happened to it. -/
structure Balances (shared : SharedRegistry) (history : History) : Prop where
  account : shared.IsAccounted
  entries : (history.departures.map Departure.entry ++ shared.registry.table.entries).Perm
    (roll shared.registry)
  known : shared.calls.length = history.requests.length
  due : ∀ departure ∈ history.departures, ∃ caller request,
    departure.caller = some caller ∧ history.requests[caller]? = some request ∧
      departure.DueTo request
  reporter : ∀ report ∈ history.reports, ∃ caller < shared.calls.length,
    report.caller = some caller
  custody : ∀ caller call, shared.calls[caller]? = some call → ∃ request,
    history.requests[caller]? = some request ∧
      call.Pursues request (history.reportedBy caller).length ∧
      history.removedBy caller = history.reportedBy caller ++ call.inHand?.toList

theorem balances_start (name : String) (settings : StreamerSettings) (directory : Directory) :
    Balances (start name settings directory) .empty where
  account := isAccounted_start name settings directory
  entries := .refl []
  known := rfl
  due := by simp [History.empty]
  reporter := by simp [History.empty]
  custody := by simp [start]

section Appending

variable (history : History) (requests : List Request) {caller : Nat}

theorem removedBy_append {departures : List Departure} (reports : List Report)
    (own : ∀ departure ∈ departures, departure.caller = some caller) (other : Nat) :
    History.removedBy ⟨requests, history.departures ++ departures, reports⟩ other =
      history.removedBy other ++
        if other = caller then (removals departures).map Departure.entry else [] := by
  have mine : ∀ departure ∈ removals departures,
      decide (departure.caller = some other) = decide (other = caller) := by
    intro departure member
    rw [own departure (List.mem_of_mem_filter member)]
    simp [eq_comm]
  have apart : removals (history.departures ++ departures) =
      removals history.departures ++ removals departures := List.filter_append ..
  simp only [History.removedBy, apart, List.filter_append, List.map_append]
  rw [List.filter_congr mine]
  by_cases same : other = caller <;> simp [same]

theorem reportedBy_append (departures : List Departure) (entries : List (String × Nat))
    (other : Nat) :
    History.reportedBy ⟨requests, departures, history.reports ++ entries.map fun entry =>
        ⟨some caller, entry⟩⟩ other =
      history.reportedBy other ++ if other = caller then entries else [] := by
  simp only [History.reportedBy, List.filter_append, List.map_append]
  by_cases same : other = caller
  · simp [same, List.filter_map, Function.comp_def]
  · simp [Ne.symm same, same, List.filter_map, Function.comp_def]

end Appending

namespace Balances

variable {shared : SharedRegistry} {history : History}

/-- Nothing is heard of a caller before its request. -/
theorem unheard (balances : Balances shared history) {caller : Nat}
    (later : history.requests.length ≤ caller) :
    history.removedBy caller = [] ∧ history.reportedBy caller = [] := by
  constructor
  · have none_left : ((removals history.departures).filter fun departure =>
        departure.caller = some caller) = [] := by
      apply List.filter_eq_nil_iff.mpr
      intro departure member own
      rcases balances.due departure (List.mem_of_mem_filter member) with
        ⟨mover, request, moved, asked, _⟩
      have inside := (List.getElem?_eq_some_iff.mp asked).1
      rw [moved] at own
      simp only [Option.some.injEq, decide_eq_true_eq] at own
      omega
    simp only [History.removedBy, none_left, List.map_nil]
  · have none_reported : (history.reports.filter fun report =>
        report.caller = some caller) = [] := by
      apply List.filter_eq_nil_iff.mpr
      intro report member own
      rcases balances.reporter report member with ⟨mover, inside, moved⟩
      have known := balances.known
      rw [moved] at own
      simp only [Option.some.injEq, decide_eq_true_eq] at own
      omega
    simp only [History.reportedBy, none_reported, List.map_nil]

theorem invoke (balances : Balances shared history) (request : Request) :
    Balances (shared.perform (.invoke request))
      { history with requests := history.requests ++ [request] } := by
  have known := balances.known
  refine ⟨balances.account.perform (.invoke request), balances.entries, ?_, ?_, ?_, ?_⟩
  · simp [SharedRegistry.perform, known]
  · intro departure member
    rcases balances.due departure member with ⟨caller, asked, moved, present, due⟩
    refine ⟨caller, asked, moved, ?_, due⟩
    rw [List.getElem?_append_left (List.getElem?_eq_some_iff.mp present).1]
    exact present
  · intro report member
    rcases balances.reporter report member with ⟨caller, inside, moved⟩
    refine ⟨caller, ?_, moved⟩
    simp only [SharedRegistry.perform, List.length_append]
    omega
  · intro caller call present
    simp only [SharedRegistry.perform] at present
    by_cases new : caller = history.requests.length
    -- Callers are numbered by their requests, so nothing can be booked yet for the new one.
    · subst new
      rw [← known, List.getElem?_append_right (Nat.le_refl _)] at present
      simp only [Nat.sub_self, List.getElem?_cons_zero, Option.some.injEq] at present
      subst present
      rcases balances.unheard (Nat.le_refl _) with ⟨unremoved, unreported⟩
      refine ⟨request, by simp, ?_, ?_⟩
      · exact (congrArg List.length unreported) ▸ request.pursues_call
      · have free : request.call.inHand? = none := by cases request <;> rfl
        rw [free, Option.toList_none, List.append_nil]
        exact unremoved.trans unreported.symm
    · have inside : caller < shared.calls.length := by
        have bound := (List.getElem?_eq_some_iff.mp present).1
        simp only [List.length_append, List.length_singleton] at bound
        omega
      rw [List.getElem?_append_left inside] at present
      rcases balances.custody caller call present with ⟨asked, found, rest⟩
      refine ⟨asked, ?_, rest⟩
      rw [List.getElem?_append_left (List.getElem?_eq_some_iff.mp found).1]
      exact found

/-- A move that is no step of a call, leaves the table alone and makes no entry keeps the accounts.
-/
theorem still (balances : Balances shared history) {move : Move} (unasked : move.request? = none)
    (unmoved : move.caller? = none) (calls : (shared.perform move).calls = shared.calls)
    (table : (shared.perform move).registry.table = shared.registry.table)
    (same : roll (shared.perform move).registry = roll shared.registry) :
    Balances (shared.perform move) (history.next shared move) := by
  have quiet : history.next shared move = history := by
    simp [History.next, unasked, reporting, unmoved, departing_of_table_eq none table]
  rw [quiet]
  refine ⟨balances.account.perform move, ?_, ?_, balances.due, ?_, ?_⟩
  · rw [table, same]
    exact balances.entries
  · rw [calls]
    exact balances.known
  · rw [calls]
    exact balances.reporter
  · rw [calls]
    exact balances.custody

theorem of_sameEntries (balances : Balances shared history) {move : Move}
    (unasked : move.request? = none) (unmoved : move.caller? = none)
    (calls : (shared.perform move).calls = shared.calls)
    (same : SameEntries shared.registry (shared.perform move).registry) :
    Balances (shared.perform move) (history.next shared move) :=
  balances.still unasked unmoved calls same.table
    (roll_of_standing same.length fun number => congrArg _ (same.standing number))

theorem of_cancelsEntry (balances : Balances shared history) {move : Move} {number : Nat}
    (unasked : move.request? = none) (unmoved : move.caller? = none)
    (calls : (shared.perform move).calls = shared.calls)
    (cancels : CancelsEntry number shared.registry (shared.perform move).registry) :
    Balances (shared.perform move) (history.next shared move) :=
  balances.still unasked unmoved calls cancels.table (roll_of_cancels cancels)

/-- One call goes a step on. -/
theorem advance (balances : Balances shared history) {caller : Nat} {call later : Call}
    {after : Registry} (present : shared.calls[caller]? = some call)
    (account : IsAccounted ⟨after, shared.calls.set caller later⟩)
    (handles : ∀ request reported, call.Pursues request reported →
      Handles request reported call later shared.registry after (some caller))
    (balance : ∃ fresh, roll after = roll shared.registry ++ fresh ∧
      ((departing shared.registry after (some caller)).map Departure.entry ++
        after.table.entries).Perm (shared.registry.table.entries ++ fresh)) :
    Balances ⟨after, shared.calls.set caller later⟩
      { history with
        departures := history.departures ++ departing shared.registry after (some caller)
        reports := history.reports ++ call.reporting?.toList.map fun entry =>
          ⟨some caller, entry⟩ } := by
  rcases balances.custody caller call present with ⟨request, asked, pursues, custody⟩
  have handled := handles request _ pursues
  have inside : caller < shared.calls.length := (List.getElem?_eq_some_iff.mp present).1
  refine ⟨account, ?_, ?_, ?_, ?_, ?_⟩
  · rcases balance with ⟨fresh, made, step⟩
    rw [made, List.map_append, List.append_assoc]
    have joined := (step.append_left _).trans (List.append_assoc .. ▸
      balances.entries.append_right fresh)
    exact joined
  · simpa using balances.known
  · intro departure member
    rcases List.mem_append.mp member with old | new
    · exact balances.due departure old
    · rcases handled.due departure new with ⟨own, due⟩
      exact ⟨caller, request, own, asked, due⟩
  · intro report member
    rcases List.mem_append.mp member with old | new
    · simpa using balances.reporter report old
    · rcases List.mem_map.mp new with ⟨entry, _, rfl⟩
      exact ⟨caller, by simpa using inside, rfl⟩
  · intro other found foundPresent
    have own := fun departure member => (handled.due departure member).1
    rw [removedBy_append history _ _ own, reportedBy_append]
    by_cases same : other = caller
    -- What the step removes and what it reports are its caller's own, so the other accounts stand.
    · subst same
      rw [List.getElem?_set_self inside] at foundPresent
      cases foundPresent
      refine ⟨request, asked, ?_, ?_⟩
      · simpa using handled.pursues
      · simp only [if_true, custody, List.append_assoc]
        rw [handled.custody]
    · rw [List.getElem?_set_ne (Ne.symm same)] at foundPresent
      simpa [same] using balances.custody other found foundPresent

theorem perform (balances : Balances shared history) (move : Move) :
    Balances (shared.perform move) (history.next shared move) := by
  have account := balances.account.perform move
  cases move with
  | invoke request =>
      have table : (shared.perform (.invoke request)).registry.table = shared.registry.table := rfl
      simp only [History.next, reporting, Move.request?, Move.caller?,
        departing_of_table_eq none table]
      simpa using balances.invoke request
  | advance caller refusal =>
      cases present : shared.calls[caller]? with
      | none =>
          have still : shared.perform (.advance caller refusal) = shared := by
            simp only [SharedRegistry.perform, present]
          have quiet : history.next shared (.advance caller refusal) = history := by
            simp only [History.next, still, departing_of_table_eq (some caller) rfl, reporting,
              Move.request?, Move.caller?, Option.bind_some, present]
            simp
          rw [still, quiet]
          exact balances
      | some call =>
          simp only [SharedRegistry.perform, present] at account
          have moved := balances.advance present account
            (fun request reported pursues =>
              Call.handles_step refusal pursues balances.account.inUse)
            (departing_balance (some caller) (call.progress_step shared.registry refusal)
              balances.account.inUse)
          simpa [History.next, SharedRegistry.perform, present, reporting, Move.request?,
            Move.caller?] using moved
  | list caller key =>
      rcases shared.perform_list caller key with idle | ⟨keys, present, moved⟩
      · apply balances.of_sameEntries rfl rfl <;> rw [idle]
      · have quiet : departing shared.registry shared.registry (some caller) = [] :=
          departing_of_table_eq (some caller) rfl
        rw [moved] at account
        have advanced := balances.advance present account
          (fun _ _ pursues => .quiet rfl rfl rfl pursues) ⟨[], by simp, by simp [quiet]⟩
        rw [moved]
        simpa [History.next, moved, reporting, Move.request?, Move.caller?, Call.reporting?,
          Call.deactivation?, departing_of_table_eq] using advanced
  | cancel number =>
      exact balances.of_cancelsEntry rfl rfl rfl (shared.registry.cancelsEntry_cancel number)
  | giveBack number =>
      rcases shared.registry.giveBack_entries number with same | ⟨cancels, _⟩
      · exact balances.of_sameEntries rfl rfl rfl same
      · exact balances.of_cancelsEntry rfl rfl rfl cancels
  | replaceOptions number options =>
      exact balances.of_sameEntries rfl rfl rfl
        (shared.registry.sameEntries_replaceOptions number options)
  | beginTick number =>
      apply balances.of_sameEntries rfl rfl rfl
      simp only [SharedRegistry.perform]
      cases begun : shared.registry.beginTick? number with
      | none => exact .refl shared.registry
      | some taken => exact shared.registry.sameEntries_beginTick number begun
  | endTick number options =>
      exact balances.of_sameEntries rfl rfl rfl (shared.registry.sameEntries_endTick number options)
  | changeChannel number change =>
      exact balances.of_sameEntries rfl rfl rfl
        (shared.registry.sameEntries_changing number (fun _ => rfl) (fun _ => rfl))
  | changeProviders directory =>
      exact balances.of_sameEntries rfl rfl rfl ⟨rfl, fun _ => rfl, rfl⟩

theorem run (balances : Balances shared history) (moves : List Move) :
    Balances (shared.run moves) (history.after shared moves) := by
  induction moves generalizing shared history with
  | nil => exact balances
  | cons move rest ih => exact ih (balances.perform move)

end Balances

section Totals

/-- What the answer of a call adds to the removals that were reported. -/
def Request.counted : Request → Call → Nat
  | .deactivate _, .done (.flag true) => 1
  | .shutdown, .done (.count reported) => reported
  | _, _ => 0

theorem Request.counted_of_reports {request : Request} {answer : Answer} {reported : Nat}
    (reports : request.Reports answer reported) : request.counted (.done answer) = reported := by
  cases request with
  | deactivate key =>
      rcases reports with ⟨rfl, few⟩
      have few : reported = 0 ∨ reported = 1 := by omega
      rcases few with rfl | rfl <;> rfl
  | shutdown =>
      cases reports
      rfl
  | getOrCreate key options => exact reports.symm
  | getSnapshot key options => exact reports.symm
  | getStream key options => exact reports.symm
  | updateOptions key options => exact reports.symm

theorem sum_range_indicator {caller bound : Nat} (inside : caller < bound) :
    ((List.range bound).map fun other => if caller = other then 1 else 0).sum = 1 := by
  induction bound with
  | zero => omega
  | succ bound ih =>
      rw [List.range_succ, List.map_append, List.sum_append]
      by_cases last : caller = bound
      · subst last
        have earlier : ((List.range caller).map fun other =>
            if caller = other then 1 else 0).sum = 0 := by
          apply List.sum_eq_zero
          intro indicator member
          rcases List.mem_map.mp member with ⟨other, below, rfl⟩
          have different : caller ≠ other := by
            have smaller := List.mem_range.mp below
            omega
          simp [different]
        simp [earlier]
      · have smaller : caller < bound := by omega
        simp [ih smaller, last]

/-- Reports of callers below a bound, counted caller by caller. -/
theorem sum_length_reports {reports : List Report} {bound : Nat}
    (known : ∀ report ∈ reports, ∃ caller < bound, report.caller = some caller) :
    ((List.range bound).map fun caller =>
      (reports.filter fun report => report.caller = some caller).length).sum =
        reports.length := by
  induction reports with
  | nil => simp
  | cons report rest ih =>
      rcases known report List.mem_cons_self with ⟨own, inside, mover⟩
      have others := ih fun later member => known later (List.mem_cons_of_mem report member)
      have split : ∀ caller, ((report :: rest).filter fun report =>
          report.caller = some caller).length =
            (if own = caller then 1 else 0) +
              (rest.filter fun report => report.caller = some caller).length := by
        intro caller
        by_cases same : own = caller
        · simp [mover, same, Nat.add_comm]
        · simp [mover, same]
      simp only [split]
      rw [List.sum_map_add, sum_range_indicator inside, others, List.length_cons, Nat.add_comm]

/-- Reports of one caller are known by their entries. -/
theorem eq_of_map_entry (caller : Option Nat) {first second : List Report}
    (firstOwn : ∀ report ∈ first, report.caller = caller)
    (secondOwn : ∀ report ∈ second, report.caller = caller)
    (same : first.map Report.entry = second.map Report.entry) : first = second := by
  have restored : ∀ {reports : List Report}, (∀ report ∈ reports, report.caller = caller) →
      (reports.map Report.entry).map (fun entry => (⟨caller, entry⟩ : Report)) = reports := by
    intro reports own
    rw [List.map_map]
    calc reports.map ((fun entry => (⟨caller, entry⟩ : Report)) ∘ Report.entry)
        = reports.map id := by
          apply List.map_congr_left
          intro report member
          simp [← own report member]
      _ = reports := List.map_id reports
  rw [← restored firstOwn, ← restored secondOwn, same]

theorem perm_of_filter_caller {first second : List Report}
    (same : ∀ caller, (first.filter fun report => report.caller = caller) =
      second.filter fun report => report.caller = caller) : first.Perm second := by
  apply List.perm_iff_count.mpr
  intro report
  calc first.count report
      = (first.filter fun other => other.caller = report.caller).count report := by
        rw [List.count_filter (by simp)]
    _ = (second.filter fun other => other.caller = report.caller).count report := by
        rw [same]
    _ = second.count report := by
        rw [List.count_filter (by simp)]

end Totals

namespace Balances

variable {shared : SharedRegistry} {history : History}

/-- The entries made for a key are those that were removed, those that were replaced, and the one in
the table. -/
theorem made_eq (balances : Balances shared history) (key : String) :
    (roll shared.registry).countP (fun entry => entry.1 = key) =
      (removals history.departures).countP (fun departure => departure.key = key) +
        (replacements history.departures).countP (fun departure => departure.key = key) +
          if shared.registry.table.contains key then 1 else 0 := by
  have inTable : shared.registry.table.entries.countP (fun entry => entry.1 = key) =
      if shared.registry.table.contains key then 1 else 0 := by
    rw [List.countP_eq_length_filter, KeyMap.filter_entries_eq, KeyMap.entriesOf, KeyMap.contains]
    cases shared.registry.table.find? key <;> rfl
  have left := List.countP_eq_countP_filter_add history.departures
    (fun departure => decide (departure.key = key)) (fun departure => departure.successor.isNone)
  have others : (history.departures.filter fun departure => !departure.successor.isNone) =
      replacements history.departures := by
    simp [replacements]
  rw [← balances.entries.countP_eq, List.countP_append, List.countP_map, inTable]
  rw [← others]
  exact congrArg (· + _) left

/-- No entry leaves the table twice, and one that has left is not in it. -/
theorem leaves_once (balances : Balances shared history) :
    (history.departures.map Departure.number).Nodup ∧
      ∀ departure ∈ history.departures, shared.registry.inTable departure.number = false := by
  have numbers := (balances.entries.map Prod.snd).nodup_iff.mpr (nodup_roll shared.registry)
  rw [List.map_append, List.map_map] at numbers
  rcases List.nodup_append.mp numbers with ⟨once, _, apart⟩
  refine ⟨once, ?_⟩
  intro departure member
  apply Bool.eq_false_iff.mpr
  intro held
  rcases List.any_eq_true.mp held with ⟨entry, inside, same⟩
  exact apart departure.number (List.mem_map_of_mem member) entry.2 (List.mem_map_of_mem inside)
    (eq_of_beq same).symm

/-- Once all calls are over, each caller has reported what it removed. -/
theorem removedBy_eq_reportedBy (balances : Balances shared history)
    (finished : ∀ call ∈ shared.calls, ∃ answer, call = .done answer) (caller : Nat) :
    history.removedBy caller = history.reportedBy caller := by
  cases present : shared.calls[caller]? with
  | none =>
      have outside : history.requests.length ≤ caller :=
        balances.known ▸ List.getElem?_eq_none_iff.mp present
      rcases balances.unheard outside with ⟨unremoved, unreported⟩
      exact unremoved.trans unreported.symm
  | some call =>
      rcases finished call (List.mem_of_getElem? present) with ⟨answer, rfl⟩
      rcases balances.custody caller _ present with ⟨_, _, _, custody⟩
      simpa [Call.inHand?, Call.deactivation?] using custody

/-- Once all calls are over, every removal was reported, by whoever made it. -/
theorem reports_perm (balances : Balances shared history)
    (finished : ∀ call ∈ shared.calls, ∃ answer, call = .done answer) :
    ((removals history.departures).map Departure.report).Perm history.reports := by
  apply perm_of_filter_caller
  intro caller
  apply eq_of_map_entry caller (by simp) (by simp)
  cases caller with
  | none =>
      have noneLeft : ∀ departure ∈ removals history.departures, departure.caller ≠ none := by
        intro departure member
        rcases balances.due departure (List.mem_of_mem_filter member) with ⟨_, _, mover, _⟩
        simp [mover]
      have noneReported : ∀ report ∈ history.reports, report.caller ≠ none := by
        intro report member
        rcases balances.reporter report member with ⟨_, _, mover⟩
        simp [mover]
      rw [List.filter_eq_nil_iff.mpr (by simpa [Departure.report] using noneLeft),
        List.filter_eq_nil_iff.mpr (by simpa using noneReported)]
  | some caller =>
      have same := balances.removedBy_eq_reportedBy finished caller
      simp only [History.removedBy, History.reportedBy] at same
      rw [← same, List.filter_map, List.map_map]
      rfl

/-- Once all calls are over, the answer of each counts what its caller reported. -/
theorem counted_eq (balances : Balances shared history)
    (finished : ∀ call ∈ shared.calls, ∃ answer, call = .done answer) :
    List.zipWith Request.counted history.requests shared.calls =
      (List.range shared.calls.length).map fun caller =>
        (history.reports.filter fun report => report.caller = some caller).length := by
  apply List.ext_getElem?
  intro caller
  rw [List.getElem?_zipWith, List.getElem?_map]
  cases present : shared.calls[caller]? with
  | none =>
      have outside := List.getElem?_eq_none_iff.mp present
      have unasked : history.requests[caller]? = none :=
        List.getElem?_eq_none_iff.mpr (balances.known ▸ outside)
      simp [unasked, outside]
  | some call =>
      rcases finished call (List.mem_of_getElem? present) with ⟨answer, rfl⟩
      rcases balances.custody caller _ present with ⟨request, asked, pursues, _⟩
      have inside := (List.getElem?_eq_some_iff.mp present).1
      have counted := Request.counted_of_reports pursues
      simp [asked, counted, List.getElem?_range inside, History.reportedBy]

/-- Once all calls are over, every removal was reported, and the answers add up to the removals. -/
theorem settled (balances : Balances shared history)
    (finished : ∀ call ∈ shared.calls, ∃ answer, call = .done answer) :
    ((removals history.departures).map Departure.report).Perm history.reports ∧
      (List.zipWith Request.counted history.requests shared.calls).sum =
        (removals history.departures).length := by
  have permuted := balances.reports_perm finished
  refine ⟨permuted, ?_⟩
  rw [balances.counted_eq finished, sum_length_reports balances.reporter, ← permuted.length_eq,
    List.length_map]

/-- A deactivation that was asked for directly removes one entry at most. -/
theorem removes_one (balances : Balances shared history) {caller : Nat} {key : String}
    (asked : history.requests[caller]? = some (.deactivate key)) :
    (history.removedBy caller).length ≤ 1 := by
  have inside : caller < shared.calls.length :=
    balances.known ▸ (List.getElem?_eq_some_iff.mp asked).1
  rcases balances.custody caller _ (List.getElem?_eq_getElem inside) with
    ⟨request, found, pursues, custody⟩
  rw [asked] at found
  cases found
  rw [custody, List.length_append]
  exact pursues.reported_add_inHand_le

end Balances

/-- After any interleaving of any calls: The entries made for a key are as many as were removed, and
were replaced, and are in the table. None leaves the table twice or comes back. What a caller
removes it was asked to remove, and what it replaces was cancelled and is replaced by an entry that
it was asked for. Of the entries that a caller has removed it has reported all but the one that it
holds; a deactivation that was asked for directly removes one at most, and answers whether it did,
and a shutdown answers how many it removed. Once all calls are over, each removal has been reported
once, and the counts of the shutdowns and the deactivations that answer true add up to the removals.
-/
theorem every_entry_leaves_the_table_once (name : String) (settings : StreamerSettings)
    (directory : Directory) (moves : List Move) :
    let reached := (start name settings directory).run moves
    let history := History.empty.after (start name settings directory) moves
    (∀ key, (roll reached.registry).countP (fun entry => entry.1 = key) =
      (removals history.departures).countP (fun departure => departure.key = key) +
        (replacements history.departures).countP (fun departure => departure.key = key) +
          if reached.registry.table.contains key then 1 else 0) ∧
    ((history.departures.map Departure.number).Nodup ∧
      ∀ departure ∈ history.departures, reached.registry.inTable departure.number = false) ∧
    (∀ departure ∈ history.departures, ∃ caller request, departure.caller = some caller ∧
      history.requests[caller]? = some request ∧ departure.DueTo request) ∧
    (∀ caller call, reached.calls[caller]? = some call → ∃ request,
      history.requests[caller]? = some request ∧
      history.removedBy caller = history.reportedBy caller ++ call.inHand?.toList ∧
      (∀ key, request = .deactivate key → (history.removedBy caller).length ≤ 1) ∧
      ∀ answer, call = .done answer →
        request.Reports answer (history.reportedBy caller).length) ∧
    ((∀ call ∈ reached.calls, ∃ answer, call = .done answer) →
      ((removals history.departures).map Departure.report).Perm history.reports ∧
      (List.zipWith Request.counted history.requests reached.calls).sum =
        (removals history.departures).length) := by
  intro reached history
  have balances : Balances reached history := (balances_start name settings directory).run moves
  refine ⟨balances.made_eq, balances.leaves_once, balances.due, ?_, balances.settled⟩
  intro caller call present
  rcases balances.custody caller call present with ⟨request, asked, pursues, custody⟩
  refine ⟨request, asked, custody, ?_, ?_⟩
  · intro key direct
    exact balances.removes_one (direct ▸ asked)
  · intro answer finished
    subst finished
    exact pursues

end ConsoleFeed.SharedRegistry
