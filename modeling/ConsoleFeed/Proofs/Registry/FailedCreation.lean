import ConsoleFeed.Proofs.Registry.Interleaving

/-!
# A creation that fails leaves no trace

An entry needs a tick loop, and the loop needs a runtime and a thread, which the system may refuse.
By then the caller holds the place in the table at which the entry is to stand, empty or with a
cancelled entry in it. This file proves that a call which fails so might as well not have been made:
nothing is different afterwards, and nothing that is done later can tell.

For operations one after the other the failing one is taken out of a run, and the replies of the
others stay what they were. For calls that go on at the same time the failing caller's steps are
taken out, wherever they stand between those of the others. There the point is that a call which
fails has held nothing before: the step with which a call gets hold of an entry is the one after
which it cannot fail any more (`Call.MayFail`).
-/

namespace ConsoleFeed

namespace Registry

variable (registry : Registry)

/-- What operations answer and log, one after the other. -/
def replies (registry : Registry) : List Operation → List (Answer × List Event)
  | [] => []
  | operation :: rest =>
      let performed := registry.perform operation
      (performed.answer, performed.events) :: replies performed.state rest

@[simp]
theorem run_append (first second : List Operation) :
    registry.run (first ++ second) = (registry.run first).run second :=
  List.foldl_append ..

theorem replies_append (first second : List Operation) :
    registry.replies (first ++ second) =
      registry.replies first ++ (registry.run first).replies second := by
  induction first generalizing registry with
  | nil => rfl
  | cons operation rest ih =>
      simp only [List.cons_append, replies, ih]
      rfl

theorem length_replies (operations : List Operation) :
    (registry.replies operations).length = operations.length := by
  induction operations generalizing registry with
  | nil => rfl
  | cons operation rest ih => simp only [replies, List.length_cons, ih]

/-- The key whose entry an operation makes if there is none, and the system's reason not to give
what its loop needs. -/
def Operation.creation? : Operation → Option (String × Option StartRefusal)
  | .getOrCreate key _ refusal => some (key, refusal)
  | .getSnapshot key _ refusal => some (key, refusal)
  | .getStream key _ refusal => some (key, refusal)
  | _ => none

/-- What a failed creation logs. -/
def failureEvents (reason : StartRefusal) (failure : SchedulingFailure) : List Event :=
  [.threadRequested, reason.event, .creationFailed registry.name failure.key failure.message]

variable {registry}

/-- Asking for an entry fails where there is none and no runtime or no thread is to be had. -/
theorem getOrCreate_failed {key : String} {options : OptionSet} {refusal : Option StartRefusal}
    {failure : SchedulingFailure}
    (failed : (registry.getOrCreate key options refusal).answer = .error failure) :
    ∃ reason, key = failure.key ∧ refusal = some reason ∧ reason.fault = failure.cause ∧
      registry.get? key = none ∧ registry.getOrCreate key options refusal =
        ⟨.error failure, registry, registry.failureEvents reason failure⟩ := by
  rcases registry.getOrCreate_cases key options refusal with
    ⟨found, _, answer, _⟩ | ⟨reason, absent, refused, answer, _⟩ | ⟨_, _, answer, _⟩
  · rw [answer] at failed
    cases failed
  · rw [answer] at failed
    cases failed
    subst refused
    refine ⟨reason, rfl, rfl, rfl, absent, ?_⟩
    simp [getOrCreate, findOrMake, schedule, absent, failureEvents]
  · rw [answer] at failed
    cases failed

/-- An operation answers with a failure only if it was to make an entry and could not, and then it
has done nothing but log. -/
theorem perform_failed {creation : Operation} {failure : SchedulingFailure}
    (failed : (registry.perform creation).answer = .failed failure) :
    ∃ reason, creation.creation? = some (failure.key, some reason) ∧
      reason.fault = failure.cause ∧ registry.get? failure.key = none ∧
      registry.perform creation =
        ⟨.failed failure, registry, registry.failureEvents reason failure⟩ := by
  cases creation with
  | getOrCreate key options refusal =>
      cases answer : (registry.getOrCreate key options refusal).answer with
      | ok number => simp [perform, entryAnswer, answer] at failed
      | error other =>
          simp only [perform, entryAnswer, answer, Answer.failed.injEq] at failed
          subst failed
          rcases getOrCreate_failed answer with ⟨reason, rfl, rfl, cause, absent, whole⟩
          exact ⟨reason, rfl, cause, absent, by simp [perform, entryAnswer, whole]⟩
  | getSnapshot key options refusal =>
      cases answer : (registry.getOrCreate key options refusal).answer with
      | ok number =>
          simp only [perform, getSnapshot, answer] at failed
          generalize (takeSnapshotOf _ number).answer = taken at failed
          cases taken <;> cases failed
      | error other =>
          simp only [perform, getSnapshot, snapshotAnswer, answer, Answer.failed.injEq] at failed
          subst failed
          rcases getOrCreate_failed answer with ⟨reason, rfl, rfl, cause, absent, whole⟩
          exact ⟨reason, rfl, cause, absent, by simp [perform, getSnapshot, snapshotAnswer, whole]⟩
  | getStream key options refusal =>
      cases answer : (registry.getOrCreate key options refusal).answer with
      | ok number => simp [perform, getStream, entryAnswer, answer] at failed
      | error other =>
          simp only [perform, getStream, entryAnswer, answer, Answer.failed.injEq] at failed
          subst failed
          rcases getOrCreate_failed answer with ⟨reason, rfl, rfl, cause, absent, whole⟩
          exact ⟨reason, rfl, cause, absent, by simp [perform, getStream, entryAnswer, whole]⟩
  | receive number act =>
      simp only [perform, onChannel] at failed
      generalize registry.subscription? number = found at failed
      cases found with
      | none => cases failed
      | some subscription => cases act <;> cases failed
  | tick number =>
      simp only [perform] at failed
      split at failed <;> cases failed
  | _ => cases failed

end Registry

namespace SharedRegistry

open Registry

/-- The call has yet to get hold of an entry, or was refused one. -/
def Call.IsCreating : Call → Prop
  | .looking .. | .entering .. | .done (.failed _) => True
  | _ => False

/-- The call may still end with a failure, or has. -/
def Call.MayFail : Call → Prop
  | .leaving _ (.failed _) => True
  | call => call.IsCreating

/-- A step of a call that has yet to get hold of an entry changes nothing, unless it is the step
that gets hold of one. After that step the call cannot fail. -/
theorem Call.step_of_isCreating {call : Call} (creating : call.IsCreating) (registry : Registry)
    (refusal : Option StartRefusal) :
    (call.step registry refusal).answer.IsCreating ∧
        (call.step registry refusal).state = registry ∨
      ¬ (call.step registry refusal).answer.MayFail := by
  cases call with
  | looking key options wish =>
      simp only [Call.step]
      split
      · exact Or.inr id
      · exact Or.inl ⟨trivial, rfl⟩
  | entering key options wish =>
      simp only [Call.step]
      cases answer : (registry.getOrCreate key options refusal).answer with
      | ok number => exact Or.inr id
      | error failure =>
          rcases getOrCreate_failed answer with ⟨_, _, _, whole⟩
          exact Or.inl ⟨trivial, by simp [whole]⟩
  | done answer =>
      cases answer with
      | failed failure => exact Or.inl ⟨trivial, rfl⟩
      | _ => exact creating.elim
  | _ => exact creating.elim

theorem Call.sweepOn_not_mayFail (registry : Registry) (count : Nat) (keys : List String) :
    ¬ (Call.sweepOn registry count keys).answer.MayFail := by
  cases keys <;> exact id

theorem Call.step_not_mayFail {call : Call} (safe : ¬ call.MayFail) (registry : Registry)
    (refusal : Option StartRefusal) : ¬ (call.step registry refusal).answer.MayFail := by
  cases call with
  | looking key options wish => exact absurd trivial safe
  | entering key options wish => exact absurd trivial safe
  | holding number wish => cases wish <;> exact id
  | leaving number answer =>
      cases answer with
      | failed failure => exact absurd trivial safe
      | _ => exact id
  | updating key options =>
      simp only [Call.step]
      split <;> exact id
  | deactivating deactivation =>
      simp only [Call.step]
      split <;> exact id
  | listing keys => exact Call.sweepOn_not_mayFail registry 0 keys
  | sweeping deactivation keys count =>
      simp only [Call.step]
      split
      · exact Call.sweepOn_not_mayFail _ _ keys
      · exact id
  | done answer => exact safe
  | asking number options => exact id
  | replacing number options => exact id

theorem Request.call_isCreating_or (request : Request) :
    request.call.IsCreating ∨ ¬ request.call.MayFail := by
  cases request with
  | getOrCreate key options => exact Or.inl trivial
  | getSnapshot key options => exact Or.inl trivial
  | getStream key options => exact Or.inl trivial
  | updateOptions key options => exact Or.inr id
  | deactivate key => exact Or.inr id
  | shutdown => exact Or.inr id

/-- The move is a step of the caller with a number. -/
def Move.isOf (caller : Nat) : Move → Bool
  | .advance mover _ => mover = caller
  | .list mover _ => mover = caller
  | _ => false

/-- The two differ at most in how far one caller has come. -/
structure DiffersIn (caller : Nat) (first second : SharedRegistry) : Prop where
  registry : second.registry = first.registry
  length : second.calls.length = first.calls.length
  others : ∀ other, other ≠ caller → second.calls[other]? = first.calls[other]?

section Moves

variable {caller : Nat} {first second : SharedRegistry}

/-- What the others do is the same on both sides. -/
theorem DiffersIn.perform (differs : DiffersIn caller first second) {move : Move}
    (foreign : move.isOf caller = false) :
    DiffersIn caller (first.perform move) (second.perform move) := by
  have setCall : ∀ mover (state : Registry) (later : Call), DiffersIn caller
      ⟨state, first.calls.set mover later⟩ ⟨state, second.calls.set mover later⟩ := by
    intro mover state later
    refine ⟨rfl, by simp [differs.length], ?_⟩
    intro other different
    simp only [List.getElem?_set, differs.length, differs.others other different]
  have setState : ∀ {state later : Registry}, later = state →
      DiffersIn caller ⟨state, first.calls⟩ ⟨later, second.calls⟩ :=
    fun same => ⟨same, differs.length, differs.others⟩
  have same := differs.registry
  cases move with
  | invoke request =>
      refine ⟨same, by simp [SharedRegistry.perform, differs.length], ?_⟩
      intro other different
      simp only [SharedRegistry.perform, List.getElem?_append, differs.length,
        differs.others other different]
  | advance mover refusal =>
      have different : mover ≠ caller := by simpa [Move.isOf] using foreign
      simp only [SharedRegistry.perform, differs.others mover different, same]
      split
      · exact differs
      · exact setCall ..
  | list mover key =>
      have different : mover ≠ caller := by simpa [Move.isOf] using foreign
      simp only [SharedRegistry.perform, differs.others mover different, same]
      split
      · split
        · exact setCall ..
        · exact differs
      · exact differs
  | cancel number => exact setState (by rw [same])
  | giveBack number => exact setState (by rw [same])
  | replaceOptions number options => exact setState (by rw [same])
  | beginTick number => exact setState (by rw [same])
  | endTick number options => exact setState (by rw [same])
  | changeChannel number change => exact setState (by rw [same])
  | changeProviders directory => exact setState (by rw [same])

/-- A caller that cannot fail still cannot after any move. -/
theorem perform_not_mayFail {call : Call} (present : first.calls[caller]? = some call)
    (safe : ¬ call.MayFail) (move : Move) :
    ∃ later, (first.perform move).calls[caller]? = some later ∧ ¬ later.MayFail := by
  have inside := (List.getElem?_eq_some_iff.mp present).1
  cases move with
  | invoke request =>
      refine ⟨call, ?_, safe⟩
      simp only [SharedRegistry.perform]
      rw [List.getElem?_append_left inside, present]
  | advance mover refusal =>
      simp only [SharedRegistry.perform]
      split
      · exact ⟨call, present, safe⟩
      · rename_i moving found
        by_cases same : mover = caller
        · subst same
          rw [present] at found
          cases found
          exact ⟨_, by simp [inside], call.step_not_mayFail safe first.registry refusal⟩
        · exact ⟨call, by simp [List.getElem?_set_ne same, present], safe⟩
  | list mover key =>
      simp only [SharedRegistry.perform]
      split
      · rename_i keys found
        split
        · by_cases same : mover = caller
          · subst same
            exact ⟨.listing (keys ++ [key]), by simp [inside], id⟩
          · exact ⟨call, by simp [List.getElem?_set_ne same, present], safe⟩
        · exact ⟨call, present, safe⟩
      · exact ⟨call, present, safe⟩
  | _ => exact ⟨call, present, safe⟩

theorem run_not_mayFail {call : Call} (present : first.calls[caller]? = some call)
    (safe : ¬ call.MayFail) (moves : List Move) :
    ∃ later, (first.run moves).calls[caller]? = some later ∧ ¬ later.MayFail := by
  induction moves generalizing first call with
  | nil => exact ⟨call, present, safe⟩
  | cons move rest ih =>
      rcases perform_not_mayFail present safe move with ⟨later, laterPresent, laterSafe⟩
      exact ih laterPresent laterSafe

theorem DiffersIn.trans {between : SharedRegistry} (one : DiffersIn caller first between)
    (two : DiffersIn caller between second) : DiffersIn caller first second where
  registry := two.registry.trans one.registry
  length := two.length.trans one.length
  others other different := (two.others other different).trans (one.others other different)

/-- A caller that has yet to get hold of an entry is still to do so after a move, and its own moves
have changed nothing else, or it cannot fail any more. -/
theorem perform_of_isCreating
    (creating : ∀ call, first.calls[caller]? = some call → call.IsCreating) (move : Move) :
    ((∀ call, (first.perform move).calls[caller]? = some call → call.IsCreating) ∧
        (move.isOf caller = true → DiffersIn caller (first.perform move) first)) ∨
      ∃ later, (first.perform move).calls[caller]? = some later ∧ ¬ later.MayFail := by
  have idle : DiffersIn caller first first := ⟨rfl, rfl, fun _ _ => rfl⟩
  cases move with
  | invoke request =>
      rcases Nat.lt_trichotomy caller first.calls.length with old | new | beyond
      · refine Or.inl ⟨?_, nofun⟩
        intro call present
        simp only [SharedRegistry.perform] at present
        rw [List.getElem?_append_left old] at present
        exact creating call present
      · have present : (first.perform (.invoke request)).calls[caller]? = some request.call := by
          simp [SharedRegistry.perform, new]
        rcases request.call_isCreating_or with isCreating | safe
        · refine Or.inl ⟨?_, nofun⟩
          intro call found
          rw [present] at found
          cases found
          exact isCreating
        · exact Or.inr ⟨request.call, present, safe⟩
      · refine Or.inl ⟨?_, nofun⟩
        intro call present
        have inside := (List.getElem?_eq_some_iff.mp present).1
        simp only [SharedRegistry.perform, List.length_append, List.length_singleton] at inside
        omega
  | advance mover refusal =>
      simp only [SharedRegistry.perform]
      split
      · exact Or.inl ⟨creating, fun _ => idle⟩
      · rename_i moving found
        have inside := (List.getElem?_eq_some_iff.mp found).1
        by_cases same : mover = caller
        · subst same
          have present : (first.calls.set mover (moving.step first.registry refusal).answer)[mover]?
              = some (moving.step first.registry refusal).answer := by simp [inside]
          rcases moving.step_of_isCreating (creating moving found) first.registry refusal with
            ⟨still, unchanged⟩ | safe
          · refine Or.inl ⟨?_, fun _ => ⟨unchanged.symm, by simp, ?_⟩⟩
            · intro call laterFound
              rw [present] at laterFound
              cases laterFound
              exact still
            · intro other different
              exact (List.getElem?_set_ne (Ne.symm different)).symm
          · exact Or.inr ⟨_, present, safe⟩
        · refine Or.inl ⟨?_, by simp [Move.isOf, same]⟩
          intro call present
          rw [List.getElem?_set_ne same] at present
          exact creating call present
  | list mover key =>
      simp only [SharedRegistry.perform]
      split
      · rename_i keys found
        by_cases same : mover = caller
        · subst same
          exact (creating _ found).elim
        · refine Or.inl ⟨?_, by simp [Move.isOf, same]⟩
          intro call present
          split at present
          · rw [List.getElem?_set_ne same] at present
            exact creating call present
          · exact creating call present
      · exact Or.inl ⟨creating, fun _ => idle⟩
  | _ => exact Or.inl ⟨creating, nofun⟩

/-- A run in which a call fails, and the same run without the steps of that call, differ in nothing
but how far the call has come. -/
theorem DiffersIn.run_without (differs : DiffersIn caller first second)
    (creating : ∀ call, first.calls[caller]? = some call → call.IsCreating) (moves : List Move)
    {failure : SchedulingFailure}
    (failed : (first.run moves).calls[caller]? = some (.done (.failed failure))) :
    DiffersIn caller (first.run moves)
      (second.run (moves.filter fun move => !move.isOf caller)) := by
  induction moves generalizing first second with
  | nil => exact differs
  | cons move rest ih =>
      rcases perform_of_isCreating creating move with ⟨creatingLater, own⟩ | ⟨later, present, safe⟩
      · cases mover : move.isOf caller with
        | true =>
            rw [List.filter_cons_of_neg (by simp [mover])]
            exact ih ((own mover).trans differs) creatingLater failed
        | false =>
            rw [List.filter_cons_of_pos (by simp [mover])]
            exact ih (differs.perform mover) creatingLater failed
      · rcases run_not_mayFail present safe rest with ⟨final, finalPresent, finalSafe⟩
        have same : (first.run (move :: rest)).calls[caller]? = some final := finalPresent
        rw [failed] at same
        cases same
        exact absurd trivial finalSafe

end Moves

/-- A creation that fails leaves no trace. If an operation of a run answers with a failure, the
registry is what it was before, with its table, its entries and the calls that its providers have
had. No entry is reported as created or cancelled. The other replies of the run, and the registry in
which it ends, are those of the run without the operation. If a call fails that goes on at the same
time as others, then without its steps the registry and the calls of the others are the same at the
end. -/
theorem failed_creation_leaves_no_trace (name : String) (settings : StreamerSettings)
    (directory : Directory) :
    (∀ (earlier later : List Operation) (creation : Operation) (failure : SchedulingFailure),
      let fresh := (Registry.create name settings directory).state
      let reached := fresh.run earlier
      (reached.perform creation).answer = .failed failure →
        (∃ reason, creation.creation? = some (failure.key, some reason) ∧
          reason.fault = failure.cause) ∧
        (reached.perform creation).state = reached ∧
        (∀ event ∈ (reached.perform creation).events,
          event.name ≠ "subscription_create" ∧ event.name ≠ "subscription_cancel") ∧
        fresh.run (earlier ++ creation :: later) = fresh.run (earlier ++ later) ∧
        (fresh.replies (earlier ++ creation :: later)).eraseIdx earlier.length =
          fresh.replies (earlier ++ later)) ∧
    ∀ (moves : List Move) (caller : Nat) (failure : SchedulingFailure),
      let reached := (start name settings directory).run moves
      let without := (start name settings directory).run
        (moves.filter fun move => !move.isOf caller)
      reached.calls[caller]? = some (.done (.failed failure)) →
        without.registry = reached.registry ∧ without.calls.length = reached.calls.length ∧
          ∀ other, other ≠ caller → without.calls[other]? = reached.calls[other]? := by
  refine ⟨?_, ?_⟩
  · intro earlier later creation failure fresh reached failed
    rcases perform_failed failed with ⟨reason, refused, cause, _, whole⟩
    have unchanged : (reached.perform creation).state = reached := by rw [whole]
    refine ⟨⟨reason, refused, cause⟩, unchanged, ?_, ?_, ?_⟩
    · rw [whole]
      cases reason <;> simp [failureEvents, StartRefusal.event, Event.name]
    · rw [Registry.run_append, Registry.run_append]
      calc reached.run (creation :: later)
          = (reached.perform creation).state.run later := rfl
        _ = reached.run later := by rw [unchanged]
    · rw [replies_append, replies_append, List.eraseIdx_append_of_length_le
        (Nat.le_of_eq (length_replies ..)), length_replies, Nat.sub_self]
      simp only [replies, List.eraseIdx_cons_zero]
      rw [unchanged]
  · intro moves caller failure reached without failed
    have begin : DiffersIn caller (start name settings directory) (start name settings directory) :=
      ⟨rfl, rfl, fun _ _ => rfl⟩
    have differs := begin.run_without nofun moves failed
    exact ⟨differs.registry, differs.length, differs.others⟩

/-- A snapshot is asked for under the key of a cancelled entry, and a stream under a key that has
none; no runtime is to be had for the one, and no thread for the other. -/
theorem failed_creation_leaves_no_trace_of_cancelled :
    let fresh := (Registry.create "streamer" .standard Directory.empty).state
    let earlier := [.getOrCreate "console" KeyMap.empty none, .cancel 0]
    let creation := .getSnapshot "console" KeyMap.empty (some (.runtime .noMoreThreads))
    let failure : SchedulingFailure := ⟨"console", .noMoreThreads⟩
    let begun := start "streamer" .standard Directory.empty
    let moves := [.invoke (.getStream "console" KeyMap.empty), .advance 0 none,
      .advance 0 (some (.thread .noMoreThreads))]
    ((fresh.run earlier).perform creation).answer = .failed failure ∧
      ((fresh.run earlier).perform creation).state = fresh.run earlier ∧
      ((fresh.run earlier).perform creation).events.map Event.name =
        ["runtime_spawn_start", "runtime_build_failed", "subscription_create_failed"] ∧
      (begun.run moves).calls[0]? = some (.done (.failed failure)) ∧
      (begun.run (moves.filter fun move => !move.isOf 0)).registry =
        (begun.run moves).registry := by
  intro fresh earlier creation failure begun moves
  have noTrace := failed_creation_leaves_no_trace "streamer" .standard Directory.empty
  have refused : ((fresh.run earlier).perform creation).answer = .failed failure := by rfl
  have refusedCall : (begun.run moves).calls[0]? = some (.done (.failed failure)) := by rfl
  exact ⟨refused, (noTrace.1 earlier [] creation failure refused).2.1, by rfl, refusedCall,
    (noTrace.2 moves 0 failure refusedCall).1⟩

end SharedRegistry

end ConsoleFeed
