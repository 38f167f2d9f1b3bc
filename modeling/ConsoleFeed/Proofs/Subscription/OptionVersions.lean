import ConsoleFeed.Proofs.Subscription.SharedFeed

/-!
# Option updates are whole, ordered, and stale at most once

Who asks the provider loaded a set at some earlier time, and may ask with it long after others were
installed. This file says how far behind that can be. Every call of the provider is made with one of
the sets that were installed, whole. A call that begins after an update has returned is made with
that update's set or a later one. The payloads on the channel never go back to an older set, and
after an update has returned at most one more of an older set appears: the loop can be in the middle
of one tick, and it loads the options anew at the next.

What a move does is read off `FeedMove` first, by what is loaded (`Loaded`) and what is in the
middle of a tick. The invariant is `Held`. The statements about what comes after an update look
ahead from the state in which it returns: whatever is still to be loaded then is new enough, so only
what is loaded already can be older.
-/

namespace ConsoleFeed

/-- A reader has loaded the set of a version and has yet to ask the provider. -/
def SharedFeed.Loaded (shared : SharedFeed) (reader : Reader) (version : Nat)
    (options : OptionSet) : Prop :=
  match reader with
  | .loop => shared.stepped.stage = .asking options ∧ version = shared.loopVersion
  | .caller number => shared.calls[number]? = some (.asking version options)

/-- What a mark says of the states before and after the step that leaves it. Who begins has loaded
nothing yet, who asks asks with what it has loaded, and the loop publishes at the end of a tick. -/
def UseMark.Shows (before after : SharedFeed) : UseMark → Prop
  | .installed _ => True
  | .returned version options =>
      ∃ caller : Nat, before.calls[caller]? = some (.returning version options)
  | .began reader => ∀ version options, ¬ after.Loaded reader version options
  | .asked reader version options answer =>
      before.Loaded reader version options ∧ answer = (before.snapshot options).answer
  | .published version payload =>
      version = before.loopVersion ∧ before.stepped.stage = .delivering payload ∧
        after.loopVersion = before.loopVersion ∧ after.stepped.stage = .polling

namespace SharedFeed

namespace FeedMove

variable {before after : SharedFeed} {mark : Option UseMark} {version : Nat}
  {options : OptionSet}

/-- Where a call stands after a move. -/
theorem call_cases (move : FeedMove before after mark) {caller : Nat} {call : FeedCall}
    (present : after.calls[caller]? = some call) :
    before.calls[caller]? = some call ∨
      (∃ request : FeedRequest, caller = before.calls.length ∧ call = request.call) ∨
      ∃ old, before.calls[caller]? = some old ∧ CallMove before caller old call mark := by
  cases move with
  | quiet silent same stage => exact Or.inl (same.calls ▸ present)
  | installs options leaves sets calls loopVersion stage => exact Or.inl (calls ▸ present)
  | takes leaves same stage => exact Or.inl (same.calls ▸ present)
  | loads silent sets calls loopVersion stage => exact Or.inl (calls ▸ present)
  | asks options asking leaves same stage => exact Or.inl (same.calls ▸ present)
  | publishes payload delivering leaves same stage => exact Or.inl (same.calls ▸ present)
  | begins request leaves sets calls loopVersion stage =>
      rw [calls] at present
      by_cases old : caller < before.calls.length
      · rw [List.getElem?_append_left old] at present
        exact Or.inl present
      · have inside := (List.getElem?_eq_some_iff.mp present).1
        rw [List.length_append, List.length_singleton] at inside
        have new : caller = before.calls.length := by omega
        subst new
        simp only [List.getElem?_concat_length, Option.some.injEq] at present
        exact Or.inr (Or.inl ⟨request, rfl, present.symm⟩)
  | advances mover old later found moves sets calls loopVersion stage =>
      rw [calls] at present
      by_cases same : mover = caller
      · subst same
        have inside := (List.getElem?_eq_some_iff.mp found).1
        simp only [List.getElem?_set_self inside, Option.some.injEq] at present
        subst present
        exact Or.inr (Or.inr ⟨old, found, moves⟩)
      · rw [List.getElem?_set_ne same] at present
        exact Or.inl present

/-- What a reader has loaded after a move it had loaded before, or it is what was in place. -/
theorem loaded_cases (move : FeedMove before after mark) {reader : Reader}
    (loaded : after.Loaded reader version options) :
    before.Loaded reader version options ∨ version = before.version ∧ options = before.options := by
  cases reader with
  | caller number =>
      rcases move.call_cases loaded with old | ⟨request, _, absurd⟩ | ⟨old, present, moves⟩
      · exact Or.inl old
      · cases request <;> cases absurd
      · cases moves
        exact Or.inr ⟨rfl, rfl⟩
  | loop =>
      rcases loaded with ⟨asking, rfl⟩
      have still : after.stepped.stage = before.stepped.stage →
          after.loopVersion = before.loopVersion →
            before.Loaded .loop after.loopVersion options :=
        fun stage loopVersion => ⟨stage.symm.trans asking, loopVersion⟩
      cases move with
      | quiet silent same stage =>
          rcases stage with kept | idle
          · exact Or.inl (still kept same.loopVersion)
          · rw [asking] at idle
            cases idle
      | installs _ leaves sets calls loopVersion stage => exact Or.inl (still stage loopVersion)
      | takes leaves same stage =>
          rw [asking] at stage
          cases stage
      | loads silent sets calls loopVersion stage =>
          rw [asking] at stage
          cases stage
          exact Or.inr ⟨loopVersion, rfl⟩
      | asks _ _ leaves same stage =>
          rw [asking] at stage
          rcases stage with ⟨_, _, absurd⟩ | absurd <;> cases absurd
      | publishes payload delivering leaves same stage =>
          rw [asking] at stage
          cases stage
      | begins request leaves sets calls loopVersion stage => exact Or.inl (still stage loopVersion)
      | advances _ _ _ _ _ _ _ loopVersion stage => exact Or.inl (still stage loopVersion)

/-- What is left in the history is what has happened. -/
theorem shows {mark : UseMark} (move : FeedMove before after (some mark)) :
    mark.Shows before after := by
  cases move with
  | quiet silent same stage => cases silent
  | installs _ leaves sets calls loopVersion stage =>
      cases leaves
      trivial
  | takes leaves same stage =>
      cases leaves
      rintro version options ⟨absurd, _⟩
      rw [stage] at absurd
      cases absurd
  | loads silent sets calls loopVersion stage => cases silent
  | asks _ asking leaves same stage =>
      cases leaves
      exact ⟨⟨asking, rfl⟩, rfl⟩
  | publishes _ delivering leaves same stage =>
      cases leaves
      exact ⟨rfl, delivering, same.loopVersion, stage⟩
  | begins request leaves sets calls loopVersion stage =>
      cases request with
      | snapshot =>
          cases leaves
          intro version options loaded
          have absurd : after.calls[before.calls.length]? = some (.asking version options) := loaded
          rw [calls, List.getElem?_concat_length] at absurd
          cases absurd
      | _ => cases leaves
  | advances caller call later present moves sets calls loopVersion stage =>
      cases moves with
      | installs options => trivial
      | returns version options => exact ⟨caller, present⟩
      | asks version options => exact ⟨present, rfl⟩

/-- The loop goes on with the version that it has, or loads the one that is in place. -/
theorem loopVersion_cases (move : FeedMove before after mark) :
    after.loopVersion = before.loopVersion ∧
        (after.stepped.stage.isBusy = true → before.stepped.stage.isBusy = true) ∨
      after.loopVersion = before.version := by
  cases move with
  | quiet silent same stage =>
      refine Or.inl ⟨same.loopVersion, ?_⟩
      rcases stage with kept | idle
      · simp [kept]
      · simp [idle]
  | installs _ leaves sets calls loopVersion stage => exact Or.inl ⟨loopVersion, by simp [stage]⟩
  | takes leaves same stage => exact Or.inl ⟨same.loopVersion, by simp [stage, LoopStage.isBusy]⟩
  | loads silent sets calls loopVersion stage => exact Or.inr loopVersion
  | asks _ asking leaves same stage =>
      exact Or.inl ⟨same.loopVersion, by simp [asking, LoopStage.isBusy]⟩
  | publishes payload delivering leaves same stage =>
      exact Or.inl ⟨same.loopVersion, by simp [stage, LoopStage.isBusy]⟩
  | begins request leaves sets calls loopVersion stage =>
      exact Or.inl ⟨loopVersion, by simp [stage]⟩
  | advances _ _ _ _ _ _ _ loopVersion stage => exact Or.inl ⟨loopVersion, by simp [stage]⟩

end FeedMove

/-- What is loaded, and what was installed by an update that has yet to return, is the set of the
version that is kept beside it. -/
structure Held (shared : SharedFeed) : Prop where
  loaded : ∀ reader version options, shared.Loaded reader version options →
    shared.sets[version]? = some options
  returning : ∀ (caller : Nat) version options,
    shared.calls[caller]? = some (.returning version options) →
      shared.sets[version]? = some options
  behind : shared.loopVersion ≤ shared.version

/-- A version is in place, and what a reader has loaded is not older. -/
structure Fresh (shared : SharedFeed) (version : Nat) (reader : Reader) : Prop where
  installed : version ≤ shared.version
  loaded : ∀ later options, shared.Loaded reader later options → version ≤ later

/-- How many payloads of sets older than a version are on their way to the channel. -/
def staleAhead (shared : SharedFeed) (version : Nat) : Nat :=
  if shared.stepped.stage.isBusy ∧ shared.loopVersion < version then 1 else 0

/-- A payload that is on its way is what the loop was answered when it last asked, with the version
that it has. The loop has left nothing in the history since. -/
def CameFrom (shared : SharedFeed) (marks : List UseMark) : Prop :=
  ∀ payload, shared.stepped.stage = .delivering payload →
    ∃ earlier options later,
      marks = earlier ++ .asked .loop shared.loopVersion options (.ok payload) :: later ∧
        ∀ mark ∈ later, mark.isLoop = false

section States

variable {shared : SharedFeed}

theorem held_start (directory : Directory) (key : String) (options : OptionSet)
    (settings : StreamerSettings) : (start directory key options settings).Held := by
  refine ⟨?_, nofun, Nat.le_refl 0⟩
  intro reader version loadedOptions loaded
  cases reader with
  | loop => cases loaded.1
  | caller number => cases loaded

theorem Held.perform (held : shared.Held) (move : Move) : (shared.perform move).state.Held := by
  have moved := shared.feedMove_perform move
  have grown := shared.sets_perform move
  have kept : ∀ {version : Nat} {options}, shared.sets[version]? = some options →
      (shared.perform move).state.sets[version]? = some options := by
    intro version options found
    rw [grown, List.getElem?_append_left (List.getElem?_eq_some_iff.mp found).1]
    exact found
  refine ⟨?_, ?_, ?_⟩
  · intro reader version options loaded
    rcases moved.loaded_cases loaded with old | ⟨rfl, rfl⟩
    · exact kept (held.loaded reader version options old)
    · exact kept shared.sets_version
  · intro caller version options present
    rcases moved.call_cases present with old | ⟨request, _, absurd⟩ | ⟨old, found, moves⟩
    · exact kept (held.returning caller version options old)
    · cases request <;> cases absurd
    · generalize (shared.perform move).answer = mark at moves grown
      cases moves
      rw [grown, ← shared.length_sets]
      simp [UseMark.installed?]
  · have newer := shared.version_le_perform move
    have behind := held.behind
    rcases moved.loopVersion_cases with ⟨same, _⟩ | loads <;> omega

theorem Held.run (held : shared.Held) (moves : List Move) : (shared.run moves).Held := by
  induction moves generalizing shared with
  | nil => exact held
  | cons move rest ih => exact ih (held.perform move)

theorem Fresh.perform {version : Nat} {reader : Reader} (fresh : shared.Fresh version reader)
    (move : Move) : (shared.perform move).state.Fresh version reader := by
  refine ⟨Nat.le_trans fresh.installed (shared.version_le_perform move), ?_⟩
  intro later options loaded
  rcases (shared.feedMove_perform move).loaded_cases loaded with old | ⟨rfl, _⟩
  · exact fresh.loaded later options old
  · exact fresh.installed

theorem version_le_run (moves : List Move) : shared.version ≤ (shared.run moves).version := by
  induction moves generalizing shared with
  | nil => exact Nat.le_refl _
  | cons move rest ih => exact Nat.le_trans (shared.version_le_perform move) ih

/-- What a reader asks with, once it has nothing older loaded, is not older either. -/
theorem Fresh.le_of_asked {version asked : Nat} {reader : Reader} {options : OptionSet}
    {answer : Except LookupPanic String} {moves : List Move}
    (fresh : shared.Fresh version reader)
    (member : .asked reader asked options answer ∈ shared.history moves) : version ≤ asked := by
  induction moves generalizing shared with
  | nil => cases member
  | cons move rest ih =>
      rcases List.mem_append.mp member with now | later
      · have left := Option.mem_toList.mp now
        have moved := shared.feedMove_perform move
        rw [left] at moved
        exact fresh.loaded asked options moved.shows.1
      · exact ih (fresh.perform move) later

/-- The payloads that are published from a state on have versions in ascending order, from the one
that the loop has. -/
theorem ascending_published (behind : shared.loopVersion ≤ shared.version) (moves : List Move) :
    (shared.loopVersion :: (shared.history moves).filterMap UseMark.published?).Pairwise
      (· ≤ ·) := by
  induction moves generalizing shared with
  | nil => exact List.pairwise_singleton ..
  | cons move rest ih =>
      have moved := shared.feedMove_perform move
      have newer := shared.version_le_perform move
      have onward : shared.loopVersion ≤ (shared.perform move).state.loopVersion ∧
          (shared.perform move).state.loopVersion ≤ (shared.perform move).state.version := by
        rcases moved.loopVersion_cases with ⟨same, _⟩ | loads <;> omega
      rcases List.pairwise_cons.mp (ih onward.2) with ⟨above, ascending⟩
      have silent : (shared.loopVersion ::
          ((shared.perform move).state.history rest).filterMap UseMark.published?).Pairwise
            (· ≤ ·) := by
        refine List.pairwise_cons.mpr ⟨?_, ascending⟩
        intro version member
        exact Nat.le_trans onward.1 (above version member)
      simp only [history, List.filterMap_append]
      cases left : (shared.perform move).answer with
      | none => exact silent
      | some mark =>
          cases mark with
          | published version payload =>
              rw [left] at moved
              rcases moved.shows with ⟨rfl, _, _, _⟩
              refine List.pairwise_cons.mpr ⟨?_, silent⟩
              intro version member
              rcases List.mem_cons.mp member with rfl | later
              · exact Nat.le_refl _
              · exact Nat.le_trans onward.1 (above version later)
          | _ => exact silent

theorem staleAhead_perform {version : Nat} (installed : version ≤ shared.version) (move : Move) :
    (shared.perform move).state.staleAhead version ≤ shared.staleAhead version := by
  simp only [staleAhead]
  rcases (shared.feedMove_perform move).loopVersion_cases with ⟨same, busy⟩ | loads
  · rw [same]
    split
    · rename_i stale
      simp [busy stale.1, stale.2]
    · exact Nat.zero_le _
  · have fresh : ¬ (shared.perform move).state.loopVersion < version := by omega
    simp [fresh]

/-- What is published from a state on of sets older than one that is in place is on its way already.
-/
theorem countP_published_le {version : Nat} (installed : version ≤ shared.version)
    (moves : List Move) :
    ((shared.history moves).filterMap UseMark.published?).countP (· < version) ≤
      shared.staleAhead version := by
  induction moves generalizing shared with
  | nil => exact Nat.zero_le _
  | cons move rest ih =>
      have moved := shared.feedMove_perform move
      have later := ih (Nat.le_trans installed (shared.version_le_perform move))
      have silent := Nat.le_trans later (staleAhead_perform installed move)
      simp only [history, List.filterMap_append]
      cases left : (shared.perform move).answer with
      | none => exact silent
      | some mark =>
          cases mark with
          | published published payload =>
              rw [left] at moved
              rcases moved.shows with ⟨rfl, delivering, _, polling⟩
              have settled : (shared.perform move).state.staleAhead version = 0 := by
                simp [staleAhead, polling, LoopStage.isBusy]
              have none_later := Nat.le_zero.mp (Nat.le_trans later (Nat.le_of_eq settled))
              simp [UseMark.published?, none_later, List.countP_cons, staleAhead, delivering,
                LoopStage.isBusy]
          | _ => exact silent

theorem staleAhead_le_one (version : Nat) : shared.staleAhead version ≤ 1 := by
  simp only [staleAhead]
  split <;> omega

theorem CameFrom.perform {marks : List UseMark} (came : shared.CameFrom marks) (move : Move) :
    (shared.perform move).state.CameFrom (marks ++ (shared.perform move).answer.toList) := by
  have still : (∀ mark ∈ (shared.perform move).answer, mark.isLoop = false) →
      (shared.perform move).state.stepped.stage = shared.stepped.stage →
      (shared.perform move).state.loopVersion = shared.loopVersion →
        (shared.perform move).state.CameFrom (marks ++ (shared.perform move).answer.toList) := by
    intro foreign stage loopVersion payload delivering
    rcases came payload (stage ▸ delivering) with ⟨earlier, options, later, rfl, none_since⟩
    refine ⟨earlier, options, later ++ (shared.perform move).answer.toList, ?_, ?_⟩
    · rw [loopVersion, List.append_assoc, List.cons_append]
    · intro mark member
      rcases List.mem_append.mp member with old | new
      · exact none_since mark old
      · exact foreign mark (Option.mem_toList.mp new)
  cases shared.feedMove_perform move with
  | quiet silent same stage =>
      rcases stage with kept | idle
      · exact still (by simp [silent]) kept same.loopVersion
      · intro payload delivering
        rw [delivering] at idle
        cases idle
  | installs options leaves sets calls loopVersion stage =>
      exact still (by simp [leaves, UseMark.isLoop]) stage loopVersion
  | takes leaves same stage =>
      intro payload delivering
      rw [stage] at delivering
      cases delivering
  | loads silent sets calls loopVersion stage =>
      intro payload delivering
      rw [stage] at delivering
      cases delivering
  | asks options asking leaves same stage =>
      intro payload delivering
      rcases stage with ⟨other, answer, stage⟩ | stage
      · rw [stage] at delivering
        cases delivering
        refine ⟨marks, options, [], ?_, nofun⟩
        rw [leaves, answer, same.loopVersion]
        rfl
      · rw [stage] at delivering
        cases delivering
  | publishes payload delivered leaves same stage =>
      intro payload delivering
      rw [stage] at delivering
      cases delivering
  | begins request leaves sets calls loopVersion stage =>
      refine still ?_ stage loopVersion
      rw [leaves]
      cases request <;> simp [FeedRequest.mark?, UseMark.isLoop]
  | advances caller call later present moves sets calls loopVersion stage =>
      refine still ?_ stage loopVersion
      generalize (shared.perform move).answer = mark at moves
      cases moves <;> simp [UseMark.isLoop]

theorem CameFrom.run {marks : List UseMark} (came : shared.CameFrom marks) (moves : List Move) :
    (shared.run moves).CameFrom (marks ++ shared.history moves) := by
  induction moves generalizing shared marks with
  | nil =>
      rw [history, List.append_nil]
      exact came
  | cons move rest ih =>
      rw [history, ← List.append_assoc]
      exact ih (came.perform move)

end States

section Runs

variable {directory : Directory} {key : String} {created : OptionSet} {settings : StreamerSettings}
  {moves : List Move} {earlier later : List UseMark}

/-- A mark in the history of a run stands for a step from a state of which the invariants hold. -/
theorem step_of_mark {mark : UseMark}
    (split : (start directory key created settings).history moves = earlier ++ mark :: later) :
    ∃ before after : SharedFeed, ∃ rest, before.Held ∧
      before.sets = created :: earlier.filterMap UseMark.installed? ∧ before.CameFrom earlier ∧
      mark.Shows before after ∧ before.version ≤ after.version ∧ after.history rest = later := by
  rcases history_eq_append_cons _ split with ⟨made, move, rest, _, rfl, left, rests⟩
  have begun := held_start directory key created settings
  have nothing : (start directory key created settings).CameFrom [] := nofun
  have moved := ((start directory key created settings).run made).feedMove_perform move
  rw [left] at moved
  exact ⟨_, _, rest, begun.run made, sets_run _ made, nothing.run made, moved.shows,
    version_le_perform _ move, rests⟩

/-- When an update returns, its set is in place, or it has been replaced by later ones. -/
theorem installed_of_returned {version : Nat} {options : OptionSet}
    (split : (start directory key created settings).history moves =
      earlier ++ .returned version options :: later) :
    (created :: earlier.filterMap UseMark.installed?)[version]? = some options ∧
      ∃ after : SharedFeed, ∃ rest, version ≤ after.version ∧ after.history rest = later := by
  rcases step_of_mark split with ⟨before, after, rest, held, sets, _, shows, newer, rests⟩
  rcases shows with ⟨caller, present⟩
  have found := held.returning caller version options present
  have inside := (List.getElem?_eq_some_iff.mp found).1
  rw [length_sets] at inside
  rw [sets] at found
  exact ⟨found, after, rest, by omega, rests⟩

/-- A reader that begins in a state asks with what is in place there, or with something later. -/
theorem le_of_began {shared : SharedFeed} {version asked : Nat} {reader : Reader}
    {given : OptionSet} {answer : Except LookupPanic String} {between within : List UseMark}
    (installed : version ≤ shared.version)
    (split : shared.history moves =
      between ++ .began reader :: (within ++ .asked reader asked given answer :: later)) :
    version ≤ asked := by
  rcases shared.history_eq_append_cons split with ⟨before, move, rest, _, _, left, onward⟩
  have moved := (shared.run before).feedMove_perform move
  rw [left] at moved
  have nothing := moved.shows
  have fresh : ((shared.run before).perform move).state.Fresh version reader := by
    refine ⟨?_, fun later options loaded => absurd loaded (nothing later options)⟩
    calc version ≤ shared.version := installed
      _ ≤ (shared.run before).version := version_le_run before
      _ ≤ _ := (shared.run before).version_le_perform move
  have member : .asked reader asked given answer ∈
      ((shared.run before).perform move).state.history rest := by
    rw [onward]
    exact List.mem_append_right within List.mem_cons_self
  exact fresh.le_of_asked member

end Runs

/-- In every run of a subscription, its updaters, its callers and its loop: the provider is asked
with one of the sets that were installed so far, the one of the version named; what a reader asks
with that began after an update had returned is no older than the update's set; the versions that
published payloads were computed from ascend; after an update has returned at most one payload is
published that was computed from an older set; and a published payload is what the provider was last
asked for by the loop, with the version named. -/
theorem options_whole_ordered_stale_at_most_once (directory : Directory) (key : String)
    (created : OptionSet) (settings : StreamerSettings) (moves : List Move) :
    let marks := (start directory key created settings).history moves
    (∀ earlier reader version options answer later,
      marks = earlier ++ .asked reader version options answer :: later →
        (created :: earlier.filterMap UseMark.installed?)[version]? = some options) ∧
    (∀ earlier version options between reader within asked given answer later,
      marks = earlier ++ .returned version options ::
          (between ++ .began reader :: (within ++ .asked reader asked given answer :: later)) →
        (created :: earlier.filterMap UseMark.installed?)[version]? = some options ∧
          version ≤ asked) ∧
    (marks.filterMap UseMark.published?).Pairwise (· ≤ ·) ∧
    (∀ earlier version options later, marks = earlier ++ .returned version options :: later →
      (later.filterMap UseMark.published?).countP (· < version) ≤ 1) ∧
    ∀ earlier version payload later, marks = earlier ++ .published version payload :: later →
      ∃ before options between,
        earlier = before ++ .asked .loop version options (.ok payload) :: between ∧
          ∀ mark ∈ between, mark.isLoop = false := by
  intro marks
  have begun := held_start directory key created settings
  refine ⟨?_, ?_, (List.pairwise_cons.mp (ascending_published begun.behind moves)).2, ?_, ?_⟩
  · intro earlier reader version options answer later split
    rcases step_of_mark split with ⟨before, _, _, held, sets, _, shows, _⟩
    exact sets ▸ held.loaded reader version options shows.1
  · intro earlier version options between reader within asked given answer later split
    rcases installed_of_returned split with ⟨installed, after, rest, inPlace, rests⟩
    exact ⟨installed, le_of_began inPlace rests⟩
  · intro earlier version options later split
    rcases installed_of_returned split with ⟨_, after, rest, inPlace, rfl⟩
    exact Nat.le_trans (countP_published_le inPlace rest) (staleAhead_le_one version)
  · intro earlier version payload later split
    rcases step_of_mark split with ⟨before, _, _, _, _, came, shows, _⟩
    rcases shows with ⟨rfl, delivering, _, _⟩
    exact came payload delivering

/-- An update comes between the loop's loading its options and its asking, and a caller begins when
the update has returned: the caller asks with the new options, and the loop publishes one payload of
the old ones. -/
theorem options_whole_ordered_stale_at_most_once_of_late :
    let newer : OptionSet := KeyMap.empty.insert "lines" (.ofNat 40)
    let moves : List Move := [.act (.elapse 1000000), .act .loop, .act .loop,
      .begin (.update newer), .advance 0, .advance 0, .begin .snapshot, .act .loop, .advance 1,
      .advance 1, .act .loop]
    let since : List UseMark := [.began (.caller 1),
      .asked .loop 0 KeyMap.empty (.ok emptySnapshot),
      .asked (.caller 1) 1 newer (.ok emptySnapshot), .published 0 emptySnapshot]
    (start Directory.empty "console" KeyMap.empty .standard).history moves =
        [.began .loop, .installed newer] ++ .returned 1 newer :: since ∧
      [KeyMap.empty, newer][1]? = some newer ∧
      (since.filterMap UseMark.published?).countP (· < 1) ≤ 1 := by
  intro newer moves since
  have marks : (start Directory.empty "console" KeyMap.empty .standard).history moves =
      [.began .loop, .installed newer] ++ .returned 1 newer :: since := by rfl
  rcases options_whole_ordered_stale_at_most_once Directory.empty "console" KeyMap.empty .standard
    moves with ⟨_, fresh, _, stale, _⟩
  refine ⟨marks, ?_, stale _ 1 newer since marks⟩
  exact (fresh [.began .loop, .installed newer] 1 newer [] (.caller 1)
    [.asked .loop 0 KeyMap.empty (.ok emptySnapshot)] 1 newer (.ok emptySnapshot)
    [.published 0 emptySnapshot] marks).1

end SharedFeed

end ConsoleFeed
