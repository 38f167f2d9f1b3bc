import ConsoleFeed.Proofs.Registry.Deeds
import ConsoleFeed.Proofs.Subscription.StopSignal

/-!
# A subscription is cancelled once

An entry is struck when somebody cancels it outright, or when the last who held it lets go of it.
It may be struck many times, in any order and for either reason (`strokes`). Whatever happens to
the registry, the first stroke cancels it and is logged with its reason, and no later one does
anything (`Coherent.struck` for one deed, `told_live` for a run). Nothing that is not cancelled is
without a holder, so an entry that everybody has let go of was struck.

The loop of the entry is another matter, as it takes its own steps: if those who have to do with it
strike it in the same order, then the stop signal is sent once, in the step that logs the
cancellation.
-/

namespace ConsoleFeed.SharedRegistry

open Registry

/-- For what reason a deed strikes an entry that is in use, if it does. -/
def stroke? (shared : SharedRegistry) (number : Nat) (deed : Deed) : Option CancelReason :=
  if shared.registry.standing? number = none then none
  else if shared.outright? deed = some number then some .cancelled
  else if shared.registry.isHeld number = true ∧
      (shared.enact deed).state.registry.isHeld number = false then some .handleDropped
  else none

/-- The reasons for which deeds strike an entry, in their order. -/
def strokes (shared : SharedRegistry) (number : Nat) : List Deed → List CancelReason
  | [] => []
  | deed :: rest =>
      (shared.stroke? number deed).toList ++ (shared.enact deed).state.strokes number rest

/-- What a log says of the cancellation of an entry. -/
def told (log : List (Option Nat × Event)) (number : Nat) : List Event :=
  cancellations ((log.filter fun entry => entry.1 = some number).map Prod.snd)

@[simp]
theorem told_append (first second : List (Option Nat × Event)) (number : Nat) :
    told (first ++ second) number = told first number ++ told second number := by
  simp [told]

/-- What is logged of one deed is about one entry. -/
theorem told_map (subject : Option Nat) (events : List Event) (number : Nat) :
    told (events.map fun event => (subject, event)) number =
      if subject = some number then cancellations events else [] := by
  by_cases about : subject = some number
  · simp [told, about, List.filter_map, Function.comp_def]
  · simp [told, about, List.filter_map, Function.comp_def, cancellations]

/-- What a deed says of the cancellation of an entry. -/
def toldBy (shared : SharedRegistry) (deed : Deed) (number : Nat) : List Event :=
  if shared.subject? deed = some number then cancellations (shared.enact deed).events else []

theorem told_logged_cons (shared : SharedRegistry) (deed : Deed) (rest : List Deed)
    (number : Nat) : told (shared.logged (deed :: rest)) number =
      shared.toldBy deed number ++ told ((shared.enact deed).state.logged rest) number := by
  rw [logged, told_append, told_map]
  rfl

section Steps

variable {shared : SharedRegistry} {number : Nat} {key : String} {deed : Deed}

theorem stroke?_eq_none (spared : shared.outright? deed ≠ some number)
    (stays : (shared.enact deed).state.registry.isHeld number = true) :
    shared.stroke? number deed = none := by
  simp [stroke?, spared, stays]

/-- An entry that is not cancelled is cancelled by the first stroke, which is logged. -/
theorem Coherent.struck (coherent : shared.Coherent)
    (live : shared.registry.standing? number = some (key, false)) :
    shared.toldBy deed number =
        (shared.stroke? number deed).toList.map (.subscriptionCancelled key) ∧
      (shared.enact deed).state.registry.standing? number =
        some (key, (shared.stroke? number deed).isSome) := by
  have held := coherent.held number key live
  have unmarked := isCancelled_of_standing live
  have different : ∀ {hit}, number ≠ hit → some hit ≠ some number :=
    fun apart same => apart (Option.some.inj same).symm
  rw [toldBy]
  cases shared.effect_enact coherent.owned deed with
  | quiet spares quiet silent =>
      have spared : shared.outright? deed ≠ some number := by
        intro hit
        cases spares number hit key false live
      rw [silent, stroke?_eq_none spared (quiet.held number unmarked held),
        quiet.kept number _ live, ite_self]
      exact ⟨rfl, rfl⟩
  | cancelled of hit about outright strikes logs =>
      by_cases same : number = hit
      · subst same
        cases live.symm.trans strikes.live
        have stroke : shared.stroke? number deed = some .cancelled := by
          simp [stroke?, live, outright]
        rw [if_pos about, logs, stroke, strikes.marked]
        exact ⟨rfl, rfl⟩
      · have spared : shared.outright? deed ≠ some number := outright ▸ different same
        rw [about, if_neg (different same),
          stroke?_eq_none spared (strikes.held number same unmarked held),
          strikes.others number same, live]
        exact ⟨rfl, rfl⟩
  | dropped of hit about missed strikes logs =>
      by_cases same : number = hit
      · subst same
        cases live.symm.trans strikes.live
        have released := strikes.own held
        have stroke : shared.stroke? number deed = some .handleDropped := by
          simp [stroke?, live, missed, held, released]
        rw [if_pos about, logs, stroke, strikes.marked]
        exact ⟨rfl, rfl⟩
      · have spared : shared.outright? deed ≠ some number := by
          rw [missed]
          nofun
        rw [about, if_neg (different same),
          stroke?_eq_none spared (strikes.held number same unmarked held),
          strikes.others number same, live]
        exact ⟨rfl, rfl⟩

/-- A deed says nothing of the cancellation of an entry that is cancelled already, or not made. -/
theorem Coherent.untold (coherent : shared.Coherent)
    (notLive : ∀ key, shared.registry.standing? number ≠ some (key, false)) :
    shared.toldBy deed number = [] := by
  rw [toldBy]
  cases shared.effect_enact coherent.owned deed with
  | quiet _ _ silent => rw [silent, ite_self]
  | cancelled of hit about _ strikes _ | dropped of hit about _ strikes _ =>
      apply if_neg
      intro same
      cases about.symm.trans same
      exact notLive of strikes.live

/-- Nothing more is logged of the cancellation of an entry that is cancelled. -/
theorem told_cancelled (coherent : shared.Coherent)
    (cancelled : shared.registry.standing? number = some (key, true)) (deeds : List Deed) :
    told (shared.logged deeds) number = [] := by
  induction deeds generalizing shared with
  | nil => rfl
  | cons deed rest ih =>
      have effect := shared.effect_enact coherent.owned deed
      have here : shared.toldBy deed number = [] :=
        coherent.untold fun other live => by cases cancelled.symm.trans live
      rw [told_logged_cons, here, List.nil_append]
      exact ih (coherent.enact deed) (effect.cancelled_stays cancelled)

/-- In a run an entry is cancelled by the first stroke, and that is the only one that is logged. -/
theorem told_live (coherent : shared.Coherent)
    (live : shared.registry.standing? number = some (key, false)) (deeds : List Deed) :
    told (shared.logged deeds) number =
        (shared.strokes number deeds).head?.toList.map (.subscriptionCancelled key) ∧
      (shared.after deeds).registry.standing? number =
        some (key, !(shared.strokes number deeds).isEmpty) := by
  induction deeds generalizing shared with
  | nil => exact ⟨rfl, live⟩
  | cons deed rest ih =>
      have next := coherent.enact deed
      rcases coherent.struck live with ⟨logs, standing⟩
      rw [told_logged_cons, logs, strokes]
      cases stroke : shared.stroke? number deed with
      | none =>
          rw [stroke] at standing
          exact ih next standing
      | some reason =>
          rw [stroke] at standing
          refine ⟨?_, standing_after next standing rest⟩
          rw [told_cancelled next standing rest]
          rfl

/-- The same for an entry that is not made yet. -/
theorem told_absent (coherent : shared.Coherent)
    (absent : shared.registry.standing? number = none) (deeds : List Deed)
    (present : (shared.after deeds).registry.standing? number ≠ none) :
    ∃ key, told (shared.logged deeds) number =
        (shared.strokes number deeds).head?.toList.map (.subscriptionCancelled key) ∧
      (shared.after deeds).registry.standing? number =
        some (key, !(shared.strokes number deeds).isEmpty) := by
  induction deeds generalizing shared with
  | nil => exact absurd absent present
  | cons deed rest ih =>
      have effect := shared.effect_enact coherent.owned deed
      have next := coherent.enact deed
      have here : shared.toldBy deed number = [] :=
        coherent.untold fun other live => by cases absent.symm.trans live
      have unstruck : shared.stroke? number deed = none := by simp [stroke?, absent]
      simp only [told_logged_cons, here, strokes, unstruck, Option.toList_none, List.nil_append]
      rcases effect.absent absent with still | ⟨key, made⟩
      · exact ih next still present
      · exact ⟨key, told_live next made rest⟩

/-- A cancellation is logged of an entry, under its key, and the entry is cancelled from then on. -/
theorem logged_cancellation (coherent : shared.Coherent) {deeds : List Deed}
    {entry : Option Nat × Event} (member : entry ∈ shared.logged deeds)
    (cancels : entry.2.isCancellation = true) :
    ∃ number key reason, entry = (some number, .subscriptionCancelled key reason) ∧
      (shared.after deeds).registry.standing? number = some (key, true) := by
  induction deeds generalizing shared with
  | nil => cases member
  | cons deed rest ih =>
      have effect := shared.effect_enact coherent.owned deed
      have next := coherent.enact deed
      rcases List.mem_append.mp member with here | later
      · rcases List.mem_map.mp here with ⟨event, among, rfl⟩
        have found : event ∈ cancellations (shared.enact deed).events :=
          List.mem_filter.mpr ⟨among, cancels⟩
        cases effect with
        | quiet _ _ silent =>
            rw [silent] at found
            cases found
        | cancelled key number about _ strikes logs | dropped key number about _ strikes logs =>
            rw [logs] at found
            rw [List.mem_singleton.mp found, about]
            exact ⟨number, key, _, rfl, standing_after next strikes.marked rest⟩
      · exact ih next later

end Steps

section Reports

variable {registry : Registry} {streamer key : String} {subscribers : Nat}

theorem unreported_cancel (number : Nat) :
    Event.deactivated streamer key subscribers ∉ (registry.cancel number).events := by
  rcases registry.cancel_cases number with ⟨idle, _⟩ | ⟨_, _, told⟩
  · simp [idle]
  · simp [told]

theorem unreported_giveBack (number : Nat) :
    Event.deactivated streamer key subscribers ∉ (registry.giveBack number).events := by
  rcases registry.giveBack_cases number with ⟨_, silent⟩ | ⟨_, _, told⟩
  · simp [silent]
  · simp [told]

theorem Deactivation.reporting?_of_mem {deactivation : Deactivation}
    (member : Event.deactivated streamer key subscribers ∈ (deactivation.step registry).events) :
    ∃ number, deactivation.reporting? = some (key, number) := by
  cases deactivation with
  | removing of =>
      exfalso
      simp only [Deactivation.step] at member
      split at member <;> simp at member
  | cancelling of number => exact (unreported_cancel number member).elim
  | reporting of number =>
      rcases List.mem_cons.mp member with same | gone
      · cases same
        exact ⟨number, rfl⟩
      · exact (unreported_giveBack number gone).elim
  | finished found => cases member

/-- Only the step of a call that has an entry in hand reports that an entry was deactivated. -/
theorem Call.reporting?_of_mem {call : Call} {refusal : Option StartRefusal}
    (member : Event.deactivated streamer key subscribers ∈ (call.step registry refusal).events) :
    ∃ number, call.reporting? = some (key, number) := by
  cases call with
  | deactivating deactivation =>
      have moved : Event.deactivated streamer key subscribers ∈
          (deactivation.step registry).events := by
        simp only [Call.step] at member
        split at member <;> exact member
      exact Deactivation.reporting?_of_mem moved
  | sweeping deactivation keys count =>
      have moved : Event.deactivated streamer key subscribers ∈
          (deactivation.step registry).events := by
        simp only [Call.step] at member
        split at member
        · rcases List.mem_append.mp member with here | next
          · exact here
          · exact ((Call.silent_sweepOn _ _ keys).unreported next).elim
        · exact member
      exact Deactivation.reporting?_of_mem moved
  | looking of options wish =>
      exfalso
      simp only [Call.step] at member
      split at member <;> simp at member
  | entering of options wish =>
      exfalso
      apply (silent_getOrCreate registry of options refusal).unreported
      simp only [Call.step] at member
      split at member <;> exact member
  | holding number wish => cases wish <;> cases member
  | asking number options => exact ((silent_takeSnapshot _ _ _).unreported member).elim
  | leaving number answer => exact (unreported_giveBack number member).elim
  | updating of options =>
      exfalso
      simp only [Call.step] at member
      split at member <;> simp at member
  | replacing number options =>
      exact ((silent_replaceOptions registry number options).unreported member).elim
  | listing keys => exact ((Call.silent_sweepOn registry 0 keys).unreported member).elim
  | done answer => cases member

end Reports

/-- What holds of an entry after a run with a log, in which it was struck for some reasons. -/
structure CancelledOnce (shared : SharedRegistry) (log : List (Option Nat × Event)) (number : Nat)
    (key : String) (strokes : List CancelReason) : Prop where
  /-- The first stroke is logged, with its reason, and no other one. -/
  told : told log number = strokes.head?.toList.map (.subscriptionCancelled key)
  standing : shared.registry.standing? number = some (key, !strokes.isEmpty)
  /-- An entry that nobody holds any more was cancelled, for one reason. -/
  released : shared.registry.isHeld number = false →
    ∃ reason, strokes.head? = some reason ∧
      SharedRegistry.told log number = [.subscriptionCancelled key reason]
  /-- A loop that is struck alike, whatever comes between, is sent the stop signal in the step that
  logs the cancellation, and in no other one. -/
  signalled : ∀ directory options settings acts, SteppedFeed.reasons acts = strokes →
    let course := (SteppedFeed.start directory key options settings).course acts
    course.flatMap Prod.snd = SharedRegistry.told log number ∧
      course.countP Prod.fst = (SharedRegistry.told log number).length ∧
      ∀ step ∈ course, step.2.length = if step.1 then 1 else 0
  /-- Whatever is done to a cancelled entry, it stays cancelled, and cancelling it does nothing. -/
  final : strokes ≠ [] → ∀ later reason,
    (shared.after later).registry.standing? number = some (key, true) ∧
      SharedRegistry.told (shared.logged later) number = [] ∧
      (shared.after later).registry.onSubscription number () (·.cancel reason) =
        ⟨(), (shared.after later).registry, []⟩

section Results

variable {shared : SharedRegistry} {log : List (Option Nat × Event)} {number : Nat} {key : String}

/-- The marks and the log of an entry settle the rest. -/
theorem Coherent.cancelledOnce (coherent : shared.Coherent) {strokes : List CancelReason}
    (logs : told log number = strokes.head?.toList.map (.subscriptionCancelled key))
    (standing : shared.registry.standing? number = some (key, !strokes.isEmpty)) :
    CancelledOnce shared log number key strokes where
  told := logs
  standing := standing
  released free := by
    cases strokes with
    | nil => exact absurd (coherent.held number key standing) (by simp [free])
    | cons reason rest => exact ⟨reason, rfl, logs⟩
  signalled directory options settings acts struck := by
    have sound := SteppedFeed.sound_start directory key options settings
    rcases SteppedFeed.course_eq sound acts with ⟨course, together⟩
    have same := course.trans (struck ▸ logs.symm)
    exact ⟨same, (SteppedFeed.countP_course sound acts).trans (congrArg List.length same), together⟩
  final struck later reason := by
    have cancelled : shared.registry.standing? number = some (key, true) := by
      cases strokes with
      | nil => exact absurd rfl struck
      | cons reason rest => exact standing
    have stays := standing_after coherent cancelled later
    refine ⟨stays, told_cancelled coherent cancelled later, ?_⟩
    apply onSubscription_cancel_of_cancelled
    intro subscription present
    rw [standing?_eq_some _ present] at stays
    exact (Prod.mk.inj (Option.some.inj stays)).2

theorem mem_of_mem_told {event : Event} (member : event ∈ told log number) :
    (some number, event) ∈ log := by
  rcases List.mem_map.mp (List.mem_filter.mp member).1 with ⟨entry, among, rfl⟩
  have label := (List.mem_filter.mp among).2
  rw [← of_decide_eq_true label]
  exact (List.mem_filter.mp among).1

/-- A deactivation that is reported was of an entry that is cancelled. -/
theorem Coherent.standing_of_deactivated (coherent : shared.Coherent) {deed : Deed}
    {streamer : String} {subscribers : Nat}
    (member : Event.deactivated streamer key subscribers ∈ (shared.enact deed).events) :
    ∃ number, shared.subject? deed = some number ∧
      shared.registry.standing? number = some (key, true) := by
  cases deed with
  | move move =>
      cases move with
      | advance caller refusal =>
          simp only [SharedRegistry.enact, eventsOf] at member
          cases present : shared.calls[caller]? with
          | none => simp [present] at member
          | some call =>
              rw [present] at member
              rcases Call.reporting?_of_mem member with ⟨number, reports⟩
              rcases Option.bind_eq_some_iff.mp reports with ⟨deactivation, own, reporting⟩
              have reliable := coherent.reliable call (List.mem_of_getElem? present) _ own
              cases deactivation with
              | reporting of found =>
                  cases reporting
                  refine ⟨number, ?_, reliable⟩
                  cases call with
                  | deactivating deactivation | sweeping deactivation keys count =>
                      cases own
                      simp [subject?, present, Call.subject?, Call.inHand?, Call.deactivation?,
                        Deactivation.inHand?]
                  | _ => cases own
              | _ => cases reporting
      | cancel number => exact absurd member (unreported_cancel number)
      | giveBack number => exact absurd member (unreported_giveBack number)
      | replaceOptions number options =>
          exact absurd member (silent_replaceOptions _ number options).unreported
      | endTick number options => exact absurd member (silent_endTick _ number options).unreported
      | _ => cases member
  | build of options settings refusal =>
      exact absurd member (silent_schedule _ of options settings refusal).unreported
  | lend number => cases member
  | letGo of =>
      simp only [SharedRegistry.enact, letGo] at member
      split at member
      · cases member
      · exact absurd member (unreported_giveBack _)

end Results

/-- In every run of everything that can be done to a registry and to its entries, each entry is
cancelled by the first stroke that it gets and by no other one. The log says so once, with the
reason of that stroke, before a deactivation of the entry is reported. -/
theorem subscription_cancelled_exactly_once (name : String) (settings : StreamerSettings)
    (directory : Directory) (deeds : List Deed) :
    let fresh := start name settings directory
    let reached := fresh.after deeds
    let log := fresh.logged deeds
    (∀ number < reached.registry.subscriptions.length,
      CancelledOnce reached log number (reached.registry.keyOf number)
        (fresh.strokes number deeds)) ∧
    (∀ entry ∈ log, entry.2.isCancellation = true →
      ∃ number < reached.registry.subscriptions.length, ∃ reason,
        entry = (some number, .subscriptionCancelled (reached.registry.keyOf number) reason)) ∧
    (∀ deed streamer key subscribers,
      Event.deactivated streamer key subscribers ∈ (reached.enact deed).events →
        ∃ number reason, reached.subject? deed = some number ∧
          (some number, .subscriptionCancelled key reason) ∈ log) := by
  intro fresh reached log
  have beginning := coherent_start name settings directory
  have coherent : reached.Coherent := beginning.after deeds
  have once : ∀ number key mark, reached.registry.standing? number = some (key, mark) →
      CancelledOnce reached log number key (fresh.strokes number deeds) := by
    intro number key mark present
    have absent : fresh.registry.standing? number = none := by
      simp [fresh, start, Registry.create, standing?, subscription?]
    have made : reached.registry.standing? number ≠ none :=
      Option.ne_none_iff_exists'.mpr ⟨_, present⟩
    rcases told_absent beginning absent deeds made with ⟨own, logs, standing⟩
    cases present.symm.trans standing
    exact coherent.cancelledOnce logs standing
  have keyed : ∀ number key mark, reached.registry.standing? number = some (key, mark) →
      reached.registry.keyOf number = key := by
    intro number key mark present
    rw [keyOf_eq_standing?, present]
    rfl
  refine ⟨?_, ?_, ?_⟩
  · intro number inUse
    have present : reached.registry.standing? number ≠ none := by
      simpa [standing?, subscription?] using inUse
    rcases Option.ne_none_iff_exists'.mp present with ⟨⟨key, mark⟩, standing⟩
    rw [keyed number key mark standing]
    exact once number key mark standing
  · intro entry member cancels
    rcases logged_cancellation beginning member cancels with ⟨number, key, reason, rfl, standing⟩
    rw [← keyed number key true standing]
    exact ⟨number, lt_length_of_standing standing, reason, rfl⟩
  · intro deed streamer key subscribers member
    rcases coherent.standing_of_deactivated member with ⟨number, about, standing⟩
    have result := once number key true standing
    cases struck : (fresh.strokes number deeds) with
    | nil =>
        have unmarked := result.standing
        rw [struck] at unmarked
        cases standing.symm.trans unmarked
    | cons reason rest =>
        refine ⟨number, reason, about, mem_of_mem_told ?_⟩
        rw [result.told, struck]
        exact List.mem_singleton_self _

/-- An entry of the table is deactivated while a handle on it is out, which is given back later. A
subscription that was built outside of the table is let go of first, and cancelled then. -/
def struckTwice : List Deed :=
  [.move (.invoke (.getOrCreate "ticks" KeyMap.empty)), .move (.advance 0 none),
    .move (.advance 0 none), .build "ticks" KeyMap.empty .standard none,
    .move (.invoke (.deactivate "ticks")), .move (.advance 1 none), .move (.giveBack 1),
    .move (.advance 1 none), .move (.cancel 1), .move (.advance 1 none), .move (.giveBack 0)]

theorem subscription_cancelled_exactly_once_of_struckTwice :
    let fresh := start "console" .standard Directory.empty
    CancelledOnce (fresh.after struckTwice) (fresh.logged struckTwice) 0 "ticks"
        [.cancelled, .handleDropped] ∧
      CancelledOnce (fresh.after struckTwice) (fresh.logged struckTwice) 1 "ticks"
        [.handleDropped, .cancelled] := by
  have once := (subscription_cancelled_exactly_once "console" .standard
    Directory.empty struckTwice).1
  exact ⟨once 0 (by decide), once 1 (by decide)⟩

end ConsoleFeed.SharedRegistry
