import ConsoleFeed.Proofs.Registry.EntryReadings

/-!
# When two calls get the same entry

A call that asks for the entry of a key gets one that stands: the table holds it under that key, and
it is not cancelled. From then on it stands, or is cancelled for good. So a later call for the same
key gets the same entry unless a use has come between that ends it.

What is published on an entry is published by a tick of it, and what a receiver reads is what was
published on its own entry since it joined. So a receiver of one entry reads nothing that another
one's tick has published, also if both are for the same key.
-/

namespace ConsoleFeed.Registry

/-- Whoever joins the entry, at whatever moment, takes out only what ticks of this entry publish
from then on. -/
def ReadsOnlyItsOwn (registry : Registry) (number : Nat) : Prop :=
  ∀ uses join id,
    ((registry.afterUses uses).use (.onEntry number (.channel join))).answer =
      .said (.channel (.joined id)) →
    ∀ later,
      let entered := ((registry.afterUses uses).use (.onEntry number (.channel join))).state
      (entered.takenOut number id later).Sublist (entered.publishedOn number later)

theorem Recorded.readsOnlyItsOwn {registry : Registry} (recorded : registry.Recorded)
    (number : Nat) : registry.ReadsOnlyItsOwn number := by
  intro uses join id joined later
  exact taken_sublist_published (recorded.afterUses uses) joined later

/-- No use of one entry touches the channel of the other, and none publishes on both. -/
structure ChannelsApart (first second : Nat) : Prop where
  untouched : ∀ (registry : Registry) act,
    (registry.use (.onEntry first act)).state.channel? second = registry.channel? second ∧
      (registry.use (.onEntry second act)).state.channel? first = registry.channel? first
  published : ∀ (registry : Registry) use,
    registry.published? first use = none ∨ registry.published? second use = none

theorem channelsApart_of_ne {first second : Nat} (different : first ≠ second) :
    ChannelsApart first second where
  untouched registry act :=
    ⟨registry.channel?_onEntry_of_ne different.symm act,
      registry.channel?_onEntry_of_ne different act⟩
  published registry use := by
    unfold published?
    split
    · rename_i entry options
      by_cases ofFirst : entry = first
      · right
        have other : entry ≠ second := by
          rintro rfl
          exact different ofFirst.symm
        simp [other]
      · left
        simp [ofFirst]
    · exact Or.inl rfl

/-- Of two entries that stood when they were asked for, the second is the first if and only if it is
for the same key and nothing has ended the first in between. -/
theorem eq_iff_of_stands {start : Registry} {between : List (Use Nat)}
    {firstKey secondKey : String} {act : KeyAct} {first second : Nat} (owned : start.Owned)
    (stands : start.Stands firstKey first) (asks : act.asks = true)
    (answer : ((start.afterUses between).onKey secondKey act).answer = .entry second) :
    first = second ↔ firstKey = secondKey ∧ ∀ use ∈ between, ¬ use.Ends firstKey first := by
  have standsSecond := stands_of_answer (owned.afterUses between) asks answer
  rcases stands.afterUses owned between with ⟨lasting, standsStill⟩ | ⟨ended, cancelled⟩
  · constructor
    · rintro rfl
      refine ⟨?_, lasting⟩
      have turn := (start.afterUses between).turn_onKey secondKey act
      rcases turn.standing standsStill.2 with ⟨mark, later, _⟩
      have bothKeys := later.symm.trans standsSecond.2
      cases bothKeys
      rfl
    · rintro ⟨rfl, _⟩
      have answerFirst := answer_of_stands standsStill asks
      rw [answer] at answerFirst
      cases answerFirst
      rfl
  · constructor
    · rintro rfl
      have turn := (start.afterUses between).turn_onKey secondKey act
      have both := (turn.cancelled_stays cancelled).symm.trans standsSecond.2
      cases both
    · rintro ⟨_, lasting⟩
      exact absurd lasting ended

/-- Two calls that ask for the entry of a key, whatever comes before, between and after them, get
the same entry if and only if they ask for the same key and between them nobody deactivated this
key, shut the registry down, or cancelled that very entry. Each gets an entry that is not cancelled.
If they get two entries, these have channels of their own: what is done with one does nothing to the
channel of the other, no use publishes on both, and whoever joins one takes out only what its own
ticks publish. -/
theorem same_entry_iff_nothing_ended_it (name : String) (settings : StreamerSettings)
    (directory : Directory) (before between : List (Use Nat)) (firstKey secondKey : String)
    (firstAct secondAct : KeyAct) (first second : Nat) :
    let made := (create name settings directory).state
    let firstReply := (made.afterUses before).onKey firstKey firstAct
    let secondReply := (firstReply.state.afterUses between).onKey secondKey secondAct
    firstAct.asks = true → firstReply.answer = .entry first →
    secondAct.asks = true → secondReply.answer = .entry second →
    (first = second ↔ firstKey = secondKey ∧ ∀ use ∈ between, ¬ use.Ends firstKey first) ∧
      firstReply.state.isCancelled first = false ∧ secondReply.state.isCancelled second = false ∧
      (first ≠ second → ChannelsApart first second ∧
        made.ReadsOnlyItsOwn first ∧ made.ReadsOnlyItsOwn second) := by
  intro made firstReply secondReply firstAsks firstAnswer secondAsks secondAnswer
  have owned : (made.afterUses before).Owned :=
    (owned_create name settings directory).afterUses before
  have ownedFirst : firstReply.state.Owned :=
    owned.turn ((made.afterUses before).turn_onKey firstKey firstAct)
  have stands : firstReply.state.Stands firstKey first :=
    stands_of_answer owned firstAsks firstAnswer
  have standsSecond : secondReply.state.Stands secondKey second :=
    stands_of_answer (ownedFirst.afterUses between) secondAsks secondAnswer
  have recorded := recorded_create name settings directory
  refine ⟨eq_iff_of_stands ownedFirst stands secondAsks secondAnswer, stands.isCancelled,
    standsSecond.isCancelled, ?_⟩
  intro different
  exact ⟨channelsApart_of_ne different, recorded.readsOnlyItsOwn first,
    recorded.readsOnlyItsOwn second⟩

/-- An entry that was cancelled through a handle gives way to another one. -/
theorem same_entry_iff_nothing_ended_it_of_cancelled :
    let made := (create "streamer" .standard Directory.empty).state
    let firstReply := made.onKey "console" (.getOrCreate KeyMap.empty none)
    let between : List (Use Nat) := [.onEntry 0 .cancel, .onKey "other" .deactivate]
    let secondReply := (firstReply.state.afterUses between).onKey "console"
      (.getStream KeyMap.empty none)
    (firstReply.answer = .entry 0 ∧ secondReply.answer = .entry 1) ∧
      (0 = 1 ↔ "console" = "console" ∧ ∀ use ∈ between, ¬ use.Ends "console" 0) ∧
      ChannelsApart 0 1 := by
  intro made firstReply between secondReply
  have firstAnswer : firstReply.answer = .entry 0 := by rfl
  have secondAnswer : secondReply.answer = .entry 1 := by rfl
  have parts := same_entry_iff_nothing_ended_it "streamer" .standard Directory.empty [] between
    "console" "console" (.getOrCreate KeyMap.empty none) (.getStream KeyMap.empty none) 0 1
    rfl firstAnswer rfl secondAnswer
  exact ⟨⟨firstAnswer, secondAnswer⟩, parts.1, (parts.2.2.2 (by decide)).1⟩

end ConsoleFeed.Registry
