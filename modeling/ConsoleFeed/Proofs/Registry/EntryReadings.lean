import ConsoleFeed.Proofs.Registry.EntryChannels

/-!
# What the receivers of an entry take out

In the course of uses an entry's channel undergoes the acts that the uses are on it
(`channelCourse`), and what is published on it in them is what ticks of the entry got
(`channel?_afterUses`). So whoever joins an entry takes out, in this order, some of the payloads
that ticks of this entry have published since, and nothing else (`taken_sublist_published`). The
payloads that are left to a receiver carry the argument: a tick adds what it publishes to them, what
the receiver takes out comes off them, and every other use leaves them alone. Names of receivers are
not given again, so one that has left takes nothing out any more.
-/

namespace ConsoleFeed.Registry

/-- What a receiver of an entry takes out in a use that has this answer. -/
def Use.taken? (number id : Nat) : Use Nat → Yield Nat → Option String
  | .onEntry entry (.channel act), .said (.channel answer) =>
      if entry = number then act.taken? id answer else none
  | _, _ => none

/-- The payloads that are published on an entry in the course of uses. -/
def publishedOn (registry : Registry) (number : Nat) : List (Use Nat) → List String
  | [] => []
  | use :: rest =>
      (registry.published? number use).toList ++ (registry.use use).state.publishedOn number rest

/-- The acts that uses are on the channel of an entry, one after the other. -/
def channelCourse (registry : Registry) (number : Nat) : List (Use Nat) → List Channel.Act
  | [] => []
  | use :: rest =>
      registry.channelActs number use ++ (registry.use use).state.channelCourse number rest

/-- The payloads that a receiver of an entry takes out in the course of uses. -/
def takenOut (registry : Registry) (number id : Nat) : List (Use Nat) → List String
  | [] => []
  | use :: rest =>
      (use.taken? number id (registry.use use).answer).toList ++
        (registry.use use).state.takenOut number id rest

/-- The channel of an entry undergoes the acts that the uses are on it, and what is published in
them is what is published on the entry. -/
theorem channel?_afterUses {registry : Registry} {number : Nat} {before : Channel}
    (present : registry.channel? number = some before) (uses : List (Use Nat)) :
    ∃ after, (registry.afterUses uses).channel? number = some after ∧
      after.bare = before.bare.run (registry.channelCourse number uses) ∧
      Channel.publishedIn (registry.channelCourse number uses) =
        registry.publishedOn number uses := by
  induction uses generalizing registry before with
  | nil => exact ⟨before, present, rfl, rfl⟩
  | cons use rest ih =>
      rcases registry.channelStep_use use present with ⟨between, presentLater, step⟩
      rcases step.bare present with ⟨now, publishedNow⟩
      rcases ih presentLater with ⟨after, presentLast, later, publishedLater⟩
      refine ⟨after, presentLast, ?_, ?_⟩
      · rw [later, now, channelCourse, Channel.run, Channel.run, Channel.run, List.foldl_append]
      · rw [channelCourse, publishedOn, ← publishedNow, ← publishedLater, Channel.publishedIn,
          List.filterMap_append]
        rfl

/-- The channels keep the last of what was published on them. -/
def Recorded (registry : Registry) : Prop :=
  ∀ number channel, registry.channel? number = some channel →
    0 < channel.capacity ∧ ∃ all, Channel.Records channel.bare all

section Records

variable {registry : Registry} {number : Nat} {before after : Channel} {used : Use Nat}
  {answer : Yield Nat}

theorem recorded_create (name : String) (settings : StreamerSettings) (directory : Directory) :
    (create name settings directory).state.Recorded := by
  intro number channel present
  simp [channel?, subscription?, create] at present

theorem ChannelStep.capacity (step : ChannelStep registry number before used answer after)
    (present : registry.channel? number = some before) : after.capacity = before.capacity := by
  have same := congrArg Channel.capacity (step.bare present).1
  rw [Channel.capacity_run] at same
  exact same

theorem ChannelStep.records (step : ChannelStep registry number before used answer after)
    (present : registry.channel? number = some before) {all : List String}
    (records : Channel.Records before.bare all) :
    ∃ later, Channel.Records after.bare later := by
  rw [(step.bare present).1]
  exact records.run _

theorem Recorded.use (recorded : registry.Recorded) (use : Use Nat) :
    (registry.use use).state.Recorded := by
  intro number channel present
  cases earlier : registry.channel? number with
  | none =>
      rcases registry.created_use use earlier present with ⟨queueCapacity, created⟩
      refine ⟨?_, [], created ▸ Channel.records_create queueCapacity⟩
      have capacity : channel.bare.capacity = Channel.roundedCapacity queueCapacity := by
        rw [created]
        rfl
      exact Nat.lt_of_lt_of_eq (Channel.roundedCapacity_pos queueCapacity) capacity.symm
  | some before =>
      rcases registry.channelStep_use use earlier with ⟨later, presentLater, step⟩
      rcases recorded number before earlier with ⟨positive, all, records⟩
      rw [present] at presentLater
      cases presentLater
      exact ⟨step.capacity earlier ▸ positive, step.records earlier records⟩

theorem Recorded.afterUses (recorded : registry.Recorded) (uses : List (Use Nat)) :
    (registry.afterUses uses).Recorded := by
  induction uses generalizing registry with
  | nil => exact recorded
  | cons use rest ih => exact ih (recorded.use use)

end Records

section Receivers

variable {registry : Registry} {number id : Nat} {before after : Channel} {used : Use Nat}
  {answer : Yield Nat} {inbox : List String}

theorem taken?_of_foreign (foreign : ∀ act, used ≠ .onEntry number (.channel act)) :
    used.taken? number id answer = none := by
  unfold Use.taken?
  split
  · rename_i entry act said
    have different : entry ≠ number := by
      intro same
      exact foreign act (by rw [same])
    exact if_neg different
  · rfl

/-- What is left to a receiver grows by what is published, and what it takes out comes off it. -/
theorem ChannelStep.serves (step : ChannelStep registry number before used answer after)
    (serves : Channel.Serves before.bare id inbox)
    (remains : used ≠ .onEntry number (.channel (.leave id))) :
    ∃ left, Channel.Serves after.bare id left ∧
      ((used.taken? number id answer).toList ++ left).Sublist
        (inbox ++ (registry.published? number used).toList) := by
  cases step with
  | kept foreign silent same =>
      refine ⟨inbox, same ▸ serves, ?_⟩
      rw [taken?_of_foreign foreign]
      exact List.sublist_append_left inbox _
  | acted act =>
      have stays : act ≠ .leave id := by
        rintro rfl
        exact remains rfl
      rcases serves.act (registry.publisherHeld number) stays with ⟨left, later, order⟩
      refine ⟨left, later, ?_⟩
      simp only [Use.taken?, if_true]
      exact order.trans (List.sublist_append_left inbox _)
  | published told =>
      rename_i options text
      have stays : Channel.Act.publish text ≠ .receiver (.leave id) := by simp
      rcases serves.perform stays with ⟨_, later⟩
      refine ⟨inbox ++ [text], ?_, ?_⟩
      · rw [Channel.bare_publish]
        exact later
      · rw [told, taken?_of_foreign (by simp)]
        exact .refl _

theorem channelActs_waiting (registry : Registry) {use : Use Nat}
    (others : ∀ act, use = .onEntry number (.channel act) → act.actor? ≠ some id) :
    .receiver (.leave id) ∉ registry.channelActs number use ∧
      ∀ held, .receiver (.read id held) ∉ registry.channelActs number use := by
  unfold channelActs
  split
  · rename_i entry act
    split
    · rename_i same
      subst same
      cases registry.channel? entry with
      | none => simp
      | some channel => exact channel.onBare_waiting _ (others act rfl)
    · simp
  · cases registry.published? number use <;> simp

theorem channelCourse_waiting (registry : Registry) {uses : List (Use Nat)}
    (others : ∀ act, .onEntry number (.channel act) ∈ uses → act.actor? ≠ some id) :
    .receiver (.leave id) ∉ registry.channelCourse number uses ∧
      ∀ held, .receiver (.read id held) ∉ registry.channelCourse number uses := by
  induction uses generalizing registry with
  | nil => simp [channelCourse]
  | cons use rest ih =>
      have othersNow : ∀ act, use = .onEntry number (.channel act) → act.actor? ≠ some id :=
        fun act same => others act (same ▸ List.mem_cons_self)
      rcases registry.channelActs_waiting othersNow with ⟨staysNow, waitsNow⟩
      rcases ih (registry.use use).state
        (fun act member => others act (List.mem_cons_of_mem use member)) with ⟨stays, waits⟩
      simp only [channelCourse, List.mem_append, not_or]
      exact ⟨⟨staysNow, stays⟩, fun held => ⟨waitsNow held, waits held⟩⟩

/-- A receiver that neither reads nor leaves has all that is published on the entry left to read
besides. -/
theorem serves_waiting (present : registry.channel? number = some before)
    (serves : Channel.Serves before.bare id inbox) {uses : List (Use Nat)}
    (others : ∀ act, .onEntry number (.channel act) ∈ uses → act.actor? ≠ some id) :
    ∃ after, (registry.afterUses uses).channel? number = some after ∧
      Channel.Serves after.bare id (inbox ++ registry.publishedOn number uses) := by
  rcases channel?_afterUses present uses with ⟨after, presentLater, course, published⟩
  rcases registry.channelCourse_waiting others with ⟨stays, waits⟩
  refine ⟨after, presentLater, ?_⟩
  rw [course, ← published]
  exact serves.run_waiting stays waits

theorem ChannelStep.leaves
    (step : ChannelStep registry number before (.onEntry number (.channel (.leave id))) answer
      after)
    (serves : Channel.Serves before.bare id inbox) : Channel.Away after.bare id := by
  cases step with
  | kept foreign silent same => exact absurd rfl (foreign (.leave id))
  | acted _ => exact serves.leave _

theorem ChannelStep.away (step : ChannelStep registry number before used answer after)
    (away : Channel.Away before.bare id) :
    Channel.Away after.bare id ∧ used.taken? number id answer = none := by
  cases step with
  | kept foreign silent same => exact ⟨same ▸ away, taken?_of_foreign foreign⟩
  | acted act =>
      simp only [Use.taken?, if_true]
      exact away.act _ act
  | published told =>
      refine ⟨?_, taken?_of_foreign (by simp)⟩
      rw [Channel.bare_publish]
      exact away.perform (.publish _)

theorem takenOut_of_away (present : registry.channel? number = some before)
    (away : Channel.Away before.bare id) (uses : List (Use Nat)) :
    registry.takenOut number id uses = [] := by
  induction uses generalizing registry before with
  | nil => rfl
  | cons use rest ih =>
      rcases registry.channelStep_use use present with ⟨after, presentLater, step⟩
      rcases step.away away with ⟨later, nothing⟩
      rw [takenOut, nothing, ih presentLater later]
      rfl

/-- What a receiver takes out was left to it, or is published in the course of the uses. -/
theorem takenOut_sublist (present : registry.channel? number = some before)
    (serves : Channel.Serves before.bare id inbox) (uses : List (Use Nat)) :
    (registry.takenOut number id uses).Sublist (inbox ++ registry.publishedOn number uses) := by
  induction uses generalizing registry before inbox with
  | nil => exact List.nil_sublist _
  | cons use rest ih =>
      rcases registry.channelStep_use use present with ⟨after, presentLater, step⟩
      by_cases leaving : use = .onEntry number (.channel (.leave id))
      · subst leaving
        have away := step.leaves serves
        have nothing := takenOut_of_away presentLater away rest
        have silent : Use.taken? number id (.onEntry number (.channel (.leave id)))
            (registry.use (.onEntry number (.channel (.leave id)))).answer = none := by
          unfold Use.taken?
          split
          · rename_i same _
            cases same
            simp [Channel.EndAct.taken?, Channel.EndAct.reader?]
          · rfl
        rw [takenOut, nothing, silent]
        exact List.nil_sublist _
      · rcases step.serves serves leaving with ⟨left, later, order⟩
        have rest := ih presentLater later
        rw [takenOut, publishedOn, ← List.append_assoc]
        exact ((List.Sublist.refl _).append rest).trans (by
          rw [← List.append_assoc]
          exact order.append (.refl _))

/-- Whoever joins an entry begins with nothing left to it. -/
theorem serves_of_joined (recorded : registry.Recorded) {join : Channel.EndAct}
    (joined : (registry.use (.onEntry number (.channel join))).answer =
      .said (.channel (.joined id))) :
    ∃ channel, (registry.use (.onEntry number (.channel join))).state.channel? number =
        some channel ∧ Channel.Serves channel.bare id [] := by
  cases earlier : registry.channel? number with
  | none =>
      simp only [channel?, Option.map_eq_none_iff] at earlier
      simp [Registry.use, onEntry, earlier] at joined
  | some before =>
      rcases registry.channelStep_use (.onEntry number (.channel join)) earlier with
        ⟨after, present, step⟩
      rcases recorded number before earlier with ⟨_, all, records⟩
      refine ⟨after, present, ?_⟩
      rw [joined] at step
      generalize told : Yield.said (Said.channel (Channel.EndAnswer.joined id)) = answer at step
      cases step with
      | kept foreign silent same => exact absurd rfl (foreign join)
      | acted _ =>
          have begins := records.serves_subscribe
          cases join with
          | subscribe =>
              cases told
              exact begins
          | intoReceiver =>
              cases told
              exact begins
          | read other =>
              simp only [Channel.act] at told
              split at told <;> cases told
          | next other =>
              simp only [Channel.act] at told
              split at told <;> cases told
          | _ => cases told

/-- What is taken out by whoever joins an entry was published, since it joined, by ticks of this
entry. -/
theorem taken_sublist_published (recorded : registry.Recorded) {join : Channel.EndAct}
    (joined : (registry.use (.onEntry number (.channel join))).answer =
      .said (.channel (.joined id))) (later : List (Use Nat)) :
    let entered := (registry.use (.onEntry number (.channel join))).state
    (entered.takenOut number id later).Sublist (entered.publishedOn number later) := by
  rcases serves_of_joined recorded joined with ⟨channel, present, serves⟩
  exact takenOut_sublist present serves later

end Receivers

end ConsoleFeed.Registry
