import ConsoleFeed.Proofs.Provider.Asking
import ConsoleFeed.Proofs.Registry.Operations

/-!
# Which options and which provider a snapshot uses

Entries are shared and outlive what is known of them: a caller may ask for a key that somebody else
has made an entry for, with options that are then not used; a handle may still replace the options
of an entry that its key has no longer; an entry may be cancelled and made again; and providers come
and go under live entries. What a snapshot uses is nevertheless simple to say. This file says it by
a `Ledger`, which is kept from the operations alone and knows nothing of tables, marks and loops,
and proves that after every run the registry uses what the ledger has in force.

The relation between the two is `Agrees`. It is carried over each operation, and the operations that
ask a provider are then read off.
-/

namespace ConsoleFeed

open Registry

/-- The entries that were made, by number, each with its key and the options in force for it; the
live entry of each key; and the provider that was registered last under each key, with its number
among all that were registered. -/
structure Ledger where
  made : List (String × OptionSet)
  live : String → Option Nat
  providers : String → Option (Nat × Provider)
  registered : Nat

namespace Ledger

/-- Nothing was made or registered yet. -/
def empty : Ledger :=
  ⟨[], fun _ => none, fun _ => none, 0⟩

/-- The entry of a key is asked for. One is made, with the options given, if the key has no live one
and the system does not refuse the thread. -/
def entering (ledger : Ledger) (key : String) (options : OptionSet)
    (refusal : Option StartRefusal) : Ledger :=
  match ledger.live key, refusal with
  | none, none =>
      { ledger with
        made := ledger.made ++ [(key, options)]
        live := fun other =>
          if other = key then some ledger.made.length else ledger.live other }
  | _, _ => ledger

/-- The options of one entry are replaced. -/
def replacing (ledger : Ledger) (number : Nat) (options : OptionSet) : Ledger :=
  { ledger with made := ledger.made.modify number fun entry => (entry.1, options) }

/-- Some keys lose their live entries. -/
def leaving (ledger : Ledger) (keys : List String) : Ledger :=
  { ledger with live := fun key => if key ∈ keys then none else ledger.live key }

/-- One entry is cancelled, and is live no more. -/
def cancelling (ledger : Ledger) (number : Nat) : Ledger :=
  { ledger with live := fun key => (ledger.live key).filter fun found => found != number }

/-- The ledger after an operation. -/
def after (ledger : Ledger) : Operation → Ledger
  | .getOrCreate key options refusal => ledger.entering key options refusal
  | .getSnapshot key options refusal => ledger.entering key options refusal
  | .getStream key options refusal => ledger.entering key options refusal
  | .updateOptions key options =>
      match ledger.live key with
      | some number => ledger.replacing number options
      | none => ledger
  | .deactivate key => ledger.leaving [key]
  | .shutdown => { ledger with live := fun _ => none }
  | .cancel number => ledger.cancelling number
  | .replaceOptions number options => ledger.replacing number options
  | .register provider =>
      { ledger with
        registered := ledger.registered + 1
        providers := fun key =>
          if key = provider.key then some (ledger.registered, provider)
          else ledger.providers key }
  | .unregister key =>
      { ledger with
        providers := fun other => if other = key then none else ledger.providers other }
  | .peekSnapshot .. | .lend _ | .giveBack _ | .closeStream _ | .receive .. | .tick _ => ledger

/-- The ledger of operations. -/
def of (operations : List Operation) : Ledger :=
  operations.foldl after empty

/-- The options that a snapshot for a key uses: those of its live entry, or, if there is none, those
that came with the question. -/
def inForce (ledger : Ledger) (key : String) (given : OptionSet) : OptionSet :=
  match ledger.live key with
  | some number => ((ledger.made[number]?).map Prod.snd).getD given
  | none => given

/-- The key for which an operation asks the providers, and the options that it asks with, if it
asks: a snapshot does unless its entry could not be made, and a tick of a live entry does. -/
def question? (ledger : Ledger) : Operation → Option (String × OptionSet)
  | .getSnapshot key options refusal =>
      if (ledger.live key).isSome ∨ refusal.isNone then some (key, ledger.inForce key options)
      else none
  | .peekSnapshot key options => some (key, ledger.inForce key options)
  | .tick number => (ledger.made[number]?).filter fun entry => ledger.live entry.1 == some number
  | _ => none

theorem cancelling_live_of_ne {ledger : Ledger} {number : Nat} {key : String}
    (different : ledger.live key ≠ some number) :
    (ledger.cancelling number).live key = ledger.live key := by
  change (ledger.live key).filter _ = ledger.live key
  cases live : ledger.live key with
  | none => rfl
  | some found =>
      rw [live] at different
      apply Option.filter_some_pos
      rw [bne_iff_ne]
      rintro rfl
      exact different rfl

end Ledger

/-- The registry is as the ledger says. -/
structure Agrees (registry : Registry) (ledger : Ledger) : Prop where
  account : Accounted registry fun _ _ => False
  settled : registry.Settled
  terms : registry.terms = ledger.made
  live : ∀ key, registry.get? key = ledger.live key
  binds : registry.directory.Binds ledger.providers ledger.registered

/-- A change that leaves a subscription's key, options and mark alone, and lets its loop wait or be
over. -/
structure Keeps (change : Subscription → Subscription) : Prop where
  key : ∀ subscription, (change subscription).key = subscription.key
  options : ∀ subscription, (change subscription).feed.options = subscription.feed.options
  mark : ∀ subscription, (change subscription).isCancelled = subscription.isCancelled
  settled : ∀ subscription,
    subscription.phase = (if subscription.isCancelled then .ended else .waiting) →
      (change subscription).phase = if subscription.isCancelled then .ended else .waiting

theorem keeps_withChannel (change : Channel → Channel) :
    Keeps fun subscription => subscription.withChannel (change subscription.feed.channel) :=
  ⟨fun _ => rfl, fun _ => rfl, fun _ => rfl, fun _ settled => settled⟩

theorem keeps_lent (count : Nat → Nat) :
    Keeps fun subscription => { subscription with lent := count subscription.lent } :=
  ⟨fun _ => rfl, fun _ => rfl, fun _ => rfl, fun _ settled => settled⟩

theorem keeps_delivered (text : String) : Keeps (delivered text) := by
  refine ⟨?_, ?_, ?_, fun _ _ => rfl⟩
  · intro subscription
    exact (deliver_keeps subscription.feed text).1
  · intro subscription
    simp only [delivered, Feed.deliver]
    split <;> rfl
  · intro subscription
    exact (deliver_keeps subscription.feed text).2

theorem agrees_create (name : String) (settings : StreamerSettings) :
    Agrees (Registry.create name settings Directory.empty).state .empty := by
  refine ⟨⟨?_, ?_, ?_⟩, ?_, rfl, ?_, ⟨?_, rfl, ?_, ?_⟩⟩
  · intro key number held
    cases held
  · intro key number out
    cases out
  · intro key number standing
    cases standing
  · intro subscription member
    cases member
  · intro key
    rfl
  · intro registration member
    cases member
  · intro key
    rfl
  · intro key number provider isBound
    cases isBound

namespace Agrees

variable {registry : Registry} {ledger : Ledger}

/-- Changes of one subscription and of the directory that the ledger takes no notice of. -/
theorem changing (agrees : Agrees registry ledger) (number : Nat)
    {change : Subscription → Subscription} (keeps : Keeps change) {directory : Directory}
    (binds : directory.Binds ledger.providers ledger.registered) :
    Agrees { registry.changing number change with directory := directory } ledger := by
  have same : SameEntries registry
      { registry.changing number change with directory := directory } :=
    (registry.sameEntries_changing number keeps.key keeps.mark).trans
      ⟨rfl, fun _ => rfl, rfl⟩
  refine ⟨agrees.account.of_sameEntries same fun _ _ => Iff.rfl, ?_, ?_, ?_, binds⟩
  · refine Settled.changing agrees.settled ?_
    intro subscription settled
    rw [keeps.mark]
    exact keeps.settled subscription settled
  · exact (registry.terms_changing number fun subscription =>
      ⟨keeps.key subscription, keeps.options subscription⟩).trans agrees.terms
  · intro key
    rw [same.get?]
    exact agrees.live key

theorem changing_alone (agrees : Agrees registry ledger) (number : Nat)
    {change : Subscription → Subscription} (keeps : Keeps change) :
    Agrees (registry.changing number change) ledger :=
  agrees.changing number keeps agrees.binds

theorem asking (agrees : Agrees registry ledger) {directory : Directory}
    (binds : directory.Binds ledger.providers ledger.registered) :
    Agrees { registry with directory := directory } ledger :=
  ⟨agrees.account.of_sameEntries ⟨rfl, fun _ => rfl, rfl⟩ fun _ _ => Iff.rfl, agrees.settled,
    agrees.terms, agrees.live, binds⟩

theorem length_made (agrees : Agrees registry ledger) :
    registry.subscriptions.length = ledger.made.length := by
  rw [← agrees.terms, Registry.terms, List.length_map]

theorem entered (agrees : Agrees registry ledger) {key : String}
    (absent : registry.get? key = none) (options : OptionSet) :
    Agrees (registry.entered key options) (ledger.entering key options none) := by
  have makes := registry.makesEntry_entered absent options
  have unentered : ledger.live key = none := (agrees.live key).symm.trans absent
  have entering : ledger.entering key options none =
      { ledger with
        made := ledger.made ++ [(key, options)]
        live := fun other =>
          if other = key then some ledger.made.length else ledger.live other } := by
    simp [Ledger.entering, unentered]
  rw [entering]
  refine ⟨agrees.account.of_makesEntry makes fun _ _ => Iff.rfl, ?_, ?_, ?_, agrees.binds⟩
  · intro subscription member
    rcases List.mem_append.mp member with old | new
    · exact agrees.settled subscription old
    · rw [List.mem_singleton.mp new]
      rfl
  · simp only [Registry.terms, Registry.entered, List.map_append, ← agrees.terms]
    rfl
  · intro other
    rw [makes.get? agrees.account.inUse, agrees.length_made, agrees.live other]

theorem getOrCreate (agrees : Agrees registry ledger) (key : String) (options : OptionSet)
    (refusal : Option StartRefusal) :
    Agrees (registry.getOrCreate key options refusal).state
      (ledger.entering key options refusal) := by
  rcases registry.getOrCreate_cases key options refusal with
    ⟨found, live, _, same⟩ | ⟨reason, _, refused, _, same⟩ | ⟨absent, unrefused, _, made⟩
  · have entered : ledger.live key = some found := (agrees.live key).symm.trans live
    have unchanged : ledger.entering key options refusal = ledger := by
      simp [Ledger.entering, entered]
    rw [same, unchanged]
    exact agrees
  · have unchanged : ledger.entering key options refusal = ledger := by
      cases entered : ledger.live key <;> simp [Ledger.entering, entered, refused]
    rw [same, unchanged]
    exact agrees
  · rw [made, unrefused]
    exact agrees.entered absent options

theorem replaceOptions (agrees : Agrees registry ledger) (number : Nat) (options : OptionSet) :
    Agrees (registry.onSubscription number () (·.replaceOptions options)).state
      (ledger.replacing number options) := by
  have same := registry.sameEntries_replaceOptions number options
  refine ⟨agrees.account.of_sameEntries same fun _ _ => Iff.rfl, ?_, ?_, ?_, ?_⟩
  · rw [state_onSubscription]
    exact agrees.settled.changing fun subscription settled => settled
  · rw [terms_replaceOptions, agrees.terms]
    rfl
  · intro key
    rw [same.get?]
    exact agrees.live key
  · rw [state_onSubscription]
    exact agrees.binds

/-- Cancelling a subscription settles its loop and leaves its options. -/
theorem settled_cancel (settled : registry.Settled) (number : Nat) (reason : CancelReason) :
    (registry.onSubscription number () (·.cancel reason)).state.Settled ∧
      (registry.onSubscription number () (·.cancel reason)).state.terms = registry.terms ∧
      (registry.onSubscription number () (·.cancel reason)).state.directory =
        registry.directory := by
  rw [state_onSubscription]
  refine ⟨settled.changing ?_, registry.terms_changing number ?_, rfl⟩
  · intro subscription settledOne
    rcases subscription.cancel_cases reason with ⟨_, same⟩ | ⟨unmarked, changed⟩
    · rw [same]
      exact settledOne
    · have waits : subscription.phase = .waiting := by simpa [unmarked] using settledOne
      rw [changed, waits]
      rfl
  · intro subscription
    simp

theorem of_cancel (agrees : Agrees registry ledger) (number : Nat) (reason : CancelReason) :
    Agrees (registry.onSubscription number () (·.cancel reason)).state
      (ledger.cancelling number) := by
  have cancels := registry.cancelsEntry_onSubscription number reason
  rcases settled_cancel agrees.settled number reason with ⟨settled, terms, directory⟩
  refine ⟨agrees.account.of_cancelsEntry cancels (fun _ _ out => out) (fun _ _ _ out => out),
    settled, terms.trans agrees.terms, ?_, ?_⟩
  · intro key
    rw [cancels.get? agrees.account.inUse, agrees.live key]
    rfl
  · rw [directory]
    exact agrees.binds

theorem of_live_eq (agrees : Agrees registry ledger) {live : String → Option Nat}
    (same : ∀ key, ledger.live key = live key) : Agrees registry { ledger with live := live } :=
  ⟨agrees.account, agrees.settled, agrees.terms, fun key => (agrees.live key).trans (same key),
    agrees.binds⟩

/-- Giving a handle back cancels only what the table does not hold, and so no live entry. -/
theorem giveBack (agrees : Agrees registry ledger) (number : Nat) :
    Agrees (registry.giveBack number).state ledger := by
  have returned : Agrees (registry.onSubscription number () fun subscription =>
      ⟨(), { subscription with lent := subscription.lent - 1 }, []⟩).state ledger := by
    rw [state_onSubscription]
    exact agrees.changing_alone number (keeps_lent (· - 1))
  unfold Registry.giveBack
  dsimp only
  split
  · exact returned
  · rename_i unheld
    refine (returned.of_cancel number .handleDropped).of_live_eq ?_
    intro key
    apply Ledger.cancelling_live_of_ne
    intro live
    rw [← returned.live key] at live
    have held := Registry.inTable_of_find? _ ((get?_eq_some_iff _ key number).mp live).1
    simp only [isHeld, held, Bool.true_or, not_true_eq_false] at unheld

/-- Deactivating a key takes its entry out and cancels it, which no other key takes notice of. -/
theorem deactivate (agrees : Agrees registry ledger) (key : String) :
    Agrees (registry.deactivate key).state (ledger.leaving [key]) := by
  simp only [Registry.deactivate]
  rcases registry.remove_entries key with ⟨absent, unheld⟩ | ⟨number, found, removes⟩
  · simp only [absent]
    refine agrees.of_live_eq ?_
    intro other
    by_cases same : other = key
    · subst same
      have none_live : ledger.live other = none := by
        rw [← agrees.live other, get?_eq_none_iff]
        intro number held
        rw [unheld] at held
        cases held
      simp [none_live]
    · simp [same]
  · simp only [found]
    have cancels := (registry.without key).cancelsEntry_cancel number
    have taken : Accounted (registry.without key) fun other found =>
        False ∨ some (key, number) = some (other, found) :=
      agrees.account.of_removesEntry removes fun _ _ => Iff.rfl
    have settledWithout : (registry.without key).Settled := agrees.settled
    rcases settled_cancel settledWithout number .cancelled with ⟨settled, terms, directory⟩
    refine ⟨?_, settled, terms.trans agrees.terms, ?_, ?_⟩
    · refine taken.of_cancelsEntry cancels (fun _ _ out => out.elim) ?_
      rintro other found different (out | same)
      · exact out
      · cases same
        exact different rfl
    · intro other
      rw [cancels.get? taken.inUse, removes.get?]
      by_cases same : other = key
      · simp [Ledger.leaving, same]
      · simp only [Ledger.leaving, List.mem_singleton, same, if_false, agrees.live other]
        apply Ledger.cancelling_live_of_ne
        intro live
        rw [← agrees.live other] at live
        rcases agrees.account.owned key number removes.held with ⟨mark, standing⟩
        rcases agrees.account.owned other number ((get?_eq_some_iff _ other number).mp live).1
          with ⟨otherMark, otherStanding⟩
        rw [standing] at otherStanding
        cases otherStanding
        exact same rfl
    · exact directory ▸ agrees.binds

theorem deactivateAll (agrees : Agrees registry ledger) (keys : List String) :
    Agrees (registry.deactivateAll keys).state (ledger.leaving keys) := by
  induction keys generalizing registry ledger with
  | nil => exact agrees.of_live_eq fun key => by simp
  | cons key rest ih =>
      refine (ih (agrees.deactivate key)).of_live_eq ?_
      intro other
      by_cases same : other = key <;> simp [Ledger.leaving, same]

/-- A shutdown takes the live entries of all keys: only a key in the table can have one. -/
theorem shutdown (agrees : Agrees registry ledger) :
    Agrees registry.shutdown.state { ledger with live := fun _ => none } := by
  refine (agrees.deactivateAll registry.table.keys).of_live_eq ?_
  intro key
  by_cases listed : key ∈ registry.table.keys
  · simp [Ledger.leaving, listed]
  · simp only [Ledger.leaving, listed, if_false]
    rw [← agrees.live key, get?_eq_none_iff]
    intro number held
    exact absurd (List.mem_map_of_mem (KeyMap.mem_of_lookup held)) listed

theorem updateOptions (agrees : Agrees registry ledger) (key : String) (options : OptionSet) :
    Agrees (registry.updateOptions key options).state
      (ledger.after (.updateOptions key options)) := by
  have live := agrees.live key
  simp only [Registry.updateOptions, updateLive]
  cases entered : ledger.live key with
  | none =>
      rw [entered] at live
      simpa [Ledger.after, entered, live] using agrees
  | some number =>
      rw [entered] at live
      simpa [Ledger.after, entered, live] using agrees.replaceOptions number options

theorem present (agrees : Agrees registry ledger) {number : Nat} {key : String}
    {options : OptionSet} (entry : ledger.made[number]? = some (key, options)) :
    ∃ subscription, registry.subscription? number = some subscription ∧
      subscription.key = key ∧ subscription.feed.options = options := by
  rw [← agrees.terms, Registry.terms, List.getElem?_map, Option.map_eq_some_iff] at entry
  rcases entry with ⟨subscription, found, same⟩
  cases same
  exact ⟨subscription, found, rfl, rfl⟩

theorem isLive_iff (agrees : Agrees registry ledger) (key : String) (number : Nat) :
    registry.IsLive key number ↔ ledger.live key = some number := by
  rw [agrees.account.isLive_iff (fun _ => id), agrees.live]

/-- The live entry of a key is one of the entries made, under that key. -/
theorem made_of_live (agrees : Agrees registry ledger) {key : String} {number : Nat}
    (live : ledger.live key = some number) :
    ledger.made[number]? = some (key, registry.optionsOf number) := by
  rcases (agrees.isLive_iff key number).mpr live with ⟨subscription, found, rfl, _⟩
  have same : registry.subscriptions[number]? = some subscription := found
  simp [← agrees.terms, Registry.terms, same, optionsOf, found]

theorem takeSnapshotOf_eq (agrees : Agrees registry ledger) {number : Nat} {key : String}
    {options : OptionSet} (entry : ledger.made[number]? = some (key, options)) :
    registry.takeSnapshotOf number = registry.onDirectory (·.takeSnapshot key options) := by
  rcases agrees.present entry with ⟨subscription, found, rfl, rfl⟩
  simp [takeSnapshotOf, keyOf, optionsOf, found]

/-- The entry that a caller gets is one of the key, with the options in force for it. -/
theorem made_getOrCreate (agrees : Agrees registry ledger) {key : String} {options : OptionSet}
    {refusal : Option StartRefusal} {number : Nat}
    (answer : (registry.getOrCreate key options refusal).answer = .ok number) :
    (ledger.entering key options refusal).made[number]? =
      some (key, ledger.inForce key options) := by
  rcases registry.getOrCreate_cases key options refusal with
    ⟨found, live, foundAnswer, _⟩ | ⟨reason, _, _, failed, _⟩ |
      ⟨absent, unrefused, madeAnswer, _⟩
  · rw [foundAnswer] at answer
    cases answer
    have entered : ledger.live key = some number := (agrees.live key).symm.trans live
    have entry := agrees.made_of_live entered
    simp [Ledger.entering, Ledger.inForce, entered, entry]
  · rw [failed] at answer
    cases answer
  · rw [madeAnswer] at answer
    cases answer
    have unentered : ledger.live key = none := (agrees.live key).symm.trans absent
    simp [Ledger.entering, Ledger.inForce, unentered, unrefused, agrees.length_made]

/-- A call that asks for an entry gets one if the key has one already or a loop can be started. -/
theorem getOrCreate_ok (agrees : Agrees registry ledger) {key : String} {options : OptionSet}
    {refusal : Option StartRefusal} :
    (∃ number, (registry.getOrCreate key options refusal).answer = .ok number) ↔
      ((ledger.live key).isSome ∨ refusal.isNone) := by
  rcases registry.getOrCreate_cases key options refusal with
    ⟨found, entered, answer, _⟩ | ⟨reason, absent, refused, answer, _⟩ |
      ⟨absent, unrefused, answer, _⟩
  · rw [answer, ← agrees.live key, entered]
    simp
  · rw [answer, ← agrees.live key, absent, refused]
    simp
  · rw [answer, unrefused]
    simp

/-- A tick of a live entry is taken, and asks with its entry's key and options; no other
subscription has a tick. -/
theorem tick? (agrees : Agrees registry ledger) (number : Nat) :
    (∃ key options text, ledger.question? (.tick number) = some (key, options) ∧
        registry.IsLive key number ∧
        registry.directory.AsksOnce key options (ledger.providers key) text
          (registry.directory.takeSnapshot key options).state ∧
        ∃ ticked, registry.tick? number = some ticked ∧
          ticked.state = { registry.changing number (delivered text) with
            directory := (registry.directory.takeSnapshot key options).state }) ∨
      ledger.question? (.tick number) = none ∧ registry.tick? number = none := by
  cases entry : ledger.made[number]? with
  | none =>
      refine Or.inr ⟨by simp [Ledger.question?, entry], ?_⟩
      apply registry.tick?_eq_none
      intro subscription found
      rw [← agrees.terms, Registry.terms, List.getElem?_map] at entry
      have same : registry.subscriptions[number]? = some subscription := found
      rw [same] at entry
      cases entry
  | some terms =>
      have paired : ledger.made[number]? = some (terms.1, terms.2) := entry
      rcases agrees.present paired with ⟨subscription, found, key, options⟩
      have settled := agrees.settled subscription (List.mem_of_getElem? found)
      cases marked : subscription.isCancelled with
      | true =>
          have unlive : ledger.live terms.1 ≠ some number := by
            intro live
            rcases (agrees.isLive_iff terms.1 number).mpr live with ⟨other, same, _, uncancelled⟩
            rw [found] at same
            cases same
            rw [marked] at uncancelled
            cases uncancelled
          refine Or.inr ⟨?_, ?_⟩
          · simpa [Ledger.question?, entry, Option.filter] using unlive
          · apply registry.tick?_eq_none
            intro other same
            rw [found] at same
            cases same
            simp [settled, marked]
      | false =>
          have live := (agrees.isLive_iff terms.1 number).mp ⟨subscription, found, key, marked⟩
          rcases (agrees.binds.asksOnce terms.1 terms.2).1 with ⟨text, asks⟩
          have waits : subscription.phase = .waiting := by simp [settled, marked]
          rcases registry.tick?_of_waiting number found waits
            (by rw [key, options]; exact asks.taken.1) with ⟨ticked, tick, state⟩
          rw [key, options] at state
          refine Or.inl ⟨terms.1, terms.2, text, ?_, ⟨subscription, found, key, marked⟩, asks,
            ticked, tick, state⟩
          simp [Ledger.question?, entry, Option.filter, live]

theorem getStream (agrees : Agrees registry ledger) (key : String) (options : OptionSet)
    (refusal : Option StartRefusal) :
    Agrees (registry.getStream key options refusal).state
      (ledger.entering key options refusal) := by
  have entered := agrees.getOrCreate key options refusal
  simp only [Registry.getStream]
  cases answer : (registry.getOrCreate key options refusal).answer with
  | error failure => simpa only [answer] using entered
  | ok number =>
      simp only [state_onChannel]
      exact entered.changing_alone number (keeps_withChannel Channel.openStream)

/-- A snapshot through the registry gets the entry, and asks once with what is in force, unless no
entry could be made. -/
theorem getSnapshot (agrees : Agrees registry ledger) (key : String) (options : OptionSet)
    (refusal : Option StartRefusal) :
    Agrees (registry.getSnapshot key options refusal).state
        (ledger.entering key options refusal) ∧
      if (ledger.live key).isSome ∨ refusal.isNone then
        ∃ text, registry.directory.AsksOnce key (ledger.inForce key options)
            (ledger.providers key) text (registry.getSnapshot key options refusal).state.directory ∧
          (registry.getSnapshot key options refusal).answer = .ok text
      else (registry.getSnapshot key options refusal).state.directory = registry.directory := by
  have entered := agrees.getOrCreate key options refusal
  simp only [Registry.getSnapshot]
  cases answer : (registry.getOrCreate key options refusal).answer with
  | error failure =>
      have refused : ¬ ((ledger.live key).isSome ∨ refusal.isNone) := by
        rw [← agrees.getOrCreate_ok, answer]
        simp
      rw [if_neg refused]
      exact ⟨entered, registry.directory_getOrCreate key options refusal⟩
  | ok number =>
      have entry := agrees.made_getOrCreate answer
      have directory := registry.directory_getOrCreate key options refusal
      rw [if_pos (agrees.getOrCreate_ok.mp ⟨number, answer⟩)]
      simp only [entered.takeSnapshotOf_eq entry]
      rcases agrees.binds.asksOnce key (ledger.inForce key options) with ⟨⟨text, asks⟩, binds⟩
      refine ⟨?_, text, ?_, ?_⟩
      · apply entered.asking
        rw [directory]
        have same : (ledger.entering key options refusal).providers = ledger.providers ∧
            (ledger.entering key options refusal).registered = ledger.registered := by
          simp only [Ledger.entering]
          split <;> exact ⟨rfl, rfl⟩
        rw [same.1, same.2]
        exact binds
      · simpa only [onDirectory, directory] using asks
      · simp only [onDirectory, directory, asks.taken.1]
        rfl

/-- A peek asks once with what is in force, and changes nothing else. -/
theorem peekSnapshot (agrees : Agrees registry ledger) (key : String) (options : OptionSet) :
    Agrees (registry.peekSnapshot key options).state ledger ∧
      ∃ text, registry.directory.AsksOnce key (ledger.inForce key options)
          (ledger.providers key) text (registry.peekSnapshot key options).state.directory ∧
        (registry.peekSnapshot key options).answer = .ok text := by
  have whole : registry.peekSnapshot key options =
      registry.onDirectory (·.takeSnapshot key (ledger.inForce key options)) := by
    simp only [Registry.peekSnapshot, Ledger.inForce]
    rw [agrees.live key]
    cases live : ledger.live key with
    | none => rfl
    | some number =>
        have entry := agrees.made_of_live live
        simpa [entry] using agrees.takeSnapshotOf_eq entry
  rcases agrees.binds.asksOnce key (ledger.inForce key options) with ⟨⟨text, asks⟩, binds⟩
  rw [whole]
  exact ⟨agrees.asking binds, text, asks, asks.taken.1⟩

theorem perform (agrees : Agrees registry ledger) (operation : Operation)
    (fine : ∀ provider, operation = .register provider → provider.lookupFault = none) :
    Agrees (registry.perform operation).state (ledger.after operation) := by
  cases operation with
  | getOrCreate key options refusal => exact agrees.getOrCreate key options refusal
  | getSnapshot key options refusal => exact (agrees.getSnapshot key options refusal).1
  | getStream key options refusal => exact agrees.getStream key options refusal
  | peekSnapshot key options => exact (agrees.peekSnapshot key options).1
  | updateOptions key options => exact agrees.updateOptions key options
  | deactivate key => exact agrees.deactivate key
  | shutdown => exact agrees.shutdown
  | cancel number => exact agrees.of_cancel number .cancelled
  | replaceOptions number options => exact agrees.replaceOptions number options
  | lend number =>
      simp only [Registry.perform, lend, state_onSubscription]
      exact agrees.changing_alone number (keeps_lent (· + 1))
  | giveBack number => exact agrees.giveBack number
  | closeStream number =>
      simp only [Registry.perform]
      rw [state_onChannel]
      exact agrees.changing_alone number (keeps_withChannel Channel.closeStream)
  | receive number act =>
      simp only [Registry.perform]
      rw [state_onChannel]
      exact agrees.changing_alone number (keeps_withChannel (·.received act))
  | tick number =>
      rcases agrees.tick? number with
        ⟨key, options, text, _, _, asks, ticked, tick, state⟩ | ⟨_, tick⟩
      · simp only [Registry.perform, tick, state]
        exact agrees.changing number (keeps_delivered text) (agrees.binds.asksOnce key options).2
      · simp only [Registry.perform, tick]
        exact agrees
  | register provider =>
      have binds := agrees.binds.register provider (fine provider rfl)
      exact ⟨agrees.account.of_sameEntries ⟨rfl, fun _ => rfl, rfl⟩ fun _ _ => Iff.rfl,
        agrees.settled, agrees.terms, agrees.live, binds⟩
  | unregister key =>
      have binds := agrees.binds.unregister key
      exact ⟨agrees.account.of_sameEntries ⟨rfl, fun _ => rfl, rfl⟩ fun _ _ => Iff.rfl,
        agrees.settled, agrees.terms, agrees.live, binds⟩

theorem run (agrees : Agrees registry ledger) (operations : List Operation)
    (fine : ∀ provider, .register provider ∈ operations → provider.lookupFault = none) :
    Agrees (registry.run operations) (operations.foldl Ledger.after ledger) := by
  induction operations generalizing registry ledger with
  | nil => exact agrees
  | cons operation rest ih =>
      apply ih
      · apply agrees.perform operation
        rintro provider rfl
        exact fine provider List.mem_cons_self
      · intro provider member
        exact fine provider (List.mem_cons_of_mem operation member)

end Agrees

/-- What becomes of the text of an operation that asks: a tick publishes it on its subscription's
channel, and a call for a snapshot answers it. -/
def Registry.Gives (registry : Registry) (operation : Operation) (text : String) : Prop :=
  match operation with
  | .tick number => ∃ subscription, registry.subscription? number = some subscription ∧
      ((registry.perform operation).state.subscription? number).map (·.feed.channel) =
        some (subscription.feed.channel.publish text).2
  | _ => (registry.perform operation).answer = .snapshot (.ok text)

namespace Agrees

variable {registry : Registry} {ledger : Ledger}

/-- An operation that asks does so once, with what is in force. -/
theorem asks (agrees : Agrees registry ledger) {operation : Operation} {key : String}
    {options : OptionSet} (question : ledger.question? operation = some (key, options)) :
    ∃ text, registry.directory.AsksOnce key options (ledger.providers key) text
        (registry.perform operation).state.directory ∧ registry.Gives operation text := by
  cases operation with
  | getSnapshot other given refusal =>
      have snapshot := (agrees.getSnapshot other given refusal).2
      simp only [Ledger.question?] at question
      split at question
      · rename_i gets
        cases question
        rw [if_pos gets] at snapshot
        rcases snapshot with ⟨text, asks, answer⟩
        refine ⟨text, asks, ?_⟩
        simp only [Registry.Gives, Registry.perform, answer]
        rfl
      · cases question
  | peekSnapshot other given =>
      rcases (agrees.peekSnapshot other given).2 with ⟨text, asks, answer⟩
      cases question
      refine ⟨text, asks, ?_⟩
      simp only [Registry.Gives, Registry.perform, answer]
  | tick number =>
      rcases agrees.tick? number with
        ⟨_, _, text, same, ⟨subscription, present, _, uncancelled⟩, asks, ticked, tick, state⟩ |
          ⟨none_asked, _⟩
      · rw [question] at same
        cases same
        refine ⟨text, ?_, subscription, present, ?_⟩
        · simpa only [Registry.perform, tick, state] using asks
        · have delivers : (registry.perform (.tick number)).state.subscription? number =
              some (delivered text subscription) := by
            simp only [Registry.perform, tick, state]
            rw [← Option.map_some, ← present]
            exact (registry.subscription?_changing number _ number).trans (if_pos rfl)
          have unmarked : subscription.feed.cancelled = false := uncancelled
          simp [delivers, delivered, Feed.deliver, unmarked]
      · rw [question] at none_asked
        cases none_asked
  | _ => cases question

theorem asks_nobody (agrees : Agrees registry ledger) {operation : Operation}
    (question : ledger.question? operation = none) (number : Nat) :
    (registry.perform operation).state.directory.calls number =
      registry.directory.calls number := by
  cases operation with
  | getOrCreate key options refusal =>
      simp only [Registry.perform, directory_getOrCreate]
  | getStream key options refusal => simp only [Registry.perform, directory_getStream]
  | getSnapshot key options refusal =>
      have snapshot := (agrees.getSnapshot key options refusal).2
      simp only [Ledger.question?] at question
      split at question
      · cases question
      · rename_i refused
        rw [if_neg refused] at snapshot
        simp only [Registry.perform, snapshot]
  | peekSnapshot key options => cases question
  | updateOptions key options => simp only [Registry.perform, directory_updateOptions]
  | deactivate key => simp only [Registry.perform, directory_deactivate]
  | shutdown =>
      simp only [Registry.perform, Registry.shutdown, shutdownInOrder, directory_deactivateAll]
  | cancel other => simp only [Registry.perform, Registry.cancel, directory_onSubscription]
  | replaceOptions other options => simp only [Registry.perform, directory_onSubscription]
  | lend other => simp only [Registry.perform, lend, directory_onSubscription]
  | giveBack other => simp only [Registry.perform, directory_giveBack]
  | closeStream other => simp only [Registry.perform, directory_onChannel]
  | receive other act => simp only [Registry.perform, directory_onChannel]
  | tick other =>
      rcases agrees.tick? other with ⟨_, _, _, asked, _⟩ | ⟨_, tick⟩
      · rw [question] at asked
        cases asked
      · simp only [Registry.perform, tick]
  | register provider => exact Directory.calls_register registry.directory provider number
  | unregister key => exact Directory.calls_unregister registry.directory key number

end Agrees

/-- After any operations, with providers whose lookup does not panic, an entry is live where the
ledger has it live, and the next operation asks as the ledger says. If it asks, it does so by one
lookup and one call of the provider that was registered last under the key, if there is one, with
the options in force for the key, and the text goes where it belongs. If it does not, no provider is
called. An update answers whether the key has a live entry. -/
theorem asks_with_what_is_in_force (name : String) (settings : StreamerSettings)
    (operations : List Operation) (operation : Operation)
    (fine : ∀ provider, .register provider ∈ operations → provider.lookupFault = none) :
    let registry := (Registry.create name settings Directory.empty).state.run operations
    let ledger := Ledger.of operations
    (∀ key number, registry.IsLive key number ↔ ledger.live key = some number) ∧
    (∀ key options, ledger.question? operation = some (key, options) →
      ∃ text, registry.directory.AsksOnce key options (ledger.providers key) text
          (registry.perform operation).state.directory ∧ registry.Gives operation text) ∧
    (ledger.question? operation = none →
      ∀ number, (registry.perform operation).state.directory.calls number =
        registry.directory.calls number) ∧
    ∀ key options, (registry.perform (.updateOptions key options)).answer =
      .flag (ledger.live key).isSome := by
  intro registry ledger
  have agrees : Agrees registry ledger := (agrees_create name settings).run operations fine
  refine ⟨agrees.isLive_iff, fun key options => agrees.asks, agrees.asks_nobody, ?_⟩
  intro key options
  simp only [Registry.perform, Registry.updateOptions, updateLive, agrees.live key]
  cases ledger.live key <;> rfl

/-- The first tick of an entry that was asked for after its provider was registered. -/
theorem asks_with_what_is_in_force_of_tick :
    let provider : Provider := ⟨"console", fun _ _ => .nothing, none⟩
    let operations := [.register provider, .getOrCreate "console" KeyMap.empty none]
    let registry := (Registry.create "streamer" .standard Directory.empty).state.run operations
    (∀ other, .register other ∈ operations → other.lookupFault = none) ∧
      ∃ text, registry.directory.AsksOnce "console" KeyMap.empty (some (0, provider)) text
        (registry.perform (.tick 0)).state.directory ∧ registry.Gives (.tick 0) text := by
  intro provider operations registry
  have fine : ∀ other, .register other ∈ operations → other.lookupFault = none := by
    intro other member
    simp only [operations, List.mem_cons, Operation.register.injEq, List.not_mem_nil, or_false,
      reduceCtorEq] at member
    rw [member]
  have asked : (Ledger.of operations).question? (.tick 0) = some ("console", KeyMap.empty) := by
    simp [operations, Ledger.of, Ledger.after, Ledger.entering, Ledger.empty, Ledger.question?]
  have bound : (Ledger.of operations).providers "console" = some (0, provider) := by
    simp [operations, Ledger.of, Ledger.after, Ledger.entering, Ledger.empty, provider]
  refine ⟨fine, ?_⟩
  rw [← bound]
  exact (asks_with_what_is_in_force "streamer" .standard operations (.tick 0) fine).2.1 _ _ asked

end ConsoleFeed
