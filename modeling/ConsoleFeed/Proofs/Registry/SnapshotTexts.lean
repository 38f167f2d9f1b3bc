import ConsoleFeed.Proofs.Document.Canonical
import ConsoleFeed.Proofs.Provider.Absorbing
import ConsoleFeed.Proofs.Registry.EntryChannels
import ConsoleFeed.Provider.Builtin
import ConsoleFeed.Provider.Scripted

/-!
# The texts of snapshots

A provider's document reaches the reader of a snapshot in three ways: as an attempt, as a text that
is taken, and as what a tick publishes. Each gives the one canonical text of the document, so
nothing of it is lost and nothing else is told with it: not in which order a table of options was
listed, nor in which of the three ways the text came.
-/

namespace ConsoleFeed.Registry

/-- Wherever the provider of a key gives the document, this text is the snapshot: it is what an
attempt answers, what a snapshot that is taken is, and what a tick of an entry publishes. -/
structure IsSnapshotText (document : Document) (text : String) : Prop where
  attempted : ∀ (directory : Directory) key options, directory.Returns key →
    directory.met key options = some (.document document) →
    (directory.trySnapshot key options).answer = .ok (.ok (some text))
  taken : ∀ (directory : Directory) key options, directory.Returns key →
    directory.met key options = some (.document document) →
    (directory.takeSnapshot key options).answer = .ok text
  published : ∀ (registry : Registry) number subscription options,
    registry.subscription? number = some subscription → subscription.isCancelled = false →
    registry.directory.Returns subscription.key →
    registry.directory.met subscription.key options = some (.document document) →
    (registry.endTick number options).answer = true ∧
      (registry.endTick number options).state.channel? number =
        some (subscription.feed.channel.publish text).2

/-- A document other than null is told as its compact text, in each of the three ways. -/
theorem isSnapshotText_compact {document : Document} (something : document ≠ .null) :
    IsSnapshotText document document.compact := by
  have taken : ∀ (directory : Directory) key options, directory.Returns key →
      directory.met key options = some (.document document) →
      (directory.trySnapshot key options).answer = .ok (.ok (some document.compact)) ∧
        (directory.takeSnapshot key options).answer = .ok document.compact := by
    intro directory key options returns met
    rcases Directory.answers_of_returns returns options with ⟨attempt, shown⟩
    have absorbs := Directory.absorbs (directory.met key options)
    have told : Directory.attemptOf (directory.met key options) = .ok (some document.compact) :=
      (absorbs.document _).mpr ⟨document, met, something, rfl⟩
    exact ⟨told ▸ attempt, absorbs.shows _ told ▸ shown⟩
  refine ⟨?_, ?_, ?_⟩
  · exact fun directory key options returns met => (taken directory key options returns met).1
  · exact fun directory key options returns met => (taken directory key options returns met).2
  · intro registry number subscription options present live returns met
    exact endTick_publishes present live (taken registry.directory _ options returns met).2

/-- The console that echoes its options gives one document, with one text, in whatever order their
table is listed. -/
def EchoesAlike (document : Document) : Prop :=
  ∀ machine, ∀ provider ∈ Builtin.providers machine, provider.key = Builtin.echoKey →
    ∀ (count : Nat) (options : OptionSet) (listing : List (String × Document)),
      options.toDocument = document → listing.Perm options.entries →
        provider.answer count options = .document (.ofMembers listing) ∧
          (Document.object listing).sortedText = document.sortedText

theorem echoesAlike (document : Document) : EchoesAlike document := by
  intro machine provider registered isEcho count options listing same permuted
  have listed : Document.ofMembers listing = options.toDocument := by
    rw [Document.ofMembers, options.ofList_eq_of_perm permuted, OptionSet.toDocument]
  have answers : provider.answer count options = .document options.toDocument := by
    simp only [Builtin.providers, List.mem_cons, List.not_mem_nil, or_false] at registered
    rcases registered with rfl | rfl | rfl
    · exact absurd isEcho (show Builtin.runtimeKey ≠ Builtin.echoKey by decide)
    · rfl
    · exact absurd isEcho (show Builtin.environmentKey ≠ Builtin.echoKey by decide)
  refine ⟨by rw [answers, listed], ?_⟩
  rw [← same, OptionSet.toDocument]
  exact Document.sortedText_eq_of_perm permuted options.ascending

/-- The text of a snapshot is canonical and loses nothing. For every exact document other than null
that a provider gives, an attempt, a snapshot that is taken and a tick all tell its compact text,
with the members of every object by ascending bytes of their keys. Reading that text gives the
document back; so two documents have the same text if and only if they are equal. The text is never
`null`, and that of options given back does not depend on the order in which their table is listed.
-/
theorem snapshotText_is_canonical {document : Document} (exact : document.IsExact)
    (something : document ≠ .null) :
    IsSnapshotText document document.sortedText ∧
      Document.read document.sortedText = .ok document ∧
      (∀ other : Document, other.IsExact →
        (other.sortedText = document.sortedText ↔ other = document)) ∧
      document.sortedText ≠ "null" ∧
      EchoesAlike document := by
  have told := isSnapshotText_compact something
  rw [exact.compact] at told
  refine ⟨told, exact.read_sortedText, ?_, exact.sortedText_ne_null something,
    echoesAlike document⟩
  intro other otherExact
  exact otherExact.sortedText_inj exact

/-- Quotes, a control character and a character of four bytes, whole numbers at both ends of the
range, a null inside, and a key that begins with another one. -/
def curious : Document :=
  .object [("\"", .array [.integer Document.lowestInteger, .integer (Document.integerBound - 1)]),
    ("é", .object [("😀", .text "\x01\\"), ("😀é", .null)])]

/-- A registry with a provider of this document, and an entry of it that someone is subscribed to.
-/
def curiousEntry : Registry :=
  (create "main" ⟨5000, 16⟩ Directory.empty).state.afterUses
    [.register ((Script.fixed curious).provider "curious"),
      .onKey "curious" (.getOrCreate KeyMap.empty none), .onEntry 0 (.channel .subscribe)]

/-- The text of this document is read back, and a tick of the entry keeps it for whoever is
subscribed. -/
theorem snapshotText_is_canonical_of_curious :
    curious.IsExact ∧ curious ≠ .null ∧
      curious.sortedText =
        "\x7b\"\\\"\":[-9223372036854775808,18446744073709551615]," ++
          "\"é\":\x7b\"😀\":\"\\u0001\\\\\",\"😀é\":null\x7d\x7d" ∧
      Document.read curious.sortedText = .ok curious ∧
      ∃ channel, (curiousEntry.endTick 0 KeyMap.empty).state.channel? 0 = some channel ∧
        channel.kept = [curious.sortedText] ∧ channel.unread 0 = 1 := by
  have keys : "\"" < "é" ∧ "😀" < "😀é" := by decide
  have range : Document.lowestInteger < Document.integerBound ∧
      Document.lowestInteger ≤ Document.integerBound - 1 ∧
      Document.integerBound - 1 < Document.integerBound := by decide
  have exact : curious.IsExact := by
    simp only [curious, Document.IsExact, Document.nestingLimit, Document.ExactWithin,
      List.pairwise_pair, List.mem_cons, List.not_mem_nil, or_false, forall_eq_or_imp, forall_eq]
    exact ⟨keys.1, ⟨⟨Int.le_refl _, range.1⟩, range.2⟩, keys.2, trivial, trivial⟩
  have something : curious ≠ .null := nofun
  have canonical := snapshotText_is_canonical exact something
  have returns : curiousEntry.directory.Returns "curious" := by
    intro panic fails
    cases fails
  have tick := (canonical.1.published curiousEntry 0 _ KeyMap.empty rfl rfl returns rfl).2
  refine ⟨exact, something, ?_, canonical.2.1, _, tick, rfl, rfl⟩
  rw [← exact.compact]
  decide

end ConsoleFeed.Registry
