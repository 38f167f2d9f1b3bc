import ConsoleFeed.Proofs.Document.Printing
import ConsoleFeed.Proofs.Http.Spellings
import ConsoleFeed.Proofs.Registry.EntryTurns

/-!
# Keys and options over HTTP

A key and options for it go to the service as a target, other options as a body, and come back in
the bodies of responses. Nothing is lost on the way there, however the target and the body are
written: the request asks for what was meant (`keys_and_options_survive_transport`). To see what
arrived, a provider is taken that answers with the options that it is asked with: what comes back
is read as the options that were sent.
-/

namespace ConsoleFeed

namespace Directory

variable {directory : Directory} {key : String}

/-- The provider under a key answers every call with the options that it is asked with. -/
def Echoes (directory : Directory) (key : String) : Prop :=
  ∃ number registration, directory.bound.find? key = some number ∧
    directory.registrations[number]? = some registration ∧
    registration.provider.lookupFault = none ∧
    ∀ count options, registration.provider.answer count options = .document options.toDocument

/-- A snapshot shows the options that it was taken with, and later ones will, too. -/
theorem Echoes.takeSnapshot (echoes : directory.Echoes key) (options : OptionSet) :
    (directory.takeSnapshot key options).answer = .ok options.toDocument.compact ∧
      (directory.takeSnapshot key options).state.Echoes key := by
  rcases echoes with ⟨number, registration, bound, present, fine, answers⟩
  have inside : number < directory.registrations.length :=
    (List.getElem?_eq_some_iff.mp present).1
  have attempt : directory.trySnapshot key options =
      ⟨.ok (.ok (some options.toDocument.compact)),
        { directory with registrations :=
            directory.registrations.set number ⟨registration.provider, registration.calls + 1⟩ },
        []⟩ := by
    simp only [trySnapshot, find, bound, present, fine, call, answers]
    rfl
  simp only [Directory.takeSnapshot, attempt]
  refine ⟨rfl, number, ⟨registration.provider, registration.calls + 1⟩, bound, ?_, fine, answers⟩
  rw [List.getElem?_set_self inside]

end Directory

namespace Registry

variable {registry : Registry} {key : String}

theorem mem_activeKeys_of_get? {number : Nat} (live : registry.get? key = some number) :
    key ∈ registry.activeKeys := by
  rcases (registry.get?_eq_some_iff key number).mp live with ⟨held, uncancelled⟩
  apply List.mem_map.mpr
  refine ⟨(key, number), List.mem_filter.mpr ⟨?_, ?_⟩, rfl⟩
  · exact (KeyMap.mem_entries_iff registry.table).mpr held
  · rw [uncancelled]
    rfl

/-- Where threads are given, a key that was asked for has a live subscription. -/
theorem mem_activeKeys_getSnapshot (registry : Registry) (key : String) (options : OptionSet) :
    key ∈ (registry.getSnapshot key options none).state.activeKeys := by
  have live : ∃ number, (registry.getOrCreate key options none).answer = .ok number ∧
      (registry.getOrCreate key options none).state.get? key = some number := by
    rcases registry.getOrCreate_cases key options none with
      ⟨number, found, answer, same⟩ | ⟨reason, _, refused, _⟩ | ⟨absent, _, answer, made⟩
    · exact ⟨number, answer, by rw [same, found]⟩
    · cases refused
    · refine ⟨_, answer, ?_⟩
      have makes := registry.makesEntry_entered absent options
      rw [made, get?_eq_some_iff, makes.table, KeyMap.find?_insert, if_pos rfl,
        isCancelled_eq_standing?, makes.standing]
      simp
  rcases live with ⟨number, answer, live⟩
  simp only [getSnapshot, answer]
  exact mem_activeKeys_of_get? live

/-- The key has a live subscription with these options, and its provider echoes them. -/
structure Echoed (registry : Registry) (key : String) (options : OptionSet) : Prop where
  live : ∃ number subscription, registry.get? key = some number ∧
    registry.subscription? number = some subscription ∧ subscription.key = key ∧
    subscription.feed.options = options
  echoes : registry.directory.Echoes key

section Echoing

variable {options : OptionSet}

/-- Replacing the options of a live key puts the new ones into force. -/
theorem echoed_updateOptions (owned : registry.Owned) {number : Nat}
    (live : registry.get? key = some number) (echoes : registry.directory.Echoes key)
    (options : OptionSet) :
    (registry.updateOptions key options).answer = true ∧
      (registry.updateOptions key options).state.Echoed key options := by
  rcases (registry.get?_eq_some_iff key number).mp live with ⟨held, uncancelled⟩
  rcases owned key number held with ⟨mark, standing⟩
  rcases Option.map_eq_some_iff.mp standing with ⟨subscription, present, keyed⟩
  have later : registry.updateOptions key options =
      ⟨true, registry.changing number fun _ => (subscription.replaceOptions options).state,
        (subscription.replaceOptions options).events⟩ := by
    simp only [updateOptions, updateLive, live, onSubscription_of_present () _ present, if_true]
  rw [later]
  refine ⟨rfl, ⟨number, (subscription.replaceOptions options).state, ?_, ?_, ?_, rfl⟩, echoes⟩
  · apply (get?_eq_some_iff _ key number).mpr
    refine ⟨held, ?_⟩
    simp only [isCancelled, subscription?_changing, if_true, present,
      Option.map_some] at uncancelled ⊢
    exact uncancelled
  · simp only [subscription?_changing, if_true, present, Option.map_some]
  · exact congrArg Prod.fst keyed

theorem Echoed.takeSnapshotOf (echoed : registry.Echoed key options) {number : Nat}
    (live : registry.get? key = some number) :
    (registry.takeSnapshotOf number).answer = .ok options.toDocument.compact ∧
      (registry.takeSnapshotOf number).state.Echoed key options := by
  rcases echoed with ⟨⟨other, subscription, found, present, rfl, rfl⟩, echoes⟩
  rw [live] at found
  cases found
  have keyOf : registry.keyOf number = subscription.key := by simp only [keyOf, present]; rfl
  have optionsOf : registry.optionsOf number = subscription.feed.options := by
    simp only [optionsOf, present]
    rfl
  rcases echoes.takeSnapshot subscription.feed.options with ⟨answer, later⟩
  simp only [Registry.takeSnapshotOf, onDirectory, keyOf, optionsOf]
  exact ⟨answer, ⟨number, subscription, live, present, rfl, rfl⟩, later⟩

theorem Echoed.getSnapshot (echoed : registry.Echoed key options) (given : OptionSet)
    (refusal : Option StartRefusal) :
    (registry.getSnapshot key given refusal).answer = .ok options.toDocument.compact ∧
      (registry.getSnapshot key given refusal).state.Echoed key options := by
  rcases echoed.live with ⟨number, subscription, live, _⟩
  rcases echoed.takeSnapshotOf live with ⟨answer, later⟩
  have found : registry.getOrCreate key given refusal =
      ⟨.ok number, registry, [.subscriptionReused registry.name key]⟩ := by
    simp only [getOrCreate, findOrMake, live, List.nil_append]
  simp only [Registry.getSnapshot, found, answer]
  exact ⟨rfl, later⟩

theorem Echoed.peekSnapshot (echoed : registry.Echoed key options) (given : OptionSet) :
    (registry.peekSnapshot key given).answer = .ok options.toDocument.compact ∧
      (registry.peekSnapshot key given).state.Echoed key options := by
  rcases echoed.live with ⟨number, subscription, live, _⟩
  have taken := echoed.takeSnapshotOf live
  simp only [Registry.peekSnapshot, live]
  exact taken

end Echoing

end Registry

namespace Http

open Document (IsText)

section Requests

/-- The path of a resource of a console. -/
def address (segment : List Char) (resource : Resource) : String :=
  "/consoles/" ++ String.ofList segment ++ resource.ending

/-- The targets that are written for a resource of a console, with options as pairs. Without pairs
the query may be left out. -/
inductive TargetText (key : String) (resource : Resource) : List (String × String) → String → Prop
  | plain {segment : List Char} (named : SegmentText key segment) :
      TargetText key resource [] (address segment resource)
  | asking {segment query : List Char} {pairs : List (String × String)}
      (named : SegmentText key segment) (asked : QueryText pairs query) :
      TargetText key resource pairs (address segment resource ++ "?" ++ String.ofList query)

variable {key : String} {resource : Resource} {pairs : List (String × String)} {target : String}

theorem inPath_address {segment : List Char} (named : SegmentText key segment) :
    ∀ character ∈ (address segment resource).toList, Target.inPath character = true := by
  simp only [address, String.toList_append, String.toList_ofList, List.forall_mem_append]
  refine ⟨⟨List.all_eq_true.mp (by decide), ?_⟩, ?_⟩
  · exact fun character member => (named.inPath character member).1
  · cases resource <;> exact List.all_eq_true.mp (by decide)

theorem starts_address (segment : List Char) (resource : Resource) :
    (address segment resource).toList =
      '/' :: ("consoles/".toList ++ segment ++ resource.ending.toList) := by
  simp [address]

/-- A target that is written for a resource is read, and leads to it with the options. -/
theorem read?_targetText (written : TargetText key resource pairs target) (nonempty : key ≠ "")
    (fits : target.utf8ByteSize ≤ Target.sizeLimit) :
    ∃ whole segment, Target.read? target = some whole ∧ Names segment key ∧
      whole.path = "/consoles/" ++ segment ++ resource.ending ∧
      ∀ options : KeyMap String, pairs.Perm options.entries →
        Query.options (whole.query.getD "") = options.mapValues .text := by
  cases written with
  | @plain segment named =>
      have path : Target.ofPath? (address segment resource).toList = _ :=
        ofPath?_path (inPath_address named)
      refine ⟨⟨address segment resource, none⟩, _, ?_, named.names nonempty, rfl, ?_⟩
      · rw [read?_of_slash (starts_address segment resource) fits, path, String.ofList_toList]
      · intro options order
        exact QueryText.options (Or.inl ⟨rfl, rfl⟩) order
  | @asking segment query _ named asked =>
      have whole : Target.ofPath? ((address segment resource).toList ++ '?' :: query) = _ :=
        ofPath?_pathQuery (inPath_address named) asked.inQuery
      have spelled : (address segment resource ++ "?" ++ String.ofList query).toList =
          (address segment resource).toList ++ '?' :: query := by
        simp
      have starts := spelled.trans (congrArg (· ++ '?' :: query) (starts_address segment resource))
      refine ⟨⟨address segment resource, some (String.ofList query)⟩, _, ?_,
        named.names nonempty, rfl, ?_⟩
      · rw [read?_of_slash starts fits, spelled, whole, String.ofList_toList]
      · intro options order
        exact asked.options order

/-- Such a target makes a request, and the request is for the resource and gives the options. -/
theorem make?_targetText (written : TargetText key resource pairs target) (nonempty : key ≠ "")
    (fits : target.utf8ByteSize ≤ Target.sizeLimit) (method : String) (contentType : Option String)
    (sendable : Request.isMethod method && contentType.all MediaType.isHeaderValue)
    (body : List UInt8) :
    ∃ whole,
      Request.make? method target contentType body = some ⟨method, whole, contentType, body⟩ ∧
      (⟨method, whole, contentType, body⟩ : Request).IsFor resource key ∧
      ∀ options : KeyMap String, pairs.Perm options.entries →
        (⟨method, whole, contentType, body⟩ : Request).given = options.mapValues .text := by
  rcases read?_targetText written nonempty fits with ⟨whole, segment, read, named, path, given⟩
  refine ⟨whole, ?_, ⟨segment, named, path⟩, given⟩
  simp only [Request.make?, read, Option.bind_some, sendable, if_true]

end Requests

/-- The inquiry that reading a resource of a console makes. -/
def Resource.reading? (key : String) (given : OptionSet) : Resource → Option Inquiry
  | .snapshot => some (.snapshot key given)
  | .peek => some (.peek key given)
  | .stream => some (.stream key given)
  | .options => none

/-- The request takes a snapshot of a console, or a look at one. -/
def Request.Reads (request : Request) (key : String) : Prop :=
  request.method = "GET" ∧ (request.IsFor .snapshot key ∨ request.IsFor .peek key)

/-- The request for the list of the consoles. -/
def Request.listing : Request := ⟨"GET", ⟨"/consoles", none⟩, none, []⟩

/-- The response carries a text that is read as a document. -/
def Response.Shows (response : Response) (document : Document) : Prop :=
  response.status = 200 ∧ response.contentType = some Response.documentType ∧
    ∃ text, response.body = .text text ∧ Document.read text = .ok document

section Serving

variable {registry : Registry} {key : String} {options : OptionSet} {request : Request}

theorem shows_compact {document : Document} {text : String} (isText : IsText document text) :
    (Response.ofDocument document.compact).Shows document :=
  ⟨rfl, rfl, _, rfl, Document.read_compact isText⟩

theorem asks_of_isFor {resource : Resource} {inquiry : Inquiry} (method : request.method = "GET")
    (isFor : request.IsFor resource key)
    (reading : resource.reading? key request.given = some inquiry) : request.Asks inquiry := by
  cases resource with
  | snapshot =>
      cases reading
      exact .snapshot (Or.inl method) isFor
  | peek =>
      cases reading
      exact .peek (Or.inl method) isFor
  | stream =>
      cases reading
      exact .stream (Or.inl method) isFor
  | options => cases reading

theorem handle_get {inquiry : Inquiry} (method : request.method = "GET")
    (asks : request.Asks inquiry) (registry : Registry) (task : String)
    (refusal : Option StartRefusal) :
    Service.handle registry task refusal request = inquiry.served registry task refusal := by
  have full : (request.method == "HEAD") = false := by
    rw [method]
    decide
  rw [handle_of_asks asks, full]
  rfl

/-- Where options are echoed a reading shows them, and they are echoed afterwards. -/
theorem echoed_handle (echoed : registry.Echoed key options) {text : String}
    (isText : IsText options.toDocument text) (reads : request.Reads key) (task : String)
    (refusal : Option StartRefusal) :
    (Service.handle registry task refusal request).answer.Shows options.toDocument ∧
      (Service.handle registry task refusal request).state.Echoed key options := by
  rcases reads with ⟨method, isFor | isFor⟩
  · rcases echoed.getSnapshot request.given refusal with ⟨answer, later⟩
    rw [handle_get method (asks_of_isFor method isFor rfl)]
    simp only [Inquiry.served, Service.snapshot, answer]
    exact ⟨shows_compact isText, later⟩
  · rcases echoed.peekSnapshot request.given with ⟨answer, later⟩
    rw [handle_get method (asks_of_isFor method isFor rfl)]
    simp only [Inquiry.served, Service.peek, answer]
    exact ⟨shows_compact isText, later⟩

/-- Options that are put to a live key are echoed afterwards. -/
theorem echoed_put (owned : registry.Owned) (contained : registry.contains key = true)
    (echoes : registry.directory.Echoes key) (method : request.method = "PUT")
    (isFor : request.IsFor .options key) (carries : request.Carries options) (task : String)
    (refusal : Option StartRefusal) :
    (Service.handle registry task refusal request).answer = .bare 204 ∧
      (Service.handle registry task refusal request).state.Echoed key options := by
  rcases Option.isSome_iff_exists.mp contained with ⟨number, live⟩
  rcases Registry.echoed_updateOptions owned live echoes options with ⟨present, echoed⟩
  have full : (request.method == "HEAD") = false := by
    rw [method]
    decide
  rw [handle_of_asks (.update method isFor carries), full]
  refine ⟨?_, echoed⟩
  simp only [Inquiry.served, present]
  rfl

/-- The registry after readings, each with its task and the system's reason not to give what a new
loop needs. -/
def afterReadings (registry : Registry)
    (readings : List (String × Option StartRefusal × Request)) : Registry :=
  readings.foldl (fun state reading =>
    (Service.handle state reading.1 reading.2.1 reading.2.2).state) registry

theorem echoed_afterReadings (echoed : registry.Echoed key options) {text : String}
    (isText : IsText options.toDocument text)
    (readings : List (String × Option StartRefusal × Request))
    (reads : ∀ reading ∈ readings, reading.2.2.Reads key) :
    (afterReadings registry readings).Echoed key options := by
  induction readings generalizing registry with
  | nil => exact echoed
  | cons reading rest ih =>
      apply ih
      · exact (echoed_handle echoed isText (reads reading List.mem_cons_self) _ _).2
      · exact fun later member => reads later (List.mem_cons_of_mem _ member)

/-- A look at a key without a subscription shows the options that came with it. -/
theorem shows_peek (absent : registry.get? key = none) (echoes : registry.directory.Echoes key)
    {text : String} (isText : IsText options.toDocument text) (task : String) :
    (Service.peek registry task key options).answer.Shows options.toDocument := by
  rcases echoes.takeSnapshot options with ⟨answer, -⟩
  simp only [Service.peek, Registry.peekSnapshot, absent, Registry.onDirectory, answer]
  exact shows_compact isText

/-- After a snapshot the key is in the list of the consoles. -/
theorem shows_listing (registry : Registry) (key : String) (given : OptionSet)
    (task later : String) :
    ∃ keys : List String, key ∈ keys ∧
      (Service.handle (Service.snapshot registry task none key given).state later none
        Request.listing).answer.Shows (.array (keys.map .text)) := by
  have asks : Request.listing.Asks .list := .list (Or.inl rfl) rfl
  have same : (Service.snapshot registry task none key given).state =
      (registry.getSnapshot key given none).state := by
    simp only [Service.snapshot]
    split <;> rfl
  refine ⟨_, registry.mem_activeKeys_getSnapshot key given, ?_⟩
  rw [handle_get rfl asks, same]
  exact shows_compact (Document.isText_compact_array _)

end Serving

/-- However a key, options as pairs in any order, and new options as a document are written,
requests that are made of them ask for what was meant. With a provider that echoes its options, a
look shows the options of the query where there is no subscription, and every snapshot and every
look shows the options of the body once they were put; and a key that a snapshot was taken of is
listed. -/
theorem keys_and_options_survive_transport {key : String} (nonempty : key ≠ "") :
    (∀ (options : KeyMap String) pairs resource target, pairs.Perm options.entries →
      TargetText key resource pairs target → target.utf8ByteSize ≤ Target.sizeLimit →
      let texts : OptionSet := options.mapValues .text
      ∃ request, Request.make? "GET" target none [] = some request ∧
        (∀ inquiry, resource.reading? key texts = some inquiry →
          ∀ registry task refusal, Service.handle registry task refusal request =
            inquiry.served registry task refusal) ∧
        (resource = .peek → ∀ registry task refusal, registry.get? key = none →
          registry.directory.Echoes key →
          (Service.handle registry task refusal request).answer.Shows texts.toDocument) ∧
        (resource = .snapshot → ∀ registry task later, ∃ keys : List String, key ∈ keys ∧
          (Service.handle (Service.handle registry task none request).state later none
            Request.listing).answer.Shows (.array (keys.map .text)))) ∧
    ∀ (options : OptionSet) text pairs target, IsText options.toDocument text →
      TargetText key .options pairs target → target.utf8ByteSize ≤ Target.sizeLimit →
      (Utf8.encode text).length ≤ Service.bodyLimit →
      ∃ request, Request.make? "PUT" target (some Response.documentType) (Utf8.encode text) =
          some request ∧
        ∀ name settings directory uses,
          let registry := (Registry.create name settings directory).state.afterUses uses
          registry.contains key = true → registry.directory.Echoes key →
          ∀ task refusal,
            let put := Service.handle registry task refusal request
            put.answer = .bare 204 ∧
              ∀ readings : List (String × Option StartRefusal × Request),
                (∀ reading ∈ readings, reading.2.2.Reads key) →
                ∀ last : Request, last.Reads key → ∀ lastTask lastRefusal,
                  (Service.handle (afterReadings put.state readings) lastTask lastRefusal
                    last).answer.Shows options.toDocument := by
  refine ⟨?_, ?_⟩
  · intro options pairs resource target order written fits texts
    rcases make?_targetText written nonempty fits "GET" none rfl [] with
      ⟨whole, made, isFor, given⟩
    have same : (⟨"GET", whole, none, []⟩ : Request).given = texts := given options order
    have means : ∀ inquiry, resource.reading? key texts = some inquiry →
        ∀ registry task refusal, Service.handle registry task refusal ⟨"GET", whole, none, []⟩ =
          inquiry.served registry task refusal := by
      intro inquiry reading registry task refusal
      rw [← same] at reading
      exact handle_get rfl (asks_of_isFor rfl isFor reading) registry task refusal
    refine ⟨_, made, means, ?_, ?_⟩
    · rintro rfl registry task refusal absent echoes
      rw [means _ rfl]
      exact shows_peek absent echoes (Document.isText_compact_object options) task
    · rintro rfl registry task later
      rw [means _ rfl]
      exact shows_listing registry key texts task later
  · intro options text pairs target isText written fits small
    rcases make?_targetText written nonempty fits "PUT" (some Response.documentType) rfl
      (Utf8.encode text) with ⟨whole, made, isFor, -⟩
    refine ⟨_, made, ?_⟩
    intro name settings directory uses registry contained echoes task refusal put
    have owned : registry.Owned := (Registry.owned_create name settings directory).afterUses uses
    have carries :
        (⟨"PUT", whole, some Response.documentType, Utf8.encode text⟩ : Request).Carries options :=
      { declared := (by decide : MediaType.declaresDocument Response.documentType = true)
        fits := small
        object := ⟨text, Utf8.decode?_encode text, Document.readMap_of_isText isText⟩ }
    rcases echoed_put owned contained echoes rfl isFor carries task refusal with ⟨answer, echoed⟩
    refine ⟨answer, ?_⟩
    intro readings reads last lastReads lastTask lastRefusal
    have later := echoed_afterReadings echoed isText readings reads
    exact (echoed_handle later isText lastReads lastTask lastRefusal).1

theorem keys_and_options_survive_transport_of_slash :
    let key := "a/b+c %"
    let options : KeyMap String := KeyMap.empty.insert "" "1 + 1"
    let segment := (Percent.encodeSegment key).toList
    let target := address segment .peek ++ "?" ++ Query.encode options.entries
    let directory := (Directory.empty.register
      ⟨key, fun _ given => .document given.toDocument, none⟩).state
    let fresh := (Registry.create "streamer" .standard directory).state
    let snapshot : Request := ⟨"GET", ⟨address segment .snapshot, none⟩, none, []⟩
    let texts : OptionSet := options.mapValues .text
    key ≠ "" ∧
      (∃ request, Request.make? "GET" target none [] = some request ∧
        (Service.handle fresh "1" none request).answer.Shows texts.toDocument) ∧
      ∃ request, Request.make? "PUT" (address segment .options) (some Response.documentType)
          (Utf8.encode texts.toDocument.compact) = some request ∧
        let live := fresh.afterUses [.onKey key (.getOrCreate KeyMap.empty none)]
        let put := Service.handle live "2" none request
        put.answer = .bare 204 ∧
          (Service.handle put.state "3" none snapshot).answer.Shows texts.toDocument := by
  intro key options segment target directory fresh snapshot texts
  have nonempty : key ≠ "" := by decide
  have survive := keys_and_options_survive_transport nonempty
  have named : SegmentText key segment := segmentText_encodeSegment key
  have echoes : directory.Echoes key := ⟨0, _, rfl, rfl, rfl, fun _ _ => rfl⟩
  refine ⟨nonempty, ?_, ?_⟩
  · have written : TargetText key .peek options.entries target := by
      have asked : TargetText key .peek options.entries (address segment .peek ++ "?" ++
          String.ofList (Query.encode options.entries).toList) :=
        .asking named (queryText_encode options.entries)
      rwa [String.ofList_toList] at asked
    rcases survive.1 options _ .peek target (.refl _) written (by decide +kernel) with
      ⟨request, made, -, shows, -⟩
    exact ⟨request, made, shows rfl fresh "1" none rfl echoes⟩
  · rcases survive.2 texts texts.toDocument.compact [] _ (Document.isText_compact_object options)
      (.plain named) (by decide +kernel) (by decide +kernel) with ⟨request, made, shows⟩
    rcases shows "streamer" .standard directory [.onKey key (.getOrCreate KeyMap.empty none)]
      rfl echoes "2" none with ⟨put, later⟩
    refine ⟨request, made, put, ?_⟩
    exact later [] nofun snapshot ⟨rfl, Or.inl ⟨_, named.names nonempty, rfl⟩⟩ "3" none

end Http

end ConsoleFeed
