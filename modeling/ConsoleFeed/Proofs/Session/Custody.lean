import ConsoleFeed.Proofs.Http.Custody
import ConsoleFeed.Proofs.Session.Steps

/-!
# What a session holds

The names of a session are what it holds of its registry's entries: each name of a handle is one
handle lent, each name of a stream handle one that is open, and each name of a receiving end a
receiver that has joined and has not left (`Session.Keeps`). Every step keeps this, works with the
registry through uses alone, and lets nobody hold an entry that was not held and is not the answer
to what was done under a key (`Keeps.perform`).

While a step is on its way something may be in hand that has no name yet, or no name any more, so
what a part of a step does is said over what is in hand before and afterwards (`Leads`). The parts
are acts on entries, and namings, in which something passes between hand and name. A name that is
given anew lets go of what it named before only after the new thing was taken.
-/

namespace ConsoleFeed.Session

open Registry (Custody Held Use)

/-- The receiving ends that have names. -/
def endsOf (receivers items : KeyMap ReceivingEnd) (eventStreams : KeyMap (Option ReceivingEnd)) :
    List ReceivingEnd :=
  receivers.values ++ items.values ++ eventStreams.values.filterMap id

/-- What is held, under names and in hand. -/
def custody (session : Session) (inHand : Custody) : Custody where
  handles := inHand.handles ++ session.handles.values
  streams := inHand.streams ++ session.holdings.streams.values
  ends := inHand.ends ++
    endsOf session.holdings.receivers session.holdings.items session.eventStreams

/-- The registry agrees with what is held under names and in hand. -/
def Keeps (session : Session) (inHand : Custody) : Prop :=
  session.registry.Held (session.custody inHand)

/-- Nothing is in hand. -/
def nothing : Custody := ⟨[], [], []⟩

/-- One session leads to another one, what is in hand changing as well: the later one agrees with
what is held, uses lead to its registry, and every entry that is held in it was held or is new. -/
structure Leads (session : Session) (had : Custody) (new : Nat → Prop) (later : Session)
    (has : Custody) : Prop where
  keeps : later.Keeps has
  reaches : session.registry.Reaches later.registry
  holds : ∀ entry, (later.custody has).Has entry → (session.custody had).Has entry ∨ new entry

section Leading

variable {session between later : Session} {had inHand has : Custody} {new : Nat → Prop}

theorem Leads.refl (keeps : session.Keeps had) : session.Leads had new session had :=
  ⟨keeps, .refl _, fun _ held => Or.inl held⟩

theorem Leads.trans (first : session.Leads had new between inHand)
    (second : between.Keeps inHand → between.Leads inHand new later has) :
    session.Leads had new later has := by
  rcases second first.keeps with ⟨keeps, reaches, holds⟩
  refine ⟨keeps, first.reaches.trans reaches, ?_⟩
  intro entry held
  rcases holds entry held with older | recent
  · exact first.holds entry older
  · exact Or.inr recent

/-- What is passed between hand and names is held as before. -/
theorem Keeps.renamed (keeps : session.Keeps had) (same : later.registry = session.registry)
    (handles : (session.custody had).handles.Perm (later.custody has).handles)
    (streams : (session.custody had).streams.Perm (later.custody has).streams)
    (ends : (session.custody had).ends.Perm (later.custody has).ends) :
    session.Leads had new later has := by
  refine ⟨?_, ?_, ?_⟩
  · rw [Keeps, same]
    exact Held.perm keeps handles streams ends
  · rw [same]
    exact .refl _
  · rintro entry (handle | stream)
    · exact Or.inl (Or.inl (handles.mem_iff.mpr handle))
    · exact Or.inl (Or.inr (streams.mem_iff.mpr stream))

/-- A use of the registry leads on if what is in hand afterwards was held or is new. -/
theorem Leads.used {registry : Registry} (reaches : session.registry.Reaches registry)
    (held : registry.Held (session.custody has))
    (hands : ∀ entry, has.Has entry → (session.custody had).Has entry ∨ new entry) :
    session.Leads had new (session.withRegistry registry) has := by
  refine ⟨held, reaches, ?_⟩
  rintro entry (handle | stream)
  · rcases List.mem_append.mp handle with inHand | named
    · exact hands entry (Or.inl inHand)
    · exact Or.inl (Or.inl (List.mem_append_right _ named))
  · rcases List.mem_append.mp stream with inHand | named
    · exact hands entry (Or.inr inHand)
    · exact Or.inl (Or.inr (List.mem_append_right _ named))

/-- What is in hand is held. -/
theorem has_of_inHand {entry : Nat} (held : had.Has entry) : (session.custody had).Has entry := by
  rcases held with handle | stream
  · exact Or.inl (List.mem_append_left _ handle)
  · exact Or.inr (List.mem_append_left _ stream)

/-- A use of the registry that puts no handle into the hand leads on. -/
theorem Leads.quiet {handles streams : List Nat} {ends left : List ReceivingEnd}
    {registry : Registry} (reaches : session.registry.Reaches registry)
    (held : registry.Held (session.custody ⟨handles, streams, left⟩)) :
    session.Leads ⟨handles, streams, ends⟩ new (session.withRegistry registry)
      ⟨handles, streams, left⟩ :=
  .used reaches held fun _ inHand => Or.inl (has_of_inHand inHand)

end Leading

section Names

variable {session : Session} {handles streams : List Nat} {ends : List ReceivingEnd} {entry : Nat}
  {receiving : ReceivingEnd} {name : String} {new : Nat → Prop}

theorem perm_append_cons {Item : Type} (front : List Item) {whole rest : List Item} {item : Item}
    (split : whole.Perm (item :: rest)) : (front ++ whole).Perm (item :: (front ++ rest)) :=
  (split.append_left front).trans List.perm_middle

/-- A handle loses its name. -/
theorem Keeps.takeHandle (keeps : session.Keeps ⟨handles, streams, ends⟩)
    (found : session.handles.find? name = some entry) :
    session.Leads ⟨handles, streams, ends⟩ new
      { session with handles := session.handles.erase name } ⟨entry :: handles, streams, ends⟩ :=
  keeps.renamed rfl (perm_append_cons _ (KeyMap.values_perm_erase _ found)) (.refl _) (.refl _)

/-- A handle gets a name. -/
theorem Keeps.putHandle (keeps : session.Keeps ⟨entry :: handles, streams, ends⟩)
    (absent : session.handles.find? name = none) :
    session.Leads ⟨entry :: handles, streams, ends⟩ new
      { session with handles := session.handles.insert name entry } ⟨handles, streams, ends⟩ :=
  keeps.renamed rfl
    (perm_append_cons _ (KeyMap.values_insert_perm_of_absent _ absent entry)).symm
    (.refl _) (.refl _)

theorem Keeps.takeStream (keeps : session.Keeps ⟨handles, streams, ends⟩)
    (found : session.holdings.streams.find? name = some entry) :
    session.Leads ⟨handles, streams, ends⟩ new
      (session.holding { session.holdings with streams := session.holdings.streams.erase name })
      ⟨handles, entry :: streams, ends⟩ :=
  keeps.renamed rfl (.refl _) (perm_append_cons _ (KeyMap.values_perm_erase _ found)) (.refl _)

theorem Keeps.putStream (keeps : session.Keeps ⟨handles, entry :: streams, ends⟩)
    (absent : session.holdings.streams.find? name = none) :
    session.Leads ⟨handles, entry :: streams, ends⟩ new
      (session.holding { session.holdings with
        streams := session.holdings.streams.insert name entry })
      ⟨handles, streams, ends⟩ :=
  keeps.renamed rfl (.refl _)
    (perm_append_cons _ (KeyMap.values_insert_perm_of_absent _ absent entry)).symm (.refl _)

section Ends

variable {receivers items : KeyMap ReceivingEnd} {eventStreams : KeyMap (Option ReceivingEnd)}

theorem endsOf_perm_of_receivers {others : KeyMap ReceivingEnd}
    (split : receivers.values.Perm (receiving :: others.values)) :
    (endsOf receivers items eventStreams).Perm (receiving :: endsOf others items eventStreams) :=
  (split.append_right _).append_right _

theorem endsOf_perm_of_items {others : KeyMap ReceivingEnd}
    (split : items.values.Perm (receiving :: others.values)) :
    (endsOf receivers items eventStreams).Perm
      (receiving :: endsOf receivers others eventStreams) :=
  (perm_append_cons _ split).append_right _

theorem endsOf_perm_of_eventStreams {others : KeyMap (Option ReceivingEnd)}
    (split : eventStreams.values.Perm (some receiving :: others.values)) :
    (endsOf receivers items eventStreams).Perm (receiving :: endsOf receivers items others) :=
  perm_append_cons _ (split.filterMap id)

end Ends

theorem Keeps.takeReceiver (keeps : session.Keeps ⟨handles, streams, ends⟩)
    (found : session.holdings.receivers.find? name = some receiving) :
    session.Leads ⟨handles, streams, ends⟩ new
      (session.holding { session.holdings with
        receivers := session.holdings.receivers.erase name })
      ⟨handles, streams, receiving :: ends⟩ :=
  keeps.renamed rfl (.refl _) (.refl _)
    (perm_append_cons _ (endsOf_perm_of_receivers (KeyMap.values_perm_erase _ found)))

theorem Keeps.putReceiver (keeps : session.Keeps ⟨handles, streams, receiving :: ends⟩)
    (absent : session.holdings.receivers.find? name = none) :
    session.Leads ⟨handles, streams, receiving :: ends⟩ new
      (session.holding { session.holdings with
        receivers := session.holdings.receivers.insert name receiving })
      ⟨handles, streams, ends⟩ :=
  keeps.renamed rfl (.refl _) (.refl _)
    (perm_append_cons _
      (endsOf_perm_of_receivers (KeyMap.values_insert_perm_of_absent _ absent _))).symm

theorem Keeps.takeItems (keeps : session.Keeps ⟨handles, streams, ends⟩)
    (found : session.holdings.items.find? name = some receiving) :
    session.Leads ⟨handles, streams, ends⟩ new
      (session.holding { session.holdings with items := session.holdings.items.erase name })
      ⟨handles, streams, receiving :: ends⟩ :=
  keeps.renamed rfl (.refl _) (.refl _)
    (perm_append_cons _ (endsOf_perm_of_items (KeyMap.values_perm_erase _ found)))

theorem Keeps.putItems (keeps : session.Keeps ⟨handles, streams, receiving :: ends⟩)
    (absent : session.holdings.items.find? name = none) :
    session.Leads ⟨handles, streams, receiving :: ends⟩ new
      (session.holding { session.holdings with
        items := session.holdings.items.insert name receiving })
      ⟨handles, streams, ends⟩ :=
  keeps.renamed rfl (.refl _) (.refl _)
    (perm_append_cons _
      (endsOf_perm_of_items (KeyMap.values_insert_perm_of_absent _ absent _))).symm

theorem Keeps.takeEvents (keeps : session.Keeps ⟨handles, streams, ends⟩)
    (found : session.eventStreams.find? name = some (some receiving)) :
    session.Leads ⟨handles, streams, ends⟩ new
      { session with eventStreams := session.eventStreams.erase name }
      ⟨handles, streams, receiving :: ends⟩ :=
  keeps.renamed rfl (.refl _) (.refl _)
    (perm_append_cons _ (endsOf_perm_of_eventStreams (KeyMap.values_perm_erase _ found)))

theorem Keeps.putEvents (keeps : session.Keeps ⟨handles, streams, receiving :: ends⟩)
    (absent : session.eventStreams.find? name = none) :
    session.Leads ⟨handles, streams, receiving :: ends⟩ new
      { session with eventStreams := session.eventStreams.insert name (some receiving) }
      ⟨handles, streams, ends⟩ :=
  keeps.renamed rfl (.refl _) (.refl _)
    (perm_append_cons _
      (endsOf_perm_of_eventStreams (KeyMap.values_insert_perm_of_absent _ absent _))).symm

/-- An event stream that has ended from the start holds nothing. -/
theorem Keeps.takeEnded (keeps : session.Keeps ⟨handles, streams, ends⟩)
    (found : session.eventStreams.find? name = some none) :
    session.Leads ⟨handles, streams, ends⟩ new
      { session with eventStreams := session.eventStreams.erase name } ⟨handles, streams, ends⟩ :=
  keeps.renamed rfl (.refl _) (.refl _)
    ((((KeyMap.values_perm_erase _ found).filterMap id).append_left _).append_left _)

theorem Keeps.putEnded (keeps : session.Keeps ⟨handles, streams, ends⟩)
    (absent : session.eventStreams.find? name = none) :
    session.Leads ⟨handles, streams, ends⟩ new
      { session with eventStreams := session.eventStreams.insert name none }
      ⟨handles, streams, ends⟩ :=
  keeps.renamed rfl (.refl _) (.refl _)
    ((((KeyMap.values_insert_perm_of_absent _ absent none).filterMap id).append_left _).append_left
      _).symm

end Names

section Handles

variable {session : Session} {handles streams : List Nat} {ends : List ReceivingEnd} {entry : Nat}
  {new : Nat → Prop}

/-- A handle that is in hand is given back. -/
theorem Keeps.giveBack (keeps : session.Keeps ⟨entry :: handles, streams, ends⟩) :
    session.Leads ⟨entry :: handles, streams, ends⟩ new
      (session.withRegistry (session.registry.giveBack entry).state) ⟨handles, streams, ends⟩ := by
  have inUse := keeps.inUse entry (Or.inl List.mem_cons_self)
  rw [← Registry.onEntry_giveBack inUse]
  refine .used (session.registry.reaches_onEntry entry .giveBack) (Held.giveBack keeps) ?_
  rintro other (handle | stream)
  · exact Or.inl (has_of_inHand (Or.inl (List.mem_cons_of_mem _ handle)))
  · exact Or.inl (has_of_inHand (Or.inr stream))

/-- A handle is lent, and is in hand. -/
theorem Keeps.lend (keeps : session.Keeps ⟨handles, streams, ends⟩)
    (inUse : entry < session.registry.subscriptions.length)
    (due : (session.custody ⟨handles, streams, ends⟩).Has entry ∨ new entry) :
    session.Leads ⟨handles, streams, ends⟩ new
      (session.withRegistry (session.registry.lend entry)) ⟨entry :: handles, streams, ends⟩ := by
  rw [← Registry.onEntry_lend inUse]
  refine .used (session.registry.reaches_onEntry entry .lend)
    (Held.lend keeps (List.getElem?_eq_getElem inUse)) ?_
  rintro other (handle | stream)
  · rcases List.mem_cons.mp handle with rfl | older
    · exact due
    · exact Or.inl (has_of_inHand (Or.inl older))
  · exact Or.inl (has_of_inHand (Or.inr stream))

theorem Keeps.dropHandle (keeps : session.Keeps ⟨handles, streams, ends⟩) (name : String) :
    session.Leads ⟨handles, streams, ends⟩ new (session.dropHandle name).state
      ⟨handles, streams, ends⟩ := by
  simp only [Session.dropHandle]
  cases found : session.handles.find? name with
  | none => exact .refl keeps
  | some entry => exact (keeps.takeHandle found).trans Keeps.giveBack

theorem Keeps.nameHandle (keeps : session.Keeps ⟨handles, streams, ends⟩) (name : String)
    (inUse : entry < session.registry.subscriptions.length)
    (due : (session.custody ⟨handles, streams, ends⟩).Has entry ∨ new entry) :
    session.Leads ⟨handles, streams, ends⟩ new (session.nameHandle (some name) entry).state
      ⟨handles, streams, ends⟩ := by
  apply (keeps.lend inUse due).trans
  intro lent
  apply (lent.dropHandle name).trans
  intro dropped
  apply dropped.putHandle
  rw [handles_dropHandle, KeyMap.find?_erase, if_pos rfl]

end Handles

section Channels

variable {session : Session} {handles streams : List Nat} {ends : List ReceivingEnd} {entry : Nat}
  {receiving : ReceivingEnd} {new : Nat → Prop}

theorem Keeps.closeStream (keeps : session.Keeps ⟨handles, entry :: streams, ends⟩) :
    session.Leads ⟨handles, entry :: streams, ends⟩ new
      (session.holding (session.holdings.acting entry .closeStream)) ⟨handles, streams, ends⟩ := by
  refine .used (session.registry.reaches_onEntry entry (.channel .closeStream))
    (Held.closeStream keeps) ?_
  rintro other (handle | stream)
  · exact Or.inl (has_of_inHand (Or.inl handle))
  · exact Or.inl (has_of_inHand (Or.inr (List.mem_cons_of_mem _ stream)))

theorem Keeps.openStream (keeps : session.Keeps ⟨handles, streams, ends⟩)
    (inUse : entry < session.registry.subscriptions.length)
    (due : (session.custody ⟨handles, streams, ends⟩).Has entry ∨ new entry) :
    session.Leads ⟨handles, streams, ends⟩ new
      (session.holding (session.holdings.acting entry .openStream))
      ⟨handles, entry :: streams, ends⟩ := by
  refine .used (session.registry.reaches_onEntry entry (.channel .openStream))
    (Held.openStream keeps (List.getElem?_eq_getElem inUse)) ?_
  rintro other (handle | stream)
  · exact Or.inl (has_of_inHand (Or.inl handle))
  · rcases List.mem_cons.mp stream with rfl | older
    · exact due
    · exact Or.inl (has_of_inHand (Or.inr older))

theorem Keeps.letGo (keeps : session.Keeps ⟨handles, streams, receiving :: ends⟩) :
    session.Leads ⟨handles, streams, receiving :: ends⟩ new
      (session.holding (session.holdings.letGo receiving)) ⟨handles, streams, ends⟩ := by
  rw [session.holdings.letGo_eq receiving]
  exact .quiet (session.registry.reaches_onEntry _ (.channel (.leave _))) (Held.leave keeps)

theorem Keeps.dropStream (keeps : session.Keeps ⟨handles, streams, ends⟩) (name : String) :
    session.Leads ⟨handles, streams, ends⟩ new
      (session.holding (session.holdings.dropStream name)) ⟨handles, streams, ends⟩ := by
  rw [session.holdings.dropStream_eq]
  cases found : session.holdings.streams.find? name with
  | none => exact .refl keeps
  | some entry => exact (keeps.takeStream found).trans Keeps.closeStream

/-- A stream handle that is in hand gets a name, or is given up. -/
theorem Keeps.nameStream (keeps : session.Keeps ⟨handles, entry :: streams, ends⟩)
    (name : Option String) :
    session.Leads ⟨handles, entry :: streams, ends⟩ new
      (session.holding (session.holdings.nameStream name entry)) ⟨handles, streams, ends⟩ := by
  cases name with
  | none =>
      simp only [Holdings.nameStream, Holdings.closeStream_eq]
      exact keeps.closeStream
  | some name =>
      apply (keeps.dropStream name).trans
      intro dropped
      apply dropped.putStream
      simp only [holding, Holdings.streams_dropStream]
      rw [KeyMap.find?_erase, if_pos rfl]

theorem Keeps.openStreamAs (keeps : session.Keeps ⟨handles, streams, ends⟩) (name : String)
    (inUse : entry < session.registry.subscriptions.length)
    (due : (session.custody ⟨handles, streams, ends⟩).Has entry ∨ new entry) :
    session.Leads ⟨handles, streams, ends⟩ new
      (session.holding (session.holdings.openStream name entry)) ⟨handles, streams, ends⟩ := by
  simp only [Holdings.openStream, Holdings.openStream_eq]
  apply (keeps.openStream inUse due).trans
  intro opened
  exact opened.nameStream (some name)

theorem Keeps.dropReceiver (keeps : session.Keeps ⟨handles, streams, ends⟩) (name : String) :
    session.Leads ⟨handles, streams, ends⟩ new
      (session.holding (session.holdings.dropReceiver name)) ⟨handles, streams, ends⟩ := by
  rw [session.holdings.dropReceiver_eq]
  cases found : session.holdings.receivers.find? name with
  | none => exact .refl keeps
  | some receiving => exact (keeps.takeReceiver found).trans Keeps.letGo

theorem Keeps.dropItem (keeps : session.Keeps ⟨handles, streams, ends⟩) (name : String) :
    session.Leads ⟨handles, streams, ends⟩ new
      (session.holding (session.holdings.dropItem name)) ⟨handles, streams, ends⟩ := by
  rw [session.holdings.dropItem_eq]
  cases found : session.holdings.items.find? name with
  | none => exact .refl keeps
  | some receiving => exact (keeps.takeItems found).trans Keeps.letGo

/-- A new receiver is named. -/
theorem Keeps.subscribe (keeps : session.Keeps ⟨handles, streams, ends⟩) (name : String)
    (inUse : entry < session.registry.subscriptions.length) :
    session.Leads ⟨handles, streams, ends⟩ new
      (session.holding (session.holdings.subscribe name entry)) ⟨handles, streams, ends⟩ := by
  rcases Registry.channel?_of_lt inUse with ⟨channel, present⟩
  have joins : session.Leads ⟨handles, streams, ends⟩ new
      (session.holding (session.holdings.acting entry .subscribe))
      ⟨handles, streams, ⟨entry, channel.issued⟩ :: ends⟩ :=
    .quiet (session.registry.reaches_onEntry entry (.channel .subscribe))
      (Held.subscribe keeps present).2
  rw [Holdings.subscribe_eq present]
  apply joins.trans
  intro joined
  apply (joined.dropReceiver name).trans
  intro dropped
  apply dropped.putReceiver
  simp only [holding, Holdings.receivers_dropReceiver]
  rw [KeyMap.find?_erase, if_pos rfl]

/-- A stream handle loses its name and is turned into a receiver, which gets one. -/
theorem Keeps.intoStream (keeps : session.Keeps ⟨handles, streams, ends⟩) (stream name : String)
    (found : session.holdings.streams.find? stream = some entry) {channel : Channel}
    (present : session.holdings.host.channel? entry = some channel) :
    session.Leads ⟨handles, streams, ends⟩ new
      (session.withHoldings (session.holdings.intoStream? stream name))
      ⟨handles, streams, ends⟩ := by
  rw [Holdings.intoStream?_eq present found name]
  apply (keeps.takeStream found).trans
  intro taken
  let released := session.holding { session.holdings with
    streams := session.holdings.streams.erase stream }
  have turns : released.Leads ⟨handles, entry :: streams, ends⟩ new
      (released.holding (released.holdings.acting entry .intoReceiver))
      ⟨handles, streams, ⟨entry, channel.issued⟩ :: ends⟩ := by
    refine .used (released.registry.reaches_onEntry entry (.channel .intoReceiver))
      (Held.intoReceiver taken present).2 ?_
    rintro other (handle | stream)
    · exact Or.inl (has_of_inHand (Or.inl handle))
    · exact Or.inl (has_of_inHand (Or.inr (List.mem_cons_of_mem _ stream)))
  apply turns.trans
  intro turned
  apply (turned.dropItem name).trans
  intro dropped
  apply dropped.putItems
  simp only [holding, (Holdings.names_dropItem _ _).1]
  rw [KeyMap.find?_erase, if_pos rfl]

end Channels

section EventStreams

variable {session : Session} {handles streams : List Nat} {ends : List ReceivingEnd}
  {new : Nat → Prop}

theorem Keeps.dropEventStream (keeps : session.Keeps ⟨handles, streams, ends⟩) (name : String) :
    session.Leads ⟨handles, streams, ends⟩ new (session.dropEventStream name)
      ⟨handles, streams, ends⟩ := by
  simp only [Session.dropEventStream]
  cases found : session.eventStreams.find? name with
  | none => exact .refl keeps
  | some receiving? =>
      cases receiving? with
      | none => exact keeps.takeEnded found
      | some receiving => exact (keeps.takeEvents found).trans Keeps.letGo

/-- A request is answered, and the event stream of the response gets a name or is let go of. -/
theorem Keeps.request {reply : Reply Registry Http.Response}
    (served : Http.Served session.registry (session.custody ⟨handles, streams, ends⟩) reply)
    (name : Option String) :
    session.Leads ⟨handles, streams, ends⟩ new
      ((session.withRegistry reply.state).keepEventStream name reply.answer)
      ⟨handles, streams, ends⟩ := by
  rcases reply with ⟨⟨status, contentType, body⟩, state, events⟩
  rcases served with ⟨reaches, held⟩
  simp only [Session.keepEventStream]
  cases body with
  | text content =>
      have answered : session.Leads ⟨handles, streams, ends⟩ new (session.withRegistry state)
          ⟨handles, streams, ends⟩ :=
        .quiet reaches held
      by_cases media : contentType = some Http.Response.eventStreamType
      · rw [if_pos media]
        cases name with
        | none => exact answered
        | some name =>
            apply answered.trans
            intro later
            apply (later.dropEventStream name).trans
            intro dropped
            apply dropped.putEnded
            rw [eventStreams_dropEventStream, KeyMap.find?_erase, if_pos rfl]
      · rw [if_neg media]
        exact answered
  | eventStream entry receiver =>
      rcases held with ⟨media, joined⟩
      have answered : session.Leads ⟨handles, streams, ends⟩ new (session.withRegistry state)
          ⟨handles, streams, ⟨entry, receiver⟩ :: ends⟩ :=
        .quiet reaches joined
      simp only at media
      rw [if_pos media]
      cases name with
      | none => exact answered.trans Keeps.letGo
      | some name =>
          apply answered.trans
          intro later
          apply (later.dropEventStream name).trans
          intro dropped
          apply dropped.putEvents
          rw [eventStreams_dropEventStream, KeyMap.find?_erase, if_pos rfl]

end EventStreams

section Steps

variable {session : Session} {inHand : Custody} {name : String} {entry : Nat} {new : Nat → Prop}

theorem custody_has_iff : (session.custody nothing).Has entry ↔
    (∃ name, session.handles.find? name = some entry) ∨
      ∃ name, session.holdings.streams.find? name = some entry := by
  rw [← KeyMap.mem_values_iff, ← KeyMap.mem_values_iff]
  rfl

theorem has_of_stream {stream : String}
    (found : session.holdings.streams.find? stream = some entry) :
    (session.custody nothing).Has entry :=
  custody_has_iff.mpr (Or.inr ⟨stream, found⟩)

/-- A receiving end that has a name. -/
def Names (session : Session) (receiving : ReceivingEnd) : Prop :=
  (∃ name, session.holdings.receivers.find? name = some receiving) ∨
    (∃ name, session.holdings.items.find? name = some receiving) ∨
      ∃ name, session.eventStreams.find? name = some (some receiving)

theorem mem_endsOf_iff {receiving : ReceivingEnd} :
    receiving ∈ endsOf session.holdings.receivers session.holdings.items session.eventStreams ↔
      session.Names receiving := by
  simp only [endsOf, List.mem_append, List.mem_filterMap, KeyMap.mem_values_iff, Names, id_eq,
    exists_eq_right, or_assoc]

theorem Keeps.listens (keeps : session.Keeps inHand) {receiving : ReceivingEnd}
    (named : session.Names receiving) :
    ∃ channel inbox, session.registry.channel? receiving.channel = some channel ∧
      Channel.Serves channel.bare receiving.receiver inbox :=
  keeps.listening receiving (List.mem_append_right _ (mem_endsOf_iff.mpr named))

theorem Keeps.receiver_inUse (keeps : session.Keeps inHand) {receiving : ReceivingEnd}
    (found : session.holdings.receivers.find? name = some receiving) :
    receiving.channel < session.registry.subscriptions.length := by
  rcases keeps.listens (Or.inl ⟨name, found⟩) with ⟨channel, inbox, present, _⟩
  rcases Option.map_eq_some_iff.mp present with ⟨subscription, there, _⟩
  exact (List.getElem?_eq_some_iff.mp there).1

/-- An act on an entry in which nothing changes hands. -/
theorem Keeps.onEntry (keeps : session.Keeps nothing) (entry : Nat) {act : Registry.EntryAct}
    (quiet : act.passes = false) :
    session.Leads nothing new (session.withRegistry (session.registry.onEntry entry act).state)
      nothing :=
  .quiet (session.registry.reaches_onEntry entry act) (Held.onEntry keeps entry quiet)

/-- The entry is the answer to something that can be done under a key. -/
def Answers (session : Session) (entry : Nat) : Prop :=
  ∃ key act, (session.registry.onKey key act).answer = .entry entry

theorem Keeps.keep {key : String} {act : Registry.KeyAct} (keeps : session.Keeps nothing)
    (answer : (session.registry.onKey key act).answer = .entry entry) (name : Option String) :
    session.Leads nothing session.Answers
      ((session.withRegistry (session.registry.onKey key act).state).keep act name entry)
      nothing := by
  have inUse := Registry.lt_length_of_answer keeps.owned answer
  have reaches := session.registry.reaches_onKey key act
  have due : session.Answers entry := ⟨key, act, answer⟩
  -- what is done under the key changes no hands unless a stream handle is opened
  have done : (∀ options refusal, act ≠ .getStream options refusal) →
      session.Leads nothing session.Answers
        (session.withRegistry (session.registry.onKey key act).state) nothing := by
    intro closed
    exact .quiet reaches (Held.onKey keeps key act closed)
  have named : (∀ options refusal, act ≠ .getStream options refusal) →
      session.Leads nothing session.Answers
        ((session.withRegistry (session.registry.onKey key act).state).nameHandle name
          entry).state nothing := by
    intro closed
    cases name with
    | none => exact done closed
    | some name =>
        apply (done closed).trans
        intro later
        exact later.nameHandle name inUse (Or.inr due)
  cases act with
  | getStream options refusal =>
      have opened : session.Leads nothing session.Answers (session.withRegistry
          (session.registry.onKey key (.getStream options refusal)).state) ⟨[], [entry], []⟩ := by
        refine .used reaches (Held.getStream keeps answer) ?_
        rintro other (handle | stream)
        · cases handle
        · rw [List.mem_singleton.mp stream]
          exact Or.inr due
      apply opened.trans
      intro later
      exact later.nameStream name
  | build options settings refusal =>
      cases name with
      | none =>
          apply (done (by simp)).trans
          intro built
          exact (built.lend inUse (Or.inr due)).trans Keeps.giveBack
      | some name => exact named (by simp)
  | _ => exact named (by simp)

theorem Keeps.onHandle (keeps : session.Keeps nothing) {handle : String}
    (found : session.handles.find? handle = some entry) (act : HandleAct) :
    session.Leads nothing new (session.onHandle handle entry act) nothing := by
  have held : (session.custody nothing).Has entry := custody_has_iff.mpr (Or.inl ⟨handle, found⟩)
  have inUse := keeps.inUse entry held
  cases act with
  | clone name => exact keeps.nameHandle name inUse (Or.inl held)
  | openStream name => exact keeps.openStreamAs name inUse (Or.inl held)
  | drop => exact keeps.dropHandle handle
  | _ => exact keeps.onEntry entry rfl

theorem Keeps.readEnd (keeps : session.Keeps nothing) (receiving : ReceivingEnd) :
    session.Leads nothing new
      (session.withHoldings ((session.holdings.readEnd? receiving).map Prod.snd)) nothing := by
  rw [session.holdings.readEnd?_eq receiving]
  cases ((session.holdings.host.channel? receiving.channel).bind _) with
  | none => exact .refl keeps
  | some outcome => exact keeps.onEntry receiving.channel rfl

theorem Keeps.nextOfEnd (keeps : session.Keeps nothing) (receiving : ReceivingEnd) :
    session.Leads nothing new
      (session.withHoldings ((session.holdings.nextOfEnd? receiving).map Reply.state)) nothing := by
  rw [session.holdings.nextOfEnd?_eq receiving]
  cases ((session.holdings.host.channel? receiving.channel).bind _) with
  | none => exact .refl keeps
  | some reply => exact keeps.onEntry receiving.channel rfl

/-- A step keeps the registry in agreement with what has a name, uses do what it does to the
registry, and an entry that has a name afterwards had one, or is the answer to what can be done
under a key. -/
theorem Keeps.perform (keeps : session.Keeps nothing) (step : Step) :
    session.Leads nothing session.Answers (session.perform step) nothing := by
  cases step with
  | onKey key act name =>
      simp only [Session.perform]
      cases answer : (session.registry.onKey key act).answer with
      | entry entry => exact keeps.keep answer name
      | said said =>
          exact .quiet (session.registry.reaches_onKey key act) (Held.said keeps answer)
  | onHandle handle act =>
      simp only [Session.perform]
      cases found : session.handles.find? handle with
      | none => exact .refl keeps
      | some entry => exact keeps.onHandle found act
  | cloneStream stream name =>
      simp only [Session.perform]
      cases found : session.holdings.streams.find? stream with
      | none => exact .refl keeps
      | some entry =>
          have held := has_of_stream found
          exact keeps.openStreamAs name (keeps.inUse entry held) (Or.inl held)
  | dropStream stream => exact keeps.dropStream stream
  | subscribe stream name =>
      simp only [Session.perform]
      cases found : session.holdings.streams.find? stream with
      | none => exact .refl keeps
      | some entry =>
          have held := has_of_stream found
          exact keeps.subscribe name (keeps.inUse entry held)
  | resubscribe receiver name =>
      simp only [Session.perform]
      cases found : session.holdings.receivers.find? receiver with
      | none => exact .refl keeps
      | some receiving => exact keeps.subscribe name (keeps.receiver_inUse found)
  | intoStream stream name =>
      simp only [Session.perform]
      cases found : session.holdings.streams.find? stream with
      | none =>
          simp only [Holdings.intoStream?, found]
          exact .refl keeps
      | some entry =>
          have held := has_of_stream found
          rcases Registry.channel?_of_lt (keeps.inUse entry held) with ⟨channel, present⟩
          exact keeps.intoStream stream name found present
  | read receiver =>
      simp only [Session.perform, Holdings.read?]
      cases session.holdings.receivers.find? receiver with
      | none => exact .refl keeps
      | some receiving => exact keeps.readEnd receiving
  | next items =>
      simp only [Session.perform, Holdings.next?]
      cases session.holdings.items.find? items with
      | none => exact .refl keeps
      | some receiving => exact keeps.nextOfEnd receiving
  | dropReceiver receiver => exact keeps.dropReceiver receiver
  | dropItems items => exact keeps.dropItem items
  | request task refusal request name =>
      exact Keeps.request (Http.served_handle keeps task refusal request) name
  | nextEvent events =>
      simp only [Session.perform, Session.nextEvent?]
      cases session.eventStreams.find? events with
      | none => exact .refl keeps
      | some receiving? =>
          cases receiving? with
          | none => exact .refl keeps
          | some receiving =>
              have leads : session.Leads nothing session.Answers _ nothing :=
                keeps.nextOfEnd receiving
              simp only [Option.bind_some]
              cases given : session.holdings.nextOfEnd? receiving with
              | none => exact .refl keeps
              | some reply =>
                  rw [given] at leads
                  exact leads
  | dropEvents events => exact keeps.dropEventStream events
  | register provider =>
      exact .quiet (session.registry.reaches_use (.register provider))
        (Held.quiet keeps (.register provider) (fun _ _ => rfl) (fun _ _ => rfl) (by simp))
  | shutdown =>
      exact .quiet (session.registry.reaches_use .shutdown)
        (Held.quiet keeps .shutdown (fun _ _ => rfl) (fun _ _ => rfl) (by simp))
  | beginTick entry => exact keeps.onEntry entry rfl
  | endTick entry options => exact keeps.onEntry entry rfl

theorem Keeps.run (keeps : session.Keeps nothing) (steps : List Step) :
    (session.run steps).Keeps nothing := by
  induction steps generalizing session with
  | nil => exact keeps
  | cons step rest ih => exact ih (keeps.perform step).keeps

/-- Nothing is held of a streamer that has no subscriptions. -/
theorem keeps_start (name : String) (settings : StreamerSettings) (directory : Directory) :
    (start (Registry.create name settings directory).state).Keeps nothing where
  owned := Registry.owned_create name settings directory
  recorded := Registry.recorded_create name settings directory
  stopped number subscription present := by cases present
  counted number subscription present := by cases present
  inUse number member := by
    rcases member with member | member <;> cases member
  apart := List.nodup_nil
  listening receiving member := by cases member

end Steps

end ConsoleFeed.Session
