import ConsoleFeed.Settings.Reading
import Mathlib.Data.List.Forall2
import Mathlib.Data.List.Nodup
import Mathlib.Data.List.Perm.Basic

/-!
# Reading by field

A record is read member by member in the order of the text, and the first fault ends the reading.
Whether there is a fault does not depend on that order, nor does what is read: a record is accepted
if and only if its names are known and distinct and every value suits its field, and then it is the
record by default with the contents given in their places.

A `Layout` says this of a record's fields: each takes its value without regard to the record and
puts what it takes into a place of its own. A record with a layout is read by field
(`Layout.readByField`); the settings of the streamer, of HTTP and of the server have one.
-/

namespace ConsoleFeed

open Json5 (Piece Value)

/-- A place in a record: what its field accepts, and where the content is. -/
structure Slot (Record : Type) where
  name : String
  Content : Type
  accept : Value → SettingsResult Content
  get : Record → Content
  put : Record → Content → Record

/-- Members with their names, of which every one can be taken. -/
def Meant : List (List Piece × Value) → List (String × Value) → Prop :=
  List.Forall₂ fun member given => Piece.text member.1 = .ok given.1 ∧ member.2 = given.2

namespace Slot

variable {Record : Type}

/-- The field of a place. -/
def field (slot : Slot Record) : Field Record :=
  ⟨slot.name, fun value record => (slot.accept value).map (slot.put record)⟩

/-- A place holds what is given for it, and what it holds by default if nothing is given. -/
structure Holds (slot : Slot Record) (given : List (String × Value)) (standard result : Record) :
    Prop where
  replaced : ∀ value, (slot.name, value) ∈ given → slot.accept value = .ok (slot.get result)
  kept : (∀ value, (slot.name, value) ∉ given) → slot.get result = slot.get standard

end Slot

/-- The places of a record, each with a name of its own; together they make up the record. -/
structure Layout (Record : Type) where
  slots : List (Slot Record)
  distinct : (slots.map Slot.name).Nodup
  get_put : ∀ slot ∈ slots, ∀ record content, slot.get (slot.put record content) = content
  get_put_of_ne : ∀ slot ∈ slots, ∀ other ∈ slots, other.name ≠ slot.name →
    ∀ record content, other.get (slot.put record content) = other.get record
  ext : ∀ record other : Record, (∀ slot ∈ slots, slot.get record = slot.get other) →
    record = other

namespace Layout

variable {Record : Type} (layout : Layout Record)

/-- The names of the fields, in their order. -/
def names : List String := layout.slots.map Slot.name

/-- The fields, in their order. -/
def fields : List (Field Record) := layout.slots.map Slot.field

/-- What is given is accepted: the names are known and distinct, and every value suits its field. -/
structure Accepts (given : List (String × Value)) : Prop where
  distinct : (given.map Prod.fst).Nodup
  suits : ∀ name value, (name, value) ∈ given →
    ∃ slot ∈ layout.slots, slot.name = name ∧ ∃ content, slot.accept value = .ok content

/-- The record by default with exactly the given contents in their places. -/
def Replaces (given : List (String × Value)) (standard result : Record) : Prop :=
  ∀ slot ∈ layout.slots, slot.Holds given standard result

variable {layout} {given : List (String × Value)} {standard result : Record}

theorem eq_of_name_eq {slot other : Slot Record} (present : slot ∈ layout.slots)
    (otherPresent : other ∈ layout.slots) (same : slot.name = other.name) : slot = other :=
  List.inj_on_of_nodup_map layout.distinct present otherPresent same

theorem find?_fields {slot : Slot Record} (present : slot ∈ layout.slots) :
    layout.fields.find? (fun field => field.name == slot.name) = some slot.field := by
  have named : (fun field : Field Record => field.name == slot.name) ∘ Slot.field =
      fun other => other.name == slot.name := rfl
  cases found : layout.slots.find? fun other => other.name == slot.name with
  | none => simpa using List.find?_eq_none.mp found slot present
  | some other =>
      have same : other.name = slot.name := by simpa using List.find?_some found
      have self := eq_of_name_eq (List.mem_of_find?_eq_some found) present same
      rw [fields, List.find?_map, named, found, self]
      rfl

theorem find?_fields_eq_none {name : String} (unknown : name ∉ layout.names) :
    layout.fields.find? (fun field => field.name == name) = none := by
  rw [List.find?_eq_none]
  intro field member
  rcases List.mem_map.mp member with ⟨slot, present, rfl⟩
  have other : slot.name ≠ name := fun same => unknown (same ▸ List.mem_map_of_mem present)
  simpa [Slot.field] using other

variable (layout) in
/-- There is one record at most with the given contents in their places. -/
theorem replaces_unique {other : Record} (first : layout.Replaces given standard result)
    (second : layout.Replaces given standard other) : result = other := by
  apply layout.ext
  intro slot present
  by_cases named : ∃ value, (slot.name, value) ∈ given
  · rcases named with ⟨value, member⟩
    have both := ((first slot present).replaced value member).symm.trans
      ((second slot present).replaced value member)
    exact Except.ok.inj both
  · have nothing := not_exists.mp named
    rw [(first slot present).kept nothing, (second slot present).kept nothing]

/-- What is given first has been put into the record, if nothing else of its name is given. -/
theorem replaces_cons_iff {slot : Slot Record} (present : slot ∈ layout.slots) {value : Value}
    (once : slot.name ∉ given.map Prod.fst) :
    layout.Replaces ((slot.name, value) :: given) standard result ↔
      ∃ content, slot.accept value = .ok content ∧
        layout.Replaces given (slot.put standard content) result := by
  have absent : ∀ other, (slot.name, other) ∉ given :=
    fun other member => once (List.mem_map_of_mem member)
  constructor
  · intro replaces
    have accepted := (replaces slot present).replaced value (List.mem_cons_self ..)
    refine ⟨slot.get result, accepted, fun other otherPresent => ?_⟩
    by_cases same : other.name = slot.name
    · rw [eq_of_name_eq otherPresent present same]
      refine ⟨fun found member => absurd member (absent found), fun _ => ?_⟩
      rw [layout.get_put slot present]
    · have holds := replaces other otherPresent
      refine ⟨fun found member => holds.replaced found (List.mem_cons_of_mem _ member), ?_⟩
      intro nothing
      rw [layout.get_put_of_ne slot present other otherPresent same]
      apply holds.kept
      intro found member
      rcases List.mem_cons.mp member with first | rest
      · exact same (Prod.ext_iff.mp first).1
      · exact nothing found rest
  · rintro ⟨content, accepted, replaces⟩ other otherPresent
    have holds := replaces other otherPresent
    by_cases same : other.name = slot.name
    · rw [eq_of_name_eq otherPresent present same] at holds ⊢
      refine ⟨?_, fun nothing => absurd (List.mem_cons_self ..) (nothing value)⟩
      intro found member
      rcases List.mem_cons.mp member with first | rest
      · have same : found = value := (Prod.ext_iff.mp first).2
        rw [same, accepted, holds.kept absent, layout.get_put slot present]
      · exact absurd rest (absent found)
    · refine ⟨?_, ?_⟩
      · intro found member
        rcases List.mem_cons.mp member with first | rest
        · exact absurd (Prod.ext_iff.mp first).1 same
        · exact holds.replaced found rest
      · intro nothing
        rw [holds.kept fun found member => nothing found (List.mem_cons_of_mem _ member),
          layout.get_put_of_ne slot present other otherPresent same]

theorem accepts_nil : layout.Accepts [] := ⟨List.nodup_nil, fun _ _ member => nomatch member⟩

theorem accepts_cons_iff {name : String} {value : Value} :
    layout.Accepts ((name, value) :: given) ↔
      name ∉ given.map Prod.fst ∧
        (∃ slot ∈ layout.slots, slot.name = name ∧ ∃ content, slot.accept value = .ok content) ∧
          layout.Accepts given := by
  constructor
  · rintro ⟨distinct, suits⟩
    rw [List.map_cons, List.nodup_cons] at distinct
    exact ⟨distinct.1, suits name value (List.mem_cons_self ..), distinct.2,
      fun other found member => suits other found (List.mem_cons_of_mem _ member)⟩
  · rintro ⟨once, suits, accepts⟩
    refine ⟨List.nodup_cons.mpr ⟨once, accepts.distinct⟩, ?_⟩
    intro other found member
    rcases List.mem_cons.mp member with first | rest
    · cases first
      exact suits
    · exact accepts.suits other found rest

theorem replaces_nil_iff : layout.Replaces [] standard result ↔ standard = result := by
  constructor
  · intro replaces
    apply layout.ext
    intro slot present
    exact ((replaces slot present).kept fun _ member => nomatch member).symm
  · intro same slot present
    exact ⟨fun _ member => (List.not_mem_nil member).elim, fun _ => by rw [same]⟩

/-- Members are taken after those of other names exactly if they are accepted and none of their
names was there before. -/
theorem takeMembers_eq_ok_iff {members : List (List Piece × Value)} (meant : Meant members given)
    (seen : List String) (standard : Record) :
    Value.takeMembers layout.fields seen standard members = .ok result ↔
      layout.Accepts given ∧ (∀ name ∈ given.map Prod.fst, name ∉ seen) ∧
        layout.Replaces given standard result := by
  induction meant generalizing seen standard with
  | nil =>
      simp only [Value.takeMembers, replaces_nil_iff, Except.ok.injEq]
      simp [accepts_nil]
  | @cons member first others rest decoded meant ih =>
      rcases member with ⟨pieces, value⟩
      rcases first with ⟨name, same⟩
      rcases decoded with ⟨decoded, rfl : value = same⟩
      simp only [Value.takeMembers, decoded, accepts_cons_iff]
      by_cases known : name ∈ layout.names
      · rcases List.mem_map.mp known with ⟨slot, present, rfl⟩
        rw [find?_fields present]
        by_cases again : slot.name ∈ seen
        · simp [again]
        · cases accepted : slot.accept value with
          | error fault =>
              have refused : ¬ ∃ other ∈ layout.slots, other.name = slot.name ∧
                  ∃ content, other.accept value = .ok content := by
                rintro ⟨other, otherPresent, same, content, suits⟩
                rcases eq_of_name_eq otherPresent present same with rfl
                cases accepted.symm.trans suits
              simp [again, Slot.field, accepted, Except.map, refused]
          | ok content =>
              have suits : ∃ other ∈ layout.slots, other.name = slot.name ∧
                  ∃ content, other.accept value = .ok content :=
                ⟨slot, present, rfl, content, accepted⟩
              have step := ih (slot.name :: seen) (slot.put standard content)
              simp only [List.contains_eq_mem, again, Slot.field, accepted, Except.map,
                decide_false, Bool.false_eq_true, if_false, step]
              constructor
              · rintro ⟨accepts, fresh, replaces⟩
                have once : slot.name ∉ rest.map Prod.fst :=
                  fun there => fresh _ there (List.mem_cons_self ..)
                refine ⟨⟨once, suits, accepts⟩, ?_, (replaces_cons_iff present once).mpr
                  ⟨content, accepted, replaces⟩⟩
                intro other there
                rcases List.mem_cons.mp there with rfl | there
                · exact again
                · exact fun before => fresh other there (List.mem_cons_of_mem _ before)
              · rintro ⟨⟨once, -, accepts⟩, fresh, replaces⟩
                rcases (replaces_cons_iff present once).mp replaces with ⟨found, same, replaces⟩
                cases accepted.symm.trans same
                refine ⟨accepts, ?_, replaces⟩
                intro other there before
                rcases List.mem_cons.mp before with rfl | before
                · exact once there
                · exact fresh other (List.mem_cons_of_mem _ there) before
      · rw [find?_fields_eq_none known]
        have unknown : ¬ ∃ slot ∈ layout.slots, slot.name = name ∧
            ∃ content, slot.accept value = .ok content := by
          rintro ⟨slot, present, rfl, -⟩
          exact known (List.mem_map_of_mem present)
        simp [unknown]

/-- Members are not taken if a name among them cannot be. -/
theorem meant_of_takeMembers {members : List (List Piece × Value)} {fields : List (Field Record)}
    {seen : List String} (taken : Value.takeMembers fields seen standard members = .ok result) :
    ∃ given, Meant members given := by
  induction members generalizing seen standard with
  | nil => exact ⟨[], .nil⟩
  | cons member rest ih =>
      rcases member with ⟨pieces, value⟩
      simp only [Value.takeMembers] at taken
      split at taken
      · cases taken
      · rename_i name decoded
        split at taken
        · cases taken
        · split at taken
          · cases taken
          · split at taken
            · cases taken
            · rcases ih taken with ⟨given, meant⟩
              exact ⟨(name, value) :: given, .cons ⟨decoded, rfl⟩ meant⟩

/-- Whatever is accepted there is a record for. -/
theorem Accepts.has_record (accepts : layout.Accepts given) (standard : Record) :
    ∃ result, layout.Replaces given standard result := by
  induction given generalizing standard with
  | nil => exact ⟨standard, replaces_nil_iff.mpr rfl⟩
  | cons first rest ih =>
      rcases first with ⟨name, value⟩
      rcases accepts_cons_iff.mp accepts with ⟨once, ⟨slot, present, rfl, content, accepted⟩, later⟩
      rcases ih later (slot.put standard content) with ⟨result, replaces⟩
      exact ⟨result, (replaces_cons_iff present once).mpr ⟨content, accepted, replaces⟩⟩

/-- Members are taken exactly if what they give is accepted, and then it is put into the record. -/
theorem takeMembers_iff (members : List (List Piece × Value)) :
    Value.takeMembers layout.fields [] standard members = .ok result ↔
      ∃ given, Meant members given ∧ layout.Accepts given ∧
        layout.Replaces given standard result := by
  constructor
  · intro taken
    rcases meant_of_takeMembers taken with ⟨given, meant⟩
    rcases (takeMembers_eq_ok_iff meant [] standard).mp taken with ⟨accepts, -, replaces⟩
    exact ⟨given, meant, accepts, replaces⟩
  · rintro ⟨given, meant, accepts, replaces⟩
    exact (takeMembers_eq_ok_iff meant [] standard).mpr
      ⟨accepts, fun _ _ => List.not_mem_nil, replaces⟩

/-- Items are taken as the members that name the fields in their order. The fields before them have
been taken already. -/
theorem takeItems_eq {before slots : List (Slot Record)} (split : layout.slots = before ++ slots)
    {seen : List String} (passed : ∀ name ∈ seen, name ∈ before.map Slot.name)
    {items : List Value} {members : List (List Piece × Value)}
    (meant : Meant members ((slots.map Slot.name).zip items)) (standard : Record) :
    Value.takeItems (slots.map Slot.field) standard items =
      Value.takeMembers layout.fields seen standard members := by
  induction slots generalizing before seen items members standard with
  | nil =>
      cases meant
      simp [Value.takeItems, Value.takeMembers]
  | cons slot slots ih =>
      cases items with
      | nil =>
          cases meant
          simp [Value.takeItems, Value.takeMembers]
      | cons value items =>
          rcases List.forall₂_cons_right_iff.mp meant with
            ⟨⟨pieces, value⟩, others, ⟨decoded, rfl⟩, rest, rfl⟩
          have present : slot ∈ layout.slots := by
            rw [split]
            simp
          have distinct := layout.distinct
          rw [split, List.map_append, List.map_cons, List.nodup_append] at distinct
          have fresh : slot.name ∉ seen := fun there =>
            distinct.2.2 _ (passed _ there) _ (List.mem_cons_self ..) rfl
          have later : ∀ name ∈ slot.name :: seen, name ∈ (before ++ [slot]).map Slot.name := by
            intro name there
            rw [List.map_append, List.mem_append]
            rcases List.mem_cons.mp there with rfl | there
            · exact Or.inr (List.mem_cons_self ..)
            · exact Or.inl (passed name there)
          have step := ih (by rw [split, List.append_assoc, List.singleton_append]) later rest
          simp only [List.map_cons, Value.takeItems, Value.takeMembers, decoded,
            find?_fields present, List.contains_eq_mem, fresh, decide_false, Bool.false_eq_true,
            if_false, step]

/-- Two values are the same to every field. -/
def Alike (layout : Layout Record) (value other : Value) : Prop :=
  ∀ slot ∈ layout.slots, ∀ content,
    slot.accept value = .ok content ↔ slot.accept other = .ok content

/-- Members that differ in their order and in values that are the same to every field. -/
def AlikeMembers (layout : Layout Record) (members others : List (List Piece × Value)) : Prop :=
  ∃ middle, List.Forall₂ (fun member other => member.1 = other.1 ∧ layout.Alike member.2 other.2)
    members middle ∧ middle.Perm others

theorem AlikeMembers.symm {members others : List (List Piece × Value)}
    (alike : layout.AlikeMembers members others) : layout.AlikeMembers others members := by
  rcases alike with ⟨middle, each, order⟩
  have back : List.Forall₂ (fun member other => member.1 = other.1 ∧ layout.Alike member.2 other.2)
      middle members :=
    each.flip.imp fun _ _ same =>
      ⟨same.1.symm, fun slot present content => (same.2 slot present content).symm⟩
  exact List.perm_comp_forall₂ order.symm back

/-- Members with values that are the same to every field give the same names, with such values. -/
theorem meant_of_alike {members others : List (List Piece × Value)}
    (each : List.Forall₂ (fun member other => member.1 = other.1 ∧ layout.Alike member.2 other.2)
      members others) (meant : Meant members given) :
    ∃ changed, Meant others changed ∧ changed.map Prod.fst = given.map Prod.fst ∧
      ∀ name value, (name, value) ∈ changed →
        ∃ before, (name, before) ∈ given ∧ layout.Alike before value := by
  induction each generalizing given with
  | nil =>
      cases meant
      exact ⟨[], .nil, rfl, fun _ _ member => (List.not_mem_nil member).elim⟩
  | @cons member other members others same each ih =>
      rcases List.forall₂_cons_left_iff.mp meant with ⟨first, given, decoded, later, rfl⟩
      rcases ih later with ⟨changed, meant, names, alike⟩
      refine ⟨(first.1, other.2) :: changed, .cons ⟨same.1 ▸ decoded.1, rfl⟩ meant, ?_, ?_⟩
      · rw [List.map_cons, List.map_cons, names]
      · intro name value there
        rcases List.mem_cons.mp there with here | there
        · cases here
          exact ⟨first.2, List.mem_cons_self .., decoded.2 ▸ same.2⟩
        · rcases alike name value there with ⟨before, there, same⟩
          exact ⟨before, List.mem_cons_of_mem _ there, same⟩

theorem AlikeMembers.meant {members others : List (List Piece × Value)}
    (alike : layout.AlikeMembers members others) (meant : Meant members given) :
    ∃ changed, Meant others changed ∧ (changed.map Prod.fst).Perm (given.map Prod.fst) ∧
      ∀ name value, (name, value) ∈ changed →
        ∃ before, (name, before) ∈ given ∧ layout.Alike before value := by
  rcases alike with ⟨middle, each, order⟩
  rcases meant_of_alike each meant with ⟨between, meant, names, alike⟩
  rcases List.perm_comp_forall₂ order.symm meant with ⟨changed, meant, order⟩
  refine ⟨changed, meant, names ▸ order.map Prod.fst, ?_⟩
  intro name value there
  exact alike name value (order.subset there)

/-- Members that differ in their order only are taken alike. -/
theorem AlikeMembers.takeMembers_iff {members others : List (List Piece × Value)}
    (alike : layout.AlikeMembers members others) :
    Value.takeMembers layout.fields [] standard members = .ok result ↔
      Value.takeMembers layout.fields [] standard others = .ok result := by
  have onward : ∀ {members others : List (List Piece × Value)}, layout.AlikeMembers members others →
      Value.takeMembers layout.fields [] standard members = .ok result →
        Value.takeMembers layout.fields [] standard others = .ok result := by
    intro members others alike taken
    rcases (layout.takeMembers_iff members).mp taken with ⟨given, meant, accepts, replaces⟩
    rcases alike.meant meant with ⟨changed, meant, names, alike⟩
    refine (layout.takeMembers_iff others).mpr ⟨changed, meant, ⟨?_, ?_⟩, ?_⟩
    · exact names.nodup_iff.mpr accepts.distinct
    · intro name value there
      rcases alike name value there with ⟨before, member, same⟩
      rcases accepts.suits name before member with ⟨slot, present, named, content, accepted⟩
      exact ⟨slot, present, named, content, (same slot present content).mp accepted⟩
    · intro slot present
      refine ⟨?_, ?_⟩
      · intro value there
        rcases alike slot.name value there with ⟨before, member, same⟩
        exact (same slot present _).mp ((replaces slot present).replaced before member)
      · intro nothing
        apply (replaces slot present).kept
        intro value member
        have named := names.mem_iff.mpr (List.mem_map_of_mem member)
        rcases List.mem_map.mp named with ⟨⟨name, other⟩, there, rfl⟩
        exact nothing other there
  exact ⟨onward alike, onward alike.symm⟩

end Layout

/-- Values that differ only in the order of members, at any level. What stands second in an object
or an array depends on how it begins. -/
inductive Reordered : Value → Value → Prop where
  | same (value : Value) : Reordered value value
  | array {second other : Char} {items others : List Value}
      (each : List.Forall₂ Reordered items others) :
      Reordered (.array second items) (.array other others)
  | object {second other : Char} {members middle others : List (List Piece × Value)}
      (keys : members.map Prod.fst = middle.map Prod.fst)
      (values : List.Forall₂ Reordered (members.map Prod.snd) (middle.map Prod.snd))
      (order : middle.Perm others) :
      Reordered (.object second members) (.object other others)

/-- A record is read by field. From an object it is read if and only if the names are known and
distinct and every value suits its field, and it is then the record by default with the given
contents in their places; it is read from an array as from the object that names the fields in their
order, as far as both go; and from nothing else. The order of members never matters. -/
structure ReadByField {Record : Type} (layout : Layout Record) (standard : Record)
    (take : Value → SettingsResult Record) : Prop where
  accepts : ∀ second members, (∃ result, take (.object second members) = .ok result) ↔
    ∃ given, Meant members given ∧ layout.Accepts given
  replaces : ∀ second members result, take (.object second members) = .ok result ↔
    ∃ given, Meant members given ∧ layout.Accepts given ∧ layout.Replaces given standard result
  determined : ∀ given result other, layout.Replaces given standard result →
    layout.Replaces given standard other → result = other
  array : ∀ second items other members, Meant members (layout.names.zip items) →
    take (.array second items) = take (.object other members)
  acceptsArray : ∀ second items, (∃ result, take (.array second items) = .ok result) ↔
    ∀ pair ∈ layout.slots.zip items, ∃ content, pair.1.accept pair.2 = .ok content
  beyond : ∀ second items more, layout.names.length ≤ items.length →
    take (.array second (items ++ more)) = take (.array second items)
  enclosed : ∀ value result, take value = .ok result →
    (∃ second members, value = .object second members) ∨ ∃ second items, value = .array second items
  reordered : ∀ value other, Reordered value other → ∀ result,
    take value = .ok result ↔ take other = .ok result

namespace Layout

variable {Record : Type} {layout : Layout Record}

theorem text_literals (name : String) : Piece.text (name.toList.map .literal) = .ok name := by
  have decoded : ∀ characters : List Char,
      Piece.decode none (characters.map .literal) = .ok characters := by
    intro characters
    induction characters with
    | nil => rfl
    | cons character rest ih => simp [Piece.decode, ih, Piece.consDecoded]
  simp [Piece.text, decoded, Except.map]

/-- Members that give what is given, with names that need no escapes. -/
def spelled (given : List (String × Value)) : List (List Piece × Value) :=
  given.map fun first => (first.1.toList.map .literal, first.2)

theorem meant_spelled (given : List (String × Value)) : Meant (spelled given) given := by
  induction given with
  | nil => exact .nil
  | cons first rest ih => exact .cons ⟨text_literals first.1, rfl⟩ ih

theorem meant_unique {members : List (List Piece × Value)} {given other : List (String × Value)}
    (first : Meant members given) (second : Meant members other) : given = other := by
  induction first generalizing other with
  | nil =>
      cases second
      rfl
  | cons decoded _ ih =>
      rcases List.forall₂_cons_left_iff.mp second with ⟨named, rest, again, later, rfl⟩
      rw [ih later]
      congr 1
      exact Prod.ext (Except.ok.inj (decoded.1.symm.trans again.1)) (decoded.2.symm.trans again.2)

theorem fst_zip_sublist (names : List String) (items : List Value) :
    ((names.zip items).map Prod.fst).Sublist names := by
  induction names generalizing items with
  | nil => simp
  | cons name names ih =>
      cases items with
      | nil => simp
      | cons value items => exact (ih items).cons_cons name

theorem zip_append_of_le (names : List String) {items : List Value} (more : List Value)
    (enough : names.length ≤ items.length) : names.zip (items ++ more) = names.zip items := by
  induction names generalizing items with
  | nil => rfl
  | cons name names ih =>
      cases items with
      | nil => cases enough
      | cons value items =>
          rw [List.cons_append, List.zip_cons_cons, List.zip_cons_cons,
            ih (Nat.le_of_succ_le_succ enough)]

/-- What an array gives is accepted exactly if each of its items suits the field in its place. -/
theorem accepts_zip_iff (layout : Layout Record) (items : List Value) :
    layout.Accepts (layout.names.zip items) ↔
      ∀ pair ∈ layout.slots.zip items, ∃ content, pair.1.accept pair.2 = .ok content := by
  have named : layout.names.zip items =
      (layout.slots.zip items).map fun pair => (pair.1.name, pair.2) := by
    rw [names, List.zip_map_left]
    rfl
  constructor
  · intro accepts pair there
    have member : (pair.1.name, pair.2) ∈ layout.names.zip items := by
      rw [named]
      exact List.mem_map_of_mem (f := fun pair : Slot Record × Value => (pair.1.name, pair.2)) there
    rcases accepts.suits _ _ member with ⟨slot, present, same, suits⟩
    rcases eq_of_name_eq present (List.of_mem_zip there).1 same with rfl
    exact suits
  · intro suits
    refine ⟨?_, ?_⟩
    · exact (fst_zip_sublist layout.names items).nodup layout.distinct
    · intro name value member
      rw [named] at member
      rcases List.mem_map.mp member with ⟨pair, there, same⟩
      cases same
      exact ⟨pair.1, (List.of_mem_zip there).1, rfl, suits pair there⟩

theorem refuse_ne_ok {Result : Type} (value : Value) (expected : String) (result : Result) :
    value.refuse expected ≠ .ok result := by
  rw [Value.refuse]
  split <;> nofun

/-- Items that are the same to every field are named alike. -/
theorem forall₂_spelled (steady : ∀ {value other}, Reordered value other → layout.Alike value other)
    (names : List String) {items others : List Value} (each : List.Forall₂ Reordered items others) :
    List.Forall₂ (fun member other => member.1 = other.1 ∧ layout.Alike member.2 other.2)
      (spelled (names.zip items)) (spelled (names.zip others)) := by
  induction names generalizing items others with
  | nil => exact .nil
  | cons name names ih =>
      cases each with
      | nil => exact .nil
      | cons same each => exact .cons ⟨rfl, steady same⟩ (ih each)

theorem forall₂_alike {members middle : List (List Piece × Value)}
    (steady : ∀ {value other}, Reordered value other → layout.Alike value other)
    (keys : members.map Prod.fst = middle.map Prod.fst)
    (values : List.Forall₂ Reordered (members.map Prod.snd) (middle.map Prod.snd)) :
    List.Forall₂ (fun member other => member.1 = other.1 ∧ layout.Alike member.2 other.2)
      members middle := by
  induction members generalizing middle with
  | nil =>
      rw [List.map_eq_nil_iff.mp keys.symm]
      exact .nil
  | cons member members ih =>
      cases middle with
      | nil => cases keys
      | cons other middle =>
          rw [List.map_cons, List.map_cons, List.cons.injEq] at keys
          rw [List.map_cons, List.map_cons, List.forall₂_cons] at values
          exact .cons ⟨keys.1, steady values.1⟩ (ih keys.2 values.2)

/-- A record whose fields have a layout is read by field, if no field looks at the order of
members. -/
theorem readByField (layout : Layout Record) (expected : String) (standard : Record)
    (steady : ∀ {value other}, Reordered value other → layout.Alike value other) :
    ReadByField layout standard (Value.takeRecord expected layout.fields standard) := by
  have inOrder : ∀ {items : List Value} {members : List (List Piece × Value)},
      Meant members (layout.names.zip items) →
        Value.takeItems layout.fields standard items =
          Value.takeMembers layout.fields [] standard members := by
    intro items members meant
    exact takeItems_eq (List.nil_append _).symm (fun _ there => (List.not_mem_nil there).elim)
      meant standard
  have accepts : ∀ members, (∃ result,
      Value.takeMembers layout.fields [] standard members = .ok result) ↔
        ∃ given, Meant members given ∧ layout.Accepts given := by
    intro members
    constructor
    · rintro ⟨result, taken⟩
      rcases (takeMembers_iff members).mp taken with ⟨given, meant, accepts, -⟩
      exact ⟨given, meant, accepts⟩
    · rintro ⟨given, meant, accepts⟩
      rcases accepts.has_record standard with ⟨result, replaces⟩
      exact ⟨result, (takeMembers_iff members).mpr ⟨given, meant, accepts, replaces⟩⟩
  refine ⟨fun _ => accepts, fun _ members _ => takeMembers_iff members,
    fun _ _ _ => layout.replaces_unique, ?_, ?_, ?_, ?_, ?_⟩
  · exact fun _ _ _ _ meant => inOrder meant
  · intro second items
    have meant := meant_spelled (layout.names.zip items)
    rw [← layout.accepts_zip_iff items]
    simp only [Value.takeRecord, inOrder meant, accepts]
    constructor
    · rintro ⟨given, again, accepts⟩
      rwa [meant_unique meant again]
    · exact fun accepts => ⟨_, meant, accepts⟩
  · intro second items more enough
    have meant := meant_spelled (layout.names.zip items)
    have longer : Value.takeItems layout.fields standard (items ++ more) =
        Value.takeMembers layout.fields [] standard (spelled (layout.names.zip items)) := by
      apply inOrder
      rw [zip_append_of_le layout.names more enough]
      exact meant
    rw [Value.takeRecord, Value.takeRecord, longer, inOrder meant]
  · intro value result taken
    cases value with
    | object second members => exact Or.inl ⟨second, members, rfl⟩
    | array second items => exact Or.inr ⟨second, items, rfl⟩
    | null => exact absurd taken (refuse_ne_ok .null _ result)
    | boolean holds => exact absurd taken (refuse_ne_ok (.boolean holds) _ result)
    | number written => exact absurd taken (refuse_ne_ok (.number written) _ result)
    | text second pieces => exact absurd taken (refuse_ne_ok (.text second pieces) _ result)
  · intro value other reordered result
    cases reordered with
    | same => rfl
    | @array second other items others each =>
        have alike : layout.AlikeMembers (spelled (layout.names.zip items))
            (spelled (layout.names.zip others)) :=
          ⟨_, forall₂_spelled steady layout.names each, .refl _⟩
        simp only [Value.takeRecord, inOrder (meant_spelled _)]
        exact alike.takeMembers_iff
    | object keys values order =>
        exact AlikeMembers.takeMembers_iff ⟨_, forall₂_alike steady keys values, order⟩

end Layout

end ConsoleFeed
