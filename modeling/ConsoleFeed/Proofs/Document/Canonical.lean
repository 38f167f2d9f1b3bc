import ConsoleFeed.Proofs.Document.Printing
import ConsoleFeed.Proofs.Text.Utf8

/-!
# The canonical text

An exact document has neither binary64 numbers nor whole numbers out of range, and nests no deeper
than a reader goes. It has one canonical text, in which the members of every object are sorted by
the bytes of their keys (`sortedText`). That text is written from any listing of the members, so it
does not show how they came to be listed, and for an exact document it is the compact one. It is
read back as the document; so it is the text of no other one.

The induction is on the levels, as it is for the reader: the items of an array and the members of an
object are exact within one level less.
-/

namespace ConsoleFeed.Document

/-- Built from null, truth values, whole numbers within range and texts by arrays and objects, which
stand inside one another up to the given number of levels. The keys of an object ascend, so none is
there twice. -/
def ExactWithin : Nat → Document → Prop
  | _, .null | _, .boolean _ | _, .text _ => True
  | _, .integer value => lowestInteger ≤ value ∧ value < integerBound
  | _, .float _ => False
  | 0, .array _ | 0, .object _ => False
  | levels + 1, .array items => ∀ item ∈ items, ExactWithin levels item
  | levels + 1, .object members =>
      members.Pairwise (fun first second => first.1 < second.1) ∧
        ∀ member ∈ members, ExactWithin levels member.2

/-- Built without loss, and no deeper than a reader goes. -/
def IsExact (document : Document) : Prop :=
  ExactWithin nestingLimit document

/-- Members with the characters of their values, by ascending bytes of their keys. -/
def inByteOrder (members : List (String × List Char)) : List (String × List Char) :=
  members.mergeSort fun first second => Utf8.notAfter first.1 second.1

/-- A member: its key between quotes, a colon, and its value. -/
def memberSpelled (member : String × List Char) : List Char :=
  quoted member.1.toList ++ ':' :: member.2

mutual

/-- The characters of a document, however the members of its objects are listed: without blanks, and
with the members of each object by ascending bytes of their keys. -/
def sortedCharacters : Document → List Char
  | .null => ['n', 'u', 'l', 'l']
  | .boolean value => if value then ['t', 'r', 'u', 'e'] else ['f', 'a', 'l', 's', 'e']
  | .integer value => Digits.signed value
  | .float value => value.text numberStyle
  | .text value => quoted value.toList
  | .array items => '[' :: [','].intercalate (sortedItems items) ++ [']']
  | .object members =>
      '\x7b' :: [','].intercalate ((inByteOrder (sortedMembers members)).map memberSpelled) ++
        ['\x7d']

/-- The characters of each item. -/
def sortedItems : List Document → List (List Char)
  | [] => []
  | item :: rest => sortedCharacters item :: sortedItems rest

/-- The members with the characters of their values, as they are listed. -/
def sortedMembers : List (String × Document) → List (String × List Char)
  | [] => []
  | (key, value) :: rest => (key, sortedCharacters value) :: sortedMembers rest

end

/-- The text of a document with the members of every object sorted by the bytes of their keys. -/
def sortedText (document : Document) : String :=
  String.ofList document.sortedCharacters

section Listings

theorem sortedItems_eq_map (items : List Document) :
    sortedItems items = items.map sortedCharacters := by
  induction items with
  | nil => rw [sortedItems, List.map_nil]
  | cons item rest ih => rw [sortedItems, ih, List.map_cons]

theorem sortedMembers_eq_map (members : List (String × Document)) :
    sortedMembers members = members.map fun member => (member.1, member.2.sortedCharacters) := by
  induction members with
  | nil => rw [sortedMembers, List.map_nil]
  | cons member rest ih => rw [sortedMembers, ih, List.map_cons]

/-- Members listed in any order are sorted into the listing that ascends. -/
theorem inByteOrder_eq_of_perm {listing members : List (String × Document)}
    (permuted : listing.Perm members)
    (ascending : members.Pairwise fun first second => first.1 < second.1) :
    inByteOrder (sortedMembers listing) = sortedMembers members := by
  simp only [sortedMembers_eq_map]
  exact Utf8.mergeSort_notAfter Prod.fst (permuted.map _) (List.pairwise_map.mpr ascending)

/-- In which order the members of an object are listed does not show in its sorted text. -/
theorem sortedText_eq_of_perm {listing members : List (String × Document)}
    (permuted : listing.Perm members)
    (ascending : members.Pairwise fun first second => first.1 < second.1) :
    (Document.object listing).sortedText = (Document.object members).sortedText := by
  simp only [sortedText, sortedCharacters, inByteOrder_eq_of_perm permuted ascending,
    inByteOrder_eq_of_perm (List.Perm.refl members) ascending]

end Listings

section Compact

theorem itemCharacters_eq (items : List Document) :
    ∀ first : Document, characters first ++ itemCharacters items =
      [','].intercalate ((first :: items).map characters) ++ [']'] := by
  induction items with
  | nil => simp [itemCharacters]
  | cons second rest ih =>
      intro first
      simp [itemCharacters, ih second]

/-- An array is written as its items with commas between them. -/
theorem characters_array (items : List Document) :
    characters (.array items) = '[' :: [','].intercalate (items.map characters) ++ [']'] := by
  cases items with
  | nil => simp [characters]
  | cons first rest => simp [characters, itemCharacters_eq rest first]

theorem memberCharacters_eq (members : List (String × Document)) :
    ∀ first : String × Document,
      memberSpelled (first.1, characters first.2) ++ memberCharacters members =
        [','].intercalate
          ((first :: members).map fun member => memberSpelled (member.1, characters member.2)) ++
          ['\x7d'] := by
  induction members with
  | nil => simp [memberCharacters]
  | cons second rest ih =>
      intro first
      have later := ih second
      simp only [memberSpelled] at later ⊢
      simp [memberCharacters, later]

/-- An object is written as its members with commas between them, in the order in which they are
listed. -/
theorem characters_object (members : List (String × Document)) :
    characters (.object members) =
      '\x7b' :: [','].intercalate
        (members.map fun member => memberSpelled (member.1, characters member.2)) ++ ['\x7d'] := by
  cases members with
  | nil => simp [characters]
  | cons first rest =>
      have whole := memberCharacters_eq rest first
      simp only [memberSpelled] at whole ⊢
      simp [characters, whole]

/-- Where keys ascend, sorting changes nothing. -/
theorem ExactWithin.sortedCharacters {levels : Nat} {document : Document}
    (exact : ExactWithin levels document) : document.sortedCharacters = document.characters := by
  induction levels generalizing document with
  | zero =>
      cases document with
      | boolean value => cases value <;> simp [Document.sortedCharacters, characters]
      | float | array | object => exact exact.elim
      | _ => simp [Document.sortedCharacters, characters]
  | succ levels ih =>
      cases document with
      | boolean value => cases value <;> simp [Document.sortedCharacters, characters]
      | float => exact exact.elim
      | array items =>
          have items_eq : items.map Document.sortedCharacters = items.map characters :=
            List.map_congr_left fun item member => ih (exact item member)
          rw [Document.sortedCharacters, sortedItems_eq_map, items_eq, characters_array]
      | object members =>
          rcases exact with ⟨ascending, inside⟩
          have members_eq :
              (members.map fun member => memberSpelled (member.1, member.2.sortedCharacters)) =
                members.map fun member => memberSpelled (member.1, member.2.characters) :=
            List.map_congr_left fun member listed => by rw [ih (inside member listed)]
          rw [Document.sortedCharacters, inByteOrder_eq_of_perm (List.Perm.refl members) ascending,
            sortedMembers_eq_map, List.map_map, characters_object, ← members_eq]
          rfl
      | _ => simp [Document.sortedCharacters, characters]

/-- The compact text of an exact document is the sorted one. -/
theorem IsExact.compact {document : Document} (exact : document.IsExact) :
    document.compact = document.sortedText := by
  rw [Document.compact, sortedText, exact.sortedCharacters]

end Compact

section Reading

/-- What is exact within some levels is printed as one of its texts. -/
theorem ExactWithin.textWithin {levels : Nat} {document : Document}
    (exact : ExactWithin levels document) : TextWithin levels document document.characters := by
  induction levels generalizing document with
  | zero =>
      cases document with
      | null => exact .null
      | boolean value => cases value <;> exact .boolean _
      | integer value => exact .integer exact.1 exact.2
      | text value => exact .text (quotedText_quoted value)
      | float | array | object => exact exact.elim
  | succ levels ih =>
      cases document with
      | null => exact .scalar .null
      | boolean value => cases value <;> exact .scalar (.boolean _)
      | integer value => exact .scalar (.integer exact.1 exact.2)
      | text value => exact textWithin_text (levels + 1) value
      | float => exact exact.elim
      | array items => exact levelText_array fun item member => ih (exact item member)
      | object members =>
          exact levelText_object ⟨members, exact.1⟩ fun member listed => ih (exact.2 member listed)

/-- An exact document is read back from its sorted text. -/
theorem IsExact.read_sortedText {document : Document} (exact : document.IsExact) :
    read document.sortedText = .ok document := by
  have isText : IsText document document.compact := by
    rw [IsText, Document.compact, String.toList_ofList]
    exact padded_of_inner exact.textWithin
  rw [← exact.compact]
  exact read_of_isText isText

/-- Exact documents with the same sorted text are the same. -/
theorem IsExact.sortedText_inj {first second : Document} (exact : first.IsExact)
    (other : second.IsExact) : first.sortedText = second.sortedText ↔ first = second := by
  constructor
  · intro same
    have read := exact.read_sortedText
    rw [same, other.read_sortedText] at read
    exact (Except.ok.inj read).symm
  · rintro rfl
    rfl

/-- Only null is written as `null`. -/
theorem IsExact.sortedText_ne_null {document : Document} (exact : document.IsExact)
    (something : document ≠ .null) : document.sortedText ≠ "null" := by
  have null : IsExact .null := trivial
  have spelled : Document.null.sortedText = "null" := by
    rw [sortedText, Document.sortedCharacters]
  rw [← spelled]
  exact fun same => something ((exact.sortedText_inj null).mp same)

end Reading

end ConsoleFeed.Document
