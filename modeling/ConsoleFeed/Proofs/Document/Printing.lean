import ConsoleFeed.Document.Printer
import ConsoleFeed.Proofs.Document.Texts

/-!
# The compact text is one of the texts

A document that has a text within some levels has its compact text within them as well. So it is
read back from its compact text, and reading, printing and reading again loses nothing.

A document without any text within the levels is one that nests deeper, that contains a binary64
number or a whole number out of range, or that lists the members of an object in another order than
by ascending key.

Whatever the document is, its compact text contains no control character, since these are escaped in
quotes and nothing is written between the parts, and it does not start with a space.
-/

namespace ConsoleFeed.Document

section Quoting

theorem isUnit_hex : ∀ code < 0x20, IsUnit code (Digits.padLeft 4 (Digits.hex code)) := by
  unfold IsUnit
  decide

theorem characterText_quotedCharacter (character : Char) :
    CharacterText character (quotedCharacter character) := by
  unfold quotedCharacter
  split
  case isTrue quote =>
    subst quote
    exact .letter (by decide)
  case isFalse notQuote =>
    split
    case isTrue backslash =>
      subst backslash
      exact .letter (by decide)
    case isFalse notBackslash =>
      repeat' split
      iterate 5
        subst character
        exact .letter (by decide)
      · rename_i control
        exact .unit (isUnit_hex _ control)
      · rename_i printable
        exact .itself (Nat.le_of_not_lt printable) notQuote notBackslash

theorem contentText_quotedCharacters (content : List Char) :
    ContentText content (content.flatMap quotedCharacter) := by
  induction content with
  | nil => exact .nil
  | cons character others ih => exact .cons (characterText_quotedCharacter character) ih

theorem quotedText_quoted (text : String) : QuotedText text (quoted text.toList) :=
  ⟨_, contentText_quotedCharacters text.toList, rfl⟩

end Quoting

section Levels

variable {Inner : Language Document}

theorem padded_of_inner {Value : Type} {Text : Language Value} {value : Value}
    {spelled : List Char} (text : Text value spelled) : Padded Text value spelled :=
  ⟨[], spelled, [], blanks_nil, text, blanks_nil, by simp⟩

theorem itemsText_itemCharacters (items : List Document) :
    ∀ first, (∀ item ∈ first :: items, Inner item (characters item)) →
      ∃ spelled, ItemsText Inner (first :: items) spelled ∧
        characters first ++ itemCharacters items = spelled ++ [']'] := by
  induction items with
  | nil =>
      intro first printed
      have only := padded_of_inner (printed first List.mem_cons_self)
      exact ⟨characters first, .last only, by rw [itemCharacters]⟩
  | cons second items ih =>
      intro first printed
      have here := padded_of_inner (printed first List.mem_cons_self)
      rcases ih second fun item member => printed item (List.mem_cons_of_mem first member) with
        ⟨spelled, others, same⟩
      refine ⟨characters first ++ ',' :: spelled, .next here others, ?_⟩
      rw [itemCharacters, List.cons_append, same]
      simp only [List.append_assoc, List.cons_append]

theorem memberText_characters {member : String × Document}
    (printed : Inner member.2 (characters member.2)) :
    MemberText Inner member (quoted member.1.toList ++ ':' :: characters member.2) :=
  ⟨_, _, padded_of_inner (quotedText_quoted member.1), padded_of_inner printed, rfl⟩

theorem membersText_memberCharacters (members : List (String × Document)) :
    ∀ first, (∀ member ∈ first :: members, Inner member.2 (characters member.2)) →
      ∃ spelled, MembersText Inner (first :: members) spelled ∧
        quoted first.1.toList ++ ':' :: characters first.2 ++ memberCharacters members =
          spelled ++ ['\x7d'] := by
  induction members with
  | nil =>
      intro first printed
      exact ⟨_, .last (memberText_characters (printed first List.mem_cons_self)),
        by rw [memberCharacters]⟩
  | cons second members ih =>
      intro first printed
      have here := memberText_characters (printed first List.mem_cons_self)
      rcases ih second fun member inside => printed member (List.mem_cons_of_mem first inside) with
        ⟨spelled, others, same⟩
      refine ⟨_, .next here others, ?_⟩
      rw [memberCharacters]
      simp only [List.append_assoc, List.cons_append] at same ⊢
      rw [same]

/-- An array is printed as one of its texts if its items are. -/
theorem levelText_array {items : List Document}
    (printed : ∀ item ∈ items, Inner item (characters item)) :
    LevelText Inner (.array items) (characters (.array items)) := by
  cases items with
  | nil => exact .noItems blanks_nil
  | cons first items =>
      rcases itemsText_itemCharacters items first printed with ⟨spelled, inside, same⟩
      rw [characters, List.cons_append, same]
      exact .array inside

/-- An object is printed as one of its texts if the values of its members are. -/
theorem levelText_object (map : KeyMap Document)
    (printed : ∀ member ∈ map.entries, Inner member.2 (characters member.2)) :
    LevelText Inner (.object map.entries) (characters (.object map.entries)) := by
  have kept : ofMembers map.entries = .object map.entries := by
    rw [ofMembers, map.ofList_eq_of_perm (List.Perm.refl _)]
  cases listed : map.entries with
  | nil => exact .noMembers blanks_nil
  | cons first members =>
      rw [listed] at printed kept
      rcases membersText_memberCharacters members first printed with ⟨spelled, inside, same⟩
      have text := LevelText.object inside
      rw [kept] at text
      rw [characters, List.cons_append, List.cons_append, same]
      exact text

theorem ItemsText.has_text {items : List Document} {spelled : List Char}
    (text : ItemsText Inner items spelled) : ∀ item ∈ items, ∃ inside, Inner item inside := by
  induction text with
  | last only =>
      intro item member
      rcases only with ⟨_, inside, _, _, inner, _⟩
      cases List.mem_singleton.mp member
      exact ⟨inside, inner⟩
  | next first others ih =>
      intro item member
      rcases first with ⟨_, inside, _, _, inner, _⟩
      rcases List.mem_cons.mp member with rfl | later
      · exact ⟨inside, inner⟩
      · exact ih item later

theorem MembersText.has_text {members : List (String × Document)} {spelled : List Char}
    (text : MembersText Inner members spelled) :
    ∀ member ∈ members, ∃ inside, Inner member.2 inside := by
  induction text with
  | last only =>
      intro member inside
      rcases only with ⟨_, _, _, ⟨_, value, _, _, inner, _⟩, _⟩
      cases List.mem_singleton.mp inside
      exact ⟨value, inner⟩
  | next first others ih =>
      intro member inside
      rcases first with ⟨_, _, _, ⟨_, value, _, _, inner, _⟩, _⟩
      rcases List.mem_cons.mp inside with rfl | later
      · exact ⟨value, inner⟩
      · exact ih member later

theorem ScalarText.printed {document : Document} {spelled : List Char}
    (text : ScalarText document spelled) : ScalarText document document.characters := by
  cases text with
  | null => exact .null
  | boolean value => cases value <;> exact .boolean _
  | integer lower upper => exact .integer lower upper
  | text => exact .text (quotedText_quoted _)

/-- What one level prints is a text of that level, if this holds of the level below. -/
theorem LevelText.printed
    (printed : ∀ {document spelled}, Inner document spelled → Inner document document.characters)
    {document : Document} {spelled : List Char} (text : LevelText Inner document spelled) :
    LevelText Inner document document.characters := by
  cases text with
  | scalar scalar => exact .scalar scalar.printed
  | noItems => exact levelText_array nofun
  | array inside =>
      apply levelText_array
      intro item member
      rcases inside.has_text item member with ⟨_, inner⟩
      exact printed inner
  | noMembers => exact levelText_object KeyMap.empty (by simp [KeyMap.empty])
  | object inside =>
      apply levelText_object
      intro member listed
      rcases inside.has_text member (KeyMap.mem_of_mem_ofList listed) with ⟨_, inner⟩
      exact printed inner

theorem TextWithin.printed (levels : Nat) {document : Document} {spelled : List Char}
    (text : TextWithin levels document spelled) :
    TextWithin levels document document.characters := by
  induction levels generalizing document spelled with
  | zero => exact ScalarText.printed text
  | succ levels ih => exact LevelText.printed (fun inner => ih inner) text

end Levels

/-- A document that has a text has its compact text. -/
theorem IsText.compact {document : Document} {text : String} (isText : IsText document text) :
    IsText document document.compact := by
  rcases isText with ⟨_, _, _, _, inner, _⟩
  have printed := padded_of_inner (TextWithin.printed nestingLimit inner)
  rwa [IsText, Document.compact, String.toList_ofList]

/-- A document that has a text is read back from what is printed. -/
theorem read_compact {document : Document} {text : String} (isText : IsText document text) :
    read document.compact = .ok document :=
  read_of_isText isText.compact

theorem textWithin_text (levels : Nat) (value : String) :
    TextWithin levels (.text value) (characters (.text value)) := by
  have scalar : ScalarText (.text value) (characters (.text value)) :=
    .text (quotedText_quoted value)
  cases levels with
  | zero => exact scalar
  | succ levels => exact .scalar scalar

/-- Texts under names are printed as a text of what they are. -/
theorem isText_compact_object (texts : KeyMap String) :
    let document := Document.object (texts.mapValues .text).entries
    IsText document document.compact := by
  intro document
  have printed : LevelText (TextWithin 126) document document.characters := by
    apply levelText_object
    intro member listed
    rcases List.mem_map.mp listed with ⟨⟨name, value⟩, -, rfl⟩
    exact textWithin_text 126 value
  rw [IsText, Document.compact, String.toList_ofList]
  exact padded_of_inner printed

/-- A list of texts is printed as a text of what it is. -/
theorem isText_compact_array (texts : List String) :
    let document := Document.array (texts.map .text)
    IsText document document.compact := by
  intro document
  have printed : LevelText (TextWithin 126) document document.characters := by
    apply levelText_array
    intro item listed
    rcases List.mem_map.mp listed with ⟨value, -, rfl⟩
    exact textWithin_text 126 value
  rw [IsText, Document.compact, String.toList_ofList]
  exact padded_of_inner printed

section Plainness

/-- No character is below a bound. -/
def NoneBelow (bound : Nat) (characters : List Char) : Prop :=
  ∀ character ∈ characters, bound ≤ character.toNat

instance (bound : Nat) (characters : List Char) : Decidable (NoneBelow bound characters) :=
  decidable_of_iff (characters.all fun character => bound ≤ character.toNat)
    (by simp only [List.all_eq_true, decide_eq_true_eq, NoneBelow])

variable {bound : Nat}

@[simp]
theorem noneBelow_append {first second : List Char} :
    NoneBelow bound (first ++ second) ↔ NoneBelow bound first ∧ NoneBelow bound second :=
  List.forall_mem_append

@[simp]
theorem noneBelow_cons {character : Char} {characters : List Char} :
    NoneBelow bound (character :: characters) ↔
      bound ≤ character.toNat ∧ NoneBelow bound characters :=
  List.forall_mem_cons

@[simp]
theorem noneBelow_nil : NoneBelow bound [] :=
  nofun

theorem NoneBelow.mono {lower : Nat} {characters : List Char} (above : NoneBelow bound characters)
    (weaker : lower ≤ bound) : NoneBelow lower characters :=
  fun character member => Nat.le_trans weaker (above character member)

section Numbers

theorem noneBelow_decimal (number : Nat) : NoneBelow 0x30 (Digits.decimal number) := by
  intro digit member
  have isDigit := isDigit_of_mem_decimal member
  simp only [Char.isDigit, Bool.and_eq_true, decide_eq_true_eq] at isDigit
  exact isDigit.1

theorem noneBelow_zeros (count : Nat) : NoneBelow 0x30 (List.replicate count '0') := by
  intro zero member
  rw [List.eq_of_mem_replicate member]
  decide

theorem noneBelow_positional (form : DecimalForm) : NoneBelow 0x21 form.positional := by
  have digits := (noneBelow_decimal form.digits).mono (by decide : 0x21 ≤ 0x30)
  simp only [DecimalForm.positional]
  split
  · have zeros := (noneBelow_zeros form.exponent.toNat).mono (by decide : 0x21 ≤ 0x30)
    refine noneBelow_append.mpr ⟨noneBelow_append.mpr ⟨digits, zeros⟩, by decide⟩
  · have padded : NoneBelow 0x21
        (Digits.padLeft ((-form.exponent).toNat + 1) (Digits.decimal form.digits)) :=
      noneBelow_append.mpr ⟨(noneBelow_zeros _).mono (by decide), digits⟩
    refine noneBelow_append.mpr ⟨?_, noneBelow_cons.mpr ⟨by decide, ?_⟩⟩
    · exact fun digit member => padded digit (List.mem_of_mem_take member)
    · exact fun digit member => padded digit (List.mem_of_mem_drop member)

theorem noneBelow_exponential (form : DecimalForm) : NoneBelow 0x21 form.exponential := by
  have digits := (noneBelow_decimal form.digits).mono (by decide : 0x21 ≤ 0x30)
  have first : NoneBelow 0x21 ((Digits.decimal form.digits).take 1) :=
    fun digit member => digits digit (List.mem_of_mem_take member)
  have tail : NoneBelow 0x21 ((Digits.decimal form.digits).drop 1) :=
    fun digit member => digits digit (List.mem_of_mem_drop member)
  have exponent := fun place : Nat => (noneBelow_decimal place).mono (by decide : 0x21 ≤ 0x30)
  simp only [DecimalForm.exponential, noneBelow_append, noneBelow_cons]
  refine ⟨⟨first, ?_⟩, by decide, ?_, exponent _⟩
  · split
    · exact noneBelow_nil
    · exact noneBelow_cons.mpr ⟨by decide, tail⟩
  · split <;> decide

theorem noneBelow_text (style : DecimalStyle) (number : Binary64) :
    NoneBelow 0x21 (number.text style) := by
  have sign : NoneBelow 0x21 (if number.negative then ['-'] else []) := by
    split <;> decide
  simp only [Binary64.text]
  split
  · exact noneBelow_append.mpr ⟨sign, by decide⟩
  · refine noneBelow_append.mpr ⟨sign, ?_⟩
    split
    · exact noneBelow_positional _
    · exact noneBelow_exponential _

theorem noneBelow_signed (value : Int) : NoneBelow 0x21 (Digits.signed value) := by
  cases value with
  | ofNat number => exact (noneBelow_decimal number).mono (by decide)
  | negSucc number =>
      exact noneBelow_cons.mpr ⟨by decide, (noneBelow_decimal _).mono (by decide)⟩

end Numbers

theorem noneBelow_hex : ∀ code < 0x20, NoneBelow 0x20 (Digits.padLeft 4 (Digits.hex code)) := by
  decide

theorem noneBelow_quotedCharacter (character : Char) :
    NoneBelow 0x20 (quotedCharacter character) := by
  unfold quotedCharacter
  repeat' split
  iterate 7 decide
  · rename_i control
    simpa using noneBelow_hex _ control
  · rename_i printable
    simpa using printable

theorem noneBelow_quoted (content : List Char) : NoneBelow 0x20 (quoted content) := by
  refine noneBelow_append.mpr ⟨noneBelow_cons.mpr ⟨by decide, ?_⟩, by decide⟩
  intro character member
  rcases List.mem_flatMap.mp member with ⟨original, -, inside⟩
  exact noneBelow_quotedCharacter original character inside

mutual

/-- What is printed of a document has no control characters, at any depth. -/
theorem noneBelow_characters : ∀ document : Document, NoneBelow 0x20 document.characters
  | .null | .boolean true | .boolean false | .array [] | .object [] => by
      simp only [characters]
      decide
  | .integer value => by
      simp only [characters]
      exact (noneBelow_signed value).mono (by decide)
  | .float value => by
      simp only [characters]
      exact (noneBelow_text numberStyle value).mono (by decide)
  | .text value => by
      simp only [characters]
      exact noneBelow_quoted value.toList
  | .array (first :: rest) => by
      simp only [characters, noneBelow_append, noneBelow_cons]
      exact ⟨⟨by decide, noneBelow_characters first⟩, noneBelow_itemCharacters rest⟩
  | .object ((key, value) :: rest) => by
      simp only [characters, noneBelow_append, noneBelow_cons]
      exact ⟨⟨⟨by decide, noneBelow_quoted key.toList⟩, by decide, noneBelow_characters value⟩,
        noneBelow_memberCharacters rest⟩

theorem noneBelow_itemCharacters : ∀ items : List Document, NoneBelow 0x20 (itemCharacters items)
  | [] => by decide
  | item :: rest => by
      simp only [itemCharacters, noneBelow_append, noneBelow_cons]
      exact ⟨⟨by decide, noneBelow_characters item⟩, noneBelow_itemCharacters rest⟩

theorem noneBelow_memberCharacters :
    ∀ members : List (String × Document), NoneBelow 0x20 (memberCharacters members)
  | [] => by decide
  | (key, value) :: rest => by
      simp only [memberCharacters, noneBelow_append, noneBelow_cons]
      exact ⟨⟨⟨by decide, noneBelow_quoted key.toList⟩, by decide, noneBelow_characters value⟩,
        noneBelow_memberCharacters rest⟩

end

/-- What is printed of a document does not start with a space. -/
theorem characters_head (document : Document) : document.characters.head? ≠ some ' ' := by
  have number : ∀ {characters : List Char}, NoneBelow 0x21 characters →
      characters.head? ≠ some ' ' := by
    intro characters above space
    have low := above ' ' (List.mem_of_mem_head? space)
    revert low
    decide
  match document with
  | .null | .boolean true | .boolean false | .array [] | .object [] =>
      simp [characters]
  | .integer value =>
      simp only [characters]
      exact number (noneBelow_signed value)
  | .float value =>
      simp only [characters]
      exact number (noneBelow_text numberStyle value)
  | .text _ | .array (_ :: _) | .object ((_, _) :: _) =>
      simp [characters, quoted]

end Plainness

end ConsoleFeed.Document
