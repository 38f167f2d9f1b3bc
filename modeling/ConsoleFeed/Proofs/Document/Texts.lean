import ConsoleFeed.Document.Reader
import ConsoleFeed.Proofs.KeyMap
import Mathlib.Data.List.Basic

/-!
# Texts of documents

A document has many texts: blanks may stand between tokens, a character of a quoted text may stand
for itself or be escaped in several ways, the members of an object may come in any order, and of
several members under one key only the last counts. This file says which texts a document without
binary64 numbers has and shows that the reader takes each of them for that document.

The grammar has the reader's shape. The texts of one level are built over the texts of the level
below, so nothing in it is mutual, and what is shown of the reader of one level is carried to the
next by induction on the nesting limit.
-/

namespace ConsoleFeed.Document

/-- A language: the texts that each value has. -/
abbrev Language (Value : Type) := Value → List Char → Prop

/-- Only characters that may stand between tokens. -/
def Blanks (characters : List Char) : Prop := ∀ character ∈ characters, isBlank character = true

/-- Blanks around the texts of a language. -/
def Padded {Value : Type} (Inner : Language Value) : Language Value := fun value spelled =>
  ∃ before inside after, Blanks before ∧ Inner value inside ∧ Blanks after ∧
    spelled = before ++ inside ++ after

/-- Four hexadecimal digits that write a code unit. -/
def IsUnit (code : Nat) (digits : List Char) : Prop :=
  digits.length = 4 ∧ digits.all Digits.isHex = true ∧ Digits.hexNumber digits = code

/-- The letters that stand for a character after a backslash. -/
def escapes : List (Char × Char) :=
  [('"', '"'), ('\\', '\\'), ('/', '/'), ('b', '\x08'), ('f', '\x0c'), ('n', '\n'), ('r', '\r'),
    ('t', '\t')]

/-- The ways in which a character stands between quotes. One above the basic plane is escaped as a
surrogate pair. -/
inductive CharacterText (character : Char) : List Char → Prop
  | itself (printable : 0x20 ≤ character.toNat) (notQuote : character ≠ '"')
      (notBackslash : character ≠ '\\') : CharacterText character [character]
  | letter {letter : Char} (stands : (letter, character) ∈ escapes) :
      CharacterText character ['\\', letter]
  | unit {digits : List Char} (code : IsUnit character.toNat digits) :
      CharacterText character ('\\' :: 'u' :: digits)
  | pair {lead trail : List Char} (beyond : 0x10000 ≤ character.toNat)
      (leadCode : IsUnit (0xD800 + (character.toNat - 0x10000) / 0x400) lead)
      (trailCode : IsUnit (0xDC00 + (character.toNat - 0x10000) % 0x400) trail) :
      CharacterText character ('\\' :: 'u' :: lead ++ '\\' :: 'u' :: trail)

/-- What stands between the quotes of a text. -/
inductive ContentText : Language (List Char)
  | nil : ContentText [] []
  | cons {character : Char} {content spelled more : List Char}
      (first : CharacterText character spelled) (others : ContentText content more) :
      ContentText (character :: content) (spelled ++ more)

def QuotedText : Language String := fun text spelled =>
  ∃ inside, ContentText text.toList inside ∧ spelled = '"' :: inside ++ ['"']

/-- The texts of documents without parts. A minus sign before zero is none of them: it writes a
binary64 number. -/
inductive ScalarText : Language Document
  | null : ScalarText .null ['n', 'u', 'l', 'l']
  | boolean (value : Bool) :
      ScalarText (.boolean value)
        (if value then ['t', 'r', 'u', 'e'] else ['f', 'a', 'l', 's', 'e'])
  | integer {value : Int} (lower : lowestInteger ≤ value) (upper : value < integerBound) :
      ScalarText (.integer value) (Digits.signed value)
  | text {value : String} {spelled : List Char} (quoted : QuotedText value spelled) :
      ScalarText (.text value) spelled

/-- One item or more, with commas between them. -/
inductive ItemsText (Inner : Language Document) : Language (List Document)
  | last {item : Document} {spelled : List Char} (only : Padded Inner item spelled) :
      ItemsText Inner [item] spelled
  | next {item : Document} {items : List Document} {spelled more : List Char}
      (first : Padded Inner item spelled) (others : ItemsText Inner items more) :
      ItemsText Inner (item :: items) (spelled ++ ',' :: more)

/-- One member: its key, a colon and its value. -/
def MemberText (Inner : Language Document) : Language (String × Document) := fun member spelled =>
  ∃ key value, Padded QuotedText member.1 key ∧ Padded Inner member.2 value ∧
    spelled = key ++ ':' :: value

/-- One member or more, with commas between them. -/
inductive MembersText (Inner : Language Document) : Language (List (String × Document))
  | last {member : String × Document} {spelled : List Char}
      (only : MemberText Inner member spelled) : MembersText Inner [member] spelled
  | next {member : String × Document} {members : List (String × Document)}
      {spelled more : List Char} (first : MemberText Inner member spelled)
      (others : MembersText Inner members more) :
      MembersText Inner (member :: members) (spelled ++ ',' :: more)

/-- The texts of one level, over those of the level below. -/
inductive LevelText (Inner : Language Document) : Language Document
  | scalar {document : Document} {spelled : List Char} (scalar : ScalarText document spelled) :
      LevelText Inner document spelled
  | noItems {blanks : List Char} (blank : Blanks blanks) :
      LevelText Inner (.array []) ('[' :: blanks ++ [']'])
  | array {items : List Document} {spelled : List Char} (inside : ItemsText Inner items spelled) :
      LevelText Inner (.array items) ('[' :: spelled ++ [']'])
  | noMembers {blanks : List Char} (blank : Blanks blanks) :
      LevelText Inner (.object []) ('\x7b' :: blanks ++ ['\x7d'])
  | object {members : List (String × Document)} {spelled : List Char}
      (inside : MembersText Inner members spelled) :
      LevelText Inner (ofMembers members) ('\x7b' :: spelled ++ ['\x7d'])

/-- The texts that nest no deeper than the given number of levels. -/
def TextWithin : Nat → Language Document
  | 0 => ScalarText
  | levels + 1 => LevelText (TextWithin levels)

/-- The texts of a document that the reader may be given. -/
def IsText (document : Document) (text : String) : Prop :=
  Padded (TextWithin nestingLimit) document text.toList

section Reading

theorem blanks_nil : Blanks [] :=
  nofun

theorem skipBlanks_append {blanks : List Char} (blank : Blanks blanks) (characters : List Char) :
    skipBlanks (blanks ++ characters) = skipBlanks characters := by
  apply List.dropWhile_append_of_pos
  exact blank

theorem skipBlanks_cons {first : Char} (token : isBlank first = false) (characters : List Char) :
    skipBlanks (first :: characters) = first :: characters := by
  simp only [skipBlanks, List.dropWhile_cons, token, Bool.false_eq_true, if_false]

/-- A text continues no number that stands before it. -/
def Stops (characters : List Char) : Prop :=
  ∀ first ∈ characters.head?,
    Digits.isDecimal first = false ∧ first ≠ '.' ∧ first ≠ 'e' ∧ first ≠ 'E'

theorem stops_nil : Stops [] := by simp [Stops]

theorem stops_cons {first : Char} {characters : List Char}
    (other : Digits.isDecimal first = false ∧ first ≠ '.' ∧ first ≠ 'e' ∧ first ≠ 'E') :
    Stops (first :: characters) := by
  simpa [Stops] using other

theorem stops_blanks {blanks characters : List Char} (blank : Blanks blanks)
    (stops : Stops characters) : Stops (blanks ++ characters) := by
  cases blanks with
  | nil => exact stops
  | cons first others =>
      apply stops_cons
      have blankFirst := blank first List.mem_cons_self
      simp only [isBlank, Bool.or_eq_true, decide_eq_true_eq] at blankFirst
      rcases blankFirst with ((rfl | rfl) | rfl) | rfl <;> decide

section Quoted

theorem codeUnit?_of_isUnit {code : Nat} {digits : List Char} (unit : IsUnit code digits) :
    ∃ a b c d, digits = [a, b, c, d] ∧ codeUnit? [a, b, c, d] = some code := by
  rcases unit with ⟨four, hex, value⟩
  match digits, four with
  | [a, b, c, d], _ => exact ⟨a, b, c, d, rfl, by simp only [codeUnit?, hex, if_true, value]⟩

/-- No character has a surrogate's number. -/
theorem not_surrogate (character : Char) :
    isLeadSurrogate character.toNat = false ∧ isTrailSurrogate character.toNat = false := by
  have valid : character.toNat < 0xD800 ∨ 0xDFFF < character.toNat := by
    rcases character.valid with low | high
    · exact Or.inl low
    · exact Or.inr high.1
  simp only [isLeadSurrogate, isTrailSurrogate, Bool.and_eq_false_iff, decide_eq_false_iff_not]
  omega

/-- The two halves of a character above the basic plane are told apart and put together again. -/
theorem surrogates_beyond {character : Char} (beyond : 0x10000 ≤ character.toNat) :
    isLeadSurrogate (0xD800 + (character.toNat - 0x10000) / 0x400) = true ∧
      isTrailSurrogate (0xDC00 + (character.toNat - 0x10000) % 0x400) = true ∧
      ofSurrogates (0xD800 + (character.toNat - 0x10000) / 0x400)
        (0xDC00 + (character.toNat - 0x10000) % 0x400) = character := by
  have below : character.toNat < 0x110000 := by
    rcases character.valid with low | high
    · exact Nat.lt_trans low (by decide)
    · exact high.2
  refine ⟨?_, ?_, ?_⟩
  · simp only [isLeadSurrogate, Bool.and_eq_true, decide_eq_true_eq]
    omega
  · simp only [isTrailSurrogate, Bool.and_eq_true, decide_eq_true_eq]
    omega
  · have number : 0x10000 + (0xD800 + (character.toNat - 0x10000) / 0x400 - 0xD800) * 0x400 +
        (0xDC00 + (character.toNat - 0x10000) % 0x400 - 0xDC00) = character.toNat := by
      omega
    rw [ofSurrogates, number, Char.ofNat_toNat]

theorem readQuoted_characterText {character : Char} {spelled : List Char}
    (text : CharacterText character spelled) (more : List Char) :
    readQuoted none (spelled ++ more) = consRead character (readQuoted none more) := by
  cases text with
  | itself printable notQuote notBackslash =>
      rw [List.singleton_append, readQuoted]
      · simp only [Nat.not_lt.mpr printable, if_false]
      all_goals simp_all
  | letter stands =>
      simp only [escapes, List.mem_cons, Prod.mk.injEq, List.not_mem_nil, or_false] at stands
      rcases stands with ⟨rfl, rfl⟩ | ⟨rfl, rfl⟩ | ⟨rfl, rfl⟩ | ⟨rfl, rfl⟩ | ⟨rfl, rfl⟩ |
        ⟨rfl, rfl⟩ | ⟨rfl, rfl⟩ | ⟨rfl, rfl⟩ <;> simp [readQuoted, escaped?]
  | unit code =>
      rcases codeUnit?_of_isUnit code with ⟨a, b, c, d, rfl, read⟩
      rcases not_surrogate character with ⟨notLead, notTrail⟩
      simp [readQuoted, read, notLead, notTrail]
  | pair beyond leadCode trailCode =>
      rcases codeUnit?_of_isUnit leadCode with ⟨a, b, c, d, rfl, readLead⟩
      rcases codeUnit?_of_isUnit trailCode with ⟨e, f, g, h, rfl, readTrail⟩
      rcases surrogates_beyond beyond with ⟨lead, trail, joined⟩
      simp [readQuoted, readLead, readTrail, lead, trail, joined]

theorem readQuoted_contentText {content inside : List Char} (text : ContentText content inside)
    (rest : List Char) : readQuoted none (inside ++ '"' :: rest) = .ok (content, rest) := by
  induction text with
  | nil => rw [List.nil_append, readQuoted]
  | cons first others ih =>
      rw [List.append_assoc, readQuoted_characterText first, ih]
      rfl

theorem QuotedText.starts {text : String} {spelled : List Char} (quoted : QuotedText text spelled) :
    ∃ more, spelled = '"' :: more := by
  rcases quoted with ⟨inside, -, rfl⟩
  exact ⟨inside ++ ['"'], rfl⟩

end Quoted

section Numbers

theorem decimalValue?_of_isDigit {digit : Char} (isDigit : digit.isDigit = true) :
    Digits.decimalValue? digit = some (digit.toNat - '0'.toNat) := by
  have bounds : '0' ≤ digit ∧ digit ≤ '9' := by
    simpa [Char.isDigit, Char.le_def] using isDigit
  simp only [Digits.decimalValue?, bounds, and_self, if_true]

theorem isDigit_of_mem_decimal {number : Nat} {digit : Char}
    (member : digit ∈ Digits.decimal number) : digit.isDigit = true :=
  Nat.isDigit_of_mem_toDigits (by decide) (by decide) member

theorem isDecimal_of_mem_decimal {number : Nat} {digit : Char}
    (member : digit ∈ Digits.decimal number) : Digits.isDecimal digit = true := by
  simp only [Digits.isDecimal, decimalValue?_of_isDigit (isDigit_of_mem_decimal member),
    Option.isSome_some]

/-- There is a first digit. -/
theorem decimal_cons (number : Nat) :
    ∃ first others, Digits.decimal number = first :: others ∧ Digits.isDecimal first = true := by
  cases digits : Digits.decimal number with
  | nil => exact absurd digits Nat.toDigits_ne_nil
  | cons first others =>
      have leads : first ∈ Digits.decimal number := by
        rw [digits]
        exact List.mem_cons_self
      exact ⟨first, others, rfl, isDecimal_of_mem_decimal leads⟩

/-- The decimal digits of a number are read as that number. -/
theorem decimalNumber_decimal (number : Nat) :
    Digits.decimalNumber (Digits.decimal number) = number := by
  calc Digits.decimalNumber (Digits.decimal number)
      = Nat.ofDigitChars 10 (Digits.decimal number) 0 := by
        apply List.foldl_ext
        intro sofar digit member
        rw [decimalValue?_of_isDigit (isDigit_of_mem_decimal member), Option.getD_some,
          Nat.mul_comm]
    _ = number := Nat.ofDigitChars_ten_toDigits

/-- Only zero is written with a leading zero. -/
theorem decimal_leading {number : Nat} (positive : 0 < number) :
    ∃ first others, Digits.decimal number = first :: others ∧ first ≠ '0' := by
  induction number using Nat.base_induction 10 (by decide) with
  | single number below =>
      refine ⟨number.digitChar, [], Nat.toDigits_of_lt_base below, ?_⟩
      revert number
      decide
  | digit upper lowest below upperPositive ih =>
      rcases ih upperPositive with ⟨first, others, digits, notZero⟩
      refine ⟨first, others ++ Nat.toDigits 10 lowest, ?_, notZero⟩
      rw [Digits.decimal, ← Nat.toDigits_append_toDigits (by decide) upperPositive below]
      exact congrArg (· ++ Nat.toDigits 10 lowest) digits

/-- A run of decimal digits is read up to where the number stops. -/
theorem span_decimal (number : Nat) {rest : List Char} (stops : Stops rest) :
    Digits.span Digits.isDecimal (Digits.decimal number ++ rest) =
      (Digits.decimal number, rest) := by
  have inside : ∀ digit ∈ Digits.decimal number, Digits.isDecimal digit = true :=
    fun _ member => isDecimal_of_mem_decimal member
  have after : rest.takeWhile Digits.isDecimal = [] ∧ rest.dropWhile Digits.isDecimal = rest := by
    cases rest with
    | nil => exact ⟨rfl, rfl⟩
    | cons first others =>
        have other := (stops first rfl).1
        simp [other]
  simp only [Digits.span, List.takeWhile_append_of_pos inside, List.dropWhile_append_of_pos inside,
    after, List.append_nil]

theorem readAfterWhole_of_stops {negative : Bool} {digits rest : List Char} {document : Document}
    (value : ofWhole? negative digits = some document) (stops : Stops rest) :
    readAfterWhole negative digits rest = .ok (document, rest) := by
  have noFraction : ∀ more, rest ≠ '.' :: more := by
    rintro more rfl
    exact (stops '.' rfl).2.1 rfl
  have noExponent : ∀ more, rest ≠ 'e' :: more := by
    rintro more rfl
    exact (stops 'e' rfl).2.2.1 rfl
  have noUpperExponent : ∀ more, rest ≠ 'E' :: more := by
    rintro more rfl
    exact (stops 'E' rfl).2.2.2 rfl
  unfold readAfterWhole
  split
  · exact absurd rfl (noFraction _)
  · simp only [bind, Except.bind, Option.isNone_none, Bool.and_self, if_true, value]

theorem readNumber_decimal {negative : Bool} {number : Nat} {document : Document} {rest : List Char}
    (value : ofWhole? negative (Digits.decimal number) = some document) (stops : Stops rest) :
    readNumber negative (Digits.decimal number ++ rest) = .ok (document, rest) := by
  rw [readNumber, span_decimal number stops]
  rcases Nat.eq_zero_or_pos number with rfl | positive
  · exact readAfterWhole_of_stops value stops
  · rcases decimal_leading positive with ⟨first, others, digits, notZero⟩
    rw [digits] at value ⊢
    split
    · simp_all
    · simp_all
    · simp_all [readAfterWhole_of_stops]

theorem ofWhole?_decimal {number : Nat} (upper : (number : Int) < integerBound) :
    ofWhole? false (Digits.decimal number) = some (.integer number) := by
  have lower : lowestInteger ≤ (number : Int) :=
    Int.le_trans (by decide) (Int.natCast_nonneg number)
  simp [ofWhole?, decimalNumber_decimal, lower, upper]

theorem ofWhole?_decimal_negative {number : Nat} (lower : lowestInteger ≤ Int.negSucc number) :
    ofWhole? true (Digits.decimal (number + 1)) = some (.integer (.negSucc number)) := by
  have upper : Int.negSucc number < integerBound :=
    Int.lt_of_lt_of_le (Int.negSucc_lt_zero number) (by decide)
  have magnitude : -((number + 1 : Nat) : Int) = Int.negSucc number := rfl
  have positive : ((number + 1 : Nat) : Int) ≠ 0 := by omega
  simp only [ofWhole?, decimalNumber_decimal, if_true, magnitude, lower, upper, positive, and_false,
    not_false_eq_true, and_self]

end Numbers

/-- A reader takes the texts of a language for the values that they are texts of. -/
structure Reads (Text : Language Document) (reader : List Char → ReadResult Document) : Prop where
  reads : ∀ {document spelled rest}, Text document spelled → Stops rest →
    reader (spelled ++ rest) = .ok (document, rest)
  skips : ∀ {blanks : List Char}, Blanks blanks → ∀ characters,
    reader (blanks ++ characters) = reader characters
  starts : ∀ {document spelled}, Text document spelled →
    ∃ first more, spelled = first :: more ∧ isBlank first = false ∧ first ≠ ']'

section Parts

variable {Inner : Language Document} {reader : List Char → ReadResult Document}

theorem Reads.padded (reads : Reads Inner reader) {document : Document} {spelled rest : List Char}
    (text : Padded Inner document spelled) (stops : Stops rest) :
    ∃ after, Blanks after ∧ reader (spelled ++ rest) = .ok (document, after ++ rest) := by
  rcases text with ⟨before, inside, after, blankBefore, inner, blankAfter, rfl⟩
  refine ⟨after, blankAfter, ?_⟩
  rw [List.append_assoc, List.append_assoc, reads.skips blankBefore]
  exact reads.reads inner (stops_blanks blankAfter stops)

/-- A text with blanks around it is still one without those before it. -/
theorem Padded.tidy {Value : Type} {Text : Language Value} {value : Value} {spelled : List Char}
    (text : Padded Text value spelled)
    (starts : ∀ {inside}, Text value inside → ∃ first more, inside = first :: more ∧
      isBlank first = false) :
    ∃ first more inside, Padded Text value (first :: more) ∧ Text value (first :: inside) ∧
      ∀ rest, skipBlanks (spelled ++ rest) = first :: more ++ rest := by
  rcases text with ⟨before, inside, after, blankBefore, inner, blankAfter, rfl⟩
  rcases starts inner with ⟨first, more, rfl, token⟩
  refine ⟨first, more ++ after, more, ?_, inner, ?_⟩
  · exact ⟨[], first :: more, after, blanks_nil, inner, blankAfter, rfl⟩
  · intro rest
    simp only [List.append_assoc, skipBlanks_append blankBefore, List.cons_append,
      skipBlanks_cons token]

theorem Reads.tidy (reads : Reads Inner reader) {document : Document} {spelled : List Char}
    (text : Padded Inner document spelled) :
    ∃ first more, Padded Inner document (first :: more) ∧ first ≠ ']' ∧
      ∀ rest, skipBlanks (spelled ++ rest) = first :: more ++ rest := by
  rcases text.tidy fun inner => (reads.starts inner).imp fun _ => Exists.imp fun _ starts =>
      ⟨starts.1, starts.2.1⟩ with ⟨first, more, inside, tidy, inner, skipped⟩
  rcases reads.starts inner with ⟨_, _, same, -, notClosed⟩
  cases same
  exact ⟨first, more, tidy, notClosed, skipped⟩

theorem Reads.length_pos (reads : Reads Inner reader) {document : Document}
    {spelled : List Char} (text : Padded Inner document spelled) : 0 < spelled.length := by
  rcases text with ⟨before, inside, after, -, inner, -, rfl⟩
  rcases reads.starts inner with ⟨first, more, rfl, -, -⟩
  simp only [List.length_append, List.length_cons]
  omega

/-- The text of items is still one without the blanks before it, and it is not closed at once. -/
theorem Reads.tidyItems (reads : Reads Inner reader) {items : List Document}
    {spelled : List Char} (text : ItemsText Inner items spelled) (rest : List Char) :
    ∃ first more, ItemsText Inner items (first :: more) ∧ first ≠ ']' ∧
      skipBlanks (spelled ++ rest) = first :: more ++ rest := by
  cases text with
  | last only =>
      rcases reads.tidy only with ⟨first, more, tidy, notClosed, skipped⟩
      exact ⟨first, more, .last tidy, notClosed, skipped rest⟩
  | @next item items spelled others item' remaining =>
      rcases reads.tidy item' with ⟨first, more, tidy, notClosed, skipped⟩
      refine ⟨first, more ++ ',' :: others, .next tidy remaining, notClosed, ?_⟩
      rw [List.append_assoc, skipped]
      simp only [List.append_assoc, List.cons_append]

theorem Reads.readItems (reads : Reads Inner reader) {items : List Document}
    {spelled : List Char} (text : ItemsText Inner items spelled) (rest : List Char) :
    ∀ bound, spelled.length ≤ bound →
      readItems reader bound (spelled ++ ']' :: rest) = .ok (items, rest) := by
  induction text with
  | last only =>
      intro bound enough
      have positive := reads.length_pos only
      rcases bound with _ | bound
      · omega
      rcases reads.padded only (stops_cons (by decide) : Stops (']' :: rest)) with
        ⟨after, blankAfter, read⟩
      simp only [Document.readItems, read, skipBlanks_append blankAfter,
        skipBlanks_cons (by decide : isBlank ']' = false)]
  | @next item items spelled more first others ih =>
      intro bound enough
      simp only [List.length_append, List.length_cons] at enough
      rcases bound with _ | bound
      · omega
      rcases reads.padded first (stops_cons (by decide) : Stops (',' :: (more ++ ']' :: rest)))
        with ⟨after, blankAfter, read⟩
      have remaining := ih bound (by omega)
      rw [List.append_assoc, List.cons_append]
      simp only [Document.readItems, read, skipBlanks_append blankAfter,
        skipBlanks_cons (by decide : isBlank ',' = false), remaining]
      rfl

theorem Reads.readArray (reads : Reads Inner reader) {items : List Document}
    {spelled : List Char} (text : ItemsText Inner items spelled) (rest : List Char) :
    readArray reader (spelled ++ ']' :: rest) = .ok (.array items, rest) := by
  rcases reads.tidyItems text (']' :: rest) with ⟨first, more, tidy, notClosed, skipped⟩
  have read := reads.readItems tidy rest (first :: more ++ ']' :: rest).length (by simp)
  rw [Document.readArray, skipped]
  split
  · simp_all
  · rw [read]
    rfl

/-- How a member is read: its key, the colon and its value, one after the other. -/
theorem Reads.member (reads : Reads Inner reader) {member : String × Document}
    {spelled rest : List Char} (text : MemberText Inner member spelled) (stops : Stops rest) :
    ∃ afterQuote afterKey afterColon after, Blanks after ∧
      skipBlanks (spelled ++ rest) = '"' :: afterQuote ∧
      readQuoted none afterQuote = .ok (member.1.toList, afterKey) ∧
      skipBlanks afterKey = ':' :: afterColon ∧
      reader afterColon = .ok (member.2, after ++ rest) := by
  rcases text with ⟨_, value, ⟨before, _, blanks, blankBefore, ⟨inside, content, rfl⟩, blank, rfl⟩,
    inner, rfl⟩
  rcases reads.padded inner stops with ⟨after, blankAfter, read⟩
  refine ⟨inside ++ '"' :: (blanks ++ ':' :: (value ++ rest)), blanks ++ ':' :: (value ++ rest),
    value ++ rest, after, blankAfter, ?_, readQuoted_contentText content _, ?_, read⟩
  · simp only [List.append_assoc, List.cons_append, List.nil_append, skipBlanks_append blankBefore,
      skipBlanks_cons (by decide : isBlank '"' = false)]
  · simp only [skipBlanks_append blank, skipBlanks_cons (by decide : isBlank ':' = false)]

theorem memberText_length_pos {member : String × Document} {spelled : List Char}
    (text : MemberText Inner member spelled) : 0 < spelled.length := by
  rcases text with ⟨key, value, -, -, rfl⟩
  simp only [List.length_append, List.length_cons]
  omega

theorem Reads.readMembers (reads : Reads Inner reader) {members : List (String × Document)}
    {spelled : List Char} (text : MembersText Inner members spelled) (rest : List Char) :
    ∀ bound, spelled.length ≤ bound →
      readMembers reader bound (spelled ++ '\x7d' :: rest) = .ok (members, rest) := by
  induction text with
  | last only =>
      intro bound enough
      have positive := memberText_length_pos only
      rcases bound with _ | bound
      · omega
      rcases reads.member only (stops_cons (by decide) : Stops ('\x7d' :: rest)) with
        ⟨afterQuote, afterKey, afterColon, after, blank, quote, key, colon, value⟩
      simp only [Document.readMembers, quote, key, colon, value, skipBlanks_append blank,
        skipBlanks_cons (by decide : isBlank '\x7d' = false), String.ofList_toList]
  | @next member members spelled more first others ih =>
      intro bound enough
      simp only [List.length_append, List.length_cons] at enough
      rcases bound with _ | bound
      · omega
      rcases reads.member first (stops_cons (by decide) : Stops (',' :: (more ++ '\x7d' :: rest)))
        with ⟨afterQuote, afterKey, afterColon, after, blank, quote, key, colon, value⟩
      have remaining := ih bound (by omega)
      rw [List.append_assoc, List.cons_append]
      simp only [Document.readMembers, quote, key, colon, value, skipBlanks_append blank,
        skipBlanks_cons (by decide : isBlank ',' = false), remaining, String.ofList_toList]
      rfl

/-- The text of a member is still one without the blanks before it; then it starts with a quote. -/
theorem MemberText.tidy {member : String × Document} {spelled : List Char}
    (text : MemberText Inner member spelled) :
    ∃ more, MemberText Inner member ('"' :: more) ∧
      ∀ rest, skipBlanks (spelled ++ rest) = '"' :: more ++ rest := by
  rcases text with ⟨key, value, quoted, inner, rfl⟩
  rcases quoted.tidy fun quoted => ⟨'"', quoted.starts.choose, quoted.starts.choose_spec, rfl⟩ with
    ⟨first, more, inside, tidy, starts, skipped⟩
  rcases starts.starts with ⟨_, same⟩
  cases same
  refine ⟨more ++ ':' :: value, ⟨'"' :: more, value, tidy, inner, rfl⟩, ?_⟩
  intro rest
  rw [List.append_assoc, skipped]
  simp only [List.append_assoc, List.cons_append]

theorem MembersText.tidy {members : List (String × Document)} {spelled : List Char}
    (text : MembersText Inner members spelled) (rest : List Char) :
    ∃ more, MembersText Inner members ('"' :: more) ∧
      skipBlanks (spelled ++ rest) = '"' :: more ++ rest := by
  cases text with
  | last only =>
      rcases only.tidy with ⟨more, tidy, skipped⟩
      exact ⟨more, .last tidy, skipped rest⟩
  | @next member members spelled others first remaining =>
      rcases first.tidy with ⟨more, tidy, skipped⟩
      refine ⟨more ++ ',' :: others, .next tidy remaining, ?_⟩
      rw [List.append_assoc, skipped]
      simp only [List.append_assoc, List.cons_append]

theorem Reads.readObject (reads : Reads Inner reader) {members : List (String × Document)}
    {spelled : List Char} (text : MembersText Inner members spelled) (rest : List Char) :
    readObject reader (spelled ++ '\x7d' :: rest) = .ok (ofMembers members, rest) := by
  rcases text.tidy ('\x7d' :: rest) with ⟨more, tidy, skipped⟩
  have read := reads.readMembers tidy rest ('"' :: more ++ '\x7d' :: rest).length (by simp)
  rw [Document.readObject, skipped]
  split
  · simp_all
  · rw [read]
    rfl

end Parts

section Levels

/-- The text of a whole number starts with a digit or with a minus sign. -/
theorem signed_cases (value : Int) :
    (∃ number first more, value = .ofNat number ∧ Digits.signed value = Digits.decimal number ∧
      Digits.decimal number = first :: more ∧ Digits.isDecimal first = true) ∨
    ∃ number, value = .negSucc number ∧
      Digits.signed value = '-' :: Digits.decimal (number + 1) := by
  cases value with
  | ofNat number =>
      rcases decimal_cons number with ⟨first, more, digits, digit⟩
      exact Or.inl ⟨number, first, more, rfl, rfl, digits, digit⟩
  | negSucc number => exact Or.inr ⟨number, rfl, rfl⟩

theorem isDecimal_apart {first : Char} (digit : Digits.isDecimal first = true) :
    isBlank first = false ∧ first ∉ [']', 'n', 't', 'f', '"', '-', '[', '\x7b'] := by
  refine ⟨?_, ?_⟩
  · apply Bool.eq_false_iff.mpr
    intro blank
    simp only [isBlank, Bool.or_eq_true, decide_eq_true_eq] at blank
    rcases blank with ((rfl | rfl) | rfl) | rfl <;> exact absurd digit (by decide)
  · intro member
    simp only [List.mem_cons, List.not_mem_nil, or_false] at member
    rcases member with rfl | rfl | rfl | rfl | rfl | rfl | rfl | rfl <;>
      exact absurd digit (by decide)

theorem ScalarText.starts {document : Document} {spelled : List Char}
    (text : ScalarText document spelled) :
    ∃ first more, spelled = first :: more ∧ isBlank first = false ∧ first ≠ ']' := by
  cases text with
  | null => exact ⟨'n', _, rfl, by decide, by decide⟩
  | boolean value => cases value <;> exact ⟨_, _, rfl, by decide, by decide⟩
  | @integer value lower upper =>
      rcases signed_cases value with ⟨number, first, more, -, signed, digits, digit⟩ |
        ⟨number, -, signed⟩
      · rcases isDecimal_apart digit with ⟨token, apart⟩
        refine ⟨first, more, signed.trans digits, token, ?_⟩
        rintro rfl
        exact apart List.mem_cons_self
      · exact ⟨'-', _, signed, by decide, by decide⟩
  | text quoted =>
      rcases quoted.starts with ⟨more, rfl⟩
      exact ⟨'"', more, rfl, by decide, by decide⟩

section Scalars

variable (readInner : Option (List Char → ReadResult Document))

theorem readLevel_digit {first : Char} (digit : Digits.isDecimal first = true)
    (more : List Char) :
    readLevel readInner (first :: more) = readNumber false (first :: more) := by
  rcases isDecimal_apart digit with ⟨token, apart⟩
  simp only [List.mem_cons, List.not_mem_nil, or_false, not_or] at apart
  rw [readLevel, skipBlanks_cons token]
  split <;> simp_all

theorem readLevel_minus (more : List Char) :
    readLevel readInner ('-' :: more) = readNumber true more := by
  simp only [readLevel, skipBlanks_cons (by decide : isBlank '-' = false)]

theorem readLevel_scalarText {document : Document} {spelled rest : List Char}
    (text : ScalarText document spelled) (stops : Stops rest) :
    readLevel readInner (spelled ++ rest) = .ok (document, rest) := by
  cases text with
  | null => simp [readLevel, skipBlanks_cons (by decide : isBlank 'n' = false)]
  | boolean value =>
      cases value with
      | false => simp [readLevel, skipBlanks_cons (by decide : isBlank 'f' = false)]
      | true => simp [readLevel, skipBlanks_cons (by decide : isBlank 't' = false)]
  | @integer value lower upper =>
      rcases signed_cases value with ⟨number, first, more, rfl, signed, digits, digit⟩ |
        ⟨number, rfl, signed⟩
      · have read := readNumber_decimal (ofWhole?_decimal upper) stops
        rw [signed]
        rw [digits] at read ⊢
        exact (readLevel_digit readInner digit (more ++ rest)).trans read
      · rw [signed, List.cons_append, readLevel_minus]
        exact readNumber_decimal (ofWhole?_decimal_negative lower) stops
  | @text value spelled quoted =>
      rcases quoted with ⟨inside, content, rfl⟩
      have read := readQuoted_contentText content rest
      simp [readLevel, skipBlanks_cons (by decide : isBlank '"' = false), read, Except.map]

theorem readLevel_skips {blanks : List Char} (blank : Blanks blanks) (characters : List Char) :
    readLevel readInner (blanks ++ characters) = readLevel readInner characters := by
  simp only [readLevel, skipBlanks_append blank]

end Scalars

theorem reads_scalarText : Reads ScalarText (readLevel none) where
  reads := readLevel_scalarText none
  skips := readLevel_skips none
  starts := ScalarText.starts

theorem readArray_blanks (readItem : List Char → ReadResult Document) {blanks : List Char}
    (blank : Blanks blanks) (rest : List Char) :
    readArray readItem (blanks ++ ']' :: rest) = .ok (.array [], rest) := by
  simp only [readArray, skipBlanks_append blank, skipBlanks_cons (by decide : isBlank ']' = false)]

theorem readObject_blanks (readMember : List Char → ReadResult Document) {blanks : List Char}
    (blank : Blanks blanks) (rest : List Char) :
    readObject readMember (blanks ++ '\x7d' :: rest) = .ok (.object [], rest) := by
  simp only [readObject, skipBlanks_append blank,
    skipBlanks_cons (by decide : isBlank '\x7d' = false)]

/-- If the reader of a level takes the texts of that level, then so does the one above it. -/
theorem Reads.level {Inner : Language Document} {reader : List Char → ReadResult Document}
    (reads : Reads Inner reader) : Reads (LevelText Inner) (readLevel (some reader)) where
  reads := by
    intro document spelled rest text stops
    cases text with
    | scalar scalar => exact readLevel_scalarText (some reader) scalar stops
    | noItems blank =>
        have read := readArray_blanks reader blank rest
        simpa [readLevel, skipBlanks_cons (by decide : isBlank '[' = false)] using read
    | array inside =>
        have read := reads.readArray inside rest
        simpa [readLevel, skipBlanks_cons (by decide : isBlank '[' = false)] using read
    | noMembers blank =>
        have read := readObject_blanks reader blank rest
        simpa [readLevel, skipBlanks_cons (by decide : isBlank '\x7b' = false)] using read
    | object inside =>
        have read := reads.readObject inside rest
        simpa [readLevel, skipBlanks_cons (by decide : isBlank '\x7b' = false)] using read
  skips := readLevel_skips (some reader)
  starts := by
    intro document spelled text
    cases text with
    | scalar scalar => exact scalar.starts
    | noItems | array => exact ⟨'[', _, rfl, by decide, by decide⟩
    | noMembers | object => exact ⟨'\x7b', _, rfl, by decide, by decide⟩

/-- The reader takes every text within its levels for the document that it is a text of. -/
theorem reads_textWithin (levels : Nat) : Reads (TextWithin levels) (readValue levels) := by
  induction levels with
  | zero => exact reads_scalarText
  | succ levels ih => exact ih.level

end Levels

/-- Every text of a document is read as that document. -/
theorem read_of_isText {document : Document} {text : String} (isText : IsText document text) :
    read text = .ok document := by
  rcases (reads_textWithin nestingLimit).padded isText stops_nil with ⟨after, blank, value⟩
  rw [List.append_nil] at value
  have ended : skipBlanks (after ++ []) = [] := skipBlanks_append blank []
  simp only [read, value, ended, List.isEmpty_nil, if_true]

/-- The text of an object starts with its brace. -/
theorem LevelText.opened {Inner : Language Document} {document : Document}
    {members : List (String × Document)} {spelled : List Char}
    (text : LevelText Inner document spelled) (isObject : document = .object members) :
    ∃ more, spelled = '\x7b' :: more := by
  cases text with
  | scalar scalar => cases scalar <;> cases isObject
  | noItems | array => cases isObject
  | noMembers | object => exact ⟨_, rfl⟩

/-- Every text of an option set, as an object, is read as that option set. -/
theorem readMap_of_isText {options : OptionSet} {text : String}
    (isText : IsText options.toDocument text) : readMap text = .ok options := by
  have opened : ∃ more, skipBlanks text.toList = '\x7b' :: more := by
    rcases isText with ⟨before, inside, after, blankBefore, inner, -, spelled⟩
    have level : LevelText (TextWithin 126) options.toDocument inside := inner
    rcases level.opened rfl with ⟨more, rfl⟩
    refine ⟨more ++ after, ?_⟩
    rw [spelled, List.append_assoc, skipBlanks_append blankBefore, List.cons_append,
      skipBlanks_cons (by decide)]
  rcases opened with ⟨more, opened⟩
  have kept : KeyMap.ofList options.entries = options :=
    options.ofList_eq_of_perm (List.Perm.refl _)
  have value := read_of_isText isText
  simp only [OptionSet.toDocument] at value
  simp only [readMap, opened, value, kept]

end Reading

end ConsoleFeed.Document
