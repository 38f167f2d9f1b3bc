import ConsoleFeed.Json5.Reader
import ConsoleFeed.Proofs.Document.Texts
import Mathlib.Tactic.IntervalCases

/-!
# Objects of whole numbers without blanks

A record whose fields are whole numbers is written as an object without blanks, its keys in double
quotes and its numbers in decimal digits. This file says what the grammar gives for such a text: the
members in their order, each key as the characters it is written in, each number as its digits.
-/

namespace ConsoleFeed.Json5

/-- Whether a character stands for itself between double quotes. -/
def isPlain (character : Char) : Bool :=
  character != '"' && character != '\\' && !endsLine character

/-- A key, a colon and the digits of a number. -/
def memberText (member : String × Nat) : List Char :=
  '"' :: member.1.toList ++ '"' :: ':' :: Digits.decimal member.2

/-- The texts of members with commas between them. -/
def membersText : List (String × Nat) → List Char
  | [] => []
  | [last] => memberText last
  | member :: rest => memberText member ++ ',' :: membersText rest

/-- The text of an object. -/
def objectText (members : List (String × Nat)) : String :=
  String.ofList ('\x7b' :: membersText members ++ ['\x7d'])

/-- A number in decimal digits without a sign. -/
def wholeNumber (number : Nat) : Value :=
  .number ⟨.absent, .decimal (Digits.decimal number) none none⟩

/-- A member as it is written. -/
def writtenMember (member : String × Nat) : List Piece × Value :=
  (member.1.toList.map .literal, wholeNumber member.2)

section Tokens

theorem skip_cons {first : Char} (token : isBlank first = false) (notSlash : first ≠ '/')
    (rest : List Char) : skip (first :: rest) = first :: rest := by
  rw [skip, List.length_cons]
  unfold skipWithin
  split
  next same => exact absurd (List.cons.inj same).1 notSlash
  next same => exact absurd (List.cons.inj same).1 notSlash
  next same =>
    cases same
    rw [token, if_neg Bool.false_ne_true]
  next same => cases same

theorem readQuoted_plain {content : List Char} (plain : content.all isPlain = true)
    (rest : List Char) :
    readQuoted '"' (content ++ '"' :: rest) = some (content.map .literal, rest) := by
  induction content with
  | nil => rw [List.nil_append, readQuoted] <;> simp
  | cons character others ih =>
      simp only [List.all_cons, isPlain, Bool.and_eq_true, bne_iff_ne, Bool.not_eq_true'] at plain
      rcases plain with ⟨⟨⟨notQuote, notBackslash⟩, notEnd⟩, othersPlain⟩
      have onward := ih othersPlain
      rw [List.cons_append, readQuoted]
      · simp [notQuote, notBackslash, notEnd, onward, consPiece]
      all_goals simp_all

/-- The digits of decimal numbers. -/
theorem mem_digits {character : Char} (digit : Digits.isDecimal character = true) :
    character ∈ ['0', '1', '2', '3', '4', '5', '6', '7', '8', '9'] := by
  have bounds : 48 ≤ character.toNat ∧ character.toNat ≤ 57 := by
    simp only [Digits.isDecimal, Digits.decimalValue?] at digit
    split at digit
    next bounds => exact bounds
    next => cases digit
  rw [← Char.ofNat_toNat character]
  rcases bounds with ⟨lower, upper⟩
  interval_cases character.toNat <;> decide

/-- A digit begins no other token than a number. -/
theorem digit_apart {character : Char} (digit : Digits.isDecimal character = true) :
    isBlank character = false ∧
      character ∉ ['/', 'n', 't', 'f', '"', '\'', '[', '\x7b', '-', '+', 'I', 'N', '.'] := by
  have digits := mem_digits digit
  simp only [List.mem_cons, List.not_mem_nil, or_false] at digits
  rcases digits with rfl | rfl | rfl | rfl | rfl | rfl | rfl | rfl | rfl | rfl <;> decide

end Tokens

section Numbers

/-- What stands after a member's number. -/
def Closes (characters : List Char) : Prop :=
  ∃ rest, characters = ',' :: rest ∨ characters = '\x7d' :: rest

variable {rest : List Char}

theorem Closes.stops (closes : Closes rest) : Document.Stops rest := by
  rcases closes with ⟨more, rfl | rfl⟩ <;> exact Document.stops_cons (by decide)

theorem readFraction_of_closes (whole : List Char) (closes : Closes rest) :
    readFraction whole rest = (.decimal whole none none, rest) := by
  rcases closes with ⟨more, rfl | rfl⟩ <;> simp [readFraction, readExponent]

theorem readMagnitude_decimal (number : Nat) (closes : Closes rest) :
    readMagnitude (Digits.decimal number ++ rest) =
      some (.decimal (Digits.decimal number) none none, rest) := by
  rcases Nat.eq_zero_or_pos number with rfl | positive
  · have zero : Digits.decimal 0 = ['0'] := rfl
    have fraction := readFraction_of_closes ['0'] closes
    rw [zero, List.singleton_append]
    rcases closes with ⟨more, rfl | rfl⟩ <;> cases more <;> simp [readMagnitude, fraction]
  · rcases Document.decimal_leading positive with ⟨first, others, digits, notZero⟩
    have digit : Digits.isDecimal first = true := by
      rcases Document.decimal_cons number with ⟨_, _, same, isDigit⟩
      rw [digits] at same
      cases same
      exact isDigit
    have apart := (digit_apart digit).2
    have run := Document.span_decimal number closes.stops
    rw [digits, List.cons_append] at run ⊢
    simp only [List.mem_cons, List.not_mem_nil, or_false, not_or] at apart
    unfold readMagnitude
    split <;> simp_all [readFraction_of_closes _ closes]

theorem readNumber_decimal (number : Nat) (closes : Closes rest) :
    readNumber (Digits.decimal number ++ rest) = some (wholeNumber number, rest) := by
  have magnitude := readMagnitude_decimal number closes
  rcases Document.decimal_cons number with ⟨first, others, digits, digit⟩
  have apart := (digit_apart digit).2
  rw [digits, List.cons_append] at magnitude ⊢
  simp only [List.mem_cons, List.not_mem_nil, or_false, not_or] at apart
  unfold readNumber
  split <;> simp_all [wholeNumber]

/-- A reader of values that takes the numbers of members. -/
def ReadsNumbers (reader : List Char → Option (Value × List Char)) : Prop :=
  ∀ number {rest}, Closes rest →
    reader (Digits.decimal number ++ rest) = some (wholeNumber number, rest)

theorem readsNumbers_readLevel (readInner : List Char → Option (Value × List Char)) :
    ReadsNumbers (readLevel readInner) := by
  intro number rest closes
  have read := readNumber_decimal number closes
  rcases Document.decimal_cons number with ⟨first, others, digits, digit⟩
  have apart := (digit_apart digit).2
  rw [digits, List.cons_append] at read ⊢
  simp only [List.mem_cons, List.not_mem_nil, or_false, not_or] at apart
  unfold readLevel
  split <;> simp_all

end Numbers

section Members

variable {reader : List Char → Option (Value × List Char)} {rest : List Char}

theorem skip_decimal (number : Nat) (rest : List Char) :
    skip (Digits.decimal number ++ rest) = Digits.decimal number ++ rest := by
  rcases Document.decimal_cons number with ⟨first, others, digits, digit⟩
  rcases digit_apart digit with ⟨token, apart⟩
  rw [digits]
  refine skip_cons token ?_ _
  rintro rfl
  exact apart List.mem_cons_self

/-- A member is read up to the closing brace, or up to the comma before the next one. -/
theorem readMembers_memberText (reads : ReadsNumbers reader) {member : String × Nat}
    (plain : member.1.toList.all isPlain = true) (bound : Nat) (rest : List Char) :
    readMembers reader (bound + 1) (memberText member ++ '\x7d' :: rest) =
        some ([writtenMember member], rest) ∧
      readMembers reader (bound + 1) (memberText member ++ ',' :: rest) =
        (readMembers reader bound rest).map fun (members, rest) =>
          (writtenMember member :: members, rest) := by
  have spelled : ∀ after, memberText member ++ after = '"' :: (member.1.toList ++ '"' :: ':' ::
      (Digits.decimal member.2 ++ after)) := by
    simp [memberText]
  have key := fun after => readQuoted_plain plain (':' :: (Digits.decimal member.2 ++ after))
  have colon := fun more => skip_cons (by decide : isBlank ':' = false) (by decide) more
  have comma := fun more => skip_cons (by decide : isBlank ',' = false) (by decide) more
  have brace := fun more => skip_cons (by decide : isBlank '\x7d' = false) (by decide) more
  constructor
  · have value := reads member.2 (⟨rest, .inr rfl⟩ : Closes ('\x7d' :: rest))
    rw [spelled, readMembers, skip_cons (by decide) (by decide)]
    simp [readKey, key, colon, skip_decimal, value, brace, writtenMember]
  · have value := reads member.2 (⟨rest, .inl rfl⟩ : Closes (',' :: rest))
    rw [spelled, readMembers, skip_cons (by decide) (by decide)]
    simp [readKey, key, colon, skip_decimal, value, comma, writtenMember]

/-- All the members are read, in their order. -/
theorem readMembers_membersText (reads : ReadsNumbers reader) {members : List (String × Nat)}
    (plain : ∀ member ∈ members, member.1.toList.all isPlain = true) {bound : Nat}
    (enough : members.length < bound) (rest : List Char) :
    readMembers reader bound (membersText members ++ '\x7d' :: rest) =
      some (members.map writtenMember, rest) := by
  obtain ⟨bound, rfl⟩ : ∃ before, bound = before + 1 := ⟨bound - 1, by omega⟩
  induction members using membersText.induct generalizing bound with
  | case1 =>
      rw [membersText, List.nil_append, readMembers, skip_cons (by decide) (by decide)]
      rfl
  | case2 last => exact (readMembers_memberText reads (plain last List.mem_cons_self) bound rest).1
  | case3 member others more ih =>
      rw [List.length_cons] at enough
      obtain ⟨bound, rfl⟩ : ∃ before, bound = before + 1 := ⟨bound - 1, by omega⟩
      have onward := ih (fun other present => plain other (List.mem_cons_of_mem _ present)) bound
        (by omega)
      rw [membersText.eq_3 member others more, List.append_assoc, List.cons_append,
        (readMembers_memberText reads (plain member List.mem_cons_self) (bound + 1) _).2, onward]
      rfl

theorem length_le_membersText (members : List (String × Nat)) :
    members.length ≤ (membersText members).length := by
  induction members using membersText.induct with
  | case1 => exact Nat.le_refl 0
  | case2 last => simp [membersText, memberText]
  | case3 member others more ih =>
      rw [membersText.eq_3 member others more]
      simp only [List.length_append, List.length_cons]
      omega

/-- An object of whole numbers is read as its members. -/
theorem read?_objectText {members : List (String × Nat)}
    (plain : ∀ member ∈ members, member.1.toList.all isPlain = true) :
    read? (objectText members) =
      some (.object (firstOf (membersText members ++ ['\x7d'])) (members.map writtenMember)) := by
  have inside := readMembers_membersText
    (readsNumbers_readLevel (readValue (membersText members ++ ['\x7d']).length)) plain
    (Nat.lt_succ_of_le ((length_le_membersText members).trans
      (List.length_append ▸ Nat.le_add_right _ ['\x7d'].length))) []
  have brace := skip_cons (by decide : isBlank '\x7b' = false) (by decide)
    (membersText members ++ ['\x7d'])
  simp only [read?, objectText, String.toList_ofList, List.cons_append, brace, List.length_cons,
    readValue, readLevel]
  rw [inside]
  rfl

end Members

end ConsoleFeed.Json5
