import ConsoleFeed.Text.Utf8

/-!
# Beginnings of texts

A text that is too long to be shown is shown by its beginning. The place to cut it at is looked for
in its bytes, from the limit backwards and a byte at a time, until the text can be cut there.

Two things could go wrong: the search could leave the text, and the cut could leave bytes that spell
no text. Neither can happen. The first byte of a character goes on with no sequence and each later
one does (`utf8EncodeChar_shape`), so the boundaries that the bytes show are just the places where
beginnings of the text end (`isBoundary_encode_iff`), and the last one up to the limit ends the
longest beginning that fits.
-/

namespace ConsoleFeed.Utf8

/-- Whether a byte goes on with a sequence that an earlier byte starts. -/
def isContinuation (byte : UInt8) : Bool :=
  0x80 ≤ byte && byte < 0xC0

/-- Whether bytes can be cut at this place: in front of them all, in front of a byte that goes on
with no sequence, and behind them all. -/
def isBoundary (bytes : List UInt8) (place : Nat) : Bool :=
  place == 0 ||
    match bytes[place]? with
    | some byte => !isContinuation byte
    | none => place == bytes.length

/-- The first boundary on the way back from a place; `none` if the way leaves the bytes. -/
def boundaryBefore? (bytes : List UInt8) : Nat → Option Nat
  | 0 => if isBoundary bytes 0 then some 0 else none
  | place + 1 =>
      if isBoundary bytes (place + 1) then some (place + 1) else boundaryBefore? bytes place

/-- The text that the bytes in front of a place spell; `none` if a character is cut there. -/
def cut? (bytes : List UInt8) (place : Nat) : Option String :=
  if isBoundary bytes place then decode? (bytes.take place) else none

/-- What is shown of a text where `limit` bytes can be shown; `none` if there is no place to cut it
at, or the cut goes through a character. -/
def beginning? (limit : Nat) (text : String) : Option String :=
  if text.utf8ByteSize ≤ limit then some text
  else
    let bytes := encode text
    (boundaryBefore? bytes limit).bind (cut? bytes)

/-- The text begins with `beginning`, which takes at most `limit` bytes, and every beginning of the
text that takes no more is a beginning of that one. -/
structure IsLongestBeginning (limit : Nat) (text beginning : String) : Prop where
  begins : beginning.toList <+: text.toList
  fits : beginning.utf8ByteSize ≤ limit
  longest : ∀ other : String, other.toList <+: text.toList → other.utf8ByteSize ≤ limit →
    other.toList <+: beginning.toList

section Boundaries

theorem isContinuation_ofNat {number : Nat} (small : number < 0x100) :
    isContinuation (UInt8.ofNat number) = decide (0x80 ≤ number ∧ number < 0xC0) := by
  have kept : (UInt8.ofNat number).toNat = number := by
    rw [UInt8.toNat_ofNat', Nat.mod_eq_of_lt small]
  simp [isContinuation, UInt8.le_iff_toNat_le, UInt8.lt_iff_toNat_lt, kept]

/-- A later byte of a character spells one digit to the base 64, and goes on whatever the digit. -/
theorem isContinuation_later (number : Nat) :
    isContinuation (UInt8.ofNat (number % 0x40 + 0x80)) = true := by
  rw [isContinuation_ofNat (by omega)]
  exact decide_eq_true (by omega)

/-- The first byte of a character goes on with no sequence, and each later one does. -/
theorem utf8EncodeChar_shape (character : Char) :
    ∃ first later, String.utf8EncodeChar character = first :: later ∧
      isContinuation first = false ∧ ∀ byte ∈ later, isContinuation byte = true := by
  simp only [String.utf8EncodeChar]
  -- One case for each number of bytes.
  repeat' split
  all_goals
    refine ⟨_, _, rfl, ?_, ?_⟩
    · rw [isContinuation_ofNat (by omega)]
      exact decide_eq_false (by omega)
    · simp only [List.forall_mem_cons, isContinuation_later, List.not_mem_nil, false_implies,
        implies_true, and_self]

theorem isBoundary_zero (bytes : List UInt8) : isBoundary bytes 0 = true := by
  simp [isBoundary]

/-- Within a character there is no boundary. -/
theorem isBoundary_within (character : Char) (rest : List UInt8) {place : Nat}
    (behindFirst : 0 < place) (beforeEnd : place < (String.utf8EncodeChar character).length) :
    isBoundary (String.utf8EncodeChar character ++ rest) place = false := by
  rcases utf8EncodeChar_shape character with ⟨first, later, shape, -, goOn⟩
  rw [shape] at beforeEnd ⊢
  cases place with
  | zero => cases behindFirst
  | succ place =>
      have inside : place < later.length := Nat.lt_of_succ_lt_succ beforeEnd
      have byte : (first :: later ++ rest)[place + 1]? = some later[place] := by
        rw [List.cons_append, List.getElem?_cons_succ, List.getElem?_append_left inside,
          List.getElem?_eq_getElem inside]
      have goesOn : isContinuation later[place] = true := goOn _ (List.getElem_mem inside)
      rw [isBoundary, byte]
      simp [goesOn]

/-- Behind other bytes, boundaries are where they are without those. -/
theorem isBoundary_append_add (before bytes : List UInt8) {place : Nat} (behindFirst : 0 < place) :
    isBoundary (before ++ bytes) (before.length + place) = isBoundary bytes place := by
  have byte : (before ++ bytes)[before.length + place]? = bytes[place]? := by
    rw [List.getElem?_append_right (Nat.le_add_right _ _), Nat.add_sub_cancel_left]
  have atStart : (before.length + place == 0) = (place == 0) := by
    rw [Bool.eq_iff_iff, beq_iff_eq, beq_iff_eq]
    omega
  have atEnd : (before.length + place == (before ++ bytes).length) = (place == bytes.length) := by
    rw [Bool.eq_iff_iff, beq_iff_eq, beq_iff_eq, List.length_append]
    omega
  rw [isBoundary, isBoundary, byte, atStart, atEnd]

/-- Where a beginning of the characters ends there is a boundary. -/
theorem isBoundary_length_flatMap (beginning rest : List Char) :
    isBoundary ((beginning ++ rest).flatMap String.utf8EncodeChar)
      (beginning.flatMap String.utf8EncodeChar).length = true := by
  rw [List.flatMap_append]
  cases rest with
  | nil => simp [isBoundary]
  | cons character rest =>
      rcases utf8EncodeChar_shape character with ⟨first, later, shape, starts, -⟩
      simp [isBoundary, shape, starts]

/-- At each boundary a beginning of the characters ends. -/
theorem exists_prefix_of_isBoundary {characters : List Char} {place : Nat}
    (boundary : isBoundary (characters.flatMap String.utf8EncodeChar) place = true) :
    ∃ beginning, beginning <+: characters ∧
      (beginning.flatMap String.utf8EncodeChar).length = place := by
  induction characters generalizing place with
  | nil =>
      have atStart : place = 0 := by simpa [isBoundary] using boundary
      exact ⟨[], List.nil_prefix, atStart.symm⟩
  | cons character rest ih =>
      rw [List.flatMap_cons] at boundary
      rcases Nat.eq_zero_or_pos place with rfl | behindFirst
      · exact ⟨[], List.nil_prefix, rfl⟩
      rcases Nat.lt_or_ge place (String.utf8EncodeChar character).length with inside | behind
      · rw [isBoundary_within character _ behindFirst inside] at boundary
        cases boundary
      obtain ⟨further, rfl⟩ := Nat.exists_eq_add_of_le behind
      rcases Nat.eq_zero_or_pos further with rfl | beyond
      · exact ⟨[character], by simp, by simp⟩
      · rw [isBoundary_append_add _ _ beyond] at boundary
        rcases ih boundary with ⟨beginning, begins, ends⟩
        exact ⟨character :: beginning, List.cons_prefix_cons.mpr ⟨rfl, begins⟩, by simp [← ends]⟩

/-- The boundaries of a text are the places where its beginnings end. -/
theorem isBoundary_encode_iff {text : String} {place : Nat} :
    isBoundary (encode text) place = true ↔
      ∃ beginning : String, beginning.toList <+: text.toList ∧ beginning.utf8ByteSize = place := by
  constructor
  · intro boundary
    rcases exists_prefix_of_isBoundary boundary with ⟨beginning, begins, ends⟩
    refine ⟨String.ofList beginning, by simpa using begins, ?_⟩
    rw [← length_encode, encode, String.toList_ofList, ends]
  · rintro ⟨beginning, ⟨rest, split⟩, rfl⟩
    rw [encode, ← split, ← length_encode, encode]
    exact isBoundary_length_flatMap beginning.toList rest

end Boundaries

section Cutting

/-- The way back ends at the last boundary that is not behind its start. -/
theorem boundaryBefore?_last (bytes : List UInt8) (start : Nat) :
    ∃ place, boundaryBefore? bytes start = some place ∧
      place ≤ start ∧ isBoundary bytes place = true ∧
      ∀ other ≤ start, isBoundary bytes other = true → other ≤ place := by
  induction start with
  | zero => exact ⟨0, by simp [boundaryBefore?, isBoundary_zero], by simp [isBoundary_zero]⟩
  | succ start ih =>
      by_cases here : isBoundary bytes (start + 1) = true
      · exact ⟨start + 1, by simp [boundaryBefore?, here], Nat.le_refl _, here,
          fun other upTo _ => upTo⟩
      · rcases ih with ⟨place, found, upTo, boundary, last⟩
        refine ⟨place, by simp [boundaryBefore?, here, found], Nat.le_succ_of_le upTo, boundary, ?_⟩
        intro other otherUpTo otherBoundary
        rcases Nat.lt_or_eq_of_le otherUpTo with earlier | rfl
        · exact last other (Nat.le_of_lt_succ earlier) otherBoundary
        · exact absurd otherBoundary here

/-- Cutting a text where one of its beginnings ends gives the beginning. -/
theorem cut?_encode {beginning text : String} (begins : beginning.toList <+: text.toList) :
    cut? (encode text) beginning.utf8ByteSize = some beginning := by
  have boundary : isBoundary (encode text) beginning.utf8ByteSize = true :=
    isBoundary_encode_iff.mpr ⟨beginning, begins, rfl⟩
  have taken : (encode text).take beginning.utf8ByteSize = encode beginning := by
    rcases begins with ⟨rest, split⟩
    rw [encode, ← split, List.flatMap_append, ← length_encode]
    exact List.take_left
  rw [cut?, if_pos boundary, taken, decode?_encode]

/-- Of two beginnings of a text, the one that takes no more bytes begins the other. -/
theorem prefix_of_utf8ByteSize_le {first second text : String}
    (firstBegins : first.toList <+: text.toList) (secondBegins : second.toList <+: text.toList)
    (noMore : first.utf8ByteSize ≤ second.utf8ByteSize) : first.toList <+: second.toList := by
  rcases List.prefix_or_prefix_of_prefix firstBegins secondBegins with done | ⟨rest, split⟩
  · exact done
  · have whole : first = second ++ String.ofList rest := by
      apply String.toList_inj.mp
      simp [split]
    have nothing : String.ofList rest = "" := by
      rw [whole, String.utf8ByteSize_append] at noMore
      apply String.utf8ByteSize_eq_zero_iff.mp
      omega
    have same : first = second := by rw [whole, nothing, String.append_empty]
    exact same ▸ List.prefix_rfl

/-- A text is always shown, and by its longest beginning that fits. -/
theorem exists_beginning? (limit : Nat) (text : String) :
    ∃ beginning, beginning? limit text = some beginning ∧
      IsLongestBeginning limit text beginning := by
  by_cases short : text.utf8ByteSize ≤ limit
  · exact ⟨text, if_pos short, List.prefix_rfl, short, fun _ begins _ => begins⟩
  · rcases boundaryBefore?_last (encode text) limit with ⟨place, found, upTo, boundary, last⟩
    rcases isBoundary_encode_iff.mp boundary with ⟨beginning, begins, rfl⟩
    refine ⟨beginning, ?_, begins, upTo, ?_⟩
    · rw [beginning?, if_neg short]
      change (boundaryBefore? (encode text) limit).bind (cut? (encode text)) = some beginning
      rw [found]
      exact cut?_encode begins
    · intro other otherBegins fits
      have ends := isBoundary_encode_iff.mpr ⟨other, otherBegins, rfl⟩
      exact prefix_of_utf8ByteSize_le otherBegins begins (last _ fits ends)

theorem isSome_beginning? (limit : Nat) (text : String) : (beginning? limit text).isSome = true := by
  rcases exists_beginning? limit text with ⟨beginning, shown, -⟩
  rw [shown]
  rfl

/-- The longest beginning of the text that takes at most `limit` bytes. -/
def beginning (limit : Nat) (text : String) : String :=
  (beginning? limit text).get (isSome_beginning? limit text)

theorem beginning?_eq_beginning (limit : Nat) (text : String) :
    beginning? limit text = some (beginning limit text) :=
  (Option.some_get _).symm

theorem isLongestBeginning_beginning (limit : Nat) (text : String) :
    IsLongestBeginning limit text (beginning limit text) := by
  rcases exists_beginning? limit text with ⟨found, shown, longest⟩
  rw [beginning?_eq_beginning] at shown
  rw [Option.some.inj shown]
  exact longest

end Cutting

end ConsoleFeed.Utf8
