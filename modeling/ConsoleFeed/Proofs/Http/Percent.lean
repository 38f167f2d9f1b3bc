import ConsoleFeed.Http.Percent
import ConsoleFeed.Http.Target

/-!
# Ways to write bytes

In a target a byte may stand for itself where its character may stand, and every byte may be written
as a percent sign with two hexadecimal digits of either case. `Writes` says what these ways are. The
parts of a target differ in the characters that may stand for a byte, so these are a parameter.

Where characters stand for themselves, what was written in any of the ways is read back
(`decode_of_writes`), and what is written byte by byte is written in one of them (`writes_flatMap`).
-/

namespace ConsoleFeed.Percent

/-- The ways to write bytes, with some characters that may stand for a byte. -/
inductive Writes (Stands : Char → UInt8 → Prop) : List UInt8 → List Char → Prop
  | nil : Writes Stands [] []
  | bare {character : Char} {byte : UInt8} {bytes : List UInt8} {characters : List Char}
      (stands : Stands character byte) (others : Writes Stands bytes characters) :
      Writes Stands (byte :: bytes) (character :: characters)
  | escaped {high low : Char} {highValue lowValue : Nat} {bytes : List UInt8}
      {characters : List Char} (highDigit : Digits.hexValue? high = some highValue)
      (lowDigit : Digits.hexValue? low = some lowValue) (others : Writes Stands bytes characters) :
      Writes Stands (UInt8.ofNat (highValue * 16 + lowValue) :: bytes)
        ('%' :: high :: low :: characters)

/-- A character of ASCII, other than the percent sign, may stand for its own byte. -/
def Itself (character : Char) (byte : UInt8) : Prop :=
  character.toNat < 0x80 ∧ character ≠ '%' ∧ byte = UInt8.ofNat character.toNat

section Digits

theorem utf8EncodeChar_ascii {character : Char} (ascii : character.toNat < 0x80) :
    String.utf8EncodeChar character = [UInt8.ofNat character.toNat] := by
  have small : character.val.toNat ≤ 0x7F := by
    have same : character.val.toNat = character.toNat := rfl
    omega
  simp only [String.utf8EncodeChar, small, if_true]
  rfl

theorem hexValue?_bounds {digit : Char} {value : Nat}
    (known : Digits.hexValue? digit = some value) :
    (0x30 ≤ digit.toNat ∧ digit.toNat ≤ 0x39) ∨ (0x61 ≤ digit.toNat ∧ digit.toNat ≤ 0x66) ∨
      (0x41 ≤ digit.toNat ∧ digit.toNat ≤ 0x46) := by
  simp only [Digits.hexValue?, Char.le_def, UInt32.le_iff_toNat_le] at known
  split at known
  · rename_i bounds
    exact Or.inl bounds
  · split at known
    · rename_i bounds
      exact Or.inr (Or.inl bounds)
    · split at known
      · rename_i bounds
        exact Or.inr (Or.inr bounds)
      · cases known

theorem ne_of_toNat_ne {first second : Char} (different : first.toNat ≠ second.toNat) :
    first ≠ second :=
  fun same => different (congrArg Char.toNat same)

theorem toNat_ofNat_byte (byte : UInt8) : (Char.ofNat byte.toNat).toNat = byte.toNat := by
  have valid : byte.toNat.isValidChar := by
    have below := byte.toNat_lt
    unfold Nat.isValidChar
    omega
  rw [Char.ofNat, dif_pos valid]
  rfl

theorem toNat_ofNat_of_ascii {character : Char} (ascii : character.toNat < 0x80) :
    (UInt8.ofNat character.toNat).toNat = character.toNat := by
  rw [UInt8.toNat_ofNat']
  omega

theorem digitValue?_of_ascii {digit : Char} (ascii : digit.toNat < 0x80) :
    digitValue? (UInt8.ofNat digit.toNat) = Digits.hexValue? digit := by
  rw [digitValue?, toNat_ofNat_of_ascii ascii, Char.ofNat_toNat]

end Digits

section Decoding

variable {Stands : Char → UInt8 → Prop} {bytes : List UInt8} {characters : List Char}

/-- What holds of every character that may stand for a byte, of the percent sign and of the digits
holds of all that is written. -/
theorem Writes.forall_mem (Holds : Char → Prop)
    (bare : ∀ character byte, Stands character byte → Holds character) (sign : Holds '%')
    (digits : ∀ digit value, Digits.hexValue? digit = some value → Holds digit)
    (writes : Writes Stands bytes characters) : ∀ character ∈ characters, Holds character := by
  induction writes with
  | nil => exact nofun
  | bare stands _ ih => exact List.forall_mem_cons.mpr ⟨bare _ _ stands, ih⟩
  | escaped highDigit lowDigit _ ih =>
      simp only [List.forall_mem_cons]
      exact ⟨sign, digits _ _ highDigit, digits _ _ lowDigit, ih⟩

/-- Characters that stand for the same bytes may be put into the place of others. -/
theorem Writes.map {Other : Char → UInt8 → Prop} (rename : Char → Char)
    (bare : ∀ character byte, Stands character byte → Other (rename character) byte)
    (sign : rename '%' = '%')
    (digits : ∀ digit value, Digits.hexValue? digit = some value → rename digit = digit)
    (writes : Writes Stands bytes characters) : Writes Other bytes (characters.map rename) := by
  induction writes with
  | nil => exact .nil
  | bare stands _ ih => exact .bare (bare _ _ stands) ih
  | escaped highDigit lowDigit _ ih =>
      simp only [List.map_cons, sign, digits _ _ highDigit, digits _ _ lowDigit]
      exact .escaped highDigit lowDigit ih

theorem decode_cons_of_ne {byte : UInt8} (different : byte ≠ sign) (rest : List UInt8) :
    decode (byte :: rest) = byte :: decode rest := by
  match rest with
  | [] => rfl
  | [_] => rfl
  | _ :: _ :: _ => rw [decode, if_neg different]

/-- Bytes that are written with characters that stand for themselves are read back. -/
theorem decode_of_writes (writes : Writes Itself bytes characters) :
    decode (characters.flatMap String.utf8EncodeChar) = bytes := by
  induction writes with
  | nil => rfl
  | @bare character byte bytes characters stands _ ih =>
      rcases stands with ⟨ascii, notSign, rfl⟩
      have notSignByte : UInt8.ofNat character.toNat ≠ sign := by
        intro same
        have number := congrArg UInt8.toNat same
        rw [toNat_ofNat_of_ascii ascii] at number
        exact notSign (Char.toNat_inj.mp number)
      rw [List.flatMap_cons, utf8EncodeChar_ascii ascii, List.singleton_append,
        decode_cons_of_ne notSignByte, ih]
  | @escaped high low highValue lowValue bytes characters highDigit lowDigit _ ih =>
      have highAscii : high.toNat < 0x80 := by
        have bounds := hexValue?_bounds highDigit
        omega
      have lowAscii : low.toNat < 0x80 := by
        have bounds := hexValue?_bounds lowDigit
        omega
      have spelled : String.utf8EncodeChar '%' = [sign] := by decide
      have meant : pair? (UInt8.ofNat high.toNat) (UInt8.ofNat low.toNat) =
          some (UInt8.ofNat (highValue * 16 + lowValue)) := by
        simp only [pair?, digitValue?_of_ascii highAscii, digitValue?_of_ascii lowAscii, highDigit,
          lowDigit]
      simp only [List.flatMap_cons, spelled, utf8EncodeChar_ascii highAscii,
        utf8EncodeChar_ascii lowAscii, List.singleton_append, decode, meant, if_true, ih]

end Decoding

section Encoding

theorem hexValue?_digit : ∀ value < 16, Digits.hexValue? (digit value) = some value := by
  decide

/-- What is written byte by byte is written in one of the ways, if unreserved characters may stand
for themselves. -/
theorem writes_flatMap {Stands : Char → UInt8 → Prop} {write : UInt8 → List Char}
    (single : ∀ byte, (∃ character, write byte = [character] ∧ Stands character byte) ∨
      write byte = ['%', digit (byte.toNat / 16), digit (byte.toNat % 16)])
    (bytes : List UInt8) : Writes Stands bytes (bytes.flatMap write) := by
  induction bytes with
  | nil => exact .nil
  | cons byte rest ih =>
      rw [List.flatMap_cons]
      rcases single byte with ⟨character, written, stands⟩ | written
      · rw [written]
        exact .bare stands ih
      · have below := byte.toNat_lt
        have whole : UInt8.ofNat (byte.toNat / 16 * 16 + byte.toNat % 16) = byte := by
          have same : byte.toNat / 16 * 16 + byte.toNat % 16 = byte.toNat := by omega
          rw [same, UInt8.ofNat_toNat]
        have high := hexValue?_digit (byte.toNat / 16) (by omega)
        have low := hexValue?_digit (byte.toNat % 16) (by omega)
        have escaped := Writes.escaped high low ih
        rw [whole] at escaped
        rw [written]
        exact escaped

theorem unreserved_spec {byte : UInt8} (unreserved : isUnreserved byte = true) :
    Itself (Char.ofNat byte.toNat) byte ∧ Http.Target.inPath (Char.ofNat byte.toNat) = true ∧
      Http.Target.inQuery (Char.ofNat byte.toNat) = true ∧
      Char.ofNat byte.toNat ∉ ['/', '+', '&', '='] := by
  have all : ∀ number < 256, isUnreserved (UInt8.ofNat number) = true →
      (Char.ofNat number).toNat < 0x80 ∧ Char.ofNat number ≠ '%' ∧
        Http.Target.inPath (Char.ofNat number) = true ∧
        Http.Target.inQuery (Char.ofNat number) = true ∧
        Char.ofNat number ∉ ['/', '+', '&', '='] := by
    decide +kernel
  have found := all byte.toNat byte.toNat_lt
  rw [UInt8.ofNat_toNat] at found
  rcases found unreserved with ⟨ascii, notSign, path, query, apart⟩
  refine ⟨⟨ascii, notSign, ?_⟩, path, query, apart⟩
  rw [toNat_ofNat_byte, UInt8.ofNat_toNat]

end Encoding

end ConsoleFeed.Percent
