import ConsoleFeed.Snapshot
import Mathlib.Data.List.Infix

/-!
# What is logged of a payload

A payload is logged by its longest beginning of at most 256 bytes, and there always is one: looking
for the place to cut at never leaves the payload, and the cut never goes through a character.

Of a payload that does not fit, a character follows the beginning that is logged. It takes at most
four bytes and would not fit any more, so fewer than four bytes are left of the limit
(`IsLongestBeginning.nearly_full`).
-/

namespace ConsoleFeed

namespace Utf8.IsLongestBeginning

variable {limit : Nat} {text beginning : String}

/-- A text that fits is its own longest beginning. -/
theorem eq_of_fits (longest : IsLongestBeginning limit text beginning)
    (fits : text.utf8ByteSize ≤ limit) : beginning = text := by
  have whole := longest.longest text List.prefix_rfl fits
  exact String.toList_inj.mp (longest.begins.eq_of_length_le whole.length_le)

/-- A text that does not fit leaves fewer than four bytes free. -/
theorem nearly_full (longest : IsLongestBeginning limit text beginning)
    (tooLong : limit < text.utf8ByteSize) : limit < beginning.utf8ByteSize + 4 := by
  rcases longest.begins with ⟨rest, split⟩
  cases rest with
  | nil =>
      have whole : beginning = text := by
        apply String.toList_inj.mp
        simpa using split
      have fits := longest.fits
      rw [whole] at fits
      omega
  | cons next following =>
      by_contra roomLeft
      have extended : (beginning.push next).toList = beginning.toList ++ [next] := by simp
      have begins : (beginning.push next).toList <+: text.toList := by
        refine ⟨following, ?_⟩
        rw [extended, ← split]
        simp
      have fits : (beginning.push next).utf8ByteSize ≤ limit := by
        have atMostFour := next.utf8Size_le_four
        rw [String.utf8ByteSize_push]
        omega
      have shorter := (longest.longest _ begins fits).length_le
      rw [extended, List.length_append, List.length_singleton] at shorter
      omega

end Utf8.IsLongestBeginning

/-- A payload is logged by its longest beginning of at most 256 bytes: all of it if it fits, and
otherwise one that falls short of the limit by three bytes at most. -/
theorem preview_is_longest_beginning (payload : String) :
    Utf8.beginning? 256 payload = some (preview payload) ∧
    Utf8.IsLongestBeginning 256 payload (preview payload) ∧
    (payload.utf8ByteSize ≤ 256 → preview payload = payload) ∧
    (256 < payload.utf8ByteSize →
      253 ≤ (preview payload).utf8ByteSize ∧ (preview payload).utf8ByteSize ≤ 256) := by
  have longest : Utf8.IsLongestBeginning 256 payload (preview payload) :=
    Utf8.isLongestBeginning_beginning 256 payload
  refine ⟨Utf8.beginning?_eq_beginning 256 payload, longest, longest.eq_of_fits, ?_⟩
  intro tooLong
  have nearlyFull := longest.nearly_full tooLong
  exact ⟨by omega, longest.fits⟩

/-- One byte and so many characters of four bytes. -/
def misaligned (count : Nat) : String := "a" ++ String.ofList (List.replicate count '😀')

theorem toList_misaligned_succ (count : Nat) :
    (misaligned (count + 1)).toList = (misaligned count).toList ++ ['😀'] := by
  simp [misaligned, List.replicate_succ']

/-- Of 257 bytes, the last four of which are one character, the first 253 are logged. -/
theorem preview_is_longest_beginning_of_misaligned :
    256 < (misaligned 64).utf8ByteSize ∧ preview (misaligned 64) = misaligned 63 ∧
      (misaligned 63).utf8ByteSize = 253 := by
  have whole : (misaligned 64).utf8ByteSize = 257 := by decide +kernel
  have shown : (misaligned 63).utf8ByteSize = 253 := by decide +kernel
  have split : (misaligned 64).toList = (misaligned 63).toList ++ ['😀'] :=
    toList_misaligned_succ 63
  rcases preview_is_longest_beginning (misaligned 64) with ⟨-, longest, -, bounds⟩
  have atMost := (bounds (by omega)).2
  have begins : (misaligned 63).toList <+: (preview (misaligned 64)).toList :=
    longest.longest _ ⟨_, split.symm⟩ (by omega)
  have begun := longest.begins
  rw [split] at begun
  refine ⟨by omega, ?_, shown⟩
  rcases List.prefix_concat_iff.mp begun with all | less
  · rw [← split] at all
    rw [String.toList_inj.mp all] at atMost
    omega
  · exact String.toList_inj.mp (less.eq_of_length_le begins.length_le)

end ConsoleFeed
