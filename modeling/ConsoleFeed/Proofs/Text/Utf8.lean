import ConsoleFeed.Text.Utf8
import Mathlib.Data.List.Nodup

/-!
# The order of texts by their bytes

Comparing two texts is comparing their bytes. So a listing sorted by the bytes of its keys is the
one whose keys ascend.

A character's number is spelled by its bytes to the base 64, the highest digit first and behind a
mark of how many there are, and the mark of a longer sequence is the greater one. So of two
characters the smaller one's bytes come first whatever follows them (`utf8EncodeChar_append_lt`),
and with that the order of texts goes over to their bytes, character by character.
-/

namespace ConsoleFeed.Utf8

theorem base64_lt {first second : Nat} (less : first < second) :
    first / 262144 < second / 262144 ∨ first / 262144 = second / 262144 ∧
      (first / 4096 % 64 < second / 4096 % 64 ∨ first / 4096 % 64 = second / 4096 % 64 ∧
        (first / 64 % 64 < second / 64 % 64 ∨ first / 64 % 64 = second / 64 % 64 ∧
          first % 64 < second % 64)) := by
  omega

/-- The bytes of a smaller character come before those of a greater one, whatever follows. -/
theorem utf8EncodeChar_append_lt {first second : Char} (before : first < second)
    (rest others : List UInt8) :
    String.utf8EncodeChar first ++ rest < String.utf8EncodeChar second ++ others := by
  have less : first.val.toNat < second.val.toNat := before
  have digits := base64_lt less
  have bound : second.val.toNat < 0x110000 := by
    have valid := second.valid
    unfold UInt32.isValidChar Nat.isValidChar at valid
    omega
  simp only [String.utf8EncodeChar]
  generalize first.val.toNat = low at *
  generalize second.val.toNat = high at *
  clear before
  -- One case for each two lengths; the greater character is never the shorter one.
  repeat' split
  all_goals
    simp (disch := omega) only [List.cons_append, List.nil_append, List.cons_lt_cons_iff,
      UInt8.lt_iff_toNat_lt, ← UInt8.toNat_inj, UInt8.toNat_ofNat', Nat.mod_eq_of_lt]
    omega

theorem flatMap_utf8EncodeChar_lt {first second : List Char} (before : first < second) :
    first.flatMap String.utf8EncodeChar < second.flatMap String.utf8EncodeChar := by
  induction first generalizing second with
  | nil =>
      cases second with
      | nil => exact absurd before (List.lt_irrefl [])
      | cons character rest =>
          have nonempty : String.utf8EncodeChar character ≠ [] := String.utf8EncodeChar_ne_nil
          rcases List.exists_cons_of_ne_nil nonempty with ⟨byte, bytes, spelled⟩
          simp [spelled, List.nil_lt_cons]
  | cons character rest ih =>
      cases second with
      | nil => cases before
      | cons other others =>
          rw [List.flatMap_cons, List.flatMap_cons]
          rcases List.cons_lt_cons_iff.mp before with below | ⟨rfl, later⟩
          · exact utf8EncodeChar_append_lt below _ _
          · exact List.append_left_lt (ih later)

/-- Texts are in the order of their bytes. -/
theorem encode_lt {first second : String} (before : first < second) :
    encode first < encode second :=
  flatMap_utf8EncodeChar_lt (String.lt_iff.mp before)

theorem encode_injective : Function.Injective encode := by
  intro first second same
  have read := decode?_encode first
  rw [same, decode?_encode] at read
  exact (Option.some.inj read).symm

/-- Whether the bytes of a text do not come after those of another. -/
def notAfter (first second : String) : Bool :=
  decide (encode first ≤ encode second)

theorem notAfter_trans (first second third : String) (below : notAfter first second = true)
    (above : notAfter second third = true) : notAfter first third = true :=
  decide_eq_true (List.le_trans (of_decide_eq_true below) (of_decide_eq_true above))

theorem notAfter_total (first second : String) :
    (notAfter first second || notAfter second first) = true := by
  simp only [notAfter, Bool.or_eq_true, decide_eq_true_eq]
  exact List.le_total _ _

theorem eq_of_notAfter {first second : String} (below : notAfter first second = true)
    (above : notAfter second first = true) : first = second :=
  encode_injective (List.le_antisymm (of_decide_eq_true below) (of_decide_eq_true above))

/-- Sorting a listing by the bytes of its keys gives the one that ascends by key. -/
theorem mergeSort_notAfter {Value : Type} (key : Value → String) {listing ascending : List Value}
    (permuted : listing.Perm ascending)
    (ascends : ascending.Pairwise fun first second => key first < key second) :
    listing.mergeSort (fun first second => notAfter (key first) (key second)) = ascending := by
  have apart : (ascending.map key).Nodup :=
    List.pairwise_map.mpr (ascends.imp fun below => String.ne_of_lt below)
  have sorted : (listing.mergeSort fun first second => notAfter (key first) (key second)).Pairwise
      fun first second => notAfter (key first) (key second) = true :=
    List.pairwise_mergeSort
      (fun first second third => notAfter_trans (key first) (key second) (key third))
      (fun first second => notAfter_total (key first) (key second)) listing
  have rearranged := (listing.mergeSort_perm fun first second =>
    notAfter (key first) (key second)).trans permuted
  have ordered : ascending.Pairwise fun first second => notAfter (key first) (key second) = true :=
    ascends.imp fun below => decide_eq_true (List.le_of_lt (encode_lt below))
  apply List.Perm.eq_of_pairwise _ sorted ordered rearranged
  intro first second inFirst inSecond below above
  have same := eq_of_notAfter below above
  exact List.inj_on_of_nodup_map apart (rearranged.mem_iff.mp inFirst) inSecond same

end ConsoleFeed.Utf8
