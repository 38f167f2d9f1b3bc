import ConsoleFeed.Http.Service
import ConsoleFeed.Proofs.Http.Percent
import ConsoleFeed.Proofs.Text.Utf8

/-!
# The addresses of consoles

The key of a console is one segment of a path, percent-encoded. This file says which segments name
which keys, and which paths lead to a console.

A key can be written as a segment in many ways (`SegmentText`), and every one of them names it,
unless the key is empty: no slash is written, and decoding gives the bytes of the key back, whatever
they are. Where a segment has no slashes, cutting a path at its slashes finds the segment whole, so
the path with one of the service's endings behind it is the route that it seems to be.
-/

namespace ConsoleFeed.Pieces

theorem split_of_notMem {separator : Char} {piece : List Char} (absent : separator ∉ piece) :
    split separator piece = [piece] := by
  induction piece with
  | nil => rfl
  | cons character rest ih =>
      rcases List.ne_and_not_mem_of_not_mem_cons absent with ⟨different, absentLater⟩
      simp [split, Ne.symm different, ih absentLater, extend]

theorem split_append_cons {separator : Char} {piece : List Char} (absent : separator ∉ piece)
    (rest : List Char) :
    split separator (piece ++ separator :: rest) = piece :: split separator rest := by
  induction piece with
  | nil => simp [split]
  | cons character others ih =>
      rcases List.ne_and_not_mem_of_not_mem_cons absent with ⟨different, absentLater⟩
      simp [split, Ne.symm different, ih absentLater, extend]

end ConsoleFeed.Pieces

namespace ConsoleFeed.Http

open Percent (Writes Itself)

/-- A segment of a path that names a key. -/
structure Names (segment key : String) : Prop where
  nonempty : segment ≠ ""
  whole : '/' ∉ segment.toList
  decoded : Percent.decodeSegment? segment = some key

section Segments

/-- A character that may stand for itself in a segment of a path. -/
def InSegment (character : Char) (byte : UInt8) : Prop :=
  Itself character byte ∧ Target.inPath character = true ∧ character ≠ '/'

/-- The ways to write a key as a segment. -/
def SegmentText (key : String) (segment : List Char) : Prop :=
  Writes InSegment (Utf8.encode key) segment

theorem segmentText_encodeSegment (key : String) :
    SegmentText key (Percent.encodeSegment key).toList := by
  rw [Percent.encodeSegment, String.toList_ofList]
  apply Percent.writes_flatMap
  intro byte
  rw [Percent.encodeByte]
  cases unreserved : Percent.isUnreserved byte with
  | true =>
      rcases Percent.unreserved_spec unreserved with ⟨itself, path, -, apart⟩
      refine Or.inl ⟨_, rfl, itself, path, ?_⟩
      intro slash
      exact apart (slash ▸ List.mem_cons_self)
  | false => exact Or.inr rfl

variable {key : String} {segment : List Char}

theorem SegmentText.inPath (text : SegmentText key segment) :
    ∀ character ∈ segment, Target.inPath character = true ∧ character ≠ '/' := by
  apply Percent.Writes.forall_mem
    (fun character => Target.inPath character = true ∧ character ≠ '/') _ _ _ text
  · intro character byte stands
    exact stands.2
  · decide
  · intro digit value known
    have bounds := Percent.hexValue?_bounds known
    refine ⟨?_, Percent.ne_of_toNat_ne ?_⟩
    · simp only [Target.inPath, Bool.or_eq_true, Bool.and_eq_true, beq_iff_eq, bne_iff_ne,
        decide_eq_true_eq]
      omega
    · have slash : ('/' : Char).toNat = 0x2F := rfl
      omega

/-- A segment that is written for a key names that key. -/
theorem SegmentText.names (text : SegmentText key segment) (nonempty : key ≠ "") :
    Names (String.ofList segment) key := by
  have decoded : Percent.decodeSegment? (String.ofList segment) = some key := by
    have itself := Percent.Writes.map id (fun _ _ stands => stands.1) rfl (fun _ _ _ => rfl) text
    rw [List.map_id] at itself
    have bytes := Percent.decode_of_writes itself
    rw [Percent.decodeSegment?, Utf8.encode, String.toList_ofList, bytes, Utf8.decode?_encode]
  refine ⟨?_, ?_, decoded⟩
  · intro empty
    rw [empty] at decoded
    exact nonempty (Option.some.inj decoded).symm
  · rw [String.toList_ofList]
    intro slash
    exact (text.inPath '/' slash).2 rfl

/-- Every key but the empty one can be named. -/
theorem names_encodeSegment (nonempty : key ≠ "") : Names (Percent.encodeSegment key) key := by
  have names := (segmentText_encodeSegment key).names nonempty
  rw [String.ofList_toList] at names
  exact names

end Segments

/-- What stands behind the segment of a key in the path of a resource. -/
def Resource.ending : Resource → String
  | .snapshot => ""
  | .peek => "/peek"
  | .stream => "/stream"
  | .options => "/options"

namespace Route

variable {segment key : String}

theorem split_segment (names : Names segment key) :
    Pieces.split '/' ("/consoles/" ++ segment).toList =
      [[], ['c', 'o', 'n', 's', 'o', 'l', 'e', 's'], segment.toList] := by
  have pieces := Pieces.split_of_notMem names.whole
  simp [Pieces.split, Pieces.extend, pieces]

theorem split_segment_append (names : Names segment key) {ending : String} (rest : List Char)
    (starts : ending.toList = '/' :: rest) :
    Pieces.split '/' ("/consoles/" ++ segment ++ ending).toList =
      [] :: ['c', 'o', 'n', 's', 'o', 'l', 'e', 's'] :: segment.toList ::
        Pieces.split '/' rest := by
  have pieces := Pieces.split_append_cons names.whole rest
  simp [Pieces.split, Pieces.extend, pieces, starts]

/-- The path of a resource leads to it. -/
theorem ofPath?_ending (names : Names segment key) (resource : Resource) :
    ofPath? ("/consoles/" ++ segment ++ resource.ending) = some (.console segment resource) := by
  have present : segment.toList ≠ [] := fun empty =>
    names.nonempty (String.toList_eq_nil_iff.mp empty)
  cases resource with
  | snapshot =>
      rw [ofPath?, Resource.ending, String.append_empty, split_segment names]
      simp [present]
  | peek =>
      rw [ofPath?, split_segment_append names "peek".toList (by rfl)]
      simp [Pieces.split, Pieces.extend]
  | stream =>
      rw [ofPath?, split_segment_append names "stream".toList (by rfl)]
      simp [Pieces.split, Pieces.extend]
  | options =>
      rw [ofPath?, split_segment_append names "options".toList (by rfl)]
      simp [Pieces.split, Pieces.extend]

end Route

end ConsoleFeed.Http
