import ConsoleFeed.Proofs.Http.Inquiries
import ConsoleFeed.Proofs.KeyMap
import Mathlib.Data.List.TakeWhile

/-!
# How options are written in a target

Options can be written as a query in many ways: as in a path, a byte may stand for itself where its
character may stand, or be written as a percent sign with two digits, and a plus sign stands for a
space. This file says what these ways are and that the service reads all of them alike: the query
gives the pairs that were written, in whatever order.

The decoding of a name or a value differs from that of a segment in the plus sign alone. Once each
plus sign is a space, both read bytes that were written with characters that stand for themselves
(`Percent.decode_of_writes`).

A target that is a path, or a path with a query, is read into these two parts.
-/

namespace ConsoleFeed.Http

open Percent (Writes Itself)

section Queries

/-- A character that may stand for itself in a name or a value; a plus sign stands for a space. -/
def InComponent (character : Char) (byte : UInt8) : Prop :=
  (character = '+' ∧ byte = 0x20) ∨
    (Itself character byte ∧ Target.inQuery character = true ∧ character ∉ ['+', '&', '='])

/-- The ways to write a name or a value. -/
def ComponentText (text : String) (component : List Char) : Prop :=
  Writes InComponent (Utf8.encode text) component

/-- The ways to write a name with its value. -/
def PairText (pair : String × String) (piece : List Char) : Prop :=
  ∃ name value, ComponentText pair.1 name ∧ ComponentText pair.2 value ∧
    piece = name ++ '=' :: value

/-- The ways to write one pair or more, with ampersands between them. -/
inductive PairsText : List (String × String) → List Char → Prop
  | last {pair : String × String} {piece : List Char} (only : PairText pair piece) :
      PairsText [pair] piece
  | next {pair : String × String} {pairs : List (String × String)} {piece more : List Char}
      (first : PairText pair piece) (others : PairsText pairs more) :
      PairsText (pair :: pairs) (piece ++ '&' :: more)

/-- The ways to write pairs as a query. -/
def QueryText (pairs : List (String × String)) (query : List Char) : Prop :=
  (pairs = [] ∧ query = []) ∨ PairsText pairs query

variable {text : String} {component : List Char}

theorem ComponentText.inQuery (written : ComponentText text component) :
    ∀ character ∈ component, Target.inQuery character = true ∧ character ∉ ['&', '='] := by
  apply Percent.Writes.forall_mem
    (fun character => Target.inQuery character = true ∧ character ∉ ['&', '=']) _ _ _ written
  · rintro character byte (⟨rfl, -⟩ | ⟨-, query, apart⟩)
    · decide
    · refine ⟨query, fun member => apart (List.mem_cons_of_mem _ member)⟩
  · decide
  · intro digit value known
    have bounds := Percent.hexValue?_bounds known
    refine ⟨?_, ?_⟩
    · simp only [Target.inQuery, Bool.or_eq_true, Bool.and_eq_true, beq_iff_eq, bne_iff_ne,
        decide_eq_true_eq]
      omega
    · intro member
      simp only [List.mem_cons, List.not_mem_nil, or_false] at member
      rcases member with rfl | rfl <;> revert bounds <;> decide

/-- A name or a value is read back, however it is written. -/
theorem ComponentText.decoded (written : ComponentText text component) :
    Query.decodeComponent component = text := by
  have spaced : Writes Itself (Utf8.encode text)
      (component.map fun character => if character = '+' then ' ' else character) := by
    apply Percent.Writes.map _ _ (by decide) _ written
    · rintro character byte (⟨rfl, rfl⟩ | ⟨itself, -, apart⟩)
      · exact ⟨by decide, by decide, rfl⟩
      · have notPlus : character ≠ '+' := fun plus => apart (plus ▸ List.mem_cons_self)
        rw [if_neg notPlus]
        exact itself
    · intro digit value known
      apply if_neg
      rintro rfl
      cases known
  have bytes := Percent.decode_of_writes spaced
  rw [Query.decodeComponent, Utf8.encode, String.toList_ofList, bytes, Utf8.decodeReplacing,
    Utf8.decode?_encode]

variable {pair : String × String} {piece : List Char}

theorem PairText.decoded (written : PairText pair piece) : Query.decodePair piece = pair := by
  rcases written with ⟨name, value, nameText, valueText, rfl⟩
  have inside : ∀ character ∈ name, decide (character ≠ '=') = true := by
    intro character member
    apply decide_eq_true
    rintro rfl
    exact (nameText.inQuery '=' member).2 (by decide)
  have before : (name ++ '=' :: value).takeWhile (· ≠ '=') = name := by
    rw [List.takeWhile_append_of_pos inside]
    simp
  have after : (name ++ '=' :: value).dropWhile (· ≠ '=') = '=' :: value := by
    rw [List.dropWhile_append_of_pos inside]
    simp
  rw [Query.decodePair, before, after, nameText.decoded, List.drop_succ_cons, List.drop_zero,
    valueText.decoded]

theorem PairText.isPiece (written : PairText pair piece) :
    piece.isEmpty = false ∧ '&' ∉ piece ∧
      ∀ character ∈ piece, Target.inQuery character = true := by
  rcases written with ⟨name, value, nameText, valueText, rfl⟩
  refine ⟨by simp, ?_, ?_⟩
  · simp only [List.mem_append, List.mem_cons, not_or]
    refine ⟨fun member => ?_, by decide, fun member => ?_⟩
    · exact (nameText.inQuery '&' member).2 List.mem_cons_self
    · exact (valueText.inQuery '&' member).2 List.mem_cons_self
  · simp only [List.forall_mem_append, List.forall_mem_cons]
    exact ⟨fun character member => (nameText.inQuery character member).1, by decide,
      fun character member => (valueText.inQuery character member).1⟩

variable {pairs : List (String × String)} {query : List Char}

theorem PairsText.decoded (written : PairsText pairs query) :
    Query.pairs (String.ofList query) = pairs := by
  rw [Query.pairs, String.toList_ofList]
  induction written with
  | last only =>
      rw [Pieces.split_of_notMem only.isPiece.2.1]
      simp [only.isPiece.1, only.decoded]
  | next first others ih =>
      rw [Pieces.split_append_cons first.isPiece.2.1]
      simp [first.isPiece.1, first.decoded, ih]

theorem QueryText.decoded (written : QueryText pairs query) :
    Query.pairs (String.ofList query) = pairs := by
  rcases written with ⟨rfl, rfl⟩ | written
  · rfl
  · exact written.decoded

theorem QueryText.inQuery (written : QueryText pairs query) :
    ∀ character ∈ query, Target.inQuery character = true := by
  rcases written with ⟨-, rfl⟩ | written
  · exact nofun
  · induction written with
    | last only => exact only.isPiece.2.2
    | next first others ih =>
        simp only [List.forall_mem_append, List.forall_mem_cons]
        exact ⟨first.isPiece.2.2, by decide, ih⟩

theorem componentText_encodeComponent (text : String) :
    ComponentText text (Query.encodeComponent text) := by
  apply Percent.writes_flatMap
  intro byte
  by_cases space : byte = 0x20
  · exact Or.inl ⟨'+', by rw [if_pos space], Or.inl ⟨rfl, space⟩⟩
  · rw [if_neg space, Percent.encodeByte]
    cases unreserved : Percent.isUnreserved byte with
    | true =>
        rcases Percent.unreserved_spec unreserved with ⟨itself, -, query, apart⟩
        exact Or.inl ⟨_, rfl, Or.inr ⟨itself, query, fun member =>
          apart (List.mem_cons_of_mem _ member)⟩⟩
    | false => exact Or.inr rfl

theorem queryText_encode (pairs : List (String × String)) :
    QueryText pairs (Query.encode pairs).toList := by
  rw [Query.encode, String.toList_ofList]
  have piece : ∀ pair : String × String, PairText pair
      (Query.encodeComponent pair.1 ++ '=' :: Query.encodeComponent pair.2) := fun pair =>
    ⟨_, _, componentText_encodeComponent pair.1, componentText_encodeComponent pair.2, rfl⟩
  cases pairs with
  | nil => exact Or.inl ⟨rfl, rfl⟩
  | cons pair pairs =>
      right
      induction pairs generalizing pair with
      | nil => exact .last (piece pair)
      | cons second pairs ih => exact .next (piece pair) (ih second)

/-- A query gives the option set whose pairs were written, in whatever order. -/
theorem QueryText.options (written : QueryText pairs query) {options : KeyMap String}
    (order : pairs.Perm options.entries) :
    Query.options (String.ofList query) = options.mapValues .text := by
  rw [Query.options, written.decoded]
  apply KeyMap.ofList_eq_of_perm
  exact order.map _

end Queries

section Targets

theorem apart_of_inPath {character : Char} (inPath : Target.inPath character = true) :
    character ≠ '#' ∧ character ≠ '?' := by
  refine ⟨?_, ?_⟩ <;>
    · rintro rfl
      exact absurd inPath (by decide)

theorem ne_of_inQuery {character : Char} (inQuery : Target.inQuery character = true) :
    character ≠ '#' := by
  rintro rfl
  exact absurd inQuery (by decide)

theorem read?_of_slash {text : String} {rest : List Char} (starts : text.toList = '/' :: rest)
    (fits : text.utf8ByteSize ≤ Target.sizeLimit) :
    Target.read? text = Target.ofPath? text.toList := by
  simp only [Target.read?, if_neg (Nat.not_lt.mpr fits), starts]

variable {path query : List Char}

theorem ofPath?_path (inPath : ∀ character ∈ path, Target.inPath character = true) :
    Target.ofPath? path = some ⟨String.ofList path, none⟩ := by
  have whole : path.takeWhile (· ≠ '#') = path := by
    apply List.takeWhile_eq_self_iff.mpr
    intro character member
    exact decide_eq_true (apart_of_inPath (inPath character member)).1
  have all : path.takeWhile (· ≠ '?') = path := by
    apply List.takeWhile_eq_self_iff.mpr
    intro character member
    exact decide_eq_true (apart_of_inPath (inPath character member)).2
  have rest : path.dropWhile (· ≠ '?') = [] := by
    apply List.dropWhile_eq_nil_iff.mpr
    intro character member
    exact decide_eq_true (apart_of_inPath (inPath character member)).2
  simp only [Target.ofPath?, whole, all, rest, List.drop_nil, List.all_nil, Bool.and_true,
    List.all_eq_true.mpr inPath, if_true, Nat.lt_irrefl, if_false]

theorem ofPath?_pathQuery (inPath : ∀ character ∈ path, Target.inPath character = true)
    (inQuery : ∀ character ∈ query, Target.inQuery character = true) :
    Target.ofPath? (path ++ '?' :: query) =
      some ⟨String.ofList path, some (String.ofList query)⟩ := by
  have whole : (path ++ '?' :: query).takeWhile (· ≠ '#') = path ++ '?' :: query := by
    apply List.takeWhile_eq_self_iff.mpr
    simp only [List.forall_mem_append, List.forall_mem_cons]
    refine ⟨?_, by decide, ?_⟩
    · exact fun character member => decide_eq_true (apart_of_inPath (inPath character member)).1
    · exact fun character member => decide_eq_true (ne_of_inQuery (inQuery character member))
  have before : ∀ character ∈ path, decide (character ≠ '?') = true :=
    fun character member => decide_eq_true (apart_of_inPath (inPath character member)).2
  have found : (path ++ '?' :: query).takeWhile (· ≠ '?') = path := by
    rw [List.takeWhile_append_of_pos before]
    simp
  have rest : (path ++ '?' :: query).dropWhile (· ≠ '?') = '?' :: query := by
    rw [List.dropWhile_append_of_pos before]
    simp
  have shorter : path.length < (path ++ '?' :: query).length := by
    simp
  simp only [Target.ofPath?, whole, found, rest, List.drop_succ_cons, List.drop_zero,
    List.all_eq_true.mpr inPath, List.all_eq_true.mpr inQuery, Bool.and_self, if_true, shorter]

end Targets

end ConsoleFeed.Http
