import ConsoleFeed.KeyMap
import ConsoleFeed.Number.Binary64

/-!
# Documents

A console's answer and the value of an option are documents: null, truth values, numbers, texts,
arrays and objects. Whole numbers are exact; a number with a fraction, with an exponent or too large
to be kept whole is the nearest binary64 number. The members of an object are listed by ascending
key, each key once. The type itself allows any list; `Document.WellFormed` says which lists and
which whole numbers are meant, and everything that builds documents here builds well-formed ones.
-/

namespace ConsoleFeed

/-- A value of the document format. -/
inductive Document where
  | null
  | boolean (value : Bool)
  | integer (value : Int)
  | float (value : Binary64)
  | text (value : String)
  | array (items : List Document)
  | object (members : List (String × Document))

instance : Inhabited Document := ⟨.null⟩

namespace Document

/-- The smallest whole number that is kept exactly. -/
def lowestInteger : Int := Int64.minValue.toInt

/-- Whole numbers below this bound are kept exactly. -/
def integerBound : Int := UInt64.size

mutual

/-- Whole numbers are within range and keys ascend, at every level. -/
def WellFormed : Document → Prop
  | .integer value => lowestInteger ≤ value ∧ value < integerBound
  | .array items => ItemsWellFormed items
  | .object members =>
      members.Pairwise (fun first second => first.1 < second.1) ∧ MembersWellFormed members
  | _ => True

/-- Every item is well-formed. -/
def ItemsWellFormed : List Document → Prop
  | [] => True
  | item :: rest => WellFormed item ∧ ItemsWellFormed rest

/-- Every member's value is well-formed. -/
def MembersWellFormed : List (String × Document) → Prop
  | [] => True
  | (_, value) :: rest => WellFormed value ∧ MembersWellFormed rest

end

/-- The object with the given members, of which the last one under a key counts. -/
def ofMembers (members : List (String × Document)) : Document :=
  .object (KeyMap.ofList members).entries

/-- The value of an object's member. -/
def member? (key : String) : Document → Option Document
  | .object members => KeyMap.lookup key members
  | _ => none

/-- A natural number as a document. -/
def ofNat (number : Nat) : Document := .integer number

end Document

/-- The options that a console is asked with: documents by name. -/
abbrev OptionSet := KeyMap Document

namespace OptionSet

/-- The option set as an object. -/
def toDocument (options : OptionSet) : Document := .object options.entries

end OptionSet

end ConsoleFeed
