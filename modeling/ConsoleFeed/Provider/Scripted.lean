import ConsoleFeed.Provider.Directory

/-!
# Scripted providers

A script is a provider's behaviour written down: a fixed document, the options given back, a count
of calls, a failure, a panic, or a sequence of such steps of which the last one stays in force. With
scripts a directory can be set up in which every kind of outcome occurs at a known call.
-/

namespace ConsoleFeed

/-- The behaviour of a provider, written down. -/
inductive Script where
  | fixed (value : Document)
  | echo
  | wrapped
  | counted
  | picked (option : String)
  | failing (message : String)
  | unserializable
  | panicking (payload : PanicPayload)
  | sequence (steps : List Script)
  | silent

instance : Inhabited Script := ⟨.silent⟩

namespace Script

/-- The fault that is reported for a document that breaks off after its opening brace. -/
def brokenOff : String := "EOF while parsing an object at line 1 column 1"

mutual

/-- What the behaviour gives at the call with the given number. -/
def outcome (callNumber : Nat) (options : OptionSet) : Script → Outcome
  | .fixed value => .document value
  | .echo => .document options.toDocument
  | .wrapped => .document (.ofMembers [("options", options.toDocument)])
  | .counted =>
      .document (.ofMembers [("seq", .ofNat callNumber), ("options", options.toDocument)])
  | .picked option =>
      match options.find? option with
      | some value => .document value
      | none => .nothing
  | .failing message => .failed message
  | .unserializable => .unserializable brokenOff
  | .panicking payload => .panicked payload
  | .sequence steps => outcomeAt callNumber options (callNumber - 1) .nothing steps
  | .silent => .nothing

/-- What the step at a position gives, or the last step if there are not so many; `last` is what the
step before gives. -/
def outcomeAt (callNumber : Nat) (options : OptionSet) :
    Nat → Outcome → List Script → Outcome
  | _, last, [] => last
  | 0, _, step :: _ => outcome callNumber options step
  | position + 1, _, step :: rest =>
      outcomeAt callNumber options position (outcome callNumber options step) rest

end

/-- The provider that behaves as the script says. -/
def provider (key : String) (script : Script) : Provider :=
  ⟨key, fun callNumber options => script.outcome callNumber options, none⟩

/-- A provider that cannot be looked up. -/
def unreachable (key : String) : Provider :=
  ⟨key, fun _ _ => .nothing, some ("lookup of " ++ key ++ " failed")⟩

end Script

end ConsoleFeed
