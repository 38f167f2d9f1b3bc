import ConsoleFeed.Provider.Directory
import ConsoleFeed.Text.Beginning

/-!
# Taking snapshots

A snapshot is taken in two ways. One keeps a failure visible: it answers a text, nothing, or an
error. The other always answers a text: where there is nothing to show, or the provider failed, the
text is that of the empty object. Only the second logs what came of the call, the text itself no
further than a preview goes.

Either way the provider is looked up once, and called once if there is one. A panic during the
lookup ends the operation; everything else the two ways absorb.
-/

namespace ConsoleFeed

/-- The text that stands for no snapshot. -/
def emptySnapshot : String := "\x7b\x7d"

/-- The most bytes of a payload that are logged. -/
def previewLimit : Nat := 256

/-- The part of a payload that is logged: its longest beginning within the limit. -/
def preview (payload : String) : String :=
  Utf8.beginning previewLimit payload

/-- The names of options that are logged in place of the options: ascending, with commas between. -/
def OptionSet.loggedKeys (options : OptionSet) : String :=
  if options.entries.isEmpty then missingText else ",".intercalate options.keys

namespace Directory

/-- Takes a snapshot and keeps a failure visible. -/
def trySnapshot (directory : Directory) (key : String) (options : OptionSet) :
    Reply Directory (Except LookupPanic Snapshot) :=
  match directory.find key with
  | .error panic => ⟨.error panic, directory, []⟩
  | .ok none => ⟨.ok (.ok none), directory, [.providerMissing key]⟩
  | .ok (some number) =>
      let (outcome, called) := directory.call number options
      ⟨.ok outcome.snapshot, called, []⟩

/-- The payload that a snapshot is published as. -/
def payloadOf : Snapshot → String
  | .ok (some text) => text
  | _ => emptySnapshot

/-- What is logged about a snapshot. -/
def snapshotEvent (key : String) : Snapshot → Event
  | .ok (some text) => .snapshotProduced key (preview text)
  | .ok none => .snapshotEmpty key
  | .error fault => .snapshotFailed key fault.message

/-- Takes a snapshot that always has a text. -/
def takeSnapshot (directory : Directory) (key : String) (options : OptionSet) :
    Reply Directory (Except LookupPanic String) :=
  let attempt := directory.trySnapshot key options
  match attempt.answer with
  | .error panic => ⟨.error panic, attempt.state, attempt.events⟩
  | .ok snapshot =>
      ⟨.ok (payloadOf snapshot), attempt.state, attempt.events ++ [snapshotEvent key snapshot]⟩

end Directory

end ConsoleFeed
