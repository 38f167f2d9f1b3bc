import ConsoleFeed.Event
import ConsoleFeed.Provider.Outcome

/-!
# The directory of providers

Providers are found by key. Registering a provider under a key that is taken puts it in the older
one's place. A provider answers a call from the number of that call, which counts its own calls from
one, and the options; so a call's outcome is a function of what the directory holds.

The directory keeps every provider that was ever registered, by number, with its count of calls, and
separately which number each key is bound to. A provider that was replaced or removed is never
called again and its count stays.

Looking a key up may itself go wrong, before any provider is called. Nothing absorbs that.
-/

namespace ConsoleFeed

/-- A provider of snapshots. `lookupFault` is the text of the panic with which looking it up ends,
if it does. -/
structure Provider where
  key : String
  answer : Nat → OptionSet → Outcome
  lookupFault : Option String

/-- A provider with the number of calls that it has had. -/
structure Registration where
  provider : Provider
  calls : Nat

/-- The providers, by number, and the numbers that keys are bound to. -/
structure Directory where
  registrations : List Registration
  bound : KeyMap Nat

/-- Looking a provider up panicked with this text. -/
structure LookupPanic where
  message : String
deriving DecidableEq

namespace Directory

/-- The directory without providers. -/
def empty : Directory := ⟨[], KeyMap.empty⟩

/-- Registers a provider under its key. The answer is whether it replaced another one. -/
def register (directory : Directory) (provider : Provider) : Reply Directory Bool :=
  let number := directory.registrations.length
  let replaced := directory.bound.contains provider.key
  { answer := replaced
    state :=
      { registrations := directory.registrations ++ [⟨provider, 0⟩]
        bound := directory.bound.insert provider.key number }
    events :=
      [if replaced then .providerReplaced provider.key else .providerRegistered provider.key] }

/-- Registers providers one after the other. -/
def registerAll (directory : Directory) : List Provider → Reply Directory Unit
  | [] => ⟨(), directory, []⟩
  | provider :: rest =>
      let first := directory.register provider
      let others := registerAll first.state rest
      ⟨(), others.state, first.events ++ others.events⟩

/-- Removes the provider under a key. The answer is whether there was one. -/
def unregister (directory : Directory) (key : String) : Reply Directory Bool :=
  if directory.bound.contains key then
    ⟨true, { directory with bound := directory.bound.erase key }, [.providerUnregistered key]⟩
  else ⟨false, directory, []⟩

/-- The keys under which providers are registered, in ascending order. -/
def keys (directory : Directory) : List String :=
  directory.bound.keys

/-- How many keys have a provider. -/
def size (directory : Directory) : Nat :=
  directory.bound.size

/-- The number of the provider under a key. -/
def find (directory : Directory) (key : String) : Except LookupPanic (Option Nat) :=
  match directory.bound.find? key with
  | none => .ok none
  | some number =>
      match directory.registrations[number]? with
      | none => .ok none
      | some registration =>
          match registration.provider.lookupFault with
          | some message => .error ⟨message⟩
          | none => .ok (some number)

/-- How many calls the provider with a number has had. -/
def calls (directory : Directory) (number : Nat) : Nat :=
  (directory.registrations[number]?.map Registration.calls).getD 0

/-- How many calls the provider that was registered last under a key has had, whether or not it is
still bound to it. -/
def callsUnder (directory : Directory) (key : String) : Nat :=
  (directory.registrations.reverse.find?
    (fun registration => registration.provider.key == key)).elim 0
    Registration.calls

/-- Calls the provider with a number. -/
def call (directory : Directory) (number : Nat) (options : OptionSet) : Outcome × Directory :=
  match directory.registrations[number]? with
  | none => (.nothing, directory)
  | some registration =>
      let count := registration.calls + 1
      (registration.provider.answer count options,
        { directory with
          registrations := directory.registrations.set number ⟨registration.provider, count⟩ })

end Directory

end ConsoleFeed
