import ConsoleFeed.Fault

/-!
# Addresses to listen at

An address is a host and the number of a socket with a colon between them. The host may have colons
of its own, so the last colon counts. The number has 16 bits; zero asks the system to choose one.
-/

namespace ConsoleFeed

/-- An address to listen at. -/
structure ListenAddress where
  host : String
  socket : UInt16
deriving DecidableEq

namespace SystemFault

/-- The address has no colon. -/
def noColon : SystemFault := .constant .invalidInput "invalid socket address"

/-- What follows the last colon is no number of a socket. -/
def badSocket : SystemFault := .constant .invalidInput "invalid port value"

end SystemFault

namespace ListenAddress

/-- Reads an address. -/
def read (text : String) : Except SystemFault ListenAddress :=
  match Digits.span (· != ':') text.toList.reverse with
  | (_, []) => .error .noColon
  | (digits, _ :: host) =>
      match Digits.unsigned? (UInt16.size - 1) digits.reverse with
      | none => .error .badSocket
      | some number => .ok ⟨String.ofList host.reverse, UInt16.ofNat number⟩

end ListenAddress

end ConsoleFeed
