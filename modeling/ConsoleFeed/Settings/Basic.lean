import ConsoleFeed.Text.Digits
import ConsoleFeed.Text.Visible

/-!
# Settings

A streamer has two settings: the interval between ticks, in whole milliseconds, and the number of
payloads that are kept for a subscriber. Both are numbers of fixed width. A zero is allowed in
either place and means one: the interval and the capacity in effect are never zero.

An interval may also be given as a duration. What is stored is its number of whole milliseconds, or
the largest number there is if that is too small.
-/

namespace ConsoleFeed

/-- A length of time, in nanoseconds. -/
structure Duration where
  nanoseconds : Nat
deriving DecidableEq

namespace Duration

/-- The duration of seconds and further nanoseconds, if its whole seconds fit in 64 bits. -/
def ofParts? (seconds nanoseconds : Nat) : Option Duration :=
  if seconds + nanoseconds / 1000000000 < UInt64.size then
    some ⟨seconds * 1000000000 + nanoseconds⟩
  else none

/-- The duration of milliseconds. -/
def ofMilliseconds (milliseconds : Nat) : Duration :=
  ⟨milliseconds * 1000000⟩

/-- How many whole milliseconds have passed by then. -/
def wholeMilliseconds (duration : Duration) : Nat :=
  duration.nanoseconds / 1000000

/-- How many whole seconds have passed by then. -/
def wholeSeconds (duration : Duration) : Nat :=
  duration.nanoseconds / 1000000000

/-- The nanoseconds beyond the whole seconds. -/
def subsecond (duration : Duration) : Nat :=
  duration.nanoseconds % 1000000000

/-- A whole number and the digits of a fraction of the given number of places, without zeros at the
end. -/
def withFraction (whole fraction places : Nat) : String :=
  let digits := (Digits.padLeft places (Digits.decimal fraction)).reverse.dropWhile (· == '0')
  String.ofList
    (Digits.decimal whole ++ if fraction = 0 then [] else '.' :: digits.reverse)

/-- The duration in the largest unit that it has one of. -/
def text (duration : Duration) : String :=
  let nanoseconds := duration.nanoseconds
  if 1000000000 ≤ nanoseconds then
    withFraction (nanoseconds / 1000000000) (nanoseconds % 1000000000) 9 ++ "s"
  else if 1000000 ≤ nanoseconds then
    withFraction (nanoseconds / 1000000) (nanoseconds % 1000000) 6 ++ "ms"
  else if 1000 ≤ nanoseconds then
    withFraction (nanoseconds / 1000) (nanoseconds % 1000) 3 ++ "µs"
  else withFraction nanoseconds 0 0 ++ "ns"

end Duration

/-- The settings of a streamer. -/
structure StreamerSettings where
  updateIntervalMs : UInt64
  messageQueueSize : UInt16
deriving DecidableEq

namespace StreamerSettings

/-- The interval that is in effect if none is given. -/
def defaultIntervalMs : UInt64 := 5000

/-- The queue size that is in effect if none is given. -/
def defaultQueueSize : UInt16 := 16

/-- The settings that are in effect if none are given. -/
def standard : StreamerSettings := ⟨defaultIntervalMs, defaultQueueSize⟩

/-- A number as a 64-bit one, the largest of them if it is larger. -/
def saturate64 (number : Nat) : UInt64 :=
  UInt64.ofNat (min number (UInt64.size - 1))

/-- The settings with another interval. -/
def withUpdateInterval (settings : StreamerSettings) (interval : Duration) : StreamerSettings :=
  { settings with updateIntervalMs := saturate64 interval.wholeMilliseconds }

/-- The settings with another queue size. -/
def withQueueSize (settings : StreamerSettings) (size : UInt16) : StreamerSettings :=
  { settings with messageQueueSize := size }

/-- The interval in effect. -/
def interval (settings : StreamerSettings) : Duration :=
  Duration.ofMilliseconds (max 1 settings.updateIntervalMs.toNat)

/-- The number of payloads kept that is in effect. -/
def queueCapacity (settings : StreamerSettings) : Nat :=
  max 1 settings.messageQueueSize.toNat

/-- The settings with their names. -/
def description (settings : StreamerSettings) : String :=
  "StreamerConfig \x7b update_interval_ms: " ++ toString settings.updateIntervalMs.toNat ++
    ", message_queue_size: " ++ toString settings.messageQueueSize.toNat ++ " \x7d"

end StreamerSettings

/-- The settings of the HTTP server. -/
structure HttpSettings where
  bindAddress : String
deriving DecidableEq

/-- The address that the server listens at if none is given. -/
def defaultBindAddress : String := "127.0.0.1:8080"

/-- The settings that are in effect if none are given. -/
def HttpSettings.standard : HttpSettings := ⟨defaultBindAddress⟩

/-- The settings of the whole server. -/
structure ServerSettings where
  streamer : StreamerSettings
  http : HttpSettings
deriving DecidableEq

namespace ServerSettings

/-- The settings that are in effect if none are given. -/
def standard : ServerSettings := ⟨.standard, .standard⟩

/-- The settings with what the command line gives in the place of what the file gives. -/
def withOverrides (settings : ServerSettings) (updateIntervalMs : Option UInt64)
    (bindAddress : Option String) : ServerSettings :=
  { streamer :=
      match updateIntervalMs with
      | some milliseconds =>
          settings.streamer.withUpdateInterval (Duration.ofMilliseconds milliseconds.toNat)
      | none => settings.streamer
    http := ⟨bindAddress.getD settings.http.bindAddress⟩ }

end ServerSettings

end ConsoleFeed
