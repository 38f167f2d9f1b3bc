import ConsoleFeed.Server.Launch

/-!
# Intervals and overrides

An interval is a number of milliseconds of 64 bits in the settings, seconds and nanoseconds in a
machine's durations, and milliseconds of 128 bits on the way back. None of these steps loses
anything but the part of a millisecond, and only the last one can meet its limit, where the largest
number is stored.

`DurationParts` is a duration as a machine keeps it, with the arithmetic of its words. The settings
compute with natural numbers; that both come to the same says that no word overflows.
-/

namespace ConsoleFeed

/-- A number is held within a word. -/
theorem StreamerSettings.toNat_saturate64 (number : Nat) :
    (saturate64 number).toNat = min number (UInt64.size - 1) := by
  have size : UInt64.size = 18446744073709551616 := rfl
  rw [saturate64, UInt64.toNat_ofNat', Nat.mod_eq_of_lt]
  omega

/-- A duration in words: its whole seconds, and the nanoseconds beyond them. -/
structure DurationParts where
  seconds : UInt64
  nanoseconds : UInt32
  nanoseconds_lt : nanoseconds.toNat < 1000000000

namespace DurationParts

/-- The duration that the words stand for. -/
def duration (parts : DurationParts) : Duration :=
  ⟨parts.seconds.toNat * 1000000000 + parts.nanoseconds.toNat⟩

/-- The whole milliseconds, computed in a word of 128 bits. -/
def milliseconds (parts : DurationParts) : BitVec 128 :=
  parts.seconds.toBitVec.setWidth 128 * 1000 + parts.nanoseconds.toBitVec.setWidth 128 / 1000000

/-- The milliseconds in a word of 64 bits, or the largest word if they do not fit in one. -/
def stored (parts : DurationParts) : UInt64 :=
  if parts.milliseconds.toNat < UInt64.size then .ofBitVec (parts.milliseconds.setWidth 64)
  else .ofNat (UInt64.size - 1)

/-- The order of durations goes by the seconds first. -/
def NotAfter (earlier later : DurationParts) : Prop :=
  earlier.seconds < later.seconds ∨
    earlier.seconds = later.seconds ∧ earlier.nanoseconds ≤ later.nanoseconds

theorem toNat_ofMilliseconds (milliseconds : UInt64) :
    ((milliseconds % 1000).toUInt32 * 1000000).toNat = milliseconds.toNat % 1000 * 1000000 := by
  have below : milliseconds.toNat % 1000 < 1000 := Nat.mod_lt _ (by decide)
  simp only [UInt32.toNat_mul, UInt64.toNat_toUInt32, UInt64.toNat_mod, UInt64.toNat_ofNat,
    UInt32.toNat_ofNat, Nat.reducePow, Nat.reduceMod]
  omega

/-- The words of a number of milliseconds. -/
def ofMilliseconds (milliseconds : UInt64) : DurationParts :=
  ⟨milliseconds / 1000, (milliseconds % 1000).toUInt32 * 1000000, by
    have below : milliseconds.toNat % 1000 < 1000 := Nat.mod_lt _ (by decide)
    rw [toNat_ofMilliseconds]
    omega⟩

variable (parts : DurationParts)

theorem ofParts?_eq :
    Duration.ofParts? parts.seconds.toNat parts.nanoseconds.toNat = some parts.duration := by
  have fits : parts.nanoseconds.toNat / 1000000000 = 0 :=
    Nat.div_eq_of_lt parts.nanoseconds_lt
  have below := parts.seconds.toNat_lt
  simp [Duration.ofParts?, fits, duration, below]

theorem wholeMilliseconds_duration :
    parts.duration.wholeMilliseconds =
      parts.seconds.toNat * 1000 + parts.nanoseconds.toNat / 1000000 := by
  simp only [duration, Duration.wholeMilliseconds]
  omega

/-- In 128 bits nothing overflows. -/
theorem toNat_milliseconds : parts.milliseconds.toNat = parts.duration.wholeMilliseconds := by
  have seconds := parts.seconds.toNat_lt
  have nanoseconds := parts.nanoseconds_lt
  rw [wholeMilliseconds_duration]
  have thousand : BitVec.toNat (1000 : BitVec 128) = 1000 := rfl
  have million : BitVec.toNat (1000000 : BitVec 128) = 1000000 := rfl
  simp only [milliseconds, BitVec.toNat_add, BitVec.toNat_mul, BitVec.toNat_udiv,
    BitVec.toNat_setWidth, UInt64.toNat_toBitVec, UInt32.toNat_toBitVec, thousand, million]
  omega

theorem stored_eq :
    parts.stored = StreamerSettings.saturate64 parts.duration.wholeMilliseconds := by
  rw [← toNat_milliseconds]
  apply UInt64.toNat_inj.mp
  have size : UInt64.size = 18446744073709551616 := rfl
  by_cases fits : parts.milliseconds.toNat < UInt64.size
  · rw [stored, if_pos fits, StreamerSettings.saturate64, Nat.min_eq_left (by omega)]
    simp
  · rw [stored, if_neg fits, StreamerSettings.saturate64, Nat.min_eq_right (by omega)]

/-- Every number of milliseconds is found again in the duration made of it. -/
theorem duration_ofMilliseconds (milliseconds : UInt64) :
    (ofMilliseconds milliseconds).duration = Duration.ofMilliseconds milliseconds.toNat := by
  have nanoseconds := toNat_ofMilliseconds milliseconds
  simp only [duration, ofMilliseconds, Duration.ofMilliseconds, nanoseconds, UInt64.toNat_div,
    UInt64.toNat_ofNat, Duration.mk.injEq, Nat.reducePow, Nat.reduceMod]
  omega

/-- What is stored does not get smaller when a duration gets longer. -/
theorem stored_le_of_notAfter {parts later : DurationParts} (order : parts.NotAfter later) :
    parts.stored ≤ later.stored := by
  have longer : parts.duration.wholeMilliseconds ≤ later.duration.wholeMilliseconds := by
    have nanoseconds := parts.nanoseconds_lt
    rw [wholeMilliseconds_duration, wholeMilliseconds_duration]
    rcases order with sooner | ⟨same, sooner⟩
    · have seconds := UInt64.lt_iff_toNat_lt.mp sooner
      omega
    · have rest := UInt32.le_iff_toNat_le.mp sooner
      rw [same]
      omega
  rw [stored_eq, stored_eq, UInt64.le_iff_toNat_le, StreamerSettings.toNat_saturate64,
    StreamerSettings.toNat_saturate64]
  omega

end DurationParts

namespace StreamerSettings

variable (settings : StreamerSettings)

/-- A number of milliseconds that fits in a word is stored as it is. -/
theorem withUpdateInterval_ofMilliseconds (milliseconds : UInt64) :
    settings.withUpdateInterval (Duration.ofMilliseconds milliseconds.toNat) =
      { settings with updateIntervalMs := milliseconds } := by
  have whole : (Duration.ofMilliseconds milliseconds.toNat).wholeMilliseconds =
      milliseconds.toNat := by
    simp [Duration.ofMilliseconds, Duration.wholeMilliseconds]
  have below := milliseconds.toNat_lt_size
  rw [withUpdateInterval, whole, saturate64, Nat.min_eq_left (by omega), UInt64.ofNat_toNat]

theorem toNat_raised (milliseconds : UInt64) :
    (max 1 milliseconds).toNat = max 1 milliseconds.toNat :=
  apply_ite UInt64.toNat (1 ≤ milliseconds) milliseconds 1

/-- The interval in effect is one that fits in a word. -/
theorem interval_eq :
    settings.interval = Duration.ofMilliseconds (max 1 settings.updateIntervalMs).toNat := by
  rw [interval, toNat_raised]

/-- A duration is stored as its whole milliseconds, computed in words in which nothing overflows, or
as the largest number if they are more. Nothing else is changed, and the interval in effect is what
is stored, raised to one millisecond. -/
structure StoresInterval (parts : DurationParts) : Prop where
  given : Duration.ofParts? parts.seconds.toNat parts.nanoseconds.toNat = some parts.duration
  exact : parts.milliseconds.toNat =
    parts.seconds.toNat * 1000 + parts.nanoseconds.toNat / 1000000
  stored : settings.withUpdateInterval parts.duration =
    { settings with updateIntervalMs := parts.stored }
  amount : parts.stored.toNat = min parts.milliseconds.toNat (UInt64.size - 1)
  inEffect : (settings.withUpdateInterval parts.duration).interval =
    (DurationParts.ofMilliseconds (max 1 parts.stored)).duration

theorem storesInterval (parts : DurationParts) : settings.StoresInterval parts where
  given := parts.ofParts?_eq
  exact := by rw [parts.toNat_milliseconds, parts.wholeMilliseconds_duration]
  stored := by rw [parts.stored_eq, withUpdateInterval]
  amount := by rw [parts.stored_eq, toNat_saturate64, parts.toNat_milliseconds]
  inEffect := by
    rw [interval_eq, DurationParts.duration_ofMilliseconds, parts.stored_eq, withUpdateInterval]

/-- Storing the interval in effect does not change it. -/
theorem interval_withUpdateInterval_interval :
    (settings.withUpdateInterval settings.interval).interval = settings.interval := by
  have again := Nat.max_eq_right (Nat.le_max_left 1 settings.updateIntervalMs.toNat)
  rw [interval_eq settings, withUpdateInterval_ofMilliseconds, interval, toNat_raised, again]

/-- What a timer and a channel ask of what they are made with: a period other than zero, and a
capacity that is neither zero nor too large, also after it is raised to a power of two. -/
structure Usable : Prop where
  period_pos : 0 < settings.interval.nanoseconds
  capacity : 1 ≤ settings.queueCapacity ∧ settings.queueCapacity ≤ 65535
  effective : ∀ key options,
    let made := Subscription.create key options settings
    made.interval = settings.interval ∧ made.feed.channel.capacity.isPowerOfTwo ∧
      settings.queueCapacity ≤ made.feed.channel.capacity ∧ made.feed.channel.capacity ≤ 65536

theorem usable : settings.Usable := by
  have below := settings.messageQueueSize.toNat_lt
  have capacity : 1 ≤ settings.queueCapacity ∧ settings.queueCapacity ≤ 65535 := by
    rw [queueCapacity]
    omega
  refine ⟨?_, capacity, ?_⟩
  · simp only [interval, Duration.ofMilliseconds]
    omega
  · intro key options
    have power : Nat.isPowerOfTwo 65536 := ⟨16, rfl⟩
    exact ⟨rfl, Channel.isPowerOfTwo_roundedCapacity _, Channel.le_roundedCapacity _,
      Channel.roundedCapacity_le power (by omega)⟩

end StreamerSettings

namespace ServerSettings

/-- Each setting is the command line's if it gives one, and otherwise the file's. -/
structure Overridden (file final : ServerSettings) (updateIntervalMs : Option UInt64)
    (bindAddress : Option String) : Prop where
  interval : final.streamer.updateIntervalMs = updateIntervalMs.getD file.streamer.updateIntervalMs
  queueSize : final.streamer.messageQueueSize = file.streamer.messageQueueSize
  address : final.http.bindAddress = bindAddress.getD file.http.bindAddress

theorem overridden (file : ServerSettings) (updateIntervalMs : Option UInt64)
    (bindAddress : Option String) :
    Overridden file (file.withOverrides updateIntervalMs bindAddress) updateIntervalMs
      bindAddress := by
  cases updateIntervalMs with
  | none => exact ⟨rfl, rfl, rfl⟩
  | some milliseconds =>
      have stored := file.streamer.withUpdateInterval_ofMilliseconds milliseconds
      simp only [withOverrides, stored]
      exact ⟨rfl, rfl, rfl⟩

end ServerSettings

/-- What the file says that the command line names; without one it is the settings by default. -/
def Arguments.Loads (given : Arguments) (readFile : FileReader) (file : ServerSettings) : Prop :=
  match given.settingsFile with
  | some path => ServerSettings.load readFile path = .ok file
  | none => file = .standard

theorem Arguments.settings_eq_ok {given : Arguments} {readFile : FileReader}
    {settings : ServerSettings} (found : given.settings readFile = .ok settings) :
    ∃ file, given.Loads readFile file ∧
      settings = file.withOverrides given.updateIntervalMs given.bindAddress := by
  simp only [Arguments.settings] at found
  cases named : given.settingsFile with
  | none =>
      rw [named] at found
      exact ⟨.standard, by rw [Arguments.Loads, named], (Except.ok.inj found).symm⟩
  | some path =>
      rw [named] at found
      cases loaded : ServerSettings.load readFile path with
      | error failure =>
          simp only [loaded] at found
          cases found
      | ok file =>
          simp only [loaded] at found
          exact ⟨file, by rw [Arguments.Loads, named]; exact loaded, (Except.ok.inj found).symm⟩

/-- A server that can listen works with the file's settings and the command line's. -/
theorem Launch.settings_of_listener {arguments : List String} {readFile : FileReader}
    {machine : Machine} {listener : Listener}
    (launched : (Launch.start arguments readFile machine).outcome = .ok listener) :
    ∃ given file final, Arguments.read arguments = .ok given ∧ given.Loads readFile file ∧
      ServerSettings.Overridden file final given.updateIntervalMs given.bindAddress ∧
      listener.server.session.registry.settings = final.streamer ∧
      ListenAddress.read final.http.bindAddress = .ok listener.address := by
  simp only [Launch.start] at launched
  split at launched
  · cases launched
  · rename_i given read
    split at launched
    · cases launched
    · rename_i settings found
      rcases Arguments.settings_eq_ok found with ⟨file, loads, rfl⟩
      split at launched
      · cases launched
      · rename_i address listens
        cases launched
        exact ⟨given, file, _, read, loads, ServerSettings.overridden .., rfl, listens⟩

namespace StreamerSettings

/-- Intervals and overrides are exact. A duration is stored without overflow as its whole
milliseconds, held within the largest number, and a longer one as no less; nothing else changes; and
storing the interval in effect does not change it. What the command line gives comes in the place of
what the file gives, each interval of 64 bits as it is. So a server that can listen works with these
settings, and whatever the settings are, a timer and a channel can be made with them. -/
theorem stored_exactly_and_usable :
    (∀ (settings : StreamerSettings) parts, settings.StoresInterval parts) ∧
    (∀ (settings : StreamerSettings) (parts later : DurationParts), parts.NotAfter later →
      (settings.withUpdateInterval parts.duration).updateIntervalMs ≤
        (settings.withUpdateInterval later.duration).updateIntervalMs) ∧
    (∀ settings : StreamerSettings,
      (settings.withUpdateInterval settings.interval).interval = settings.interval) ∧
    (∀ milliseconds : UInt64, (DurationParts.ofMilliseconds milliseconds).duration =
      Duration.ofMilliseconds milliseconds.toNat) ∧
    (∀ file updateIntervalMs bindAddress,
      ServerSettings.Overridden file (file.withOverrides updateIntervalMs bindAddress)
        updateIntervalMs bindAddress) ∧
    (∀ arguments readFile machine listener,
      (Launch.start arguments readFile machine).outcome = .ok listener →
        ∃ given file final, Arguments.read arguments = .ok given ∧ given.Loads readFile file ∧
          ServerSettings.Overridden file final given.updateIntervalMs given.bindAddress ∧
          listener.server.session.registry.settings = final.streamer ∧
          ListenAddress.read final.http.bindAddress = .ok listener.address) ∧
    ∀ settings : StreamerSettings, settings.Usable := by
  refine ⟨storesInterval, ?_, interval_withUpdateInterval_interval,
    DurationParts.duration_ofMilliseconds, ServerSettings.overridden, ?_, usable⟩
  · intro settings parts later order
    rw [(settings.storesInterval parts).stored, (settings.storesInterval later).stored]
    exact DurationParts.stored_le_of_notAfter order
  · intro arguments readFile machine listener launched
    exact Launch.settings_of_listener launched

/-- The longest duration there is, and the longest one that is stored to the millisecond. -/
def longestDuration : DurationParts := ⟨.ofNat (UInt64.size - 1), 999999999, by decide⟩

def longestExact : DurationParts := ⟨18446744073709551, 615999999, by decide⟩

/-- The longest duration is stored as the largest number, as is one whose whole milliseconds are
just that; and a server starts with the largest number given on the command line. -/
theorem stored_exactly_and_usable_of_longest :
    let arguments := ["--update-interval-ms", "18446744073709551615"]
    let readFile : FileReader := fun _ => .error SystemFault.notText
    longestExact.NotAfter longestDuration ∧
      (standard.withUpdateInterval longestExact.duration).updateIntervalMs ≤
        (standard.withUpdateInterval longestDuration.duration).updateIntervalMs ∧
      longestExact.stored.toNat = 18446744073709551615 ∧
      ∃ listener, (Launch.start arguments readFile ⟨1, 1, 0, []⟩).outcome = .ok listener ∧
        listener.server.session.registry.settings.updateIntervalMs.toNat =
          18446744073709551615 := by
  intro arguments readFile
  rcases stored_exactly_and_usable with ⟨stores, monotone, -, -, -, launches, -⟩
  have order : longestExact.NotAfter longestDuration := Or.inl (by decide)
  have launched : ∃ listener,
      (Launch.start arguments readFile ⟨1, 1, 0, []⟩).outcome = .ok listener := ⟨_, rfl⟩
  rcases launched with ⟨listener, launched⟩
  rcases launches _ _ _ _ launched with ⟨given, file, final, read, loads, overridden, same, -⟩
  have parsed : Arguments.read arguments =
      .ok ⟨none, some (.ofNat (UInt64.size - 1)), none⟩ := rfl
  have kept : given.updateIntervalMs = some (.ofNat (UInt64.size - 1)) := by
    cases read.symm.trans parsed
    rfl
  refine ⟨order, monotone standard _ _ order, ?_, listener, launched, ?_⟩
  · rw [(stores standard longestExact).amount, (stores standard longestExact).exact]
    decide
  · rw [same, overridden.interval, kept, Option.getD_some]
    decide

end StreamerSettings

end ConsoleFeed
