import ConsoleFeed.Proofs.Json5.Compact
import ConsoleFeed.Proofs.Number.Rounding
import ConsoleFeed.Proofs.Settings.ByField
import Mathlib.Data.Nat.Digits.Defs

/-!
# Settings that are written and read again

The settings of a streamer are written as exact whole numbers and read through binary64 numbers. So
the interval comes back rounded to the nearest number of the format, without a fraction and held
within the range of 64 bits; the queue size, which has 16 bits, comes back as it was. The intervals
that come back unchanged are the multiples of the format's spacing about them, which are all up to
`2 ^ 53`, and the largest interval of all: it is rounded up to `2 ^ 64` and then held within the
range.
-/

namespace ConsoleFeed

/-- A whole number in decimal digits is rounded as the number that it is. -/
theorem DecimalLiteral.nearest?_whole {number : Nat} (small : number < 10 ^ 20) :
    DecimalLiteral.nearest? ⟨false, Digits.decimal number, [], 0⟩ =
      Binary64.nearest? false number 1 := by
  rcases Nat.eq_zero_or_pos number with rfl | positive
  · rfl
  rcases Document.decimal_leading positive with ⟨first, others, digits, notZero⟩
  have kept : (Digits.decimal number).dropWhile (· == '0') = Digits.decimal number := by
    rw [digits, List.dropWhile_cons_of_neg (by simpa using notZero)]
  have short : (Digits.decimal number).length ≤ 20 :=
    Nat.toDigits_length 10 number 20 (by decide) small
  have filled : (Digits.decimal number).isEmpty = false := by
    rw [digits]
    rfl
  have places : ¬ (400 < ((Digits.decimal number).length : Int)) ∧
      ¬ (((Digits.decimal number).length : Int) < -400) := by omega
  simp [DecimalLiteral.nearest?, kept, filled, places, Document.decimalNumber_decimal]

namespace Json5

/-- A whole number of 64 bits is taken rounded, and held within the range. -/
theorem takeNumber_wholeNumber {number : Nat} {nearest : Binary64} (small : number < UInt64.size)
    (found : Binary64.nearest? false number 1 = some nearest) (largest : Nat) :
    (wholeNumber number).takeNumber largest = .ok (min (Binary64.spaced number) largest) := by
  have literal := DecimalLiteral.nearest?_whole (small.trans (by decide))
  rw [found] at literal
  have taken : (⟨.absent, .decimal (Digits.decimal number) none none⟩ : Number).extended =
      .ok (.finite nearest) := by
    simp [Number.extended, Number.isNegative, literal]
  have sign := (Binary64.inFormat_of_nearest? Nat.one_pos found).1
  have whole : nearest.truncated = Binary64.spaced number := by
    rw [Binary64.truncated_eq_floor, Binary64.magnitude_of_whole found, Nat.floor_natCast]
  simp [wholeNumber, Value.takeNumber, taken, Extended.saturated, sign, whole]

end Json5

namespace StreamerSettings

open Json5

variable (settings : StreamerSettings)

/-- The fields of the settings with their numbers, in the order in which they are written. -/
def numbers : List (String × Nat) :=
  [("update_interval_ms", settings.updateIntervalMs.toNat),
    ("message_queue_size", settings.messageQueueSize.toNat)]

theorem written_eq : settings.written = objectText settings.numbers := by
  have digits : ∀ number : Nat, toString number = String.ofList (Digits.decimal number) :=
    fun _ => rfl
  have first : "\x7b\"update_interval_ms\":" =
      String.ofList ('\x7b' :: '"' :: "update_interval_ms".toList ++ ['"', ':']) := by decide
  have second : ",\"message_queue_size\":" =
      String.ofList (',' :: '"' :: "message_queue_size".toList ++ ['"', ':']) := by decide
  have last : "\x7d" = String.ofList ['\x7d'] := by decide
  unfold written
  simp only [digits, first, second, last, ← String.ofList_append, objectText, numbers,
    membersText, memberText, List.append_assoc, List.cons_append, List.nil_append]

theorem plain_numbers : ∀ member ∈ settings.numbers, member.1.toList.all isPlain = true := by
  intro member present
  simp only [numbers, List.mem_cons, List.not_mem_nil, or_false] at present
  rcases present with rfl | rfl
  · exact (by decide : "update_interval_ms".toList.all isPlain = true)
  · exact (by decide : "message_queue_size".toList.all isPlain = true)

/-- There is a number of the format nearest to any whole number of 64 bits. -/
theorem exists_nearest {number : Nat} (small : number < UInt64.size) :
    ∃ nearest, Binary64.nearest? false number 1 = some nearest := by
  apply Binary64.exists_nearest false Nat.one_pos
  have bits : (number : ℚ) < (2 ^ 64 : Nat) := by exact_mod_cast small
  rw [Nat.cast_one, div_one]
  refine bits.trans_le ?_
  rw [Nat.cast_pow, Nat.cast_ofNat, ← zpow_natCast]
  exact zpow_le_zpow_right₀ (by norm_num) (by decide)

/-- The settings with the interval rounded and held within the range. -/
def rounded : StreamerSettings :=
  { settings with
    updateIntervalMs := UInt64.ofNat
      (min (Binary64.spaced settings.updateIntervalMs.toNat) (UInt64.size - 1)) }

/-- The interval is taken rounded, and the queue size as it is. -/
theorem accept_numbers :
    ((wholeNumber settings.updateIntervalMs.toNat).takeNumber (UInt64.size - 1)).map UInt64.ofNat =
        .ok settings.rounded.updateIntervalMs ∧
      ((wholeNumber settings.messageQueueSize.toNat).takeNumber (UInt16.size - 1)).map
        UInt16.ofNat = .ok settings.rounded.messageQueueSize := by
  have interval := settings.updateIntervalMs.toNat_lt_size
  have size : settings.messageQueueSize.toNat < UInt16.size :=
    settings.messageQueueSize.toNat_lt_size
  have wide : UInt16.size ≤ UInt64.size := by decide
  rcases exists_nearest interval with ⟨nearestInterval, foundInterval⟩
  rcases exists_nearest (size.trans_le wide) with ⟨nearestSize, foundSize⟩
  have exactly : min (Binary64.spaced settings.messageQueueSize.toNat) (UInt16.size - 1) =
      settings.messageQueueSize.toNat := by
    have narrow : settings.messageQueueSize.toNat ≤ 2 ^ 53 := size.le.trans (by decide)
    rw [(Binary64.spaced_eq_iff _).mpr (Binary64.spacing_dvd_of_le narrow)]
    omega
  rw [takeNumber_wholeNumber interval foundInterval,
    takeNumber_wholeNumber (size.trans_le wide) foundSize, exactly]
  simp [Except.map, rounded]

/-- The settings that are written come back rounded. -/
theorem read_written : read settings.written = .ok settings.rounded := by
  rcases settings.accept_numbers with ⟨interval, size⟩
  let given : List (String × Value) :=
    [("update_interval_ms", wholeNumber settings.updateIntervalMs.toNat),
      ("message_queue_size", wholeNumber settings.messageQueueSize.toNat)]
  have members : settings.numbers.map writtenMember = Layout.spelled given := rfl
  have replaces : layout.Replaces given standard settings.rounded := by
    intro slot present
    rcases List.mem_pair.mp present with rfl | rfl
    · refine ⟨fun value named => ?_, fun missing => absurd List.mem_cons_self (missing _)⟩
      have own : value = wholeNumber settings.updateIntervalMs.toNat := by
        simpa [given] using named
      rw [own]
      exact interval
    · refine ⟨fun value named => ?_,
        fun missing => absurd (List.mem_cons_of_mem _ List.mem_cons_self) (missing _)⟩
      have own : value = wholeNumber settings.messageQueueSize.toNat := by
        simpa [given] using named
      rw [own]
      exact size
  have accepts : layout.Accepts given := by
    refine ⟨(by decide : ["update_interval_ms", "message_queue_size"].Nodup), ?_⟩
    intro name value present
    rcases List.mem_pair.mp present with same | same <;> cases same
    · exact ⟨_, List.mem_cons_self, rfl, _, interval⟩
    · exact ⟨_, List.mem_cons_of_mem _ List.mem_cons_self, rfl, _, size⟩
  rw [written_eq, read, readSettings, read?_objectText settings.plain_numbers]
  exact (readByField.replaces _ _ _).mpr
    ⟨given, members ▸ Layout.meant_spelled given, accepts, replaces⟩

/-- Settings are the rounded ones exactly if the interval survives the rounding and the range. -/
theorem rounded_eq_iff :
    settings.rounded = settings ↔
      min (Binary64.spaced settings.updateIntervalMs.toNat) (UInt64.size - 1) =
        settings.updateIntervalMs.toNat := by
  have inRange : min (Binary64.spaced settings.updateIntervalMs.toNat) (UInt64.size - 1) <
      UInt64.size := (Nat.min_le_right ..).trans_lt (by decide)
  constructor
  · intro same
    have interval := congrArg (fun other => other.updateIntervalMs.toNat) same
    simpa only [rounded, UInt64.toNat_ofNat_of_lt' inRange] using interval
  · intro same
    rw [rounded, same, UInt64.ofNat_toNat]

/-- The largest interval is rounded up out of the range, and held within it. -/
theorem largest_kept : min (Binary64.spaced (UInt64.size - 1)) (UInt64.size - 1) =
    UInt64.size - 1 := by
  decide +kernel

/-- Exactly the multiples of the format's spacing and the largest interval come back unchanged. -/
theorem kept_iff {interval : Nat} (small : interval < UInt64.size) :
    min (Binary64.spaced interval) (UInt64.size - 1) = interval ↔
      Binary64.spacing interval ∣ interval ∨ interval = UInt64.size - 1 := by
  rw [← Binary64.spaced_eq_iff]
  constructor
  · intro same
    rcases min_choice (Binary64.spaced interval) (UInt64.size - 1) with exactly | largest
    · exact .inl (exactly ▸ same)
    · exact .inr (same.symm.trans largest)
  · rintro (same | rfl)
    · rw [same]
      omega
    · exact largest_kept

/-- Settings that are written and read again come back with the queue size as it was and the
interval rounded to the nearest binary64 number, from the middle to the even one, without a fraction
and held within 64 bits. So the settings come back as they were for every interval up to `2 ^ 53`,
and above that exactly for those that are multiples of the format's spacing about them and for the
largest one; the first interval that is lost is `2 ^ 53 + 1`. -/
theorem written_settings_come_back_rounded :
    let interval := settings.updateIntervalMs.toNat
    (∃ nearest : Binary64, nearest.IsNearest interval) ∧
      (∀ nearest : Binary64, nearest.IsNearest interval →
        read settings.written = .ok { settings with
            updateIntervalMs := UInt64.ofNat (min ⌊nearest.value⌋₊ (UInt64.size - 1)) } ∧
          (read settings.written = .ok settings ↔
            min ⌊nearest.value⌋₊ (UInt64.size - 1) = interval)) ∧
      (interval ≤ 2 ^ 53 → read settings.written = .ok settings) ∧
      (read settings.written = .ok settings ↔
        Binary64.spacing interval ∣ interval ∨ interval = UInt64.size - 1) ∧
      (interval = 2 ^ 53 + 1 →
        read settings.written =
          .ok { settings with updateIntervalMs := UInt64.ofNat (2 ^ 53) }) := by
  intro interval
  have small : interval < UInt64.size := settings.updateIntervalMs.toNat_lt_size
  rcases exists_nearest small with ⟨found, nearest⟩
  have exactly : (Binary64.signFactor false * ((interval : ℚ) / (1 : Nat))) = interval := by
    simp [Binary64.signFactor]
  have isNearest := Binary64.isNearest_of_nearest? Nat.one_pos nearest
  rw [exactly] at isNearest
  have floor : ⌊found.value⌋₊ = Binary64.spaced interval := by
    have sign := (Binary64.inFormat_of_nearest? Nat.one_pos nearest).1
    rw [Binary64.value, sign, Binary64.magnitude_of_whole nearest]
    simp [Binary64.signFactor]
  have back : read settings.written = .ok settings ↔
      min (Binary64.spaced interval) (UInt64.size - 1) = interval := by
    rw [read_written, Except.ok.injEq]
    exact settings.rounded_eq_iff
  refine ⟨⟨found, isNearest⟩, fun other otherNearest => ?_, fun narrow => ?_, ?_, fun first => ?_⟩
  · rw [← exactly] at otherNearest
    rw [otherNearest.value_eq Nat.one_pos nearest, floor]
    exact ⟨settings.read_written, back⟩
  · exact back.mpr ((kept_iff small).mpr (.inl (Binary64.spacing_dvd_of_le narrow)))
  · exact back.trans (kept_iff small)
  · have middle : min (Binary64.spaced (2 ^ 53 + 1)) (UInt64.size - 1) = 2 ^ 53 := by
      decide +kernel
    have known : settings.updateIntervalMs.toNat = 2 ^ 53 + 1 := first
    rw [read_written, rounded, known, middle]

/-- At the end of the exact intervals, right after it, and at the largest one. -/
theorem written_settings_come_back_at_bounds :
    let last : StreamerSettings := ⟨UInt64.ofNat (2 ^ 53), 16⟩
    let lost : StreamerSettings := ⟨UInt64.ofNat (2 ^ 53 + 1), 16⟩
    let largest : StreamerSettings := ⟨UInt64.ofNat (UInt64.size - 1), 65535⟩
    last.updateIntervalMs.toNat ≤ 2 ^ 53 ∧ read last.written = .ok last ∧
      lost.updateIntervalMs.toNat = 2 ^ 53 + 1 ∧ read lost.written = .ok last ∧
      read largest.written = .ok largest := by
  intro last lost largest
  rcases written_settings_come_back_rounded last with ⟨-, -, exactly, -⟩
  rcases written_settings_come_back_rounded lost with ⟨-, -, -, -, first⟩
  rcases written_settings_come_back_rounded largest with ⟨-, -, -, kept, -⟩
  have narrow : last.updateIntervalMs.toNat ≤ 2 ^ 53 := by decide
  have next : lost.updateIntervalMs.toNat = 2 ^ 53 + 1 := by decide
  exact ⟨narrow, exactly narrow, next, first next, kept.mpr (.inr (by decide))⟩

end StreamerSettings

end ConsoleFeed
