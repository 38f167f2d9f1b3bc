import ConsoleFeed.Proofs.Settings.Fields

/-!
# The settings by field

The settings of a streamer and of HTTP are two records, and those of the server a record of both.
Each has a layout, so all three are read by field, and the order of members does not matter at
either level: a section suits its field exactly if it is itself a record that is accepted.
-/

namespace ConsoleFeed

open Json5 (Piece Value)

theorem Json5.Value.takeNumber_of_reordered {value other : Value}
    (reordered : Reordered value other) (largest number : Nat) :
    value.takeNumber largest = .ok number ↔ other.takeNumber largest = .ok number := by
  have refused : ∀ value : Value,
      (if value.splitsCharacter then (.error .splitCharacter : SettingsResult Nat)
        else .error (.value .notANumber)) ≠ .ok number := by
    intro value
    split <;> nofun
  cases reordered with
  | same => rfl
  | array each => exact iff_of_false (refused _) (refused _)
  | object keys values order => exact iff_of_false (refused _) (refused _)

theorem Json5.Value.takeText_of_reordered {value other : Value}
    (reordered : Reordered value other) (content : String) :
    value.takeText = .ok content ↔ other.takeText = .ok content := by
  cases reordered with
  | same => rfl
  | array each => exact iff_of_false nofun nofun
  | object keys values order => exact iff_of_false nofun nofun

theorem SettingsResult.map_eq_ok_iff {First Second : Type} {result : SettingsResult First}
    {change : First → Second} {content : Second} :
    result.map change = .ok content ↔ ∃ first, result = .ok first ∧ change first = content := by
  cases result with
  | error fault => exact iff_of_false nofun (by rintro ⟨_, ⟨⟩, _⟩)
  | ok first => simp [Except.map]

namespace StreamerSettings

/-- The interval and the queue size, each taken as a number. -/
def layout : Layout StreamerSettings where
  slots :=
    [⟨"update_interval_ms", UInt64,
        fun value => (value.takeNumber (UInt64.size - 1)).map UInt64.ofNat, updateIntervalMs,
        fun settings interval => { settings with updateIntervalMs := interval }⟩,
      ⟨"message_queue_size", UInt16,
        fun value => (value.takeNumber (UInt16.size - 1)).map UInt16.ofNat, messageQueueSize,
        fun settings size => { settings with messageQueueSize := size }⟩]
  distinct := by decide
  get_put := by simp
  get_put_of_ne := by simp
  ext := by
    rintro ⟨interval, size⟩ ⟨otherInterval, otherSize⟩ same
    simpa using same

theorem fields_eq : fields = layout.fields := by
  have after : ∀ {Content : Type} (number : SettingsResult Nat) (ofNat : Nat → Content)
      (put : Content → StreamerSettings),
      number.map (fun number => put (ofNat number)) = (number.map ofNat).map put := by
    intro Content number ofNat put
    cases number <;> rfl
  simp only [fields, layout, Layout.fields, Slot.field, List.map_cons, List.map_nil, ← after]

theorem readByField : ReadByField layout standard take := by
  have steady : ∀ {value other}, Reordered value other → layout.Alike value other := by
    intro value other reordered slot present content
    rcases List.mem_pair.mp present with rfl | rfl <;>
      simp only [SettingsResult.map_eq_ok_iff, Value.takeNumber_of_reordered reordered]
  have read := layout.readByField "StreamerConfig" standard steady
  rw [← fields_eq] at read
  exact read

end StreamerSettings

namespace HttpSettings

/-- The address, taken as a text. -/
def layout : Layout HttpSettings where
  slots := [⟨"bind_address", String, Value.takeText, bindAddress, fun _ address => ⟨address⟩⟩]
  distinct := by decide
  get_put := by simp
  get_put_of_ne := by simp
  ext := by
    rintro ⟨address⟩ ⟨other⟩ same
    simpa using same

theorem readByField : ReadByField layout standard take := by
  have steady : ∀ {value other}, Reordered value other → layout.Alike value other := by
    intro value other reordered slot present
    rcases List.mem_singleton.mp present with rfl
    exact Value.takeText_of_reordered reordered
  exact layout.readByField "HttpConfig" standard steady

end HttpSettings

namespace ServerSettings

/-- The two sections, each taken as a record of its own. -/
def layout : Layout ServerSettings where
  slots :=
    [⟨"console_streamer", StreamerSettings, StreamerSettings.take, streamer,
        fun settings streamer => { settings with streamer := streamer }⟩,
      ⟨"http", HttpSettings, HttpSettings.take, http,
        fun settings http => { settings with http := http }⟩]
  distinct := by decide
  get_put := by simp
  get_put_of_ne := by simp
  ext := by
    rintro ⟨streamer, http⟩ ⟨otherStreamer, otherHttp⟩ same
    simpa using same

theorem readByField : ReadByField layout standard take := by
  have steady : ∀ {value other}, Reordered value other → layout.Alike value other := by
    intro value other reordered slot present
    rcases List.mem_pair.mp present with rfl | rfl
    · exact StreamerSettings.readByField.reordered value other reordered
    · exact HttpSettings.readByField.reordered value other reordered
  exact layout.readByField "ServerConfig" standard steady

end ServerSettings

/-- A text is read exactly if it follows the grammar and its value is taken. -/
theorem readSettings_eq_ok_iff {Record : Type} (take : Value → SettingsResult Record)
    (text : String) (result : Record) :
    readSettings take text = .ok result ↔
      ∃ value, Json5.read? text = some value ∧ take value = .ok result := by
  rw [readSettings]
  cases Json5.read? text with
  | none => exact iff_of_false nofun (by rintro ⟨_, ⟨⟩, _⟩)
  | some value =>
      constructor
      · exact fun taken => ⟨value, rfl, taken⟩
      · rintro ⟨_, ⟨⟩, taken⟩
        exact taken

/-- Settings are read by field and not by position, at every level. A text gives the settings that
its value gives. The value of a record is accepted if and only if it is an object whose names are
known and distinct and whose values suit their fields, or an array whose first items suit the fields
in their order; then it gives the settings by default with exactly the given ones replaced. Members
may stand in any order, and any of them may be missing. -/
theorem settings_are_read_by_field :
    ReadByField StreamerSettings.layout .standard StreamerSettings.take ∧
      ReadByField HttpSettings.layout .standard HttpSettings.take ∧
      ReadByField ServerSettings.layout .standard ServerSettings.take ∧
      (∀ text settings, StreamerSettings.read text = .ok settings ↔
        ∃ value, Json5.read? text = some value ∧ StreamerSettings.take value = .ok settings) ∧
      ∀ text settings, ServerSettings.read text = .ok settings ↔
        ∃ value, Json5.read? text = some value ∧ ServerSettings.take value = .ok settings :=
  ⟨StreamerSettings.readByField, HttpSettings.readByField, ServerSettings.readByField,
    readSettings_eq_ok_iff _, readSettings_eq_ok_iff _⟩

/-- What the texts below give for the streamer. -/
def givenStreamer : List (String × Value) :=
  [("update_interval_ms", .number ⟨.absent, .decimal ['2', '5', '0'] none none⟩),
    ("message_queue_size", .number ⟨.absent, .decimal ['4'] none none⟩)]

/-- What the texts below give for HTTP. -/
def givenHttp : List (String × Value) :=
  [("bind_address", .text '[' ("[::1]:80".toList.map .literal))]

/-- A text with both sections and all fields, one with the members of either level in another order,
and one without names and with items to spare are read to the same settings. -/
theorem settings_are_read_by_field_of_three_texts :
    let settings : ServerSettings := ⟨⟨250, 4⟩, ⟨"[::1]:80"⟩⟩
    ServerSettings.read ("\x7bconsole_streamer: \x7bupdate_interval_ms: 250, " ++
        "message_queue_size: 4\x7d, http: \x7bbind_address: '[::1]:80'\x7d\x7d") = .ok settings ∧
      ServerSettings.read ("\x7bhttp: \x7bbind_address: '[::1]:80'\x7d, " ++
        "console_streamer: \x7bmessage_queue_size: 4, update_interval_ms: 250\x7d\x7d") =
          .ok settings ∧
      ServerSettings.read "[[250, 4, true], ['[::1]:80'], null]" = .ok settings := by
  intro settings
  rcases settings_are_read_by_field with ⟨-, -, server, -, read⟩
  let streamer := Layout.spelled givenStreamer
  let named := Layout.spelled [("console_streamer", .object 'u' streamer),
    ("http", .object 'b' (Layout.spelled givenHttp))]
  let shuffled := Layout.spelled [("http", .object 'b' (Layout.spelled givenHttp)),
    ("console_streamer", .object 'm' streamer.reverse)]
  let items : List Value := [.array '2' (givenStreamer.map Prod.snd ++ [.boolean true]),
    .array '\'' (givenHttp.map Prod.snd)]
  have inner : Reordered (.object 'u' streamer) (.object 'm' streamer.reverse) :=
    .object rfl (.cons (.same _) (.cons (.same _) .nil)) streamer.reverse_perm.symm
  have reordered : Reordered (.object 'c' named) (.object 'h' shuffled) := by
    have order : shuffled.reverse.Perm shuffled := shuffled.reverse_perm
    refine .object ?_ ?_ order
    · rfl
    · exact .cons inner (.cons (.same _) .nil)
  have byName : ServerSettings.take (.object 'c' named) = .ok settings := by decide +kernel
  have byPlace : ServerSettings.take (.array '[' (items ++ [.null])) = .ok settings := by
    rw [server.beyond '[' items [.null] (Nat.le_refl 2),
      server.array '[' items 'c' _ (Layout.meant_spelled _)]
    decide +kernel
  refine ⟨(read _ _).mpr ⟨_, ?_, byName⟩,
    (read _ _).mpr ⟨_, ?_, (server.reordered _ _ reordered settings).mp byName⟩,
    (read _ _).mpr ⟨_, ?_, byPlace⟩⟩ <;> decide +kernel

end ConsoleFeed
