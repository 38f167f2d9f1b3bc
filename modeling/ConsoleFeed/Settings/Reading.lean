import ConsoleFeed.Json5.Reader
import ConsoleFeed.Settings.Basic

/-!
# Reading settings

Settings are records. A record is read from an object, member by member in the order of the text:
each name must be known and may be given once, and its value must suit its field. A record may also
be given as an array of values in the order of its fields; values beyond the last field are not
looked at. What is not given is as it is by default. The first fault that is met counts.

A record's reading is described by its fields alone, each a name and the way its value is taken over
into the record.
-/

namespace ConsoleFeed

/-- What a value is, where it does not suit. -/
inductive Found where
  | null
  | boolean (value : Bool)
  | integer (value : Int)
  | float (value : Json5.Extended)
  | text (value : String)
  | array
  | object
deriving DecidableEq

/-- How a value that does not suit is called. -/
def Found.description : Found → String
  | .null => "unit value"
  | .boolean value => "boolean \x60" ++ (if value then "true" else "false") ++ "\x60"
  | .integer value => "integer \x60" ++ toString value ++ "\x60"
  | .float value => "floating point \x60" ++ value.text ++ "\x60"
  | .text value => "string " ++ Visible.quoted value
  | .array => "sequence"
  | .object => "map"

/-- Why settings cannot be read. A character is split where two bytes of a value are looked at that
end inside of it; then reading does not just fail but breaks down. -/
inductive SettingsFault where
  | grammar
  | value (fault : Json5.Fault)
  | unsuited (found : Found) (expected : String)
  | unknownField (name : String) (known : List String)
  | duplicateField (name : String)
  | splitCharacter
deriving DecidableEq

/-- What a fault says; of a text that does not follow the grammar nothing more is told. -/
def SettingsFault.message : SettingsFault → String
  | .grammar => "the text does not follow the grammar"
  | .value fault => fault.message
  | .unsuited found expected => "invalid type: " ++ found.description ++ ", expected " ++ expected
  | .unknownField name known =>
      "unknown field \x60" ++ name ++ "\x60, expected " ++
        " or ".intercalate (known.map fun field => "\x60" ++ field ++ "\x60")
  | .duplicateField name => "duplicate field \x60" ++ name ++ "\x60"
  | .splitCharacter => "a character cannot be split"

/-- Whether something read was taken, or why it was not. -/
abbrev SettingsResult (Result : Type) := Except SettingsFault Result

/-- A field of a record: its name, and how its value is taken over into the record. -/
structure Field (Record : Type) where
  name : String
  take : Json5.Value → Record → SettingsResult Record

namespace Json5.Value

/-- What a value is. A text or a number that cannot be taken is a fault of its own. -/
def found : Value → SettingsResult Found
  | .null => .ok .null
  | .boolean value => .ok (.boolean value)
  | .number written =>
      match written.classify with
      | .ok (.integer value) => .ok (.integer value)
      | .ok (.float value) => .ok (.float value)
      | .error fault => .error (.value fault)
  | .text _ pieces =>
      match Piece.text pieces with
      | .ok value => .ok (.text value)
      | .error fault => .error (.value fault)
  | .array .. => .ok .array
  | .object .. => .ok .object

/-- The fault of a value that does not suit. -/
def refuse {Result : Type} (value : Value) (expected : String) : SettingsResult Result :=
  match value.found with
  | .ok found => .error (.unsuited found expected)
  | .error fault => .error fault

/-- Takes a number, without its fraction and held within the range up to the largest one allowed. Of
any other value the first two bytes are looked at, as if they could begin a number. -/
def takeNumber (largest : Nat) : Value → SettingsResult Nat
  | .number written =>
      match written.extended with
      | .ok taken => .ok (taken.saturated largest)
      | .error fault => .error (.value fault)
  | other =>
      if other.splitsCharacter then .error .splitCharacter else .error (.value .notANumber)

/-- Takes a text. -/
def takeText (value : Value) : SettingsResult String :=
  match value with
  | .text _ pieces =>
      match Piece.text pieces with
      | .ok content => .ok content
      | .error fault => .error (.value fault)
  | other => other.refuse "a string"

/-- Takes members over into a record, after those of the names in `seen`. -/
def takeMembers {Record : Type} (fields : List (Field Record)) (seen : List String)
    (record : Record) :
    List (List Piece × Value) → SettingsResult Record
  | [] => .ok record
  | (pieces, value) :: rest =>
      match Piece.text pieces with
      | .error fault => .error (.value fault)
      | .ok name =>
          match fields.find? fun field => field.name == name with
          | none => .error (.unknownField name (fields.map Field.name))
          | some field =>
              if seen.contains name then .error (.duplicateField name)
              else
                match field.take value record with
                | .error fault => .error fault
                | .ok changed => takeMembers fields (name :: seen) changed rest

/-- Takes values over into a record in the order of its fields. -/
def takeItems {Record : Type} :
    List (Field Record) → Record → List Value → SettingsResult Record
  | field :: fields, record, value :: rest =>
      match field.take value record with
      | .error fault => .error fault
      | .ok changed => takeItems fields changed rest
  | _, record, _ => .ok record

/-- Takes a record. -/
def takeRecord {Record : Type} (expected : String) (fields : List (Field Record)) (record : Record)
    (value : Value) : SettingsResult Record :=
  match value with
  | .object _ members => takeMembers fields [] record members
  | .array _ items => takeItems fields record items
  | other => other.refuse ("struct " ++ expected)

end Json5.Value

/-- Reads a text with a way to take its value. -/
def readSettings {Record : Type} (take : Json5.Value → SettingsResult Record) (text : String) :
    SettingsResult Record :=
  match Json5.read? text with
  | none => .error .grammar
  | some value => take value

namespace StreamerSettings

/-- The fields of a streamer's settings. -/
def fields : List (Field StreamerSettings) :=
  [⟨"update_interval_ms", fun value settings =>
      (value.takeNumber (UInt64.size - 1)).map fun number =>
        { settings with updateIntervalMs := UInt64.ofNat number }⟩,
    ⟨"message_queue_size", fun value settings =>
      (value.takeNumber (UInt16.size - 1)).map fun number =>
        { settings with messageQueueSize := UInt16.ofNat number }⟩]

/-- Takes a streamer's settings. -/
def take (value : Json5.Value) : SettingsResult StreamerSettings :=
  value.takeRecord "StreamerConfig" fields standard

/-- Reads a streamer's settings. -/
def read (text : String) : SettingsResult StreamerSettings :=
  readSettings take text

/-- The text of a streamer's settings. -/
def written (settings : StreamerSettings) : String :=
  "\x7b\"update_interval_ms\":" ++ toString settings.updateIntervalMs.toNat ++
    ",\"message_queue_size\":" ++ toString settings.messageQueueSize.toNat ++ "\x7d"

end StreamerSettings

namespace HttpSettings

/-- The fields of the HTTP server's settings. -/
def fields : List (Field HttpSettings) :=
  [⟨"bind_address", fun value _ => value.takeText.map HttpSettings.mk⟩]

/-- Takes the HTTP server's settings. -/
def take (value : Json5.Value) : SettingsResult HttpSettings :=
  value.takeRecord "HttpConfig" fields standard

end HttpSettings

namespace ServerSettings

/-- The fields of the server's settings. -/
def fields : List (Field ServerSettings) :=
  [⟨"console_streamer", fun value settings =>
      (StreamerSettings.take value).map fun streamer => { settings with streamer := streamer }⟩,
    ⟨"http", fun value settings =>
      (HttpSettings.take value).map fun http => { settings with http := http }⟩]

/-- Takes the server's settings. -/
def take (value : Json5.Value) : SettingsResult ServerSettings :=
  value.takeRecord "ServerConfig" fields standard

/-- Reads the server's settings. -/
def read (text : String) : SettingsResult ServerSettings :=
  readSettings take text

end ServerSettings

end ConsoleFeed
