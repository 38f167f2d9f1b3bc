import ConsoleFeed.CommandLine
import ConsoleFeed.Settings.Reading
import ConsoleFeed.WorkingDirectory

/-!
# The settings file

The settings of a run come from the file that the command line names, if it names one, and are as by
default otherwise; what the command line gives itself comes in the place of what the file gives. A
file that cannot be read, that is no text, or whose text gives no settings, ends the run.

Files are read through a function from paths, which may be the working directory's or the system's.
-/

namespace ConsoleFeed

/-- Reads a file by its path. -/
abbrev FileReader := String → Except SystemFault (List UInt8)

/-- Why settings cannot be loaded from a file. -/
inductive LoadFailure where
  | unreadable (path : String) (fault : SystemFault)
  | unparsable (path : String) (fault : SettingsFault)
deriving DecidableEq

namespace LoadFailure

/-- What the failure says. -/
def message : LoadFailure → String
  | .unreadable path fault => "Unable to read config file " ++ path ++ ": " ++ fault.message
  | .unparsable path fault => "Unable to parse config file " ++ path ++ ": " ++ fault.message

/-- The inner form of the failure; of a text that gives no settings only that is told. -/
def inner : LoadFailure → String
  | .unreadable path fault =>
      "Read \x7b path: " ++ Visible.quoted path ++ ", source: " ++ fault.inner ++ " \x7d"
  | .unparsable _ _ => "Parse"

/-- Whether loading broke down, so that nothing is left to report the failure. -/
def isBreakdown : LoadFailure → Bool
  | .unparsable _ .splitCharacter => true
  | _ => false

end LoadFailure

namespace ServerSettings

/-- Loads settings from the file with a path. -/
def load (readFile : FileReader) (path : String) : Except LoadFailure ServerSettings :=
  match readFile path with
  | .error fault => .error (.unreadable path fault)
  | .ok bytes =>
      match Utf8.decode? bytes with
      | none => .error (.unreadable path .notText)
      | some text =>
          match read text with
          | .error fault => .error (.unparsable path fault)
          | .ok settings => .ok settings

end ServerSettings

namespace Arguments

/-- The settings of a run with these arguments. -/
def settings (arguments : Arguments) (readFile : FileReader) : Except LoadFailure ServerSettings :=
  let loaded := match arguments.settingsFile with
    | some path => ServerSettings.load readFile path
    | none => .ok .standard
  loaded.map fun settings =>
    settings.withOverrides arguments.updateIntervalMs arguments.bindAddress

end Arguments

end ConsoleFeed
