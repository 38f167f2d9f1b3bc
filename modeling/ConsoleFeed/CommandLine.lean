import ConsoleFeed.Text.Digits

/-!
# The command line

The program takes three options, each with a value, and a flag that asks for help. A value stands in
the next argument, or in the same one: after an equals sign, and after the one-letter form also
without one. Nothing else is taken: no further arguments, no abbreviations, and no option twice.

The arguments are read from left to right and the first problem ends the reading; asking for help
does so too. A value in the same argument is checked at once. One in the next argument is checked
only when the next known option or flag is met, or at the end: until then it is pending, and an
unknown argument that comes first is the problem that counts.
-/

namespace ConsoleFeed

/-- What the command line gives. -/
structure Arguments where
  settingsFile : Option String
  updateIntervalMs : Option UInt64
  bindAddress : Option String
deriving DecidableEq

/-- An option that takes a value. -/
inductive Parameter where
  | settingsFile
  | updateInterval
  | bindAddress
deriving DecidableEq

/-- What an argument can name. -/
inductive Switch where
  | help
  | parameter (parameter : Parameter)
deriving DecidableEq

/-- Why the reading of the command line ended before its end. -/
inductive UsageStop where
  | help
  | unknownArgument
  | missingValue
  | unreadableValue
  | repeatedParameter
  | unwantedValue
deriving DecidableEq

/-- The code with which the program exits then: only asking for help is no mistake. -/
def UsageStop.exitCode : UsageStop → Nat
  | .help => 0
  | _ => 2

namespace Switch

/-- The switch with a long name. -/
def ofName? (name : String) : Option Switch :=
  match name with
  | "help" => some .help
  | "config" => some (.parameter .settingsFile)
  | "update-interval-ms" => some (.parameter .updateInterval)
  | "bind-address" => some (.parameter .bindAddress)
  | _ => none

/-- The switch with a one-letter name. -/
def ofLetter? (letter : Char) : Option Switch :=
  match letter with
  | 'h' => some .help
  | 'c' => some (.parameter .settingsFile)
  | _ => none

end Switch

/-- The shape of an argument. -/
inductive ArgumentShape where
  | plain
  | separator
  | long (name : String) (value : Option String)
  | short (letter : Char) (rest : List Char)
deriving DecidableEq

namespace ArgumentShape

/-- The shape of an argument; a lone hyphen is as plain as a word. -/
def ofCharacters : List Char → ArgumentShape
  | ['-', '-'] => .separator
  | '-' :: '-' :: rest =>
      let (name, after) := Digits.span (· != '=') rest
      .long (String.ofList name) (after.head?.map fun _ => String.ofList after.tail)
  | '-' :: letter :: rest => .short letter rest
  | _ => .plain

end ArgumentShape

/-- What has been taken from the arguments so far, and the option that is pending, with its value
once that was met. -/
structure ArgumentReading where
  taken : Arguments
  pending : Option (Parameter × Option String)
deriving DecidableEq

namespace Arguments

/-- Nothing is given. -/
def empty : Arguments := ⟨none, none, none⟩

/-- Whether an option is given. -/
def gives (arguments : Arguments) : Parameter → Bool
  | .settingsFile => arguments.settingsFile.isSome
  | .updateInterval => arguments.updateIntervalMs.isSome
  | .bindAddress => arguments.bindAddress.isSome

/-- Takes the value of an option over. -/
def take (arguments : Arguments) (parameter : Parameter) (value : String) :
    Except UsageStop Arguments :=
  if arguments.gives parameter then .error .repeatedParameter
  else
    match parameter with
    | .settingsFile =>
        if value.isEmpty then .error .missingValue
        else .ok { arguments with settingsFile := some value }
    | .updateInterval =>
        match Digits.unsigned? (UInt64.size - 1) value.toList with
        | some number => .ok { arguments with updateIntervalMs := some (UInt64.ofNat number) }
        | none => .error .unreadableValue
    | .bindAddress => .ok { arguments with bindAddress := some value }

end Arguments

namespace ArgumentReading

/-- Nothing has been taken, and nothing is pending. -/
def start : ArgumentReading := ⟨.empty, none⟩

/-- Takes over what is pending. -/
def settle (reading : ArgumentReading) : Except UsageStop Arguments :=
  match reading.pending with
  | none => .ok reading.taken
  | some (_, none) => .error .missingValue
  | some (parameter, some value) => reading.taken.take parameter value

/-- Reads an option whose value may stand in the same argument. -/
def onParameter (reading : ArgumentReading) (parameter : Parameter) (value : Option String) :
    Except UsageStop ArgumentReading :=
  match reading.settle with
  | .error stop => .error stop
  | .ok taken =>
      match value with
      | none => .ok ⟨taken, some (parameter, none)⟩
      | some value => (taken.take parameter value).map fun taken => ⟨taken, none⟩

/-- Reads the flag that asks for help, which ends the reading in any case. -/
def onHelp (reading : ArgumentReading) : UsageStop :=
  match reading.settle with
  | .error stop => stop
  | .ok _ => .help

/-- Reads a plain argument, which can only be a value that an option waits for. -/
def onPlain (reading : ArgumentReading) (argument : String) : Except UsageStop ArgumentReading :=
  match reading.pending with
  | some (parameter, none) => .ok { reading with pending := some (parameter, some argument) }
  | _ => .error .unknownArgument

/-- The value that the characters after a one-letter name give, if there are any. -/
def attachedValue? : List Char → Option String
  | [] => none
  | '=' :: rest => some (String.ofList rest)
  | rest => some (String.ofList rest)

/-- Reads an argument that is not the separator. -/
def onArgument (reading : ArgumentReading) (argument : String) : Except UsageStop ArgumentReading :=
  match ArgumentShape.ofCharacters argument.toList with
  | .long name value =>
      match Switch.ofName? name with
      | none => .error .unknownArgument
      | some .help => .error (if value.isSome then .unwantedValue else reading.onHelp)
      | some (.parameter parameter) => reading.onParameter parameter value
  | .short letter rest =>
      match Switch.ofLetter? letter with
      | none => .error .unknownArgument
      | some .help => .error reading.onHelp
      | some (.parameter parameter) => reading.onParameter parameter (attachedValue? rest)
  | _ => reading.onPlain argument

/-- Reads arguments. After the separator nothing may follow. -/
def readAll (reading : ArgumentReading) : List String → Except UsageStop Arguments
  | [] => reading.settle
  | argument :: rest =>
      if ArgumentShape.ofCharacters argument.toList = .separator then
        if rest.isEmpty then reading.settle else .error .unknownArgument
      else
        match reading.onArgument argument with
        | .error stop => .error stop
        | .ok later => later.readAll rest

end ArgumentReading

/-- Reads the command line. -/
def Arguments.read (arguments : List String) : Except UsageStop Arguments :=
  ArgumentReading.start.readAll arguments

end ConsoleFeed
