import ConsoleFeed.Provider.Directory

/-!
# Built-in consoles

A server has three consoles of its own: one that shows the running process, one that gives the
options back, and one that shows the environment's variables, all of them or those whose names start
with the text option `prefix`. What they show of the machine is handed to them.
-/

namespace ConsoleFeed

/-- What the consoles show of the machine and the process. -/
structure Machine where
  parallelism : Nat
  processId : Nat
  uptimeMs : Nat
  environment : List (String × String)

namespace Builtin

/-- The key of the console that shows the process. -/
def runtimeKey : String := "runtime"

/-- The key of the console that gives the options back. -/
def echoKey : String := "echo"

/-- The key of the console that shows the environment. -/
def environmentKey : String := "environment"

/-- The keys of the consoles, in the order in which they are registered. -/
def keys : List String := [runtimeKey, echoKey, environmentKey]

/-- The version that the process shows. -/
def version : String := "0.1.0"

/-- Shows the process. -/
def runtime (machine : Machine) : Outcome :=
  .document (.ofMembers [("available_parallelism", .ofNat machine.parallelism),
    ("pid", .ofNat machine.processId), ("uptime_ms", .ofNat machine.uptimeMs),
    ("version", .text version)])

/-- Shows the variables whose names start with a text, unless there are none. -/
def variablesStarting (machine : Machine) (start : String) : Outcome :=
  match machine.environment.filter fun entry => start.toList.isPrefixOf entry.1.toList with
  | [] => .nothing
  | found => .document (.ofMembers (found.map fun entry => (entry.1, .text entry.2)))

/-- Shows the variables that the options ask for. -/
def environment (machine : Machine) (options : OptionSet) : Outcome :=
  match options.find? "prefix" with
  | none => variablesStarting machine ""
  | some (.text start) => variablesStarting machine start
  | some other => .failed ("prefix must be a string, got " ++ other.compact)

/-- The built-in consoles, in the order in which they are registered. -/
def providers (machine : Machine) : List Provider :=
  [⟨runtimeKey, fun _ _ => runtime machine, none⟩,
    ⟨echoKey, fun _ options => .document options.toDocument, none⟩,
    ⟨environmentKey, fun _ options => environment machine options, none⟩]

end Builtin

end ConsoleFeed
