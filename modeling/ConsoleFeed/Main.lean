import ConsoleFeed.Server.Run

/-!
# The program

The program reads the command line and the settings file, and serves. A request is a line of the
standard input: the method, the target, and for a request with a body the body, which is taken as a
JSON document. The response goes to the standard output, the log to the standard error. The end of
the input is the interrupt.

Everything that is decided is decided elsewhere; here it is only carried out.
-/

namespace ConsoleFeed.Program

/-- How the program is used. -/
def usage : String :=
  "Serves console snapshots and push streams over HTTP\n\n" ++
    "Usage: console-streamer-server [OPTIONS]\n\n" ++
    "Options:\n" ++
    "  -c, --config <FILE>            json5 configuration file\n" ++
    "      --update-interval-ms <MS>  Overrides \x60console_streamer.update_interval_ms\x60\n" ++
    "      --bind-address <ADDR>      Overrides \x60http.bind_address\x60\n" ++
    "  -h, --help                     Print help\n"

/-- The fault that a failed reading of a file is. -/
def faultOf : IO.Error → SystemFault
  | .noFileOrDirectory .. => .notFound
  | .inappropriateType _ 20 _ => .notDirectory
  | .inappropriateType _ 21 _ => .isDirectory
  | .permissionDenied _ number text => .numbered .permissionDenied number.toNat text
  | other => .described .other (toString other)

/-- Reads a file whose path is known beforehand, so that the reader is a function. -/
def readFile (path : String) : IO (Except SystemFault (List UInt8)) := do
  match ← (IO.FS.readBinFile path).toBaseIO with
  | .ok bytes => return .ok bytes.toList
  | .error fault => return .error (faultOf fault)

/-- A reader that knows the one file that the command line names. -/
def readerFor (arguments : List String) : IO FileReader := do
  let named? : Option String := match Arguments.read arguments with
    | .ok given => given.settingsFile
    | .error _ => none
  match named? with
  | none => return fun _ => .error .notFound
  | some path =>
      let contents ← readFile path
      return fun asked => if asked = path then contents else .error .notFound

/-- A file of the system's own, or nothing if it cannot be read. -/
def systemFile (path : String) : IO String := do
  match ← (IO.FS.readFile path).toBaseIO with
  | .ok text => return text
  | .error _ => return ""

/-- What can be found out about the machine and the process. -/
def machine : IO Machine := do
  let described := (← systemFile "/proc/cpuinfo").splitOn "\n"
  let processors := (described.filter (·.startsWith "processor")).length
  let state := (← systemFile "/proc/self/stat").splitOn " "
  let processId := (state.head?.bind String.toNat?).getD 0
  let environment := ((← systemFile "/proc/self/environ").splitOn "\x00").filterMap fun entry =>
    match entry.splitOn "=" with
    | name :: value@(_ :: _) => some (name, "=".intercalate value)
    | _ => none
  return ⟨processors, processId, ← IO.monoMsNow, environment⟩

/-- Writes entries of the log. -/
def writeLog (output : IO.FS.Stream) (entries : List LogEntry) : IO Unit := do
  for entry in entries do
    output.putStrLn entry.line
  output.flush

/-- The request in a line. -/
def requestOf? (line : String) : Option Http.Request :=
  match line.splitOn " " with
  | [method, target] => Http.Request.make? method target none []
  | method :: target :: body =>
      Http.Request.make? method target (some Http.Response.documentType)
        (Utf8.encode (" ".intercalate body))
  | _ => none

/-- The text of a response. -/
def responseText (response : Http.Response) : String :=
  match response.body with
  | .text content => toString response.status ++ " " ++ content
  | .eventStream .. => toString response.status ++ " " ++ Http.Response.eventStreamType

/-- Serves the requests of the input until it ends. -/
partial def serveInput (server : Server) (input output log : IO.FS.Stream) : IO Server := do
  let line ← input.getLine
  if line.isEmpty then return server
  match (requestOf? line.trimAscii.toString).bind (server.accept? none) with
  | none =>
      output.putStrLn "400"
      output.flush
      serveInput server input output log
  | some reply =>
      writeLog log (LogEntry.ofEvents reply.events)
      output.putStrLn (responseText reply.answer)
      output.flush
      serveInput (reply.state.disconnect server.connections) input output log

/-- Serves, and stops when the input has ended. -/
def serve (listener : Listener) (input output log : IO.FS.Stream) : IO Unit := do
  writeLog log [.listening (listener.address.host ++ ":" ++ toString listener.address.socket)]
  let served ← serveInput listener.server input output log
  match served.interrupt.stop? with
  | none => return
  | some swept => writeLog log (LogEntry.ofEvents swept.events ++ [.stopped swept.answer])

/-- Carries the program out; the answer is its exit code. -/
def run (arguments : List String) : IO Nat := do
  let log ← IO.getStderr
  let launch := Launch.start arguments (← readerFor arguments) (← machine)
  writeLog log launch.log
  match launch.outcome with
  | .ok listener =>
      serve listener (← IO.getStdin) (← IO.getStdout) log
      return 0
  | .error failure =>
      match failure, failure.report? with
      | .usage _, _ => IO.print usage
      | _, some report => log.putStrLn report
      | _, none => log.putStrLn "the program broke down"
      return failure.exitCode

end ConsoleFeed.Program

/-- Runs the program with the arguments of the command line. -/
def main (arguments : List String) : IO UInt32 := do
  return (← ConsoleFeed.Program.run arguments).toUInt32
