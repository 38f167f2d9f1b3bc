import ConsoleFeed.Text.Visible

/-!
# Workers

A tick loop runs on a worker: it has an identifier of 32 hexadecimal digits and the name of the
thread that it runs on, which may have none.
-/

namespace ConsoleFeed

/-- The worker that a tick loop runs on. -/
structure Worker where
  id : String
  thread : String
deriving DecidableEq

namespace Worker

/-- How a thread without a name is called. -/
def unknownThread : String := "unknown-thread"

/-- A worker on a thread that may have a name. -/
def onThread (id : String) (thread : Option String) : Worker :=
  ⟨id, thread.getD unknownThread⟩

/-- The identifier of the worker with a number. -/
def idOfNumber (number : Nat) : String :=
  String.ofList (Digits.padLeft 32 (Digits.hex number))

/-- The inner form of the worker. -/
def description (worker : Worker) : String :=
  "WorkerContext \x7b worker_id: " ++ Visible.quoted worker.id ++ ", worker_thread: " ++
    Visible.quoted worker.thread ++ " \x7d"

end Worker

end ConsoleFeed
