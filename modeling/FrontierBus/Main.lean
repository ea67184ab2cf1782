import FrontierBus.Broker.Action
import FrontierBus.Command.Run

/-!
# The program

Runs one command on a log in memory, which has the topics that the settings name. The settings
come from the environment.
-/

namespace FrontierBus

/-- What is shown to those who ask for help, and to those whose arguments are refused. -/
def usage : String :=
  "Usage: crawlbus <check | produce STREAM | consume STREAM | lag> [OPTIONS]\n"

/-- A command on a log in memory. -/
def runInMemory (isFile : String → Bool) (values : Variables) (command : Command)
    (input : Command.Input) : Command.Output :=
  match (Settings.ofVariables isFile values).bind Broker.withTopics with
  | .error fault => .failed (.settings fault)
  | .ok broker => (command.run isFile values input (Timeline.start broker)).1

/-- The files that the settings need, if the settings can be read. -/
def neededFiles (values : Variables) : List String :=
  match Settings.read values with
  | .error _ => []
  | .ok settings => settings.connection.security.files

/-- A file is there and can be read. -/
def canRead (path : String) : IO Bool := do
  try
    let handle ← IO.FS.Handle.mk path .read
    let _ ← handle.read 1
    return true
  catch _ => return false

/-- All that can be read of a stream, behind what was read of it. -/
partial def readAll (stream : IO.FS.Stream) (before : ByteArray) : IO Command.Input := do
  match ← (stream.read 65536).toBaseIO with
  | .error fault => return ⟨before, some (toString fault)⟩
  | .ok piece =>
    if piece.isEmpty then return ⟨before, none⟩ else readAll stream (before ++ piece)

/-- Runs a command with the settings of the environment. -/
def runCommand (command : Command) : IO UInt32 := do
  let entries ← Variable.all.filterMapM fun which => do
    return (← IO.getEnv which.key).map fun text => (which, text)
  let values := Variables.ofList entries
  let files ← (neededFiles values).filterM canRead
  let input ← if command.takesInput then readAll (← IO.getStdin) .empty else pure ⟨.empty, none⟩
  let output := runInMemory files.contains values command input
  IO.print output.text
  match output.failure with
  | none => return 0
  | some failure =>
    IO.eprint failure.shown
    return 1

end FrontierBus

/-- The exit code is 1 for a command that fails, and 2 for arguments that are refused. -/
def main (arguments : List String) : IO UInt32 := do
  match FrontierBus.Command.ofArguments arguments with
  | .help =>
    IO.print FrontierBus.usage
    return 0
  | .version =>
    IO.print FrontierBus.Command.versionText
    return 0
  | .refused =>
    IO.eprint FrontierBus.usage
    return 2
  | .run command => FrontierBus.runCommand command
