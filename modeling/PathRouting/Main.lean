import PathRouting.CommandLine.Run
import PathRouting.Logging.Line
import PathRouting.Service

/-! # The program

Reads the arguments, the environment and the table file, runs the command and writes its report.
The log goes to the error stream.
-/

namespace PathRouting

namespace Program

def environment : IO Environment := do
  let mut env : Environment := Dictionary.empty
  for name in Settings.variableNames ++ LogSettings.variableNames do
    match ← IO.getEnv name with
    | some value => env := env.insert name.toList value.toList
    | none => pure ()
  return env

def content (path : Text) : IO (Except FileFault Text) := do
  try
    return .ok (← IO.FS.readFile (String.ofList path)).toList
  catch
    | .noFileOrDirectory .. => return .error .notFound
    | _ => return .error .notReadable

def writeLog (log : LogSettings) (events : List Event) : IO Unit := do
  for event in events do
    match log.line? event with
    | some line => IO.eprintln (String.ofList line)
    | none => pure ()

def measure (r : Router Controller) (method : Method) (paths : List Text) : IO (Text → Nat) := do
  let mut measured : Dictionary Nat := ∅
  for path in paths do
    let start ← IO.monoNanosNow
    -- a reference is not made before there is an outcome to put in it
    let _ ← IO.mkRef (r.tree.lookup method path)
    let stop ← IO.monoNanosNow
    measured := measured.insert path (stop - start)
  return fun path => (measured.get? path).getD 0

/-- How long the lookups of a command take with the router it has loaded. -/
def elapsed (loaded : Except LoadError (Router Controller)) : Command → IO (Text → Nat)
  | .resolve _ method paths =>
    match loaded, Method.named? method with
    | .ok r, some m => measure r m paths
    | _, _ => return fun _ => 0
  | _ => return fun _ => 0

def pause : UInt32 := 500

/-- Reload the router whenever the content of the file has changed. -/
partial def watch (log : LogSettings) (s : Service) : IO Unit := do
  IO.sleep pause
  let file ← content s.path
  if file.toOption.isNone || file.toOption = s.file.toOption then watch log s
  else
    let result := ({ s with file }).step .reload
    writeLog log result.events
    match result.value with
    | (s, .loaded (.error e)) =>
      writeLog log [.reloadFailed s.path e.message]
      watch log s
    | (s, _) => watch log s

def usage : UsageError → String
  | .help => "Usage: check|resolve|routes|watch --routes FILE"
  | .missingCommand => "Usage: check|resolve|routes|watch --routes FILE"
  | .unknownCommand => "error: unrecognized subcommand"
  | .unknownArgument => "error: unexpected argument"
  | .missingArgument => "error: a required argument was not provided"
  | .repeatedOption => "error: an option cannot be used multiple times"
  | .badValue => "error: an option has no value"
  | .surplusValue => "error: an argument takes no value"

def run (args : List Text) : IO UInt32 := do
  let env ← environment
  let log := LogSettings.ofEnvironment env
  let settings := Settings.ofEnvironment env
  match CommandLine.parse args with
  | .error .help =>
    IO.println (usage .help)
    return 0
  | .error e =>
    IO.eprintln (usage e)
    return 2
  | .ok command =>
    let file ← content command.file
    let loaded := Router.load settings command.file file
    let report := command.report loaded (← elapsed loaded.value command)
    writeLog log report.events
    IO.print (String.ofList report.value.written)
    match report.value.error with
    | some e =>
      IO.eprintln ("Error: " ++ String.ofList e.message)
      return 1
    | none =>
      match command with
      | .watch _ => watch log { Service.start settings command.file with file }
      | _ => pure ()
      return 0

end Program

end PathRouting

def main (args : List String) : IO UInt32 :=
  PathRouting.Program.run (args.map (·.toList))
