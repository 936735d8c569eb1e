import TransformPreset.Command.Help
import TransformPreset.Command.Run
import TransformPreset.Console.Drawing
import TransformPreset.Toml.Document

/-!
# The program

The outer layer: it reads the arguments, the environment and the settings files that a command may
ask for, and writes what the command shows. The version of the runtime is taken from the environment
variable `NODE_VERSION`.
-/

namespace TransformPreset

/-- What the disk has at a path. -/
def probe (path : Path) : IO DiskEntry := do
  try
    return .file (← IO.FS.readBinFile path.text)
  catch
    | .inappropriateType _ code _ => return if code == 20 then .throughFile else .directory
    | .invalidArgument _ code _ => return if code == 36 then .tooLong else .missing
    | .permissionDenied _ code words =>
      return .refused (.ok true) ⟨code.toNat, words⟩
    | _ => return .missing

/-- What the disk has at the given paths; other paths are taken to be empty. -/
def probeAll (paths : List Path) : IO Disk := do
  let probed ← paths.mapM fun path => do return (path, ← probe path)
  return fun path => ((probed.find? fun entry => entry.1 == path).map Prod.snd).getD .missing

/-- The outside world of a command. -/
def surroundings (command : Command) : IO Host := do
  let directory := Path.ofText ((← IO.getEnv "PWD").getD ".")
  let disk ← probeAll (settingsCandidates directory command.config?)
  let runtime := ((← IO.getEnv "NODE_VERSION").map RuntimeReply.printed).getD .missing
  return { settings := { disk, directory, reader := Toml.read }, runtime, console := terminal }

/-- Writes what a command shows, and gives its exit status. -/
def present (outcome : CommandOutcome) : IO UInt32 := do
  for entry in outcome.log do
    IO.eprintln (entry.level.label ++ " | " ++ entry.source.label ++ " | " ++ entry.message)
  for item in outcome.screen do
    for line in item.lines do
      IO.println line
  if let some failure := outcome.escaped then
    IO.eprintln failure.message
  return UInt32.ofNat outcome.status

end TransformPreset

open TransformPreset

/-- Runs the command that the arguments name. -/
def main (arguments : List String) : IO UInt32 := do
  match CommandLine.read arguments with
  | .help =>
    for line in helpLines do
      IO.println line
    return 0
  | .refused =>
    IO.eprintln "envpreset: the command line is not understood; see --help"
    return 2
  | .unusablePath =>
    IO.eprintln Failure.pathUnusable.message
    return 1
  | .run command level => present (command.run (← surroundings command) level)
