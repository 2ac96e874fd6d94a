import ChatPrompt.Command.Run

/-!
# The program

The outermost layer: questions about files are answered by the disk, and what a command shows
goes to the standard output.
-/

namespace ChatPrompt

/-- The answer of an action, or nothing where it fails. -/
def answered {α : Type} (action : IO α) : IO (Option α) := do
  match ← action.toBaseIO with
  | .ok a => return some a
  | .error _ => return none

/-- The names of the files in a directory of the disk. -/
def fileNames (path : String) : IO (List String) := do
  let here ← IO.currentDir
  let entries ← (here / path).readDir
  let files ← entries.toList.filterM fun entry => do
    let metadata ← answered entry.path.metadata
    return metadata.any fun data => data.type == .file
  return files.map fun entry => entry.fileName

/-- The files of the disk. -/
def diskFiles : Files IO where
  text? path := answered (IO.FS.readFile path)
  has path := do
    let here ← IO.currentDir
    (here / path).pathExists
  names? path := answered (fileNames path)

/-- The variables of the environment that matter. -/
def knownVariables : List String :=
  ["HOME", Command.settingsVariable, "PROMPTLOOM_MAX_TOKENS", "PROMPTLOOM_CHARS_PER_TOKEN"]

/-- Runs the program over the disk. -/
def runProgram (arguments : List String) : IO UInt32 := do
  let found ← knownVariables.mapM fun name => do return (name, ← IO.getEnv name)
  let environment := fun name => (found.lookup name).join
  let ending ← Command.runArguments diskFiles environment arguments
  (← IO.getStdout).putStr ending.output
  match ending.reason with
  | some reason => IO.eprintln ("Error: " ++ reason)
  | none => pure ()
  return UInt32.ofNat ending.code

end ChatPrompt

/-- Runs the program with the arguments it is called with. -/
def main (arguments : List String) : IO UInt32 := ChatPrompt.runProgram arguments
