import Bindery.Command.Run

/-!
# The program

Reads the files that a command names, plans the command, and carries out its steps.
-/
namespace Bindery.Command

def readText (path : String) : IO (Option String) := do
  try
    return String.fromUTF8? (← IO.FS.readBinFile path)
  catch _ => return none

/-- Writes a file and makes the folders on the way. -/
def writeText (path content : String) : IO Bool := do
  try
    let folder := "/".intercalate (FileTree.steps path).dropLast
    if folder != "" then IO.FS.createDirAll folder
    IO.FS.writeFile path content
    return true
  catch e =>
    IO.eprintln s!"Error: {e}"
    return false

/-- Carries out steps and gives the exit code. -/
def perform (fails : Bool) : List Step → IO UInt32
  | [] => return if fails then 1 else 0
  | .print text :: steps => do
    IO.print text
    perform fails steps
  | .write path content :: steps => do
    if ← writeText path content then
      IO.print (written path)
      perform fails steps
    else return 1

end Bindery.Command

open Bindery.Command in
def main (arguments : List String) : IO UInt32 := do
  match parse arguments with
  | .error .usage =>
    IO.eprintln "Usage: portal <COMMAND>"
    return 2
  | .error (.help topic) =>
    IO.print (help topic)
    return 0
  | .ok request =>
    let texts ← request.inputs.mapM fun path => return (path, ← readText path)
    let plan := plan (fun path => (texts.lookup path).join) request
    perform plan.fails plan.steps
