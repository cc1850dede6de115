import Bindery.Api.Reader
import Bindery.Command.Arguments
import Bindery.Command.FileTree

/-!
# Runs of the command line

A command is first planned, from the texts that it reads, as a list of steps and whether it fails
after them: each target is generated and put out before the next one is tried. A plan is then
carried out on a tree of files, and a file that cannot be written ends it. The exit code is 0 for
success, 1 for a failure and 2 for a command line that is not understood.
-/
namespace Bindery.Command

inductive Step where
  | print (text : String)
  | write (path content : String)
  deriving DecidableEq, Repr

structure Plan where
  steps : List Step := []
  fails : Bool := false
  deriving DecidableEq, Repr

/-- Gives texts to paths, where there is a file with a text. -/
abbrev Source := String → Option String

def loadApi? (source : Source) (path : String) : Option Api := do
  (Api.ofJson (← source path)).toOption

/-- The layout in a file, or the usual one, with the module path that was given. -/
def loadLayout? (source : Source) (options : Generate) : Option Layout := do
  let layout ← match options.layout with
    | some path => (Layout.ofToml (← source path)).toOption
    | none => some {}
  return match options.modulePath with
    | some modulePath => { layout with modulePath }
    | none => layout

/-- How a generated file is put out: printed after its path, or written below a folder. -/
def emit (out : Option String) (file : GeneratedFile) : Step :=
  match out with
  | some folder => .write (joinPath folder file.path) file.content
  | none => .print s!"// {file.path}\n{file.content}\n"

/-- Generates targets one after the other, up to the first that fails. -/
def planTargets (api : Api) (layout : Layout) (out : Option String) : List Target → Plan
  | [] => {}
  | target :: targets =>
    match target.generate api layout with
    | .error _ => { fails := true }
    | .ok file =>
      let plan := planTargets api layout out targets
      { plan with steps := emit out file :: plan.steps }

/-- What the check of a description prints. -/
def summary (api : Api) : String :=
  s!"ok: {api.interfaces.length} interfaces, {api.structs.length} structs, "
    ++ s!"{api.enums.length} enums\n"

def plan (source : Source) : Request → Plan
  | .generate options =>
    match loadApi? source options.api with
    | none => { fails := true }
    | some api =>
      match loadLayout? source options with
      | none => { fails := true }
      | some layout => planTargets api layout options.out options.targets
  | .check path =>
    match loadApi? source path with
    | none => { fails := true }
    | some api =>
      match api.validate with
      | .error _ => { fails := true }
      | .ok () => { steps := [.print (summary api)] }

def Request.inputs : Request → List String
  | .generate options => options.api :: options.layout.toList
  | .check path => [path]

def written (path : String) : String := s!"Wrote: {path}\n"

structure Outcome where
  code : Nat
  printed : String
  tree : FileTree
  deriving DecidableEq, Repr

/-- Carries out steps on a tree of files. -/
def carryOut (tree : FileTree) (printed : String) (fails : Bool) : List Step → Outcome
  | [] => { code := if fails then 1 else 0, printed, tree }
  | .print text :: steps => carryOut tree (printed ++ text) fails steps
  | .write path content :: steps =>
    match tree.write? path (some content) with
    | none => { code := 1, printed, tree := tree.afterFailure path }
    | some tree => carryOut tree (printed ++ written path) fails steps

/-- Runs a command line on a tree of files. -/
def run (tree : FileTree) (arguments : List String) : Outcome :=
  match parse arguments with
  | .error .usage => { code := 2, printed := "", tree }
  | .error (.help topic) => { code := 0, printed := help topic, tree }
  | .ok request =>
    let plan := plan tree.read? request
    carryOut tree "" plan.fails plan.steps

end Bindery.Command
