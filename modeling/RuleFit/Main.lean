import RuleFit.Command.Basic

/-!
# The program

The outer layer: it looks at the files that the arguments name, runs the command on what it saw and
prints what the run left behind. No linter is linked into it, so it can list candidates, and infers
only where a program built on this library hands it modules with engines.
-/

namespace RuleFit

/-- What is at a path now. -/
def lookAt (path : Text) : IO (Except FileFault Node) := do
  try
    return .ok (.file (← IO.FS.readBinFile path.plain).toList)
  catch e =>
    match e with
    | .noFileOrDirectory .. => return .error .notFound
    | other =>
      if (toString other).contains "ot a directory" then return .error .notDirectory
      else return .ok .directory

/-- The paths that a command line may be about: its arguments, and what follows an equals sign. -/
def candidatePaths (args : List Text) : List Text :=
  let values := args.map fun a => Text.mk ((a.points.dropWhile (· ≠ .char '=')).drop 1)
  let paths := args ++ values
  paths ++ paths.map showPath

/-- Looks at some paths, and gives the file system of what was seen. -/
def observe (paths : List Text) : IO FileSystem := do
  let seen ← paths.mapM fun path => return (path, ← lookAt path)
  return fun path => (seen.lookup path).getD (.error .notFound)

/-- Runs the program with engines from some modules. -/
def runProgram {σ : Type} (modules : List (EngineModule (Engine σ × σ))) (args : List Text) :
    IO UInt32 := do
  let directory : Text := toString (← IO.currentDir)
  let files ← observe (candidatePaths args ++ [Command.settingsName])
  let outcome := Command.run { files, directory, modules, clock := .stopped } args
  IO.print outcome.out.plain
  IO.eprint outcome.err.plain
  match outcome.ending with
  | .exit code => return code.toUInt32
  | .usage f => IO.eprintln ("Error: " ++ f.message.plain); return 2
  | .crash c => IO.eprintln c.message.plain; return 1

end RuleFit

def main (args : List String) : IO UInt32 :=
  RuleFit.runProgram ([] : List (RuleFit.EngineModule (RuleFit.Engine Unit × Unit)))
    (args.map RuleFit.Text.ofString)
