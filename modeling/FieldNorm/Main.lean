import FieldNorm.Command.Program

/-!
The program on real files: the paths of the command line are read in, the run is carried out,
and the files that it has changed are written.
-/

namespace FieldNorm.Main

open FieldNorm.Command

/-- The paths that a command line names. -/
def pathsOf (i : Invocation) : List String :=
  i.logFile.toList ++ match i.subcommand with
    | .normalize request => request.input :: request.rules :: request.output.toList
    | .sql request => [request.input]

/-- The places on the way of a path, each directory before its entries. -/
def spotsOf (path : String) : List Workspace.Spot :=
  let step (state : Workspace.Spot × List Workspace.Spot) (name : String) :=
    if name = "" ∨ name = "." then state
    else if name = ".." then (state.1.up, state.2)
    else (state.1.down name, state.1.down name :: state.2)
  let start : Workspace.Spot := ⟨path.toList.head? = some '/', []⟩
  ((Text.pieces '/' path).foldl step (start, [])).2.reverse

/-- Reads an entry in; what exists and cannot be read is taken for a directory. -/
def readIn (w : Workspace) (key : String) : IO Workspace := do
  try
    let content ← IO.FS.readBinFile key
    return ⟨w.entries.insert key (.file content)⟩
  catch
    | .noFileOrDirectory .. => return w
    | _ => return ⟨w.entries.insert key .directory⟩

/-- Writes the files that a run has changed. -/
def writeBack (before after : Workspace) : IO Unit :=
  for (key, entry) in after.entries.entries do
    if before.entries.get? key != some entry then
      if let .file content := entry then IO.FS.writeBinFile key content

end FieldNorm.Main

open FieldNorm FieldNorm.Main in
def main (arguments : List String) : IO UInt32 := do
  let paths := match Command.Invocation.read arguments with
    | .ok i => pathsOf i
    | .error _ => []
  let keys := (paths.flatMap spotsOf).map (·.key)
  let before ← keys.foldlM readIn ⟨.empty⟩
  let outcome := Command.run arguments (← IO.getEnv "RUST_LOG") before
  writeBack before outcome.workspace
  (← IO.getStdout).write outcome.output
  (← IO.getStderr).putStr outcome.messages
  return UInt32.ofNat outcome.exitCode
