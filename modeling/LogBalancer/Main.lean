/-
# The program

Gathers what a run depends on, runs, brings the changes of the tree to the file system and
prints.  All decisions are made by `CommandLine.run`; a change that the file system refuses is
given back to it as a `FileTree.Trouble`, so that it is reported like any other.

| step | by |
| --- | --- |
| what to look at | `Surroundings.locations`, `Surroundings.variableNames` |
| what to do and print | `CommandLine.run` |
| how to change a file | a temporary file beside it, then a rename |
-/

import LogBalancer.CommandLine.Surroundings

namespace LogBalancer
namespace Program

/-- The text of the path of a location. -/
def pathText (l : Location) : String := (FileTree.pathOf l).toString

/-- What the file system has at a location. -/
def entryAt (l : Location) : IO (Option Entry) := do
  try
    match (← (System.mkFilePath [pathText l]).metadata).type with
    | .dir => return some .directory
    | .file =>
      try return some (.file (← IO.FS.readBinFile (pathText l)).toList)
      catch _ => return some .unreadable
    | _ => return some .device
  catch _ => return none

/-- The part of the file system that some locations show. -/
def gather (locations : List Location) : IO FileTree := do
  let found ← locations.mapM fun l => do return (← entryAt l).map fun e => (l, e)
  return ⟨found.filterMap id⟩

/-- The values of some variables. -/
def gatherVariables (names : List String) : IO Environment := do
  let found ← names.mapM fun name => do
    if name.isEmpty then return none
    return (← IO.getEnv name).map fun v => (name, v)
  return found.filterMap id

/-- Puts a file into its place. -/
def placeFile (l : Location) (octets : List UInt8) : IO Unit := do
  let now ← IO.monoNanosNow
  let temporary := pathText (l.dropLast ++ [FileTree.temporaryName (now % 100000000)])
  try
    IO.FS.writeBinFile temporary ⟨octets.toArray⟩
    IO.FS.rename temporary (pathText l)
  catch e =>
    try IO.FS.removeFile temporary catch _ => pure ()
    throw e

/-- Brings the difference of two trees to the file system, the oldest change first. -/
def settle (before after : FileTree) : IO Unit :=
  for (l, e) in after.entries.reverse do
    unless before.get? l == some e do
      match e with
      | .directory => IO.FS.createDir (pathText l)
      | .file octets => placeFile l octets
      | .unreadable | .device => pure ()

/-- The error of a change that the file system refused. -/
def refusal : IO.Error → FileError
  | .permissionDenied _ code _ => .other code.toNat "Permission denied"
  | .resourceExhausted _ code _ => .other code.toNat "No space left on device"
  | .noFileOrDirectory .. => .noEntry
  | _ => .inputOutput

/-- Runs with the given arguments and settles the outcome. -/
def perform (host : Host) (args : List String) (colours : Bool) : IO Commands.Ending := do
  let ending := CommandLine.run host args colours
  try
    settle host.tree ending.tree
    return ending
  catch e =>
    let reason (stage : FileTree.Stage) : Option FileError :=
      if stage = .fillTemporary then some (refusal e) else none
    return CommandLine.run host args colours ⟨{ reason := reason }, {}⟩

end Program
end LogBalancer

open LogBalancer in
/-- Runs the program. -/
def main (args : List String) : IO UInt32 := do
  let cwd := FileTree.resolve [] (Path.ofString (← IO.currentDir).toString)
  let tree ← Program.gather (Surroundings.locations cwd args)
  let environment ← Program.gatherVariables (Surroundings.variableNames tree)
  let stdout ← IO.getStdout
  let ending ← Program.perform { tree, cwd, environment } args (← stdout.isTty)
  stdout.putStr ending.stdout
  stdout.flush
  let stderr ← IO.getStderr
  stderr.putStr ending.stderr
  match ending.escape with
  | some e => stderr.putStrLn e.message
  | none => return ending.exitCode.toUInt32
  return ending.exitCode.toUInt32
