/-
# What a run depends on

A run sees a tree of files and an environment.  Of all files it looks only at those that its
arguments name and at the team files of the current directory and those above it; of all
variables only at the one that holds a level and at those that a file has placeholders for.
`Surroundings.locations` and `Surroundings.variableNames` list them, so that no more has to be
gathered before a run.
-/

import LogBalancer.CommandLine.Run

namespace LogBalancer
namespace Surroundings

/-- The paths that arguments name. -/
def namedPaths (args : List String) : List Path :=
  match Arguments.parse Arguments.programSpecs false args with
  | .error _ => []
  | .ok program =>
    let output := match Arguments.parse Arguments.generateSpecs true (program.operands.drop 1) with
      | .error _ => none
      | .ok p => p.value? .output
    ((program.value? .config).toList ++ output.toList).map Path.ofString

/-- The locations on the way along a path. -/
def wayTo (cwd : Location) (p : Path) : List Location :=
  (List.range (p.names.length + 1)).map fun n =>
    FileTree.resolve cwd { p with names := p.names.take n }

/-- The team files of a directory and of those above it. -/
def teamFiles (cwd : Location) : List Location :=
  (TeamFile.ancestors cwd.length cwd).map fun d => d ++ [TeamFile.fileName]

/-- A location and those above it, the shortest first. -/
def above (l : Location) : List Location :=
  (List.range l.length).map fun n => l.take (n + 1)

/-- The locations that a run looks at. -/
def locations (cwd : Location) (args : List String) : List Location :=
  ((teamFiles cwd ++ (namedPaths args).flatMap (wayTo cwd)).flatMap above).eraseDups

/-- The variables that the placeholders of some octets name. -/
def variablesIn (octets : List UInt8) : List String :=
  match Text.decode octets with
  | .error _ => []
  | .ok text => Placeholder.names (Text.unifyLineEnds text.toList)

/-- The variables that a run with the files of a tree looks at. -/
def variableNames (tree : FileTree) : List String :=
  (CommandLine.levelVariable :: tree.entries.flatMap fun (_, e) =>
    match e with
    | .file octets => variablesIn octets
    | _ => []).eraseDups

end Surroundings
end LogBalancer
