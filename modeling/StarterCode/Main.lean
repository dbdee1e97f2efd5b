import StarterCode.CommandLine

/-!
# The program

The outer layer: it takes over from the disk what a command will look at, lets the command work on
that file tree, and puts on the disk what the command has added. Nothing is decided here.

What a command looks at is the path among its arguments, with everything below it. Arguments and
names that are no texts do not get this far, since they are handed over as texts.
-/

set_option autoImplicit false

namespace StarterCode

namespace Outer

/-- The path of a location, from the root. -/
def pathOf (location : Location) : String :=
  "/" ++ "/".intercalate location

/-- The names in a folder of the disk, if there is one at the location. -/
def namesIn (location : Location) : IO (Option (List String)) := do
  let path := (← IO.currentDir) / pathOf location
  match ← path.readDir.toBaseIO with
  | .ok entries => return some (entries.toList.map (·.fileName))
  | .error _ => return none

/-- What is at a location of the disk and below it. -/
partial def load (location : Location) : IO (List (Location × Entry)) := do
  match ← namesIn location with
  | some names =>
    let below ← names.mapM fun name => load (location ++ [name])
    return (location, .folder) :: below.flatten
  | none =>
    match ← (IO.FS.readBinFile (pathOf location)).toBaseIO with
    | .ok content => return [(location, .file content)]
    | .error _ => return []

/-- The folders above a location. -/
def above (location : Location) : List (Location × Entry) :=
  (List.range location.length).map fun count => (location.take count, Entry.folder)

/-- The place of a path when all names on it are taken for folders. -/
def place (current : Location) (path : String) : Location :=
  (Path.names path).foldl FileTree.step (if Path.isAbsolute path then [] else current)

/-- The path that a request is about. -/
def pathIn : CommandLine.Request → Option String
  | .run (.generate path _) _ | .run (.validate path _ _) _ | .run (.parse path _) _
  | .run (.emit path _ _) _ => some path
  | _ => none

/-- The file tree that a request is answered on. -/
def treeFor (current : Location) (request : CommandLine.Request) : IO FileTree := do
  match pathIn request with
  | none => return ⟨above current ++ [(current, .folder)], current⟩
  | some path =>
    let target := place current path
    let seen ← load target
    let parents ← (above target).filterM fun entry => return (← namesIn entry.1).isSome
    return ⟨above current ++ [(current, .folder)] ++ parents ++ seen, current⟩

/-- Puts on the disk what is in the tree and was not there before, or was there with other bytes. -/
def store (before after : FileTree) : IO Unit := do
  for (location, entry) in after.entries do
    match entry, before.entry? location with
    | .folder, none => IO.FS.createDirAll (pathOf location)
    | .file content, some (.file old) =>
      if content != old then IO.FS.writeBinFile (pathOf location) content
    | .file content, _ => IO.FS.writeBinFile (pathOf location) content
    | .folder, some _ => pure ()

end Outer

end StarterCode

open StarterCode in
/-- Answers the arguments on the files of the disk. -/
def main (arguments : List String) : IO UInt32 := do
  let request := CommandLine.request arguments
  let current := (Path.names (toString (← IO.currentDir))).filter (!Path.staysPut ·)
  let before ← Outer.treeFor current request
  let (response, after) := request.answer before
  Outer.store before after
  IO.print response.output
  IO.eprint response.messages
  return response.status.toUInt32
