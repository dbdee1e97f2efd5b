import StarterCode.FileTree.Path

/-!
# File trees

A `FileTree` is the part of a file system that a run can see: folders and files with their contents,
each at a `Location`, the names that lead to it from the root. One location is the current folder,
where paths that are not absolute start.

The entries are a list of locations with what is there. Their order is the order in which a folder
lists its entries and has no other meaning. The root is a folder and needs no entry.

A path is followed name by name, and before each name is taken the place reached so far must be a
folder. So of all ways to fail the first on the path is reported: nothing there, or a file in the
middle of the path.

Folders and files are all there is. Left out are symbolic links, hard links, and whatever else is
neither a folder nor a file. So a place has one location and a file is at one place, and a change at
one location leaves all others as they were. Left out as well are permissions, disks that are full
or broken, and other programs that change files during a run: what is there can be read and listed,
and what is free can be written.

Only two operations change a tree. `writeFile` puts a file at a place that is free or holds a file.
`makeFolders` makes a folder and all that are missing above it; it keeps what it has made even if it
fails later on, so it answers with a tree in either case.
-/

set_option autoImplicit false

namespace StarterCode

/-- What is at a location. -/
inductive Entry where
  /-- A folder. -/
  | folder
  /-- A file with its bytes. -/
  | file (content : ByteArray)

/-- The names that lead to a place from the root. -/
abbrev Location := List String

/-- Whether the first location is not behind the second when names are compared one by one. A place
is not behind what lies below it. -/
def Location.precedes : Location → Location → Bool
  | [], _ => true
  | _ :: _, [] => false
  | name :: rest, other :: others =>
    if name = other then Location.precedes rest others else name ≤ other

/-- Why an operation on files fails. -/
inductive FileFault where
  /-- There is nothing at the place, or on the way to it. -/
  | notFound
  /-- Something is at the place already. -/
  | taken
  /-- A file is where a folder is needed. -/
  | notFolder
  /-- A folder is where a file is needed. -/
  | isFolder
  /-- The bytes of a file are not the encoding of a text. -/
  | notText
deriving DecidableEq

/-- The wording of a fault. -/
def FileFault.message : FileFault → String
  | .notFound => "No such file or directory (os error 2)"
  | .taken => "File exists (os error 17)"
  | .notFolder => "Not a directory (os error 20)"
  | .isFolder => "Is a directory (os error 21)"
  | .notText => "stream did not contain valid UTF-8"

/-- Folders and files, and the folder in which paths start. -/
structure FileTree where
  /-- The places at which there is something, the root apart. -/
  entries : List (Location × Entry)
  /-- The location of the current folder. -/
  current : Location

namespace FileTree

/-! ## Looking -/

/-- What is at a location. -/
def entry? (tree : FileTree) (location : Location) : Option Entry :=
  if location.isEmpty then some .folder else tree.entries.lookup location

/-- The place that one name leads to from a folder. -/
def step (location : Location) (name : String) : Location :=
  if Path.staysPut name then location
  else if name = ".." then location.dropLast
  else location ++ [name]

/-- The place that names lead to. All places before it are folders; whether something is at the last
one is left open. -/
def follow (tree : FileTree) (location : Location) : List String → Except FileFault Location
  | [] => .ok location
  | name :: rest =>
    match tree.entry? location with
    | none => .error .notFound
    | some (.file _) => .error .notFolder
    | some .folder => tree.follow (step location name) rest

/-- The place at which a path starts. -/
def start (tree : FileTree) (path : String) : Location :=
  if Path.isAbsolute path then [] else tree.current

/-- The place that a path leads to. The empty path leads nowhere. -/
def locate (tree : FileTree) (path : String) : Except FileFault Location :=
  if path.isEmpty then .error .notFound else tree.follow (tree.start path) (Path.names path)

/-- What a path leads to. -/
def find (tree : FileTree) (path : String) : Except FileFault Entry := do
  match tree.entry? (← tree.locate path) with
  | none => .error .notFound
  | some entry => .ok entry

/-- Whether the path leads to a folder. -/
def isFolder (tree : FileTree) (path : String) : Bool :=
  match tree.find path with
  | .ok .folder => true
  | _ => false

/-- Whether the path leads to a file. -/
def isFile (tree : FileTree) (path : String) : Bool :=
  match tree.find path with
  | .ok (.file _) => true
  | _ => false

/-- The bytes of the file that the path leads to. -/
def readBytes (tree : FileTree) (path : String) : Except FileFault ByteArray := do
  match ← tree.find path with
  | .folder => .error .isFolder
  | .file content => .ok content

/-- The text of the file that the path leads to. -/
def readText (tree : FileTree) (path : String) : Except FileFault String := do
  match String.fromUTF8? (← tree.readBytes path) with
  | some text => .ok text
  | none => .error .notText

/-- The name of an entry that is directly in the folder at `location`. -/
def childName? (location : Location) (place : Location) : Option String :=
  match location.isPrefixOf? place with
  | some [name] => some name
  | _ => none

/-- The names of the entries of the folder that the path leads to, in the order of listing. -/
def list (tree : FileTree) (path : String) : List String :=
  match tree.locate path with
  | .ok location => tree.entries.filterMap fun entry => childName? location entry.1
  | .error _ => []

/-! ## Changing -/

/-- The tree with `entry` at the location, whatever was there before. -/
def put (tree : FileTree) (location : Location) (entry : Entry) : FileTree :=
  if (tree.entries.lookup location).isSome then
    { tree with
      entries := tree.entries.map fun old => if old.1 = location then (location, entry) else old }
  else { tree with entries := tree.entries ++ [(location, entry)] }

/-- The tree with a file of these bytes at the end of the path, where no folder may be. -/
def writeFile (tree : FileTree) (path : String) (content : ByteArray) :
    Except FileFault FileTree := do
  let location ← tree.locate path
  match tree.entry? location with
  | some .folder => .error .isFolder
  | _ => .ok (tree.put location (.file content))

/-- The tree with a new folder at the end of the names, where nothing may be yet. -/
def makeFolder (tree : FileTree) (location : Location) (names : List String) :
    Except FileFault FileTree := do
  let location ← tree.follow location names
  if (tree.entry? location).isSome then .error .taken else .ok (tree.put location .folder)

/-- A tree, and whether what was to be done to it succeeded. -/
abbrev Change := FileTree × Except FileFault Unit

/-- Makes the folder at the end of the names. A folder that is there already is as good as a new
one. -/
def ensureFolder (tree : FileTree) (location : Location) (names : List String) : Change :=
  match tree.makeFolder location names with
  | .ok tree => (tree, .ok ())
  | .error fault =>
    match (tree.follow location names).toOption.bind tree.entry? with
    | some .folder => (tree, .ok ())
    | _ => (tree, .error fault)

/-- Makes the folder at the end of the names. If the way to it is not there, `above` makes it
first. -/
def makeFolderAfter (above : FileTree → Change) (location : Location) (names : List String)
    (tree : FileTree) : Change :=
  match tree.makeFolder location names with
  | .error .notFound =>
    match above tree with
    | (tree, .ok ()) => tree.ensureFolder location names
    | failed => failed
  | _ => tree.ensureFolder location names

/-- Makes the folder at the end of the names, given in reverse, and all missing ones above it. -/
def makeFoldersFrom (location : Location) : List String → FileTree → Change
  | [], tree => (tree, .ok ())
  | name :: above, tree =>
    makeFolderAfter (makeFoldersFrom location above) location (name :: above).reverse tree

/-- Makes the folder that the path leads to and all missing ones above it. A slash at the end of the
path is of no account. The name `.` at its end asks for the folder before it, which is then not made
but only the ones above. -/
def makeFolders (tree : FileTree) (path : String) : Change :=
  match (Path.names path).reverse.dropWhile (· == "") with
  | [] => (tree, .ok ())
  | last :: above =>
    let above := above.filter (!Path.staysPut ·)
    let missing := if last = "." then above.tail else above
    makeFolderAfter (makeFoldersFrom (tree.start path) missing) (tree.start path)
      (last :: above).reverse tree

/-- The tree without what is at the end of the path and everything below it. -/
def remove (tree : FileTree) (path : String) : FileTree :=
  match tree.locate path with
  | .ok location =>
    { tree with entries := tree.entries.filter fun entry => !location.isPrefixOf entry.1 }
  | .error _ => tree

/-- What is in the current folder and below, by the names that lead there, a folder before its
content and the entries of a folder in the order of their names. -/
def listing (tree : FileTree) : List (Location × Entry) :=
  let below := tree.entries.filterMap fun entry =>
    match tree.current.isPrefixOf? entry.1 with
    | some [] => none
    | some names => some (names, entry.2)
    | none => none
  below.mergeSort fun left right => Location.precedes left.1 right.1

end FileTree

end StarterCode
