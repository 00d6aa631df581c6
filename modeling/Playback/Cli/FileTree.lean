import Playback.Cli.FileFault

/-!
# Files and directories

A tree of files as a value, with paths from its root. It says what a command line finds and leaves
behind without touching a disk.

* `FileTree`: the files with their bytes, and the directories.
* `FileTree.find?`: the place that a path leads to.
* `FileTree.makeDirectories`: the tree with the directories along a path, as far as they are
  missing.
* `FileTree.write`: the tree with a file written in it, together with the directories above the
  file.
-/

namespace Playback

/-- What a path leads to. -/
inductive EntryKind where
  | file
  | directory
  deriving DecidableEq

/-- Files by the steps from the root, and the directories besides those that are above files. -/
structure FileTree where
  files : List (List Text × List UInt8)
  directories : List (List Text)

namespace FileTree

/-- The bytes of the file at some steps from the root. -/
def bytes? (tree : FileTree) (steps : List Text) : Option (List UInt8) :=
  List.lookup steps tree.files

/-- Is there a directory at these steps from the root? -/
def isDirectory (tree : FileTree) (steps : List Text) : Bool :=
  steps.isEmpty || tree.directories.any steps.isPrefixOf ||
    tree.files.any fun (file, _) => steps.isPrefixOf file && steps.length < file.length

/-- What is at these steps from the root. -/
def entry? (tree : FileTree) (steps : List Text) : Option EntryKind :=
  if (tree.bytes? steps).isSome then some .file
  else if tree.isDirectory steps then some .directory
  else none

/-- The place that steps lead to from a directory; `place` is where that is. -/
def walk? (tree : FileTree) (place : List Text) : List Text → Option (List Text)
  | [] => some place
  | step :: steps =>
    if tree.isDirectory place then
      if step = FilePath.up then walk? tree place.dropLast steps
      else if (tree.entry? (place ++ [step])).isSome then walk? tree (place ++ [step]) steps
      else none
    else none

/-- The steps at which the walk along a path begins, where `base` is the place of relative paths. -/
def startOf (base path : FilePath) : List Text := if path.isAbsolute then [] else base.steps

/-- The place that a path leads to. -/
def find? (tree : FileTree) (base path : FilePath) : Option (List Text) :=
  if path.isTooLong then none else tree.walk? (startOf base path) path.steps

/-- A walk along a path whose steps up to here lead to directories. -/
structure Walk where
  tree : FileTree
  /-- The steps from the root to the place that is reached. -/
  place : List Text
  /-- The steps of the path so far. -/
  done : List Text := []
  /-- Was a directory made on the way? -/
  made : Bool := false

namespace Walk

/-- The walk behind a step to the parent. -/
def goUp (walk : Walk) : Walk :=
  { walk with place := walk.place.dropLast, done := walk.done ++ [FilePath.up] }

/-- The walk behind a step to a directory. -/
def enter (walk : Walk) (step : Text) : Walk :=
  { walk with place := walk.place ++ [step], done := walk.done ++ [step] }

/-- The walk behind a step to a directory that is made. -/
def make (walk : Walk) (step : Text) : Walk :=
  let next := walk.place ++ [step]
  { walk.enter step with
    tree := { walk.tree with directories := next :: walk.tree.directories }
    made := true }

/-- The walk along the steps of `whole` that are left, with directories made where they are missing.
The whole path is tried first, and its directories are made one by one only if that finds a
directory missing. So what is in the way is reported of the whole path as long as nothing was made,
and of the path up to it from then on. -/
def makeDirectories (walk : Walk) (whole : FilePath) : List Text → Except FileFault Walk
  | [] => .ok walk
  | step :: steps =>
    let reached : FilePath := ⟨whole.root, walk.done ++ [step]⟩
    if step = FilePath.up then makeDirectories walk.goUp whole steps
    else if FilePath.isLongStep step then
      .error (.nameTooLong (if walk.made then reached else whole))
    else
      match walk.tree.entry? (walk.place ++ [step]) with
      | some .directory => makeDirectories (walk.enter step) whole steps
      | some .file =>
        if walk.made || steps.isEmpty then .error (.fileExists reached)
        else .error (.notADirectory whole)
      | none => makeDirectories (walk.make step) whole steps

end Walk

/-- The tree with the directories along a path, and the steps from the root that the path leads
to. -/
def makeDirectories (tree : FileTree) (base path : FilePath) :
    Except FileFault (FileTree × List Text) :=
  if path.isTooLong then .error (.nameTooLong path)
  else do
    let start : Walk := { tree := tree, place := startOf base path }
    let walk ← start.makeDirectories path path.steps
    return (walk.tree, walk.place)

/-- The tree with a file at the last step of a path, from the place that the steps above it lead
to. -/
def put (tree : FileTree) (place : List Text) (path : FilePath) (bytes : List UInt8) :
    Except FileFault FileTree :=
  let name := path.fileName
  let target := place ++ [name]
  if path.isTooLong then .error (.nameTooLong path)
  else if name.isEmpty || name = FilePath.up || tree.isDirectory target then
    .error (.isADirectory path)
  else if FilePath.isLongStep name then .error (.nameTooLong path)
  else .ok { tree with files := (target, bytes) :: tree.files.filter (·.1 != target) }

/-- The tree with a file written in it. -/
def write (tree : FileTree) (base path : FilePath) (bytes : List UInt8) :
    Except FileFault FileTree := do
  let (tree, place) ← tree.makeDirectories base path.parent
  tree.put place path bytes

end FileTree

end Playback
