import Playback.Text.Basic

/-!
# Paths of files

* `FilePath`: a root, which is empty for a relative path, and the names of the steps from it. Empty
  steps and steps to the place itself are left out; steps to the parent are kept.
* `FilePath.parse`, `FilePath.text`: a path read and written.
* `FilePath.resolved`: the path from a root, without steps to a parent.
* `FilePath.parent`, `FilePath.stem`, `FilePath.join`: parts of paths.
* `FilePath.isPossible`: can a path be written as a text at all?
* `FilePath.byteCount`: the number of bytes that a file system sees of a text.
-/

namespace Playback

/-- A path: its root, which is empty for a relative path, and its steps. -/
structure FilePath where
  root : Text
  steps : List Text
  deriving DecidableEq

namespace FilePath

/-- The step to the place itself. -/
def here : Text := "."

/-- The step to the parent. -/
def up : Text := ".."

/-- The parts of a text between slashes. -/
def split : Text → List Text
  | [] => [[]]
  | .char '/' :: rest => [] :: split rest
  | p :: rest =>
    match split rest with
    | part :: parts => (p :: part) :: parts
    | [] => [[p]]

/-- The root that a text begins with: two slashes are a root of their own, more than two are one. -/
def rootOf : Text → Text
  | .char '/' :: .char '/' :: .char '/' :: _ => "/"
  | .char '/' :: .char '/' :: _ => "//"
  | .char '/' :: _ => "/"
  | _ => []

/-- The path of a text. -/
def parse (t : Text) : FilePath :=
  ⟨rootOf t, (split t).filter fun step => !step.isEmpty && step != here⟩

/-- The text of a path; a path without a root and without steps is the place itself. -/
def text (path : FilePath) : Text :=
  if path.root.isEmpty && path.steps.isEmpty then here
  else path.root ++ Text.joined "/" path.steps

/-- Is the path given from a root? -/
def isAbsolute (path : FilePath) : Bool := !path.root.isEmpty

/-- A path from `base`, unless it is given from a root. -/
def join (base path : FilePath) : FilePath :=
  if path.isAbsolute then path else ⟨base.root, base.steps ++ path.steps⟩

/-- The steps without those to a parent: each takes the step in front of it away. The steps in front
of `steps` are `behind`, last first. -/
def withoutUp (behind : List Text) : List Text → List Text
  | [] => behind.reverse
  | step :: steps =>
    if step = up then withoutUp behind.tail steps else withoutUp (step :: behind) steps

/-- The path from a root, without steps to a parent, where `base` is the place of relative paths. -/
def resolved (base path : FilePath) : FilePath :=
  let whole := base.join path
  ⟨if whole.isAbsolute then "/" else [], withoutUp [] whole.steps⟩

/-- The path without its last step. -/
def parent (path : FilePath) : FilePath := ⟨path.root, path.steps.dropLast⟩

/-- The last step, empty if there is none. -/
def fileName (path : FilePath) : Text := path.steps.getLastD []

/-- The last step without its suffix: what begins at the last point, unless that is the first or the
last code point of the step. -/
def stem (path : FilePath) : Text :=
  let name := path.fileName
  let suffix := name.reverse.takeWhile (· != .char '.')
  if suffix.length + 1 < name.length ∧ !suffix.isEmpty then
    name.take (name.length - suffix.length - 1)
  else name

/-- Can a path hold the code point? The null character ends every path, and of the surrogates that
stand alone only those from U+DC80 to U+DCFF stand for a byte. -/
def canHold : CodePoint → Bool
  | .char c => c != '\x00'
  | .surrogate half => 0x480 ≤ half.val && half.val ≤ 0x4FF

/-- Can a path have this text? -/
def isPossible (t : Text) : Bool := t.all canHold

/-- The bytes of a text in a path. A surrogate that stands alone there stands for one byte. -/
def byteCount (t : Text) : Nat :=
  t.foldl (fun
    | count, .char c => count + c.utf8Size
    | count, .surrogate _ => count + 1) 0

end FilePath

end Playback
