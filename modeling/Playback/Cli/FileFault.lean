import Playback.FilePath
import Playback.Text.Shown

/-!
# Why a file cannot be written

* `FileFault`: what is in the way of a path; `FileFault.message` says it in words.
* `FilePath.isTooLong`, `FilePath.isLongStep`: has a path, or a step of it, more bytes than a file
  system takes?
-/

namespace Playback

/-- Why a file cannot be written. -/
inductive FileFault where
  /-- A directory would take the place of a file. -/
  | fileExists (path : FilePath)
  /-- The path leads through a file. -/
  | notADirectory (path : FilePath)
  /-- The file would take the place of a directory. -/
  | isADirectory (path : FilePath)
  /-- The path, or a step of it, has more bytes than a file system takes. -/
  | nameTooLong (path : FilePath)
  deriving DecidableEq

/-- The fault in words. -/
def FileFault.message : FileFault → Text
  | .fileExists path => "[Errno 17] File exists: " ++ path.text.shown
  | .notADirectory path => "[Errno 20] Not a directory: " ++ path.text.shown
  | .isADirectory path => "[Errno 21] Is a directory: " ++ path.text.shown
  | .nameTooLong path => "[Errno 36] File name too long: " ++ path.text.shown

namespace FilePath

/-- The bytes that a step may have. -/
def maxStepBytes : Nat := 255

/-- The bytes that a path may have. -/
def maxBytes : Nat := 4095

/-- Is the step longer than a file system takes? -/
def isLongStep (step : Text) : Bool := byteCount step > maxStepBytes

/-- Is the path longer than a file system takes? -/
def isTooLong (path : FilePath) : Bool := byteCount path.text > maxBytes

end FilePath

end Playback
