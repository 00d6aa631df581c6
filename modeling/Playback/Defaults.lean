import Playback.FilePath
import Playback.ModuleName
import Playback.Output.Format
import Playback.Text.Blank
import Playback.Text.LowerCase

/-!
# Defaults

* `Defaults`: the format and the directory that are used where the command line names none, and
  `Defaults.ofEnvironment` reads them from the environment.
* `programFile`: the file that a program is saved in where the command line names none.
-/

namespace Playback

/-- What is used where the command line names nothing else. -/
structure Defaults where
  format : OutputFormat
  directory : FilePath

namespace Defaults

/-- The directory where the environment names none. -/
def directoryName : Text := "./generated"

/-- The defaults of an environment, where `base` is the place of relative paths. A format that is
none stands for the test. -/
def ofEnvironment (base : FilePath) (format? directory? : Option Text) : Defaults where
  format :=
    (OutputFormat.ofName? ((format?.getD []).trim CodePoint.isBlank).toLower).getD .test
  directory := base.resolved (.parse (directory?.getD directoryName))

end Defaults

/-- The file of a program in a directory: it is named after the recording, with a lead by which
tests are found if the format is called like that of tests. -/
def programFile (directory : FilePath) (recording? : Option FilePath) (formatName : Text) :
    FilePath :=
  let stem := moduleName ((recording?.map FilePath.stem).getD "recording")
  let lead : Text := if formatName = OutputFormat.test.name then "test_" else []
  ⟨directory.root, directory.steps ++ [lead ++ stem ++ ".py"]⟩

end Playback
