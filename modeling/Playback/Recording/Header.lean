import Playback.Schema.Member

/-!
# The header of a recording

The first record of a recording says which browser was used and how it was launched.

* `Browser`: the browsers that can be launched.
* `Header`: the browser, the launch options and the context options. What the header holds besides
  is kept as it is.
* `Header.read` reads it from the members of the record, `Header.toMembers` writes it back.
-/

namespace Playback

/-- A browser that can be launched. -/
inductive Browser where
  | chromium
  | firefox
  | webkit
  deriving DecidableEq

namespace Browser

/-- The name of a browser. -/
def name : Browser → Text
  | .chromium => "chromium"
  | .firefox => "firefox"
  | .webkit => "webkit"

/-- The browser of a name. -/
def ofName? (name : Text) : Option Browser :=
  [Browser.chromium, .firefox, .webkit].find? (·.name = name)

/-- A browser, given by its name. -/
def read : Json → Checked Browser
  | .text name =>
    match ofName? name with
    | some browser => .valid browser
    | none => .mismatch (if name.isUnicode then .browser else .unicode)
  | _ => .mismatch .browser

end Browser

/-- How the browser was launched. -/
structure LaunchOptions where
  headless : Option Bool
  extras : Json.Members

namespace LaunchOptions

/-- The field of `headless`. -/
def headlessField : Field := { name := "headless" }

/-- The options where a header has none. -/
def absent : LaunchOptions := ⟨some true, []⟩

/-- The options that the members of an object give. -/
def read (members : Json.Members) : Checked LaunchOptions :=
  members.withUnicodeNames <|
    LaunchOptions.mk
      <$> members.optional headlessField (some true) (Json.readNullable Json.readFlag)
      <*> .valid (members.extras [headlessField])

/-- The options as members of an object. -/
def toMembers (options : LaunchOptions) : Json.Members :=
  (headlessField.name, .ofOption .bool options.headless) :: options.extras

end LaunchOptions

/-- The header of a recording. -/
structure Header where
  browser : Browser
  launchOptions : LaunchOptions
  contextOptions : Json.Members
  extras : Json.Members

namespace Header

/-- The field of the browser. -/
def browserField : Field := ⟨"browserName", some "browser_name"⟩

/-- The field of the launch options. -/
def launchField : Field := ⟨"launchOptions", some "launch_options"⟩

/-- The field of the context options. -/
def contextField : Field := ⟨"contextOptions", some "context_options"⟩

/-- The members of an object, whatever they are. -/
def readContext : Json → Checked Json.Members
  | .object members => .valid members
  | _ => .mismatch .dictionary

/-- The header that the members of a record give. -/
def read (members : Json.Members) : Checked Header :=
  members.withUnicodeNames <|
    Header.mk
      <$> members.optional browserField .chromium Browser.read
      <*> members.optional launchField .absent (Json.readPart "LaunchOptions" LaunchOptions.read)
      <*> members.optional contextField [] readContext
      <*> .valid (members.extras [browserField, launchField, contextField])

/-- Is the browser launched without a window? It is, unless the header says no. -/
def isHeadless (header : Header) : Bool := header.launchOptions.headless != some false

/-- The header as members of an object. -/
def toMembers (header : Header) : Json.Members :=
  (browserField.name, .text header.browser.name) ::
  (launchField.name, .object header.launchOptions.toMembers) ::
  (contextField.name, .object header.contextOptions) :: header.extras

end Header

end Playback
