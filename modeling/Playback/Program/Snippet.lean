import Playback.Program.Statement

/-!
# Snippets of the generated program

A snippet is what one event contributes to the program: some lines, and the names that these import.

* `Import`: a name and the module that it comes from. `assertionImport` is the import of assertions,
  `launchImport` that of every program.
* `Snippet`, and `Snippet.ofStatements` the snippet of some statements.
* `Snippet.nested`: its lines inside a block. `Snippet.text`: its lines in one text.
* `Snippet.linesOf`, `Snippet.importsOf`: the lines of several snippets, and the imports that they
  need.
-/

namespace Playback

/-- A name and the module that it is imported from. -/
structure Import where
  source : Text
  name : Text
  deriving DecidableEq

/-- The module that drives the browser. -/
def driverModule : Text := "playwright.sync_api"

/-- The import of assertions. -/
def assertionImport : Import := ⟨driverModule, "expect"⟩

/-- The import that every program needs to launch a browser. -/
def launchImport : Import := ⟨driverModule, "sync_playwright"⟩

/-- The names that imports bring in from a module, in order and without repetition. -/
def Import.namesFrom (imports : List Import) (source : Text) : List Text :=
  Text.sortedSet ((imports.filter (·.source = source)).map Import.name)

/-- The statements of imports: one for each module, the modules in order. -/
def Import.statements (imports : List Import) : List Statement :=
  (Text.sortedSet (imports.map Import.source)).map fun source =>
    .fromImport source (namesFrom imports source)

/-- What one event contributes to the program. -/
structure Snippet where
  lines : List Text
  imports : List Import
  deriving DecidableEq

namespace Snippet

/-- The snippet of some statements. -/
def ofStatements (statements : List Statement) (imports : List Import) : Snippet :=
  ⟨statements.map Statement.line, imports⟩

/-- The lines of a snippet in one text. -/
def text (snippet : Snippet) : Text := Text.joined "\n" snippet.lines

/-- The lines of a snippet with `lead` in front of each that is not empty. -/
def indented (snippet : Snippet) (lead : Text) : List Text := snippet.lines.map (Text.indented lead)

/-- The lines of a snippet inside a block. -/
def nested (snippet : Snippet) : List Text := snippet.indented Statement.indentation

/-- The lines of snippets, one after the other. -/
def linesOf (snippets : List Snippet) : List Text := snippets.flatMap lines

/-- The statements that import what snippets need and what every program needs. -/
def importsOf (snippets : List Snippet) : List Statement :=
  Import.statements (launchImport :: snippets.flatMap imports)

end Snippet

end Playback
