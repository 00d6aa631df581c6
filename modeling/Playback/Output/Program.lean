import Playback.Output.Format
import Playback.Program.Snippet
import Playback.Recording.Header
import Playback.Text.Blank
import Playback.Text.Lines

/-!
# The program of a recording

* `Header.scopes`: the blocks that the actions of a script or a test stand in: the driver, the
  browser, the context and the page that the recording starts with. `Header.scopeLines` are their
  lines.
* `Header.enclose`: the lines of the actions in those blocks.
* `OutputFormat.program`: the whole program in one of the formats.
-/

namespace Playback

namespace Header

/-- The headers of the blocks that the actions stand in, outermost first. -/
def scopes (header : Header) : List Statement :=
  let pw := Expression.name "pw"
  [.scope (.call (.name launchImport.name) [] []) "pw",
    .scope (.call (.member (.member pw header.browser.name) "launch") []
      [("headless", .bool header.isHeadless)]) "browser",
    .scope ((Expression.name "browser").invoke "new_context" []) "ctx",
    .scope ((Expression.name "ctx").invoke "new_page" []) "pg"]

/-- The lines of those headers, each inside the block of the one before it. -/
def scopeLines (header : Header) : List Text :=
  header.scopes.zipIdx.map fun (statement, depth) =>
    Statement.indentationOf depth ++ statement.line

end Header

/-- Is the line a statement, and neither blank nor a comment? -/
def Text.isStatementLine (line : Text) : Bool :=
  !line.isBlank && (line.dropWhile CodePoint.isBlank).head? != some (.char '#')

/-- Lines of which at least one is a statement: a statement that does nothing follows if there is no
other. -/
def Snippet.filledLines (lines : List Text) : List Text :=
  if lines.any Text.isStatementLine then lines else lines ++ [Statement.pass.line]

/-- The lines of snippets in the blocks of a header, all of it inside `depth` further blocks. -/
def Header.enclose (header : Header) (depth : Nat) (snippets : List Snippet) : List Text :=
  header.scopeLines.map (Text.indented (Statement.indentationOf depth)) ++
    (Snippet.filledLines (Snippet.linesOf snippets)).map
      (Text.indented (Statement.indentationOf (depth + header.scopes.length)))

/-- The lines of a script above its imports. -/
def scriptLead : List Text := ["# Auto-generated by recordgen", ""]

/-- The lines of a test above its blocks. -/
def testLead : List Text :=
  let rule : Text := "# " ++ (List.replicate 77 (.char '=') : Text)
  [rule,
    "# Auto-generated by recordgen",
    "# Source: Playwright JSONL recording",
    rule,
    "",
    "\"\"\"Auto-generated Playwright test.\"\"\"",
    "",
    "import re",
    "",
    "import pytest",
    "from playwright.sync_api import Page, expect, sync_playwright",
    "",
    "",
    "class TestGenerated:",
    "    def test_recorded_test(self):",
    "        \"\"\"recorded test\"\"\""]

/-- The program of snippets in a format. -/
def OutputFormat.program (format : OutputFormat) (header : Header) (snippets : List Snippet) :
    Text :=
  match format with
  | .body => Text.joined "\n" (Snippet.linesOf snippets)
  | .script =>
    Text.ofLines (scriptLead ++ (Snippet.importsOf snippets).map Statement.line ++ [[]] ++
      header.enclose 0 snippets)
  | .test => Text.ofLines (testLead ++ header.enclose 2 snippets)

end Playback
