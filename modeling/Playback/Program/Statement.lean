import Playback.Program.Expression

/-!
# Statements of the generated program

Every statement takes one line. The header of a block is a statement too; the lines of the block
follow it, indented.

* `Statement`, and `Statement.line` its line.
* `Statement.indentation`: what a line is indented by inside a block. `Text.indented` indents a line
  that is not empty.
-/

namespace Playback

/-- A statement, or the header of a block. -/
inductive Statement where
  | comment (text : Text)
  /-- The import of some names of a module. -/
  | fromImport (source : Text) (names : List Text)
  | expression (e : Expression)
  | assignment (name : Text) (value : Expression)
  /-- The header of a block in which `name` is the resource that `resource` opens. -/
  | scope (resource : Expression) (name : Text)
  | pass

namespace Statement

/-- The line of a statement. -/
def line : Statement → Text
  | .comment text => "# " ++ text
  | .fromImport source names =>
    "from " ++ source ++ " import " ++ Text.joined ", " names
  | .expression e => e.print
  | .assignment name value => name ++ " = " ++ value.print
  | .scope resource name =>
    "with " ++ resource.print ++ " as " ++ name ++ ":"
  | .pass => "pass"

/-- What a line is indented by inside a block. -/
def indentation : Text := "    "

/-- What a line is indented by inside `depth` blocks. -/
def indentationOf (depth : Nat) : Text := (List.replicate depth indentation).flatten

end Statement

/-- A line with `lead` in front of it; an empty line stays empty. -/
def Text.indented (lead line : Text) : Text := if line.isEmpty then line else lead ++ line

end Playback
