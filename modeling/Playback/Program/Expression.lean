import Playback.Number.Basic
import Playback.Text.Quoted

/-!
# Expressions of the generated program

Recorded texts and numbers enter a program only as literals of an expression, so that what they hold
can never be taken for code.

* `Expression`: names, literals, members, calls and callbacks.
* `Expression.text`: an expression as it stands in the program.
-/

namespace Playback

/-- An expression of the generated program. -/
inductive Expression where
  | name (identifier : Text)
  | text (value : Text)
  | bool (value : Bool)
  | number (value : Number)
  | list (items : List Expression)
  | object (entries : List (Text × Expression))
  | member (target : Expression) (identifier : Text)
  | call (callee : Expression) (arguments : List Expression)
      (keywords : List (Text × Expression))
  | callback (parameter : Text) (body : Expression)

namespace Expression

mutual

/-- An expression as it stands in the program. -/
protected def print : Expression → Text
  | .name identifier => identifier
  | .text value => Quoted.encode value
  | .bool value => if value then "True" else "False"
  | .number value => value.shown
  | .list items => "[" ++ Text.joined ", " (printItems items) ++ "]"
  | .object entries => "\x7b" ++ Text.joined ", " (printEntries entries) ++ "\x7d"
  | .member target identifier => target.print ++ "." ++ identifier
  | .call callee arguments keywords =>
    callee.print ++ "(" ++ Text.joined ", " (printItems arguments ++ printKeywords keywords) ++ ")"
  | .callback parameter body =>
    "lambda " ++ parameter ++ ": " ++ body.print

/-- The items of a list, or the arguments of a call without a name. -/
def printItems : List Expression → List Text
  | [] => []
  | item :: items => item.print :: printItems items

/-- The entries of an object. -/
def printEntries : List (Text × Expression) → List Text
  | [] => []
  | (key, value) :: entries =>
    (Quoted.encode key ++ ": " ++ value.print) :: printEntries entries

/-- The arguments of a call that have a name. -/
def printKeywords : List (Text × Expression) → List Text
  | [] => []
  | (keyword, value) :: keywords =>
    (keyword ++ "=" ++ value.print) :: printKeywords keywords

end

/-- A call of a method with arguments that have no name. -/
def invoke (target : Expression) (method : Text) (arguments : List Expression) : Expression :=
  .call (.member target method) arguments []

/-- A call of a method with arguments that have a name. -/
def invokeWith (target : Expression) (method : Text) (keywords : List (Text × Expression)) :
    Expression :=
  .call (.member target method) [] keywords

end Expression

end Playback
