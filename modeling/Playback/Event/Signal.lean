import Playback.Program.Snippet
import Playback.Recording.Event
import Playback.Run

/-!
# Signals of an action

What an action sets off is waited for around the action's code: a dialog by a handler that is
registered in front of it, a new page or a download by a block around it that binds the result.

* `SignalKind`, and `SignalKind.ofName?` the kind of a signal's name.
* `Snippet.surrounded`: a snippet with the code of one kind of signal around it.
* `Snippet.surround`, `Snippet.surroundAll`: the same for signals that are given by their names.
-/

namespace Playback

/-- What an action can set off. -/
inductive SignalKind where
  | dialog
  | popup
  | download
  deriving DecidableEq

namespace SignalKind

/-- The kinds by name. -/
def names : List (Text × SignalKind) :=
  [("dialog", .dialog), ("popup", .popup), ("download", .download)]

/-- The kind of a signal's name. -/
def ofName? (name : Text) : Option SignalKind := List.lookup name names

end SignalKind

/-- A handler that dismisses every dialog of a page. -/
def dialogHandler (page : Text) : Statement :=
  .expression ((Expression.name page).invoke "on"
    [.text "dialog", .callback "dialog" ((Expression.name "dialog").invoke "dismiss" [])])

namespace Snippet

/-- A block around the snippet that waits for what `method` expects, a statement that binds it to
`name`, and a comment. -/
def inScope (snippet : Snippet) (page method info name comment : Text) : Snippet where
  lines :=
    (Statement.scope ((Expression.name page).invoke method []) info).line ::
      snippet.nested ++
      [(Statement.assignment name (.member (.name info) "value")).line,
        (Statement.comment comment).line]
  imports := snippet.imports

/-- The snippet with the code of a signal around it. -/
def surrounded (snippet : Snippet) (page : Text) : SignalKind → Snippet
  | .dialog => { snippet with lines := (dialogHandler page).line :: snippet.lines }
  | .popup =>
    snippet.inScope page "expect_popup" "popup_info" "popup_pg"
      "popup_pg is now available for further actions"
  | .download =>
    snippet.inScope page "expect_download" "download_info" "download"
      "download is now available - download.path(), download.suggested_filename"

/-- The snippet with the code of a signal around it, given the signal's name. An error shows
`record`. -/
def surround (snippet : Snippet) (page : Text) (record : Json.Members) (name : Text) :
    Except Error Snippet :=
  match SignalKind.ofName? name with
  | some kind => .ok (snippet.surrounded page kind)
  | none => .error (.unknownSignal name record)

/-- The snippet with the code of several signals around it, the first of them innermost. -/
def surroundAll (snippet : Snippet) (page : Text) (record : Json.Members) (names : List Text) :
    Except Error Snippet :=
  names.foldlM (fun snippet name => snippet.surround page record name) snippet

end Snippet

end Playback
