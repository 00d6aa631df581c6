import Playback.Json.Shown
import Playback.Log.Level
import Playback.Output.Format
import Playback.Recording.Header

/-!
# What is logged while a program is made

* `Notice`: something that is logged, with its `level`, the `source` that logs it and its `message`.
* `Log.text`: the lines of a log at a level.
-/

namespace Playback

/-- Something that is logged. -/
inductive Notice where
  /-- A recording was read. -/
  | parsed (browser : Browser) (events : Nat)
  /-- The snippet of an event, counted from one, is being made. -/
  | started (position : Nat) (name : Text)
  /-- The snippets of all events were put together. -/
  | finished (format : OutputFormat) (events : Nat)
  /-- A description has no locator. -/
  | unknownDescription (description : Json)
  /-- An action has neither a selector nor a description of its target. -/
  | noTarget

namespace Notice

/-- How severe a notice is. -/
def level : Notice → Level
  | .unknownDescription _ | .noTarget => Level.warning
  | _ => Level.debug

/-- The name that a notice is logged under. -/
def source : Notice → Text
  | .parsed .. => "Parser"
  | .started .. | .finished .. => "Codegen"
  | .unknownDescription _ | .noTarget => "Locator"

/-- The words of a notice. -/
def message : Notice → Text
  | .parsed browser events =>
    "解析完成：browser=" ++ browser.name ++ ", actions=" ++ Text.ofNat events
  | .started position name =>
    "[" ++ Text.ofNat position ++ "] " ++ name
  | .finished format events =>
    "生成完成：format=" ++ format.name ++ ", actions=" ++ Text.ofNat events
  | .unknownDescription description =>
    "⚠️ 无法识别的定位描述，降级为 selector: " ++ description.shown
  | .noTarget => "⚠️ 动作缺少 selector 与定位描述，使用空 selector"

/-- The line of a notice. -/
def line (notice : Notice) : Text :=
  "[" ++ notice.source ++ "] " ++ notice.message ++ "\n"

end Notice

/-- What was logged, in order. -/
abbrev Log := List Notice

/-- The lines of a log at a level. -/
def Log.text (log : Log) (level : Level) : Text :=
  (log.filter fun notice => level ≤ notice.level).flatMap Notice.line

end Playback
