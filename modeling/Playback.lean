import Playback.Main
import Playback.Log.Registry
import Playback.Proofs.Cli.Generate
import Playback.Proofs.Event.Signals
import Playback.Proofs.Locator.AttributeValue
import Playback.Proofs.Locator.Notation
import Playback.Proofs.Locator.Segments
import Playback.Proofs.Output.Declared
import Playback.Proofs.Output.Formats
import Playback.Proofs.Output.Imports
import Playback.Proofs.Output.Joined
import Playback.Proofs.Output.Names
import Playback.Proofs.Recording.Dump
import Playback.Proofs.Recording.LineEnds
import Playback.Proofs.Recording.Written
import Playback.Proofs.Code.TextLiteral
import Playback.Proofs.Locator.Chain
import Playback.Proofs.Locator.RoleArguments
import Playback.Proofs.Locator.UnsetFlag
import Playback.Proofs.Locator.Refining
import Playback.Proofs.Event.Click
import Playback.Proofs.Code.Values
import Playback.Proofs.Event.Numbers
import Playback.Proofs.Recording.Replaced
import Playback.Proofs.Event.Target
import Playback.Proofs.Output.Precedence
import Playback.Proofs.Event.Results
import Playback.Proofs.Recording.Problems
import Playback.Proofs.Output.ImportLines
import Playback.Proofs.Log.Registry
import Playback.Proofs.ModuleName
import Playback.Proofs.Cli.ProgramFile
import Playback.Proofs.Cli.Inspect
import Playback.Proofs.Json.Sorted
import Playback.Proofs.Json.Excerpt
