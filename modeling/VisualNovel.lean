import VisualNovel.Action
import VisualNovel.Cli.Arguments
import VisualNovel.Cli.Run
import VisualNovel.Clock
import VisualNovel.Config
import VisualNovel.Console
import VisualNovel.Dice
import VisualNovel.Disk
import VisualNovel.Engine.Basic
import VisualNovel.Engine.Command.Effect
import VisualNovel.Engine.Command.Flow
import VisualNovel.Engine.Command.Menus
import VisualNovel.Engine.Command.Perform
import VisualNovel.Engine.Command.Presentation
import VisualNovel.Engine.Command.Scenery
import VisualNovel.Engine.Command.Sprites
import VisualNovel.Engine.Event
import VisualNovel.Engine.Headless
import VisualNovel.Engine.Hosts
import VisualNovel.Engine.Input
import VisualNovel.Engine.Lifecycle
import VisualNovel.Engine.Outcome
import VisualNovel.Engine.Persistence
import VisualNovel.Engine.Setup
import VisualNovel.Engine.Stage
import VisualNovel.Engine.Stepping
import VisualNovel.EventBus
import VisualNovel.Files.Path
import VisualNovel.Files.Tree
import VisualNovel.Intent
import VisualNovel.Json.Reader
import VisualNovel.Json.Writer
import VisualNovel.Library
import VisualNovel.Main
import VisualNovel.Mishap
import VisualNovel.Number.Dyadic
import VisualNovel.Number.Numeral
import VisualNovel.Number.Power
import VisualNovel.Number.Shortest
import VisualNovel.Place
import VisualNovel.Proofs.AlikeStages
import VisualNovel.Proofs.Calculus
import VisualNovel.Proofs.HostCalls
import VisualNovel.Proofs.Likeness
import VisualNovel.Proofs.Openings
import VisualNovel.Proofs.Origins
import VisualNovel.Proofs.Quiet
import VisualNovel.Proofs.Reachable
import VisualNovel.Proofs.Retiming
import VisualNovel.Proofs.SafeWindow
import VisualNovel.Proofs.Stepping
import VisualNovel.Proofs.Storable
import VisualNovel.Proofs.TimedText
import VisualNovel.Proofs.Typing
import VisualNovel.PropertyList.Binary
import VisualNovel.PropertyList.Charset
import VisualNovel.PropertyList.Charset.Names
import VisualNovel.PropertyList.Charset.Tables
import VisualNovel.PropertyList.DocumentType
import VisualNovel.PropertyList.Lexeme
import VisualNovel.PropertyList.Markup
import VisualNovel.PropertyList.NameChar
import VisualNovel.PropertyList.Xml
import VisualNovel.Remote.Backlog
import VisualNovel.Remote.Bus
import VisualNovel.Remote.Call
import VisualNovel.Remote.Config
import VisualNovel.Remote.Console
import VisualNovel.Remote.Cursor
import VisualNovel.Remote.Files
import VisualNovel.Remote.Flags
import VisualNovel.Remote.Language
import VisualNovel.Remote.Play
import VisualNovel.Remote.Saves
import VisualNovel.Remote.Scripts
import VisualNovel.Remote.Session
import VisualNovel.Remote.SystemCalls
import VisualNovel.Remote.TimedText
import VisualNovel.Remote.View
import VisualNovel.Remote.Window
import VisualNovel.Saves
import VisualNovel.Script.Beat
import VisualNovel.Script.Binding
import VisualNovel.Script.CommandKind
import VisualNovel.Script.Document
import VisualNovel.Script.Error
import VisualNovel.Script.Layout
import VisualNovel.Script.Line
import VisualNovel.Script.Source
import VisualNovel.Session.Backlog
import VisualNovel.Session.Cursor
import VisualNovel.Session.Flags
import VisualNovel.Session.Scene
import VisualNovel.Session.Snapshot
import VisualNovel.Session.State
import VisualNovel.Session.TimedText
import VisualNovel.SystemCall
import VisualNovel.Table
import VisualNovel.Tape
import VisualNovel.Text.Blank
import VisualNovel.Text.Digit
import VisualNovel.Text.Half
import VisualNovel.Text.Lowercase
import VisualNovel.Text.Printable
import VisualNovel.Text.Quoted
import VisualNovel.Value.Basic
import VisualNovel.Value.Display
import VisualNovel.Value.Equality
import VisualNovel.Value.Key
import VisualNovel.Value.Number
import VisualNovel.Window.Apply
import VisualNovel.Window.Assets
import VisualNovel.Window.Basic
import VisualNovel.Window.Draw
import VisualNovel.Window.Font
import VisualNovel.Window.Loop
import VisualNovel.Window.Surface
import VisualNovel.Proofs.Twins
import VisualNovel.Proofs.Replay
import VisualNovel.Proofs.Reading
import VisualNovel.Proofs.Refusals
import VisualNovel.Proofs.SmallSteps
import VisualNovel.Proofs.Fitting
import VisualNovel.Proofs.Sanity
import VisualNovel.Proofs.Soundness
import VisualNovel.Proofs.WellTyped
import VisualNovel.Proofs.Escapes
import VisualNovel.Proofs.Oblivious
import VisualNovel.Proofs.Misplaced
import VisualNovel.Proofs.Outcomes
import VisualNovel.Proofs.Headless
import VisualNovel.Proofs.Signs
import VisualNovel.Proofs.Protocol
import VisualNovel.Proofs.Tracks
import VisualNovel.Proofs.Tallies
import VisualNovel.Proofs.Callbacks
import VisualNovel.Proofs.Completions
import VisualNovel.Proofs.Codec
import VisualNovel.Proofs.SaveFiles
import VisualNovel.Proofs.Stores
import VisualNovel.Proofs.Notices
import VisualNovel.Proofs.Lifecycle
import VisualNovel.Proofs.Chronicle
import VisualNovel.Proofs.Strictness
import VisualNovel.Proofs.StrictRuns
import VisualNovel.Proofs.Showings
import VisualNovel.Proofs.Directions
import VisualNovel.Proofs.Failures
import VisualNovel.Proofs.Mirrors
import VisualNovel.Proofs.Unplayed
import VisualNovel.Proofs.Retrieval
import VisualNovel.Proofs.Restoration
import VisualNovel.Proofs.Impasses
import VisualNovel.Proofs.Tasks
import VisualNovel.Proofs.Handover
import VisualNovel.Proofs.Frames
import VisualNovel.Proofs.Respects
import VisualNovel.Proofs.UnsetFlags
import VisualNovel.Proofs.HandlerLoads
import VisualNovel.Proofs.Shelves
import VisualNovel.Proofs.HalfLoads
import VisualNovel.Proofs.Resumption
import VisualNovel.Proofs.Fonts
import VisualNovel.Proofs.Deliveries
import VisualNovel.Proofs.SingleDeliveries
import VisualNovel.Proofs.Postmortem
import VisualNovel.Proofs.Unlined
import VisualNovel.Proofs.Tandem
import VisualNovel.Proofs.Relined
import VisualNovel.Proofs.SavedLines
import VisualNovel.Proofs.LineNumbers
import VisualNovel.Proofs.Spacing
import VisualNovel.Proofs.Tokens
import VisualNovel.Proofs.FirstFaults
import VisualNovel.Proofs.Turns
import VisualNovel.Proofs.Dealings
import VisualNovel.Proofs.CursorMoves
import VisualNovel.Proofs.Performing
import VisualNovel.Proofs.Whereabouts
import VisualNovel.Proofs.Annals
import VisualNovel.Proofs.Accounting
import VisualNovel.Proofs.Choosing
import VisualNovel.Proofs.Offers
import VisualNovel.Proofs.Menus
import VisualNovel.Proofs.Pacing
import VisualNovel.Proofs.Timekeeping
import VisualNovel.Proofs.AutoAdvance
import VisualNovel.Proofs.Wrapping
import VisualNovel.Proofs.Caching
import VisualNovel.Proofs.Settings
import VisualNovel.Proofs.Backlogs
import VisualNovel.Proofs.Archives
