import Widgetry.Command.Arguments
import Widgetry.Command.Notices
import Widgetry.Command.Run
import Widgetry.Datum
import Widgetry.Dialog.Actions
import Widgetry.Dialog.Arbiter
import Widgetry.Document.Basic
import Widgetry.Document.Decode
import Widgetry.Document.Identifier
import Widgetry.Domain
import Widgetry.Domain.Composition
import Widgetry.Domain.Direction
import Widgetry.Domain.Joining
import Widgetry.Domain.Punycode
import Widgetry.Domain.Replacement
import Widgetry.Error
import Widgetry.Fetch.Host
import Widgetry.Fetch.Location
import Widgetry.Fetch.Retry
import Widgetry.Fetch.Url
import Widgetry.File.Path
import Widgetry.File.Tree
import Widgetry.Html.Node
import Widgetry.Html.Printer
import Widgetry.Json.Basic
import Widgetry.Json.Printer
import Widgetry.Json.Reader
import Widgetry.Main
import Widgetry.Module.Hook
import Widgetry.Module.Loader
import Widgetry.Module.Rounds
import Widgetry.Number.Binary64
import Widgetry.Number.Decimal
import Widgetry.Number.Shortest
import Widgetry.Page
import Widgetry.Proofs.Checking.Checks
import Widgetry.Proofs.Checking.Culprits
import Widgetry.Proofs.Checking.Paths
import Widgetry.Proofs.Decimals
import Widgetry.Proofs.Dialog.Activity
import Widgetry.Proofs.Dialog.Answers
import Widgetry.Proofs.Dialog.Exclusion
import Widgetry.Proofs.Dialog.Moves
import Widgetry.Proofs.Documents.Fields
import Widgetry.Proofs.Documents.Format
import Widgetry.Proofs.Documents.Texts
import Widgetry.Proofs.Emission
import Widgetry.Proofs.Fetching.Coalescing
import Widgetry.Proofs.Fetching.Handles
import Widgetry.Proofs.Fetching.Outcomes
import Widgetry.Proofs.Fetching.Polling
import Widgetry.Proofs.Fetching.Retries
import Widgetry.Proofs.Files
import Widgetry.Proofs.Html.Faithful
import Widgetry.Proofs.Html.Reading
import Widgetry.Proofs.Html.Rewriting
import Widgetry.Proofs.Html.Styles
import Widgetry.Proofs.Html.Trees
import Widgetry.Proofs.Json.RoundTrip
import Widgetry.Proofs.LetterCase
import Widgetry.Proofs.Modules.Assembly
import Widgetry.Proofs.Modules.Bookkeeping
import Widgetry.Proofs.Modules.Convergence
import Widgetry.Proofs.Modules.Ledger
import Widgetry.Proofs.Numerals
import Widgetry.Proofs.Ordered
import Widgetry.Proofs.Pages.BinaryModules
import Widgetry.Proofs.Pages.EndTags
import Widgetry.Proofs.Pages.Escaping
import Widgetry.Proofs.Pages.Head
import Widgetry.Proofs.Pages.Inlining
import Widgetry.Proofs.Pages.Scripts
import Widgetry.Proofs.Registry.Runs
import Widgetry.Proofs.Rendering.Crowding
import Widgetry.Proofs.Rendering.Direct
import Widgetry.Proofs.Rendering.Effort
import Widgetry.Proofs.Rendering.Order
import Widgetry.Proofs.Rendering.Progress
import Widgetry.Proofs.Rendering.Refinement
import Widgetry.Proofs.Rendering.Repetition
import Widgetry.Proofs.Rendering.Sweeps
import Widgetry.Proofs.Rendering.Termination
import Widgetry.Proofs.Resolution.Addressing
import Widgetry.Proofs.Resolution.Cycles
import Widgetry.Proofs.Resolution.Evaluation
import Widgetry.Proofs.Resolution.Reading
import Widgetry.Proofs.Resolution.Stability
import Widgetry.Proofs.Resolution.Unfolding
import Widgetry.Proofs.Resources.DataUris
import Widgetry.Proofs.Resources.Kinds
import Widgetry.Proofs.Results
import Widgetry.Proofs.Slices
import Widgetry.Proofs.Startup.Completion
import Widgetry.Proofs.Startup.Gathering
import Widgetry.Proofs.Startup.Pages
import Widgetry.Proofs.Startup.Preparation
import Widgetry.Proofs.Startup.Requirements
import Widgetry.Proofs.Startup.Timing
import Widgetry.Proofs.Table
import Widgetry.Proofs.Text
import Widgetry.Proofs.Utf8
import Widgetry.Proofs.Widgets.ColorForms
import Widgetry.Proofs.Widgets.Colors
import Widgetry.Proofs.Widgets.Drawing
import Widgetry.Proofs.Widgets.Layouts
import Widgetry.Proofs.Widgets.Parts
import Widgetry.Proofs.Widgets.Selection
import Widgetry.Registry
import Widgetry.Registry.Load
import Widgetry.Rendering
import Widgetry.Resource.Cache
import Widgetry.Resource.Kind
import Widgetry.Resource.Loads
import Widgetry.Resource.Session
import Widgetry.Settings.Basic
import Widgetry.Settings.Load
import Widgetry.Startup
import Widgetry.Table
import Widgetry.Text.Basic
import Widgetry.Text.Encodings
import Widgetry.Text.Quoted
import Widgetry.Text.Ranges
import Widgetry.Text.Slice
import Widgetry.Text.Utf8
import Widgetry.Toml.Lexical
import Widgetry.Toml.Reader
import Widgetry.Toml.Scalar
import Widgetry.Toml.Table
import Widgetry.Widget.Color
import Widgetry.Widget.Configuration
import Widgetry.Widget.Draw
import Widgetry.Widget.Factory
import Widgetry.Widget.Frame
import Widgetry.Widget.Selection
import Widgetry.Widget.Textual
