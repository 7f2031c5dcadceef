import TemplateEngine.Context.Keyed
import TemplateEngine.Host
import TemplateEngine.Yaml.Document
import TemplateEngine.Proofs.Position
import TemplateEngine.Proofs.TwoRuns
import TemplateEngine.Proofs.TwoRuns.Loops
import TemplateEngine.Proofs.TwoRuns.Nodes
import TemplateEngine.Proofs.Scopes
import TemplateEngine.Proofs.Children
import TemplateEngine.Proofs.Writing
import TemplateEngine.Proofs.SignalFree.Value
import TemplateEngine.Proofs.SignalFree.Filter
import TemplateEngine.Proofs.SignalFree.Placement
import TemplateEngine.Proofs.SignalFree.Soundness
import TemplateEngine.Proofs.Stream.Conservation
import TemplateEngine.Proofs.Propagation.Stack
import TemplateEngine.Proofs.Propagation.Signal
import TemplateEngine.Proofs.TwoRuns.Twins
import TemplateEngine.Proofs.Inlining
import TemplateEngine.Proofs.Strictness
import TemplateEngine.Proofs.Noninterference
import TemplateEngine.Host.Operation
import TemplateEngine.Proofs.Registries.History
import TemplateEngine.Proofs.Registries.Store
import TemplateEngine.Proofs.Journal.Recording
import TemplateEngine.Proofs.Journal.Effects
import TemplateEngine.Proofs.Apart
import TemplateEngine.Proofs.Nesting
import TemplateEngine.Proofs.PipeSplit
import TemplateEngine.Proofs.CaptureEcho
import TemplateEngine.Proofs.Loops.Turns
import TemplateEngine.Proofs.Loops.ForLoop
import TemplateEngine.Proofs.Loops.TableRows
import TemplateEngine.Proofs.SortSuccess
import TemplateEngine.Proofs.Configuration
import TemplateEngine.Proofs.DateTexts
import TemplateEngine.Proofs.Sorting.Stable
import TemplateEngine.Proofs.Sorting.Items
import TemplateEngine.Proofs.Loops.Windows
import TemplateEngine.Proofs.Unread
import TemplateEngine.Proofs.Loops.Pages
import TemplateEngine.Proofs.Cycles.Rounds
import TemplateEngine.Proofs.Cycles.Logging
import TemplateEngine.Proofs.Cycles.Sessions
import TemplateEngine.Proofs.Sorting.Mixtures
import TemplateEngine.Proofs.Html.Entities
import TemplateEngine.Proofs.Html.Escaping
import TemplateEngine.Proofs.Html.Stripping
import TemplateEngine.Proofs.Html.Blocks
import TemplateEngine.Proofs.Splitting
import TemplateEngine.Proofs.Numerals
import TemplateEngine.Proofs.Containment
import TemplateEngine.Proofs.Properties
import TemplateEngine.Proofs.Truncation
import TemplateEngine.Proofs.Rows
import TemplateEngine.Proofs.Conditionals
import TemplateEngine.Proofs.Loops.Attributes
import TemplateEngine.Proofs.Mapping
import TemplateEngine.Proofs.Arity
import TemplateEngine.Proofs.Division
import TemplateEngine.Proofs.Comparing.Equality
import TemplateEngine.Proofs.Comparing.Order
