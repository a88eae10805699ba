import PageTemplates.Container
import PageTemplates.Render
import PageTemplates.Settings.Reader
import PageTemplates.Json.Reader
import PageTemplates.Value.Json
import PageTemplates.Proofs.Syntax.Parsing
import PageTemplates.Proofs.Syntax.Scanning
import PageTemplates.Proofs.Syntax.Spans
import PageTemplates.Proofs.Syntax.Printing
import PageTemplates.Proofs.Syntax.Sizes
import PageTemplates.Proofs.Syntax.Fragments
import PageTemplates.Proofs.Syntax.Paths
import PageTemplates.Proofs.Syntax.FrontMatter
import PageTemplates.Proofs.Syntax.WrittenBlocks
import PageTemplates.Proofs.Syntax.Stages
import PageTemplates.Proofs.Syntax.ColonArguments
import PageTemplates.Proofs.Syntax.Escapes
import PageTemplates.Proofs.Syntax.ErrorPositions
import PageTemplates.Proofs.Syntax.DoubledBraces
import PageTemplates.Proofs.Syntax.DoubledSpans
import PageTemplates.Proofs.Files.Segments
import PageTemplates.Proofs.Files.Ancestors
import PageTemplates.Proofs.Files.NormalForms
import PageTemplates.Proofs.Files.Containment
import PageTemplates.Proofs.Pages.Lookup
import PageTemplates.Proofs.Pages.Registry
import PageTemplates.Proofs.Pages.RequestOrder
import PageTemplates.Proofs.Pages.Layouts
import PageTemplates.Proofs.Evaluation.Stable
import PageTemplates.Proofs.Evaluation.Filters
import PageTemplates.Proofs.Evaluation.Expressions
import PageTemplates.Proofs.Evaluation.Fragments
import PageTemplates.Proofs.Pages.Composed
import PageTemplates.Proofs.Pages.Loading
import PageTemplates.Proofs.Pages.Known
import PageTemplates.Proofs.Pages.Reading
import PageTemplates.Proofs.Pages.Views
import PageTemplates.Proofs.Pages.Develops
import PageTemplates.Proofs.Pages.Alike
import PageTemplates.Proofs.Pages.Abreast
import PageTemplates.Proofs.Evaluation.Bounds
import PageTemplates.Proofs.Evaluation.Pipelines
import PageTemplates.Proofs.Evaluation.Monotone
import PageTemplates.Proofs.Evaluation.NestedCalls
import PageTemplates.Proofs.Evaluation.BlockChains
import PageTemplates.Proofs.Evaluation.Follows
import PageTemplates.Proofs.Evaluation.Scopes
import PageTemplates.Proofs.Evaluation.Caches
import PageTemplates.Proofs.Evaluation.BinderCaches
import PageTemplates.Proofs.Evaluation.Termination
import PageTemplates.Proofs.Evaluation.Memory
import PageTemplates.Proofs.Evaluation.EvaluatedValues
import PageTemplates.Proofs.Evaluation.LazyValues
import PageTemplates.Proofs.Evaluation.Places
import PageTemplates.Proofs.Filters.Provenance
import PageTemplates.Proofs.Filters.Escaping
import PageTemplates.Proofs.Filters.NearestFloats
import PageTemplates.Proofs.Filters.IntegerArithmetic
import PageTemplates.Proofs.Filters.IntegerOperands
import PageTemplates.Proofs.Filters.Registrations
import PageTemplates.Proofs.Text.EditDistance
import PageTemplates.Proofs.Filters.Suggestions
import PageTemplates.Proofs.Filters.Calls
import PageTemplates.Proofs.Filters.Sequences
import PageTemplates.Proofs.Text.Parts
import PageTemplates.Proofs.Filters.Splitting
import PageTemplates.Proofs.Text.Widths
import PageTemplates.Proofs.Filters.Padding
import PageTemplates.Proofs.Text.Dashes
import PageTemplates.Proofs.Filters.Slugs
import PageTemplates.Proofs.Filters.DigitGroups
import PageTemplates.Proofs.Values.Serialization
import PageTemplates.Proofs.Rendering.Writing
import PageTemplates.Proofs.Rendering.Unnoticed
import PageTemplates.Proofs.Freshness.Coherence
import PageTemplates.Proofs.Freshness.Renders
import PageTemplates.Proofs.Freshness.History
import PageTemplates.Proofs.Rendering.Sources
import PageTemplates.Proofs.Rendering.Nesting
import PageTemplates.Proofs.Rendering.Fallbacks
import PageTemplates.Proofs.Rendering.Failures
import PageTemplates.Proofs.Rendering.Sessions
import PageTemplates.Proofs.Rendering.Termination
import PageTemplates.Proofs.Rendering.InlineTemplates
import PageTemplates.Proofs.Rendering.Partials
import PageTemplates.Proofs.Rendering.SelfInclusion
import PageTemplates.Proofs.Rendering.Layers
import PageTemplates.Proofs.Rendering.PageBody
import PageTemplates.Proofs.Rendering.OneTimePages
import PageTemplates.Proofs.Rendering.InlineTexts
import PageTemplates.Proofs.Rendering.IntegerPipelines
import PageTemplates.Proofs.Rendering.LiteralPages
import PageTemplates.Proofs.Rendering.States
import PageTemplates.Proofs.Rendering.Sandwich
import PageTemplates.Proofs.Rendering.BelowRoot
import PageTemplates.Proofs.Rendering.Transformed
import PageTemplates.Proofs.Rendering.Assignments
import PageTemplates.Proofs.Rendering.AssignedValues
import PageTemplates.Proofs.Rendering.CallerScopes
