import FormTemplate.Main
import FormTemplate.Proofs.Placeholder.Bodies
import FormTemplate.Proofs.Placeholder.Lines
import FormTemplate.Proofs.Placeholder.Reading
import FormTemplate.Proofs.Placeholder.Pieces
import FormTemplate.Proofs.Placeholder.Scan
import FormTemplate.Proofs.Placeholder.Padding
import FormTemplate.Proofs.Rendering.Splicing
import FormTemplate.Proofs.Rendering.Flattening
import FormTemplate.Proofs.Catalog.Declarations
import FormTemplate.Proofs.Catalog.Index
import FormTemplate.Proofs.Placeholder.Locality
import FormTemplate.Proofs.Rendering.Stages
import FormTemplate.Proofs.Placeholder.Assembly
import FormTemplate.Proofs.Text.Segmentation
import FormTemplate.Proofs.Catalog.Segments
import FormTemplate.Proofs.Catalog.Patterns
import FormTemplate.Proofs.Catalog.WellFormed
import FormTemplate.Proofs.Validation.Reports
import FormTemplate.Proofs.Catalog.Collection
import FormTemplate.Proofs.Validation.Bounds
import FormTemplate.Proofs.Validation.Insertion
import FormTemplate.Proofs.Validation.Diagnostics
import FormTemplate.Proofs.Validation.InvertedBounds
import FormTemplate.Proofs.Rendering.Missing
import FormTemplate.Proofs.Validation.Completion
import FormTemplate.Proofs.Catalog.Serialization
import FormTemplate.Proofs.Pattern.Quoting
import FormTemplate.Proofs.Lexicon.Layering
import FormTemplate.Proofs.Files.Places
import FormTemplate.Proofs.Files.Changes
import FormTemplate.Proofs.Command.Runs
import FormTemplate.Proofs.Command.Agreement
import FormTemplate.Proofs.Command.Rejection
import FormTemplate.Proofs.Text.Numeral
import FormTemplate.Proofs.Catalog.RuleLists
import FormTemplate.Proofs.Supply.Assignments
import FormTemplate.Proofs.Catalog.Precedence
import FormTemplate.Proofs.Configuration.Documents
import FormTemplate.Proofs.Configuration.Outcomes
import FormTemplate.Proofs.Supply.Hints
import FormTemplate.Proofs.Catalog.LastRules
import FormTemplate.Proofs.Catalog.JoinedRules
import FormTemplate.Proofs.Lexicon.Keywords
import FormTemplate.Proofs.Lexicon.LetterCase
import FormTemplate.Proofs.Validation.Presence
import FormTemplate.Proofs.Validation.Loosening
import FormTemplate.Proofs.Validation.Failures
import FormTemplate.Proofs.Validation.Defaults
import FormTemplate.Proofs.Supply.Merging
import FormTemplate.Proofs.Lexicon.Labels
