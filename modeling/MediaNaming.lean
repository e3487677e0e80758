import MediaNaming.Json.Writer
import MediaNaming.Lookup.Client
import MediaNaming.Lookup.Completer
import MediaNaming.Media.Document
import MediaNaming.Proofs.Text.Capitals
import MediaNaming.Proofs.Text.Ascii
import MediaNaming.Proofs.Text.Lowercase
import MediaNaming.Proofs.Text.Splitting
import MediaNaming.Proofs.Sector.Steps
import MediaNaming.Proofs.Sector.Verdict
import MediaNaming.Proofs.Sector.EmptySectors
import MediaNaming.Proofs.Sector.NormalForm
import MediaNaming.Proofs.Sector.Shapes
import MediaNaming.Proofs.Sector.Idempotence
import MediaNaming.Proofs.Episode.Cuts
import MediaNaming.Proofs.Episode.Reading
import MediaNaming.Proofs.Episode.Scanning
import MediaNaming.Proofs.Sector.Inert
import MediaNaming.Proofs.Sector.Solid
import MediaNaming.Proofs.Naming.Fragments
import MediaNaming.Proofs.Episode.Around
import MediaNaming.Proofs.Naming.Marks
import MediaNaming.Proofs.Naming.ReleaseName
import MediaNaming.Proofs.Template.Balance
import MediaNaming.Proofs.Template.Directives
import MediaNaming.Proofs.Template.Transparency
import MediaNaming.Proofs.Template.Failure
import MediaNaming.Proofs.Template.Reading
import MediaNaming.Proofs.Template.Spelling
import MediaNaming.Proofs.Template.Conditionals
import MediaNaming.Proofs.Template.Composition
import MediaNaming.Proofs.Template.Brackets
import MediaNaming.Proofs.Template.Progress
import MediaNaming.Proofs.Naming.Canonical
import MediaNaming.Proofs.Episode.Steps
import MediaNaming.Proofs.Episode.Respelling
import MediaNaming.Proofs.Episode.Sources
import MediaNaming.Proofs.Episode.Block
import MediaNaming.Proofs.Naming.Phrase
import MediaNaming.Proofs.Naming.Outcome
import MediaNaming.Proofs.Naming.Joining
import MediaNaming.Proofs.Naming.Separators
import MediaNaming.Proofs.Naming.Rereading
import MediaNaming.Proofs.Naming.Stability
import MediaNaming.Proofs.Lookup.Listening
import MediaNaming.Proofs.Lookup.Selection
import MediaNaming.Proofs.Sector.Continuation
import MediaNaming.Proofs.Naming.MovieName
import MediaNaming.Proofs.Naming.MovieRereading
import MediaNaming.Proofs.Naming.MovieStability
import MediaNaming.Proofs.Episode.WrittenMarks
import MediaNaming.Proofs.Episode.Assertions
import MediaNaming.Proofs.Episode.Continuation
import MediaNaming.Proofs.Episode.Quoting
import MediaNaming.Proofs.Naming.FirstTag
import MediaNaming.Proofs.Naming.Delimiters
import MediaNaming.Proofs.Lookup.Watching
import MediaNaming.Proofs.Lookup.Titles
import MediaNaming.Proofs.Lookup.TitleRuns
import MediaNaming.Proofs.Naming.Batch
import MediaNaming.Proofs.Naming.Target
import MediaNaming.Proofs.Lookup.Interleaving
import MediaNaming.Proofs.Sector.Survivors
import MediaNaming.Proofs.Sector.Markers
import MediaNaming.Proofs.Episode.WellFormed
import MediaNaming.Proofs.Naming.EpisodeShape
import MediaNaming.Proofs.Naming.TrimmedWords
import MediaNaming.Proofs.Naming.Validity
import MediaNaming.Proofs.Naming.LeftOutYear
import MediaNaming.Proofs.Episode.SeasonMarkers
import MediaNaming.Proofs.Sector.GluedGroup
import MediaNaming.Proofs.Episode.Chain
import MediaNaming.Proofs.Episode.Visits
import MediaNaming.Proofs.Template.Escaping
import MediaNaming.Proofs.Template.AnyIndex
import MediaNaming.Proofs.Sector.MarkersOnly
import MediaNaming.Proofs.Naming.MovieTarget
import MediaNaming.Proofs.Naming.CleanEnds
import MediaNaming.Proofs.Naming.FolderSeason
import MediaNaming.Proofs.Naming.MovieShape
import MediaNaming.Proofs.Sector.Cursor
import MediaNaming.Proofs.Sector.Rebuilding
import MediaNaming.Proofs.Lookup.Asking
import MediaNaming.Proofs.Lookup.Ranking
import MediaNaming.Proofs.Template.ConditionalForms
import MediaNaming.Proofs.Sector.Visiting
import MediaNaming.Proofs.Json.Written
import MediaNaming.Proofs.Json.Records
import MediaNaming.Proofs.Media.Saved
import MediaNaming.Proofs.Naming.Overrides
