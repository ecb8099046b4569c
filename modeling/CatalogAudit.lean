import CatalogAudit.Files.Tree
import CatalogAudit.Main
import CatalogAudit.Proofs.Text.Place
import CatalogAudit.Proofs.Regex.Ends
import CatalogAudit.Proofs.Source.Provenance
import CatalogAudit.Proofs.Source.Form
import CatalogAudit.Proofs.Source.FindLocation
import CatalogAudit.Proofs.Findings
import CatalogAudit.Proofs.Project.Excluded
import CatalogAudit.Proofs.Files.Names
import CatalogAudit.Proofs.Project.Catalogs
import CatalogAudit.Proofs.Project.AtRoot
import CatalogAudit.Proofs.Project.InSync
import CatalogAudit.Proofs.CommandLine.ExitStatus
import CatalogAudit.Proofs.Source.Pass
import CatalogAudit.Proofs.Source.ScriptPass
import CatalogAudit.Proofs.Source.ScriptPieces
import CatalogAudit.Proofs.Text.Scan
import CatalogAudit.Proofs.Source.Elements
import CatalogAudit.Proofs.Text.Split
import CatalogAudit.Proofs.Regex.Words
import CatalogAudit.Proofs.Source.Pieces
import CatalogAudit.Proofs.Source.MarkupPieces
import CatalogAudit.Proofs.Source.Calls
import CatalogAudit.Proofs.Source.CallPieces
import CatalogAudit.Proofs.Source.Occurrences
import CatalogAudit.Proofs.Source.DistinctPlaces
import CatalogAudit.Proofs.Repair
import CatalogAudit.Proofs.Source.Contributions
import CatalogAudit.Proofs.Files.Changes
import CatalogAudit.Proofs.Pattern.Anchored
import CatalogAudit.Proofs.Project.FaultIsolation
import CatalogAudit.Proofs.Project.Validation
import CatalogAudit.Proofs.Source.Wrappers
import CatalogAudit.Proofs.Project.Totals
import CatalogAudit.Proofs.Files.Directories
import CatalogAudit.Proofs.Project.Undesignated
import CatalogAudit.Proofs.Json.Grammar
import CatalogAudit.Proofs.Json.Scalars
import CatalogAudit.Proofs.Json.Documents
import CatalogAudit.Proofs.Report.Lossless
import CatalogAudit.Proofs.Text.ByteOrder
import CatalogAudit.Proofs.KeySets
import CatalogAudit.Proofs.Report.Agreement
import CatalogAudit.Proofs.Source.Deletion
import CatalogAudit.Proofs.Source.CallQuotes
import CatalogAudit.Proofs.Pattern.AtStart
import CatalogAudit.Proofs.Source.CommentFree
import CatalogAudit.Proofs.Source.Echoes
import CatalogAudit.Proofs.Source.MarkerNames
import CatalogAudit.Proofs.Catalog.Reading
import CatalogAudit.Proofs.Catalog.Loading
import CatalogAudit.Proofs.Files.Following
import CatalogAudit.Proofs.Project.NearestSettings
import CatalogAudit.Proofs.Project.Discovery
import CatalogAudit.Proofs.Source.Histories
import CatalogAudit.Proofs.Source.Embedded
import CatalogAudit.Proofs.Regex.Languages
import CatalogAudit.Proofs.Pattern.DefaultExclusion
import CatalogAudit.Proofs.Json.Skipping
import CatalogAudit.Proofs.Json.Items
import CatalogAudit.Proofs.Json.Entries
import CatalogAudit.Proofs.Settings.Assignment
import CatalogAudit.Proofs.Settings.Encodings
import CatalogAudit.Proofs.Text.Slices
import CatalogAudit.Proofs.Text.LineTable
import CatalogAudit.Proofs.Source.InlineTags
import CatalogAudit.Proofs.Source.Rounds
