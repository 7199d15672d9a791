import Fingerprint.Main
import Fingerprint.Proofs.Entries
import Fingerprint.Proofs.Toml.QuotedText
import Fingerprint.Proofs.Toml.Scalar
import Fingerprint.Proofs.Toml.Scanning
import Fingerprint.Proofs.Toml.Distinct
import Fingerprint.Proofs.Toml.Assembly
import Fingerprint.Proofs.Toml.Run
import Fingerprint.Proofs.Artifact.PackageTables
import Fingerprint.Proofs.Artifact.Primary
import Fingerprint.Proofs.Artifact.Environment
import Fingerprint.Proofs.Detection.Outcome
import Fingerprint.Proofs.Detection.Precedence
import Fingerprint.Proofs.Manifest.Names
import Fingerprint.Proofs.Detection.Provenance
import Fingerprint.Proofs.Artifact.Acceptance
import Fingerprint.Proofs.FileTree.Changes
import Fingerprint.Proofs.FileTree.Directories
import Fingerprint.Proofs.FileTree.Writes
import Fingerprint.Proofs.CommandLine.Initialization
import Fingerprint.Proofs.CommandLine.Session
import Fingerprint.Proofs.Detection.Inputs
import Fingerprint.Proofs.CommandLine.Repetition
import Fingerprint.Proofs.Detection.Totality
import Fingerprint.Proofs.FileTree.OnePlace
import Fingerprint.Proofs.Text.Normal
import Fingerprint.Proofs.Detection.ForcedLanguage
import Fingerprint.Proofs.Detection.OneManifest
import Fingerprint.Proofs.Detection.Steps
import Fingerprint.Proofs.Detection.Recognition
import Fingerprint.Proofs.Json.Layout
import Fingerprint.Proofs.Detection.Listing
import Fingerprint.Proofs.Artifact.Canonical
import Fingerprint.Proofs.Artifact.Requirements
import Fingerprint.Proofs.Text.Utf8
import Fingerprint.Proofs.Artifact.Loading
import Fingerprint.Proofs.Detection.Reordering
import Fingerprint.Proofs.Toml.SinglePair
import Fingerprint.Proofs.Json.StringText
import Fingerprint.Proofs.Json.RoundTrip
import Fingerprint.Proofs.Detection.Printed
import Fingerprint.Proofs.Scaffold.StarterManifest
import Fingerprint.Proofs.FileTree.Grounded
import Fingerprint.Proofs.CommandLine.NewProject
import Fingerprint.Proofs.CommandLine.Success
import Fingerprint.Proofs.Manifest.CrateSections
import Fingerprint.Proofs.Manifest.RequiredModules
import Fingerprint.Proofs.Manifest.DeclaredRequirements
import Fingerprint.Proofs.Json.DistinctMembers
import Fingerprint.Proofs.Manifest.PackageMembers
import Fingerprint.Proofs.Manifest.PackageReading
import Fingerprint.Proofs.Manifest.QuotedDeclarations
import Fingerprint.Proofs.Text.LineBreaks
import Fingerprint.Proofs.Manifest.Joined
import Fingerprint.Proofs.Json.LineBreaks
import Fingerprint.Proofs.Manifest.LineEndings
import Fingerprint.Proofs.CommandLine.RuntimeSettings
import Fingerprint.Proofs.FileTree.Descent
import Fingerprint.Proofs.Scaffold.Prefix
import Fingerprint.Proofs.Calendar.Days
import Fingerprint.Proofs.Calendar.Timestamp
import Fingerprint.Proofs.Log.History
import Fingerprint.Proofs.Detection.Reports
import Fingerprint.Proofs.ChangedEntries
import Fingerprint.Proofs.Text.LineEdits
import Fingerprint.Proofs.Text.Trimmed
import Fingerprint.Proofs.Manifest.CrateComments
import Fingerprint.Proofs.Manifest.RequirementComments
import Fingerprint.Proofs.Manifest.OpenBlocks
import Fingerprint.Proofs.Scaffold.StringLiteral
import Fingerprint.Proofs.Scaffold.Dialects
import Fingerprint.Proofs.Scaffold.LoadedName
import Fingerprint.Proofs.Detection.EntryKeys
import Fingerprint.Proofs.Detection.LongerKeys
import Fingerprint.Proofs.Manifest.Registrations
import Fingerprint.Proofs.Toml.StringEnds
import Fingerprint.Proofs.FileName
import Fingerprint.Proofs.Detection.EntryLanguage
