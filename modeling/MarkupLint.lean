import MarkupLint.Main
import MarkupLint.Proofs.BlankLines
import MarkupLint.Proofs.Configuration
import MarkupLint.Proofs.Context.ForwardPass
import MarkupLint.Proofs.Context.Nesting
import MarkupLint.Proofs.Rule.ExplicitPhpBlock
import MarkupLint.Proofs.Rule.LegacyAdminFile
import MarkupLint.Proofs.RuleLists
import MarkupLint.Proofs.LineClass.Structure
import MarkupLint.Proofs.LineClass.ExplicitMarkup
import MarkupLint.Proofs.LineClass.LinkDefinition
import MarkupLint.Proofs.LineClass.Border
import MarkupLint.Proofs.LineClass.Patterns
import MarkupLint.Proofs.Pieces
import MarkupLint.Proofs.Files.ExcludePattern
import MarkupLint.Proofs.Exclusion
import MarkupLint.Proofs.Files.Path
import MarkupLint.Proofs.WalkOrder
import MarkupLint.Proofs.LineEnds
import MarkupLint.Proofs.Report.ReadBack
import MarkupLint.Proofs.Report.ExitStatus
import MarkupLint.Proofs.CommandLine.ConfigSource
import MarkupLint.Proofs.ConfiguredRoot
import MarkupLint.Proofs.ConfigTemplate
import MarkupLint.Proofs.ExcludedFiles
import MarkupLint.Proofs.Context.Indenting
import MarkupLint.Proofs.ByteLines
import MarkupLint.Proofs.Context.OpenBlocks
import MarkupLint.Proofs.ConfigDefaults
