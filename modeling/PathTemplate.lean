import PathTemplate.Catalogue
import PathTemplate.Check
import PathTemplate.Main
import PathTemplate.Table
import PathTemplate.Proofs.Scanning
import PathTemplate.Proofs.Split
import PathTemplate.Proofs.FirstMatch
import PathTemplate.Proofs.Reading
import PathTemplate.Proofs.Literal
import PathTemplate.Proofs.Names
import PathTemplate.Proofs.PlainMatch
import PathTemplate.Proofs.Filling
import PathTemplate.Proofs.RoundTrip
import PathTemplate.Proofs.Edits
import PathTemplate.Proofs.Numbering
import PathTemplate.Proofs.Ways
import PathTemplate.Proofs.Captured
import PathTemplate.Proofs.Shortest
import PathTemplate.Proofs.Acceptance
import PathTemplate.Proofs.AlwaysCaptures
import PathTemplate.Proofs.Spans
import PathTemplate.Proofs.Alignment
import PathTemplate.Proofs.Building
import PathTemplate.Proofs.Rebuilding
import PathTemplate.Proofs.SyntaxErrors
import PathTemplate.Proofs.Refusals
import PathTemplate.Proofs.Places
import PathTemplate.Proofs.InContext
import PathTemplate.Proofs.Standalone
import PathTemplate.Proofs.OwnText
import PathTemplate.Proofs.Weaving
import PathTemplate.Proofs.Leftover
import PathTemplate.Proofs.Passing
import PathTemplate.Proofs.Renaming
import PathTemplate.Proofs.Extraction
import PathTemplate.Proofs.Precedence
import PathTemplate.Proofs.PlainArguments
import PathTemplate.Proofs.Assignments
import PathTemplate.Proofs.Streams
import PathTemplate.Proofs.Outcomes
import PathTemplate.Proofs.CommandRoundTrip
import PathTemplate.Proofs.Verbosity
import PathTemplate.Proofs.SinglePass
import PathTemplate.Proofs.FailedBuild
import PathTemplate.Proofs.EndAnchor
import PathTemplate.Proofs.LeadingOptions
import PathTemplate.Proofs.Masking
import PathTemplate.Proofs.LevelNames
import PathTemplate.Proofs.Merging
