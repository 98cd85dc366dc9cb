import Typeset.FileCache
import Typeset.Overlay
import Typeset.PageSelector
import Typeset.Text.Case
import Typeset.Text.Word
import Typeset.Calendar
import Typeset.Number.Decimal
import Typeset.Number.Fixed
import Typeset.Number.Shortest
import Typeset.Duration
import Typeset.Literal.OfValue
import Typeset.Clock
import Typeset.Diagnostic
import Typeset.Font.Search
import Typeset.Package
import Typeset.Engine
import Typeset.SessionError
import Typeset.Session.Basic
import Typeset.LineMarkup.Output
import Typeset.Number.Integer
import Typeset.Settings
import Typeset.LineMarkup.Registry
import Typeset.CommandLine.Run
import Typeset.ContextOptions.Read
import Typeset.Main
import Typeset.Proofs.Cell.Freshness
import Typeset.Proofs.FileCache.Generations
import Typeset.Proofs.Session.States
import Typeset.Proofs.Session.History
import Typeset.Proofs.Overlay
import Typeset.Proofs.World.AtHand
import Typeset.Proofs.Reading.Amid
import Typeset.Proofs.Session.VirtualFiles
import Typeset.Proofs.Source.Positions
import Typeset.Proofs.Source.Replacement
import Typeset.Proofs.Source.Offsets
import Typeset.Proofs.Session.Shown
import Typeset.Proofs.LineMarkup.Line
import Typeset.Proofs.LineMarkup.Findings
import Typeset.Proofs.Session.Findings
import Typeset.Proofs.Disk.Entries
import Typeset.Proofs.Disk.Walks
import Typeset.Proofs.Disk.Making
import Typeset.Proofs.Archive
import Typeset.Proofs.Package.Install
import Typeset.Proofs.Package.Preparation
import Typeset.Proofs.Package.Repeated
import Typeset.Proofs.Package.Machine
import Typeset.Proofs.Literal.OneLine
import Typeset.Proofs.Session.Streaming
import Typeset.Proofs.Session.Resolved
import Typeset.Proofs.Session.Exports
import Typeset.Proofs.Session.Periods
import Typeset.Proofs.CommandLine.Documents
import Typeset.Proofs.CommandLine.Outputs
import Typeset.Proofs.Session.Breaks
import Typeset.Proofs.PageSelector.Grammar
import Typeset.Proofs.PackageSpec
import Typeset.Proofs.FileId
import Typeset.Proofs.FileId.Chains
import Typeset.Proofs.FileCache.Revisions
import Typeset.Proofs.Literal.Mappings
import Typeset.Proofs.Value.Order
import Typeset.Proofs.Value.Relisting
import Typeset.Proofs.Value.Listing
import Typeset.Proofs.Literal.Sets
import Typeset.Proofs.Calendar.Dates
import Typeset.Proofs.Calendar.Moments
import Typeset.Proofs.Clock.Today
import Typeset.Proofs.Cell.Changes
import Typeset.Proofs.Value.Clocks
import Typeset.Proofs.Literal.Instants
import Typeset.Proofs.Disk.Trees
import Typeset.Proofs.Font.Faces
import Typeset.Proofs.Font.Files
import Typeset.Proofs.Font.Index
import Typeset.Proofs.Font.Families
