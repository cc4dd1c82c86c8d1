import StyleGuide.Command.Run
import StyleGuide.Main
import StyleGuide.Proofs.Anchor.Counters
import StyleGuide.Proofs.Block.Bookmark
import StyleGuide.Proofs.Block.Closing
import StyleGuide.Proofs.Block.Idempotence
import StyleGuide.Proofs.Block.Parts
import StyleGuide.Proofs.Block.Shape
import StyleGuide.Proofs.Catalogue.Assembly
import StyleGuide.Proofs.Catalogue.BareParents
import StyleGuide.Proofs.Catalogue.Reordering
import StyleGuide.Proofs.Comment.LastLine
import StyleGuide.Proofs.Document.Fences
import StyleGuide.Proofs.Document.Headings
import StyleGuide.Proofs.Document.Lossless
import StyleGuide.Proofs.Discovery
import StyleGuide.Proofs.Filter
import StyleGuide.Proofs.Markup
import StyleGuide.Proofs.Scan.Schedule
import StyleGuide.Proofs.Source.Dialects
import StyleGuide.Proofs.Source.Parts
import StyleGuide.Proofs.Source.RoundTrip
import StyleGuide.Proofs.Source.Spacing
import StyleGuide.Proofs.Source.WellFormed
import StyleGuide.Proofs.Tree.Canonical
import StyleGuide.Proofs.Tree.Visits
import StyleGuide.Proofs.Disk.Lookup
import StyleGuide.Proofs.Disk.Changes
import StyleGuide.Proofs.Command.Files
import StyleGuide.Proofs.Config
import StyleGuide.Proofs.Config.Members
import StyleGuide.Proofs.Command.Configuration
import StyleGuide.Text.Utf8
