import SiteAudit.Log.Message
import SiteAudit.Main
import SiteAudit.Proofs.Markup.Lockstep
import SiteAudit.Proofs.Markup.OmittedEnds
import SiteAudit.Proofs.Batch.Merging
import SiteAudit.Proofs.Batch.Order
import SiteAudit.Proofs.References.Report
import SiteAudit.Proofs.Scan.Listing
import SiteAudit.Proofs.Stylesheet.WholeText
import SiteAudit.Proofs.Log.Sessions
import SiteAudit.Proofs.Markup.UsageLines
import SiteAudit.Proofs.Stylesheet.Agreement
import SiteAudit.Proofs.Batch.Kinds
import SiteAudit.Proofs.Report.Sections
import SiteAudit.Proofs.Batch.Taxonomy
import SiteAudit.Proofs.Batch.Discovery
import SiteAudit.Proofs.Disk.Resolution
import SiteAudit.Proofs.Command.Stages
import SiteAudit.Proofs.Command.Accidents
import SiteAudit.Proofs.Command.Flags
import SiteAudit.Proofs.Command.Verdict
import SiteAudit.Proofs.Stylesheet.Counting
import SiteAudit.Proofs.Json.Digits
import SiteAudit.Proofs.Scan.Monotone
import SiteAudit.Proofs.Scan.NamePatterns
import SiteAudit.Proofs.Service.Schema
import SiteAudit.Proofs.Stylesheet.QuotedText
import SiteAudit.Proofs.Stylesheet.StrayBraces
import SiteAudit.Proofs.Markup.StrayEnds
import SiteAudit.Proofs.Markup.FailedReadings
import SiteAudit.Proofs.Script.FirstFault
import SiteAudit.Proofs.Script.Places
import SiteAudit.Proofs.Tag.OpenElements
import SiteAudit.Proofs.Stylesheet.Joining
import SiteAudit.Proofs.Stylesheet.ReportOrder
import SiteAudit.Proofs.Markup.LineBounds
import SiteAudit.Proofs.Text.Blanks
import SiteAudit.Proofs.Script.Excerpts
import SiteAudit.Proofs.Markup.TagUsages
import SiteAudit.Proofs.Scan.Dispatch
import SiteAudit.Proofs.Command.Arguments
import SiteAudit.Proofs.Command.Lines
import SiteAudit.Proofs.Command.Exclusion
import SiteAudit.Proofs.Command.Placement
import SiteAudit.Text.Name
