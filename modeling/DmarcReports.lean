import DmarcReports.Proofs.HostName.Pattern
import DmarcReports.Settings.Ingestor
import DmarcReports.Settings.Load
import DmarcReports.Proofs.Store.History
import DmarcReports.Proofs.Store.Totals
import DmarcReports.Proofs.WorkPool.Collect
import DmarcReports.Proofs.WorkPool.Run
import DmarcReports.Proofs.Batch
import DmarcReports.Proofs.Bytes.BoundedRead
import DmarcReports.Proofs.Bytes.Capacity
import DmarcReports.Proofs.Extraction.Tightening
import DmarcReports.Proofs.Bytes.Chunks
import DmarcReports.Proofs.Deflate.Output
import DmarcReports.Proofs.GzipContent
import DmarcReports.Proofs.Zip.Content
import DmarcReports.Proofs.Extraction.Content
import DmarcReports.Proofs.Store.Sources
import DmarcReports.Proofs.Store.Alike
import DmarcReports.Proofs.Store.Growth
import DmarcReports.Proofs.Store.Views
import DmarcReports.Proofs.Store.State
import DmarcReports.Proofs.Store.Shared
import DmarcReports.Proofs.Store.Traffic
import DmarcReports.Proofs.Store.Reordering
import DmarcReports.Proofs.Text.Numeral
import DmarcReports.Proofs.Xml.Outline
import DmarcReports.Proofs.Report.Fields
import DmarcReports.Proofs.Xml.Reading
import DmarcReports.Proofs.Report.Draft
import DmarcReports.Proofs.Report.RoundTrip
import DmarcReports.Proofs.Store.Membership
import DmarcReports.Proofs.Report.Accepted
import DmarcReports.Proofs.Filing
import DmarcReports.Proofs.Batch.Succession
import DmarcReports.Proofs.Xml.Declaration
import DmarcReports.Proofs.Xml.Prolog
import DmarcReports.Proofs.Xml.Reference
import DmarcReports.Proofs.Report.Doctype
import DmarcReports.Proofs.WorkPool.Outcome
import DmarcReports.Proofs.Report.Numbers
import DmarcReports.Proofs.Report.Comments
import DmarcReports.Proofs.Store.Breakdown
import DmarcReports.Proofs.Report.Overlooked
import DmarcReports.Proofs.Text.Lowercase
import DmarcReports.Proofs.Report.Complete
import DmarcReports.Proofs.Store.Listing
import DmarcReports.Proofs.Store.Lookup
import DmarcReports.Proofs.Extraction.Archive
import DmarcReports.Proofs.Store.Overview
import DmarcReports.Proofs.Report.Assembly
import DmarcReports.Proofs.Extraction.Ceilings
import DmarcReports.Proofs.Rejection
import DmarcReports.Proofs.Extraction.Concatenation
import DmarcReports.Proofs.Settings.Load
import DmarcReports.Proofs.LogFilter
import DmarcReports.Proofs.Attachment
