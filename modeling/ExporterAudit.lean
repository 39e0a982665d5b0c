import ExporterAudit.Main
import ExporterAudit.Proofs.Audit.Conduct
import ExporterAudit.Proofs.Bucket.LowerEdge
import ExporterAudit.Proofs.Definition.Exposed
import ExporterAudit.Proofs.Exporter.Settling
import ExporterAudit.Proofs.Exporter.Signals
import ExporterAudit.Proofs.Exposition.Conservation
import ExporterAudit.Proofs.Exposition.Filtering
import ExporterAudit.Proofs.Exposition.Independence
import ExporterAudit.Proofs.Exposition.Series
import ExporterAudit.Proofs.Exposition.Advisory
import ExporterAudit.Proofs.Exposition.Narrowing
import ExporterAudit.Proofs.Exposition.Aggregation
import ExporterAudit.Proofs.NativeBucket.Agreement
import ExporterAudit.Proofs.LabelBlock.Quoting
import ExporterAudit.Proofs.Exposition.Tokens
import ExporterAudit.Proofs.Definition.Decoders
import ExporterAudit.Proofs.BucketCounts.Values
import ExporterAudit.Proofs.Scrape.Help
import ExporterAudit.Proofs.Check.Aggregation
import ExporterAudit.Proofs.Check.Parity
import ExporterAudit.Proofs.CommandLine.Items
import ExporterAudit.Proofs.Bucket.Octave
import ExporterAudit.Proofs.LabelBlock.Agreement
import ExporterAudit.Proofs.Exposition.Reached
import ExporterAudit.Proofs.Definition.NormalForm
